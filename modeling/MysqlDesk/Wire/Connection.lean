/-
A connection to a server, seen from both ends.

A batch is sent as text, and so is a change without parameters, because some statements of
administration cannot be prepared. Everything else is prepared and sent with its parameters. The
connection is made when the first statement is to be sent; a statement whose parameters cannot be
written as bytes fails after that, and nothing is sent for it.

The server at the other end is given by the replies that it still has to make. A statement beyond
them is answered as if it had no effect. Affected rows are counted in words of 64 bits.

A report of failure that breaks off is more than a failed statement: the client gives up on it, and
the connection is marked as broken from then on.
-/
import MysqlDesk.Pool
import MysqlDesk.Program
import MysqlDesk.Wire.Column
import MysqlDesk.Wire.Param
import MysqlDesk.Wire.Report

set_option autoImplicit false

namespace MysqlDesk.Wire

/-- A column of an answer. -/
structure Column where
  name : String
  type : ColumnType
  deriving Inhabited

/-- A reply of the server. -/
inductive Reply where
  /-- The statement was carried out; one count of affected rows for each part of it. -/
  | done (counts : List UInt64)
  /-- The statement failed; the text is that of a report. -/
  | failed (number : UInt16) (text : String)
  /-- The statement has rows. -/
  | rows (columns : List Column) (rows : List (List (Option Content)))
  deriving Inhabited

/-- What the server receives. -/
inductive Command where
  | query (sql : String)
  | execute (sql : String) (params : List Param)
  deriving DecidableEq, Inhabited

/-- Who logs in. -/
structure Login where
  user : String
  database : Option String
  withPassword : Bool
  deriving DecidableEq, Inhabited

/-- What a reply breaks the connection with, if it does. -/
def Reply.breakdown? : Reply → Option BadReport
  | .failed _ text =>
    match Report.ofText text with
    | .error bad => if bad.isFatal then some bad else none
    | .ok _ => none
  | _ => none

/-- A connection with what was sent over it and what the server will reply. -/
structure Connection where
  host : String
  account : Login
  /-- Whether the connection was made. -/
  opened : Bool
  /-- What broke the connection, if anything did. -/
  breakdown : Option BadReport
  replies : List Reply
  /-- What the server received, in order. -/
  log : List Command
  deriving Inhabited

namespace Connection

/-- A connection that is not made yet, to the server at `host`. -/
def ofOptions (host : String) (options : ConnectOptions) : Connection :=
  { host
    account :=
      { user := options.user, database := options.database,
        withPassword := options.password.isSome }
    opened := false
    breakdown := none
    replies := []
    log := [] }

/-- Who logged in, if the connection was made. -/
def login? (c : Connection) : Option Login :=
  if c.opened then some c.account else none

/-- An error of the driver, with the server it concerns. -/
def error (c : Connection) (driver : DriverError) : Error :=
  .database ((DatabaseError.ofDriver driver).withHost c.host)

/-- Sends a command and takes the reply. -/
def send (c : Connection) (command : Command) : Reply × Connection :=
  let c := { c with opened := true, log := c.log ++ [command] }
  match c.replies with
  | [] => (.done [0], c)
  | reply :: rest =>
    (reply, { c with replies := rest, breakdown := c.breakdown <|> reply.breakdown? })

/-- The error that a report of failure becomes. A report that cannot be understood is a fault of the
client, without a number. -/
def failure (c : Connection) (number : UInt16) (text : String) : Error :=
  match Report.ofText text with
  | .ok report => c.error (.server number report.state report.note)
  | .error bad => c.error (.other (.protocol bad.message))

/-- The rows that a reply affected. -/
def affected (c : Connection) : Reply → Outcome Nat
  | .done counts => .ok (counts.foldl (· + ·) 0).toNat
  | .failed number text => .error (c.failure number text)
  | .rows _ _ => .ok 0

/-- The result set of a reply. Without rows nothing is known of the columns. -/
def resultSet (c : Connection) : Reply → Outcome ResultSet
  | .done _ => .ok ResultSet.empty
  | .failed number text => .error (c.failure number text)
  | .rows columns rows =>
    if rows = [] then .ok ResultSet.empty
    else
      let cells (row : List (Option Content)) : List Cell :=
        List.zipWith (fun (column : Column) content => column.type.field content) columns row
      .ok (ResultSet.ofRows (columns.map Column.name) (rows.map cells))

/-- Sends a text statement. -/
def query (c : Connection) (sql : String) : Reply × Connection :=
  c.send (.query sql)

/-- Sends a prepared statement, if its parameters can be written. -/
def execute (c : Connection) (statement : Statement) : Outcome Reply × Connection :=
  match Param.ofCells statement.params with
  | .ok params =>
    let (reply, c) := c.send (.execute statement.sql params)
    (.ok reply, c)
  | .error refused =>
    (.error (c.error (.other (.encoding refused.message))), { c with opened := true })

/-- The executor that sends its statements over a connection. The server keeps every time limit. -/
def executor : Executor Connection where
  batch sql c :=
    let (reply, c) := c.query sql
    ((c.affected reply).map fun _ => (), c)
  select statement _ c :=
    let (reply, c) := c.execute statement
    (reply.bind c.resultSet, c)
  change statement c :=
    if statement.params.isEmpty then
      let (reply, c) := c.query statement.sql
      (c.affected reply, c)
    else
      let (reply, c) := c.execute statement
      (reply.bind c.affected, c)

end Connection

end MysqlDesk.Wire
