/-
Connection pools: how many connections there may be, and how each of them is made.

The options of a pool come from a data source name, which may be kept in an environment variable. How
a connection is made follows from the name alone: the network decides between host and port and the
path of a socket, and two of the parameters, `charset` and `collation`, concern the connection. The
others are for whoever uses it.
-/
import MysqlDesk.Dsn.Reader
import MysqlDesk.Error.Basic

set_option autoImplicit false

namespace MysqlDesk

/-- The options of a pool. -/
structure PoolOptions where
  dsn : Dsn
  maxConnections : Nat
  acquireTimeout : Span
  deriving DecidableEq, Inhabited

namespace PoolOptions

/-- The options for a data source name: ten connections, and three seconds to wait for one. -/
def ofDsn (dsn : Dsn) : PoolOptions :=
  ⟨dsn, 10, Span.seconds 3⟩

/-- The options for a data source name that is given as text. -/
def ofText (s : String) : Except Error PoolOptions :=
  ((Dsn.parse s).map ofDsn).mapError .dsn

/-- The environment variable that may hold a data source name. -/
def dsnVariable : String := "MYSQL_MIDDLEWARE_DSN"

/-- The options for the value of the environment variable, which may be unset. -/
def ofEnvironment (value : Option String) : Except Error PoolOptions :=
  match value with
  | some s => ofText s
  | none => .error (.config (.variableNotSet dsnVariable))

end PoolOptions

/-- How a connection is made. -/
structure ConnectOptions where
  host : String
  port : Nat
  socket : Option String
  user : String
  password : Option String
  database : Option String
  charset : String
  collation : Option String
  deriving DecidableEq, Inhabited

namespace ConnectOptions

/-- A connection to the local server. -/
def standard : ConnectOptions :=
  { host := "localhost", port := 3306, socket := none, user := "", password := none,
    database := none, charset := "utf8mb4", collation := none }

/-- The text, unless it is empty. -/
def given (s : String) : Option String :=
  if s = "" then none else some s

/-- The first entry of a list of preferences. -/
def firstChoice (s : String) : String :=
  match Text.cutFirst? ',' s.toList with
  | some (first, _) => String.ofList first
  | none => s

/-- The options for where the server is. -/
def place (d : Dsn) : Except Error ConnectOptions :=
  if d.net = "tcp" then
    match d.hostPort? with
    | some (host, port) => .ok { standard with host, port }
    | none => .error (.config (.badTcpAddress d.address))
  else if d.net = "unix" then .ok { standard with socket := some d.address }
  else .error (.config (.unknownNetwork d.net))

/-- The options for a data source name. -/
def ofDsn (d : Dsn) : Except Error ConnectOptions := do
  let there ← place d
  return { there with
    user := d.user
    password := given d.password
    database := given d.database
    charset := ((d.params.get? "charset").map firstChoice).getD there.charset
    collation := d.params.get? "collation" }

end ConnectOptions

/-- A pool: its options and how its connections are made. -/
structure Pool where
  options : PoolOptions
  connect : ConnectOptions
  deriving DecidableEq, Inhabited

namespace Pool

/-- Why a pool cannot be prepared. -/
inductive Fault where
  /-- The data source name does not say how to connect. -/
  | options (cause : Error)
  /-- There is no room for a single connection. -/
  | noRoom

/-- The message of a fault. -/
def Fault.message : Fault → String
  | .options cause => cause.message
  | .noRoom => "capacity must be non-zero"

/-- Prepares a pool. No connection is made yet. -/
def ofOptions (options : PoolOptions) : Except Fault Pool :=
  match ConnectOptions.ofDsn options.dsn with
  | .error cause => .error (.options cause)
  | .ok connect => if options.maxConnections = 0 then .error .noRoom else .ok ⟨options, connect⟩

/-- The address of the server as the data source name gives it. -/
def host (p : Pool) : String :=
  p.options.dsn.address

end Pool

end MysqlDesk
