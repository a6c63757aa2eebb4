/-
Reading a data source name.

The separators are sought from different ends. The last slash divides the server from the database,
so a password may hold slashes; the last at-sign before it divides the login from the network, so a
password may hold at-signs; the first colon of the login ends the user. The first parenthesis opens
the address, which must end at the slash. After the slash, the first question mark ends the database,
and each parameter is a key and a value around its first equals sign; empty parameters are passed
over, and the last value of a key counts. The empty text is the name in which everything is left out.
-/
import MysqlDesk.Dsn.Basic

set_option autoImplicit false

namespace MysqlDesk.Dsn

open MysqlDesk.Text (cutFirst? cutLast? pieces)

/-- User and password of a login. -/
def readLogin (login : List Char) : String × String :=
  match cutFirst? ':' login with
  | some (user, password) => (String.ofList user, String.ofList password)
  | none => (String.ofList login, "")

/-- Network and address. -/
def readPlace (place : List Char) : Except Fault (String × String) :=
  match cutFirst? '(' place with
  | none => .ok (String.ofList place, "")
  | some (net, rest) =>
    if rest.getLast? = some ')' then .ok (String.ofList net, String.ofList rest.dropLast)
    else if ')' ∈ rest then .error .textAfterAddress
    else .error .addressNotClosed

/-- One parameter. -/
def readParam (param : List Char) : Except Fault (String × String) :=
  match cutFirst? '=' param with
  | some (key, value) => .ok (String.ofList key, String.ofList value)
  | none => .error (.badParam (String.ofList param))

/-- The parameters in the order of the text. -/
def readParams (query : List Char) : Except Fault (List (String × String)) :=
  ((pieces '&' query).filter fun piece => !piece.isEmpty).mapM readParam

/-- The server, that is, the text before the last slash: user, password, network and address. -/
def readServer (server : List Char) : Except Fault ((String × String) × String × String) := do
  let (login, place) := (cutLast? '@' server).getD ([], server)
  let place ← readPlace place
  return (readLogin login, place)

/-- The target, that is, the text after the last slash: database and parameters. -/
def readTarget (target : List Char) : Except Fault (String × Dictionary String) := do
  let (database, query) := (cutFirst? '?' target).getD (target, [])
  let params ← readParams query
  return (String.ofList database, Dictionary.ofPairs params)

/-- The fields as they are written, before anything left out is put in. -/
def readFields (s : List Char) : Except Fault Dsn :=
  match cutLast? '/' s with
  | none => if s = [] then .ok blank else .error .missingSlash
  | some (server, target) => do
    let ((user, password), net, address) ← readServer server
    let (database, params) ← readTarget target
    return { user, password, net, address, database, params }

/-- Reads a data source name. -/
def parse (s : String) : Except Fault Dsn :=
  (readFields s.toList).bind normalize

end MysqlDesk.Dsn
