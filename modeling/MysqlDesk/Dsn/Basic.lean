/-
Data source names.

A data source name says in one line where a server is, as whom to log in, which database to use and
with which parameters:

    [user[:password]@][net[(addr)]]/dbname[?param1=value1&paramN=valueN]

This module has the parsed form, its written form, and the defaults that reading puts in. No field is
escaped when it is written, so a name that is built by hand need not read back as itself.
-/
import MysqlDesk.Dictionary
import MysqlDesk.Text.Cut
import MysqlDesk.Text.Numeral

set_option autoImplicit false

namespace MysqlDesk

/-- A parsed data source name. -/
structure Dsn where
  user : String
  password : String
  /-- The kind of network, `tcp` or `unix`. -/
  net : String
  /-- Host and port for `tcp`, the path of the socket for `unix`. -/
  address : String
  database : String
  params : Dictionary String
  deriving DecidableEq, Inhabited

namespace Dsn

/-- The name in which every field is empty. -/
def blank : Dsn :=
  ⟨"", "", "", "", "", Dictionary.empty⟩

/-- Why a text is no data source name. -/
inductive Fault where
  /-- There is no slash before the database. -/
  | missingSlash
  /-- A parenthesis was opened and closed, but the text before the slash goes on after it. -/
  | textAfterAddress
  /-- A parenthesis was opened and not closed. -/
  | addressNotClosed
  /-- A parameter has no equals sign. -/
  | badParam (param : String)
  /-- The address is left out, and this network has no usual one. -/
  | noDefaultAddress (net : String)
  deriving DecidableEq

/-- The message of a fault. -/
def Fault.reason : Fault → String
  | .missingSlash => "missing the slash separating the database name"
  | .textAfterAddress => "did you forget to escape a param value?"
  | .addressNotClosed => "network address not terminated (missing closing brace)"
  | .badParam param => s!"invalid parameter '{param}'"
  | .noDefaultAddress net => s!"default addr for network '{net}' unknown"

/-- The message of a fault, with its subject. -/
def Fault.message (f : Fault) : String :=
  "invalid DSN: " ++ f.reason

/-! ## Defaults -/

/-- The port of a server that names none. -/
def defaultPort : String := "3306"

/-- Whether an address has a port: after a bracketed host, or after the only colon. -/
def hasPort (address : List Char) : Bool :=
  match address with
  | '[' :: rest => Text.occursIn [']', ':'] rest
  | _ => address.count ':' == 1

/-- An address with the usual port. A host with colons of its own is put in brackets. -/
def withDefaultPort (address : String) : String :=
  if ':' ∈ address.toList then "[" ++ address ++ "]:" ++ defaultPort
  else address ++ ":" ++ defaultPort

/-- The address used for a network when none is given. -/
def defaultAddress (net : String) : Except Fault String :=
  if net = "tcp" then .ok ("127.0.0.1:" ++ defaultPort)
  else if net = "unix" then .ok "/tmp/mysql.sock"
  else .error (.noDefaultAddress net)

/-- The name with the network, the address and the port that were left out. -/
def normalize (d : Dsn) : Except Fault Dsn :=
  let net := if d.net = "" then "tcp" else d.net
  if d.address = "" then
    (defaultAddress net).map fun address => { d with net, address }
  else if net = "tcp" ∧ hasPort d.address.toList = false then
    .ok { d with net, address := withDefaultPort d.address }
  else .ok { d with net }

/-! ## Writing -/

/-- The login part with its at-sign. Without a user there is none, and the password is not written. -/
def loginText (d : Dsn) : String :=
  if d.user = "" then ""
  else if d.password = "" then d.user ++ "@"
  else d.user ++ ":" ++ d.password ++ "@"

/-- The network with its address. Without a network the address is not written. -/
def placeText (d : Dsn) : String :=
  if d.net = "" then ""
  else if d.address = "" then d.net
  else d.net ++ "(" ++ d.address ++ ")"

/-- The parameters after their question mark, in the order of their keys. -/
def paramsText (d : Dsn) : String :=
  match d.params.entries with
  | [] => ""
  | entries => "?" ++ "&".intercalate (entries.map fun (key, value) => key ++ "=" ++ value)

/-- The written form. -/
def text (d : Dsn) : String :=
  d.loginText ++ d.placeText ++ "/" ++ d.database ++ d.paramsText

/-! ## Host and port -/

/-- The largest port. -/
def portMax : Nat := 65535

/-- Reads a port: digits, at least one, perhaps after a plus sign, of a value up to `portMax`. -/
def readPort (s : List Char) : Option Nat :=
  let digits := match s with
    | '+' :: rest => rest
    | _ => s
  if digits = [] ∨ digits.all Text.isDigit = false then none
  else if portMax < Text.ofDigits digits then none
  else some (Text.ofDigits digits)

/-- A host without the brackets around it. -/
def bareHost (s : List Char) : List Char :=
  ((s.dropWhile (· == '[')).reverse.dropWhile (· == ']')).reverse

/-- Host and port of a `tcp` address: what stands before and after its last colon. -/
def hostPort? (d : Dsn) : Option (String × Nat) :=
  if d.net = "tcp" then do
    let (host, port) ← Text.cutLast? ':' d.address.toList
    let port ← readPort port
    return (String.ofList (bareHost host), port)
  else none

end Dsn

end MysqlDesk
