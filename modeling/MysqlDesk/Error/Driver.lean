/-
Errors below this library: of the connection, of the client that speaks the protocol, and of the
server.
-/

set_option autoImplicit false

namespace MysqlDesk

/-! ## The connection -/

/-- What went wrong with a connection. -/
inductive LinkKind where
  | refused
  | reset
  | timedOut
  | notFound
  | endReached
  | other
  deriving DecidableEq, Inhabited

/-- The usual message of a kind. -/
def LinkKind.message : LinkKind → String
  | .refused => "connection refused"
  | .reset => "connection reset"
  | .timedOut => "timed out"
  | .notFound => "entity not found"
  | .endReached => "unexpected end of file"
  | .other => "other error"

/-- A failure of a connection, with its own message if it has one. -/
structure LinkError where
  kind : LinkKind
  note : Option String
  deriving DecidableEq, Inhabited

/-- The message of a failure. -/
def LinkError.message (e : LinkError) : String :=
  e.note.getD e.kind.message

/-! ## The client -/

/-- A failure that the client reports. -/
inductive ClientError where
  | link (cause : LinkError)
  | protocol (note : String)
  | invalidArgument (note : String)
  | configuration (note : String)
  | tls (note : String)
  | columnNotFound (name : String)
  | decoding (note : String)
  | encoding (note : String)
  | foreignDatabase (note : String)
  | rowNotFound
  | poolTimedOut
  | poolClosed
  | workerCrashed
  | stated (note : String)
  deriving DecidableEq, Inhabited

/-- The message of a failure. -/
def ClientError.message : ClientError → String
  | .link cause => "error communicating with database: " ++ cause.message
  | .protocol note => "encountered unexpected or invalid data: " ++ note
  | .invalidArgument note => note
  | .configuration note => "error with configuration: " ++ note
  | .tls note => "error occurred while attempting to establish a TLS connection: " ++ note
  | .columnNotFound name => "no column found for name: " ++ name
  | .decoding note => "error occurred while decoding: " ++ note
  | .encoding note => "error occurred while encoding a value: " ++ note
  | .foreignDatabase note => "error returned from database: " ++ note
  | .rowNotFound => "no rows returned by a query that expected to return at least one row"
  | .poolTimedOut => "pool timed out while waiting for an open connection"
  | .poolClosed => "attempted to acquire a connection on a closed pool"
  | .workerCrashed => "attempted to communicate with a crashed background worker"
  | .stated note => note

/-- The message of the failure behind this one, where there is one. -/
def ClientError.cause? : ClientError → Option String
  | .link cause => some cause.message
  | .configuration note => some note
  | .tls note => some note
  | .decoding note => some note
  | .encoding note => some note
  | .foreignDatabase note => some note
  | _ => none

/-! ## The driver -/

/-- The schema to be created exists already. -/
def schemaExists : UInt16 := 1007

/-- The schema to be dropped does not exist. -/
def schemaMissing : UInt16 := 1008

/-- A unique key has the value already. -/
def duplicateEntry : UInt16 := 1062

/-- The server could not be reached. -/
def hostUnreachable : UInt16 := 2005

/-- An error as the driver reports it. -/
inductive DriverError where
  | server (number : UInt16) (state : Option String) (note : String)
  | refused (cause : LinkError)
  | other (cause : ClientError)
  deriving DecidableEq, Inhabited

namespace DriverError

/-- What the driver makes of a failure of the client: a refused connection has an error number. -/
def ofClient (e : ClientError) : DriverError :=
  match e with
  | .link cause => if cause.kind = .refused then .refused cause else .other e
  | _ => .other e

/-- The error number. -/
def number? : DriverError → Option UInt16
  | .server number _ _ => some number
  | .refused _ => some hostUnreachable
  | .other _ => none

/-- The message with the number and the state. -/
def message : DriverError → String
  | .server number state note =>
    "Error " ++ toString number.toNat ++ " (" ++ state.getD "HY000" ++ "): " ++ note
  | .refused cause => "connect: " ++ cause.message
  | .other cause => cause.message

/-- The message that a server sent, or the whole message of any other error. -/
def note : DriverError → String
  | .server _ _ note => note
  | e => e.message

/-- The messages of the errors behind this one. -/
def causes : DriverError → List String
  | .server _ _ _ => []
  | .refused cause => [cause.message]
  | .other cause => cause.cause?.toList

end DriverError

end MysqlDesk
