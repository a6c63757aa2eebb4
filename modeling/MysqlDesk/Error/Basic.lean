/-
The errors of this library.

Every call that can fail does so with one of these causes. The wording of each is in `message`, and
the messages of what lies behind it in `chain`.
-/
import MysqlDesk.Dsn.Basic
import MysqlDesk.Error.Database
import MysqlDesk.Json.Reader
import MysqlDesk.Json.Writer
import MysqlDesk.Span
import MysqlDesk.Template.Substitute

set_option autoImplicit false

namespace MysqlDesk

/-- Why JSON could not be read or written. -/
inductive JsonFault where
  | unreadable (cause : Json.Unreadable)
  | unwritable (cause : Json.Unwritable)
  deriving DecidableEq

/-- The message of a fault. -/
def JsonFault.message : JsonFault → String
  | .unreadable cause => cause.message
  | .unwritable cause => cause.message

/-- Why a configuration cannot be used. -/
inductive ConfigFault where
  | variableNotSet (name : String)
  | badTcpAddress (address : String)
  | unknownNetwork (net : String)
  | stated (note : String)
  deriving DecidableEq

/-- The message of a fault. -/
def ConfigFault.message : ConfigFault → String
  | .variableNotSet name => name ++ " not usable: environment variable not found"
  | .badTcpAddress address => s!"invalid tcp address '{address}'"
  | .unknownNetwork net => s!"unsupported network '{net}'"
  | .stated note => note

/-- Why an answer of the server makes no sense. -/
inductive AnswerFault where
  | unknownLogOutput (entry : String)
  | logRowWithout (column : String)
  | stated (note : String)
  deriving DecidableEq

/-- The message of a fault. -/
def AnswerFault.message : AnswerFault → String
  | .unknownLogOutput entry => s!"unknown log output '{entry}'"
  | .logRowWithout column => s!"general log row without {column}"
  | .stated note => note

/-- An error of this library. -/
inductive Error where
  | template (fault : Template.Fault)
  | dsn (fault : Dsn.Fault)
  | database (cause : DatabaseError)
  | json (fault : JsonFault)
  | timeout (after : Span)
  | noRows
  | config (fault : ConfigFault)
  | answer (fault : AnswerFault)

instance : Inhabited Error := ⟨.noRows⟩

namespace Error

/-- The message of an error. -/
def message : Error → String
  | .template fault => fault.message
  | .dsn fault => fault.message
  | .database cause => cause.message
  | .json fault => "JSON error: " ++ fault.message
  | .timeout after => "Timed out after " ++ after.text
  | .noRows => "No rows returned"
  | .config fault => "Configuration error: " ++ fault.message
  | .answer fault => "SQL execution error: " ++ fault.message

/-- The messages of the errors behind this one. -/
def causes : Error → List String
  | .database cause => cause.chain.tail
  | .json fault => [fault.message]
  | _ => []

/-- The message, followed by those of the errors behind it. -/
def chain (e : Error) : List String :=
  e.message :: e.causes

/-- Whether this is an error of the driver with the given number. -/
def hasNumber (e : Error) (number : UInt16) : Bool :=
  match e with
  | .database cause => cause.hasNumber number
  | _ => false

/-- Whether the server refused to create a schema because it exists. -/
def isSchemaExists (e : Error) : Bool :=
  e.hasNumber schemaExists

end Error

end MysqlDesk
