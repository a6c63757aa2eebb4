/-
Where the server writes its logs.

The variable `log_output` holds the names of the destinations with commas between them. It is read
leniently: blanks around a name, the case of its letters and entries without a name do not matter.
It is written strictly: each destination once, in the order of its first mention, and `NONE` alone if
it is mentioned at all, since it silences the others.
-/
import MysqlDesk.Text.Blank
import MysqlDesk.Variable

set_option autoImplicit false

namespace MysqlDesk

/-- A destination of the logs. -/
inductive LogOutput where
  | none
  | file
  | table
  deriving DecidableEq, Inhabited

namespace LogOutput

/-- The name of a destination. -/
def name : LogOutput → String
  | .none => "NONE"
  | .file => "FILE"
  | .table => "TABLE"

/-- All destinations. -/
def all : List LogOutput :=
  [.none, .file, .table]

/-- The destination with the given name in letters of any case. The case of ASCII letters alone is
disregarded. -/
def ofName? (s : List Char) : Option LogOutput :=
  all.find? fun output => s.map Char.toUpper == output.name.toList

/-- Reads one entry. The message of a refusal quotes the entry as it stands. -/
def ofEntry (entry : List Char) : Outcome LogOutput :=
  match ofName? (Text.trim entry) with
  | some output => .ok output
  | .none => .error (.answer (.unknownLogOutput (String.ofList entry)))

/-- Reads one destination. -/
def ofText (s : String) : Outcome LogOutput :=
  ofEntry s.toList

/-- Reads the destinations of a value of the variable; the first bad entry counts. -/
def ofValue (value : String) : Outcome (List LogOutput) :=
  ((Text.pieces ',' value.toList).filter fun entry => !Text.isBlankText entry).mapM ofEntry

/-- The value of the variable for a list of destinations, each at its first mention. -/
def value (outputs : List LogOutput) : String :=
  if LogOutput.none ∈ outputs then LogOutput.none.name
  else ",".intercalate (outputs.eraseDups.map name)

/-- Sets the destinations. An empty list changes nothing. -/
def set (outputs : List LogOutput) : Call Unit :=
  if outputs = [] then return ()
  else Call.perform "SET GLOBAL log_output = ?" [.text (value outputs)]

/-- The destinations in force. -/
def get : Call (List LogOutput) := do
  let value ← Variable.get "log_output"
  Call.ofOutcome (ofValue value)

end LogOutput

end MysqlDesk
