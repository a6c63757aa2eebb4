/-
Cells: the values of result rows and of statement parameters.

Columns are read leniently where servers differ. A text column may be delivered as bytes, a truth
value as the integer 0 or 1, and a date-time as text; the views below accept these forms and give
`none` for every other kind of cell.
-/
import MysqlDesk.Calendar.Reader
import MysqlDesk.Json.Writer
import MysqlDesk.Text.Utf8

set_option autoImplicit false

namespace MysqlDesk

/-- A value of a row or of a parameter. -/
inductive Cell where
  | null
  | int (value : Int64)
  | real (value : Binary64)
  | text (value : String)
  | flag (value : Bool)
  | moment (value : Moment)
  | json (value : Json.Value)
  | blob (bytes : List UInt8)

instance : Inhabited Cell := ⟨.null⟩

namespace Cell

/-- Whether the cell is SQL's NULL. -/
def isNull : Cell → Bool
  | .null => true
  | _ => false

/-- The integer of an integer cell. -/
def int? : Cell → Option Int64
  | .int n => some n
  | _ => none

/-- The text of a text cell. -/
def text? : Cell → Option String
  | .text s => some s
  | _ => none

/-- The text of a text cell, or of bytes, with U+FFFD for what is broken in them. -/
def lossyText? : Cell → Option String
  | .text s => some s
  | .blob bytes => some (String.ofList (Text.Utf8.decodeLossy bytes))
  | _ => none

/-- The truth value of a cell, which may be written as 0 or 1. -/
def flag? : Cell → Option Bool
  | .flag b => some b
  | .int n => if n = 1 then some true else if n = 0 then some false else none
  | _ => none

/-- The date-time of a cell, which may be written as text. -/
def moment? : Cell → Option Moment
  | .moment m => some m
  | .text s => Moment.ofText? s
  | _ => none

/-- The number of a floating-point cell. -/
def real? : Cell → Option Binary64
  | .real x => some x
  | _ => none

/-- The bytes of a cell of bytes. -/
def blob? : Cell → Option (List UInt8)
  | .blob bytes => some bytes
  | _ => none

/-- The text of a cell as the single answer of a look-up: empty if the cell has none. -/
def answerText (c : Cell) : String :=
  c.lossyText?.getD ""

end Cell

end MysqlDesk
