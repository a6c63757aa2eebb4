/-
Columns of an answer, and what becomes of their contents.

A server describes each column by a type and delivers the contents in a form that depends on it. Here
the types are distinguished as far as their contents become different cells: integers become integer
cells, unless an unsigned one is too large, which is kept as its decimal; texts stay texts if they are
well-formed and become bytes if not. The kinds of contents that no cell is made of become NULL.
-/
import MysqlDesk.Cell
import MysqlDesk.Json.Reader

set_option autoImplicit false

namespace MysqlDesk.Wire

/-- The type of a column. -/
inductive ColumnType where
  | signedInteger
  | unsignedInteger
  | year
  | bit
  | float
  | double
  | date
  | time
  | datetime
  | timestamp
  | decimal
  | geometry
  | json
  | characters
  | octets
  | nothing
  deriving DecidableEq, Inhabited

/-- The parts of a date-time as a server sends them, not yet known to be valid. -/
structure RawMoment where
  year : Nat
  month : Nat
  day : Nat
  hour : Nat
  minute : Nat
  second : Nat
  microsecond : Nat
  deriving DecidableEq, Inhabited

/-- The contents of a field that is not NULL. -/
inductive Content where
  | signed (n : Int64)
  | unsigned (n : UInt64)
  | short (bits : UInt32)
  | long (bits : UInt64)
  /-- A date-time; none is the zero date. -/
  | moment (parts : Option RawMoment)
  | octets (bytes : List UInt8)
  deriving DecidableEq, Inhabited

/-- The number that bytes denote in big-endian order, in the 64 bits of a word. -/
def bigEndian (bytes : List UInt8) : UInt64 :=
  bytes.foldl (fun n b => (n <<< 8) ||| b.toUInt64) 0

/-- The cell for an unsigned integer: its decimal, if it is too large for an integer cell. -/
def unsignedCell (n : UInt64) : Cell :=
  if n.toNat < 0x8000000000000000 then .int (Int64.ofNat n.toNat) else .text (toString n.toNat)

/-- The date-time of the parts, if there is one. A million microseconds and more are a leap second,
which only second 59 can have. -/
def RawMoment.toMoment? (r : RawMoment) : Option Moment :=
  let (second, microsecond) :=
    if r.second = 59 ∧ 1000000 ≤ r.microsecond then (60, r.microsecond - 1000000)
    else (r.second, r.microsecond)
  if 59 < r.second then none
  else Moment.ofParts?
    { year := r.year, month := r.month, day := r.day, hour := r.hour, minute := r.minute,
      second := second, nanosecond := microsecond * 1000 }

/-- The cell for bytes that should be text. -/
def charactersCell (bytes : List UInt8) : Cell :=
  match Text.Utf8.decode? bytes with
  | some s => .text (String.ofList s)
  | none => .blob bytes

/-- The cell for bytes that should be JSON text. -/
def jsonCell (bytes : List UInt8) : Cell :=
  match Text.Utf8.decode? bytes with
  | some s =>
    match Json.Value.ofText? (String.ofList s) with
    | .ok v => .json v
    | .error _ => .null
  | none => .null

/-- The cell for the contents of a column. -/
def ColumnType.cell (type : ColumnType) (content : Content) : Cell :=
  match type, content with
  | .signedInteger, .signed n => .int n
  | .unsignedInteger, .unsigned n => unsignedCell n
  | .year, .unsigned n => unsignedCell n
  | .bit, .octets bytes => unsignedCell (bigEndian bytes)
  | .float, .short bits => .real (Binary64.ofShort bits)
  | .double, .long bits => .real ⟨bits⟩
  | .datetime, .moment parts => ((parts.bind RawMoment.toMoment?).map Cell.moment).getD .null
  | .json, .octets bytes => jsonCell bytes
  | .characters, .octets bytes => charactersCell bytes
  | .octets, .octets bytes => .blob bytes
  | _, _ => .null

/-- The cell for a field, which may be NULL. -/
def ColumnType.field (type : ColumnType) (content : Option Content) : Cell :=
  (content.map type.cell).getD .null

end MysqlDesk.Wire
