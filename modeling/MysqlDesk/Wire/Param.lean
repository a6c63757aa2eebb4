/-
Parameters of a prepared statement, as bytes.

Numbers are little-endian. A date-time is as short as its content allows: the date alone at midnight,
seven bytes without a fraction, and eleven with one, which is cut to microseconds. A leap second is
second 59 with a million microseconds more. A year has two bytes, so a date before the year zero or
after the year 65535 cannot be sent. The first parameter that cannot be sent is reported with its
place among the others, and then none of them is sent.
-/
import MysqlDesk.Cell

set_option autoImplicit false

namespace MysqlDesk.Wire

/-- A parameter: the code of its type, whether it is unsigned, and its bytes, none for NULL. -/
structure Param where
  code : Nat
  unsigned : Bool
  bytes : Option (List UInt8)
  deriving DecidableEq, Inhabited

/-- The bytes of a number in little-endian order. -/
def littleEndian : Nat → Nat → List UInt8
  | 0, _ => []
  | count + 1, n => UInt8.ofNat (n % 256) :: littleEndian count (n / 256)

/-- The bytes of a date with a year that can be sent. -/
def dateBytes (year : Nat) (d : Date) : List UInt8 :=
  littleEndian 2 year ++ littleEndian 1 d.month ++ littleEndian 1 d.day

/-- The bytes of a time of day. -/
def clockBytes (c : Clock) : List UInt8 :=
  let second := min c.second 59
  let nanos := c.nanosecond + (c.second - second) * 1000000000
  if c.hour = 0 ∧ c.minute = 0 ∧ second = 0 ∧ nanos = 0 then []
  else
    let parts := littleEndian 1 c.hour ++ littleEndian 1 c.minute ++ littleEndian 1 second
    if nanos = 0 then parts else parts ++ littleEndian 4 (nanos / 1000)

/-- A date that cannot be sent. -/
structure OutOfRange where
  date : Date

/-- The message of a date that cannot be sent. -/
def OutOfRange.message (r : OutOfRange) : String :=
  "NaiveDateTime out of range for Mysql: " ++ String.ofList r.date.text

/-- The bytes of a date-time. -/
def momentBytes (m : Moment) : Except OutOfRange (List UInt8) :=
  if 0 ≤ m.date.year ∧ m.date.year ≤ 65535 then
    .ok (dateBytes m.date.year.toNat m.date ++ clockBytes m.clock)
  else .error ⟨m.date⟩

/-- The bytes of a text. -/
def textBytes (s : String) : List UInt8 :=
  Text.Utf8.encode s.toList

/-- The parameter for a cell. -/
def Param.ofCell : Cell → Except OutOfRange Param
  | .null => .ok ⟨253, false, none⟩
  | .int n => .ok ⟨8, false, some (littleEndian 8 n.toUInt64.toNat)⟩
  | .real x => .ok ⟨5, false, some (littleEndian 8 x.bits.toNat)⟩
  | .text s => .ok ⟨253, false, some (textBytes s)⟩
  | .flag b => .ok ⟨1, true, some [if b then 1 else 0]⟩
  | .moment m => (momentBytes m).map fun bytes => ⟨12, false, some bytes⟩
  | .json v => .ok ⟨253, false, some (textBytes v.toText)⟩
  | .blob bytes => .ok ⟨252, false, some bytes⟩

/-- A parameter that cannot be sent, and its place, which is one for the first. -/
structure Refused where
  place : Nat
  cause : OutOfRange

/-- The message of a parameter that cannot be sent. -/
def Refused.message (r : Refused) : String :=
  "Encoding argument $" ++ toString r.place ++ " failed: " ++ r.cause.message

/-- The parameters for the cells, the first of which has the given place. -/
def Param.ofCellsFrom : Nat → List Cell → Except Refused (List Param)
  | _, [] => .ok []
  | place, cell :: rest =>
    match Param.ofCell cell with
    | .ok param => (ofCellsFrom (place + 1) rest).map (param :: ·)
    | .error cause => .error ⟨place, cause⟩

/-- The parameters for the cells of a statement. -/
def Param.ofCells (cells : List Cell) : Except Refused (List Param) :=
  Param.ofCellsFrom 1 cells

end MysqlDesk.Wire
