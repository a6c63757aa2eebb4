/-
Spans of time.

A span counts nanoseconds. It is shown in the largest of the units second, millisecond, microsecond
and nanosecond of which it has at least one, as a decimal that is exact and has no trailing zeros.
-/
import MysqlDesk.Text.Numeral

set_option autoImplicit false

namespace MysqlDesk

open MysqlDesk.Text (decimal decimalPadded)

/-- A span of time in nanoseconds. -/
structure Span where
  nanos : Nat
  deriving DecidableEq, Inhabited

namespace Span

/-- So many milliseconds. -/
def milliseconds (n : Nat) : Span :=
  ⟨n * 1000000⟩

/-- So many seconds. -/
def seconds (n : Nat) : Span :=
  ⟨n * 1000000000⟩

/-- The span in whole milliseconds. -/
def wholeMilliseconds (s : Span) : Nat :=
  s.nanos / 1000000

instance : LE Span := ⟨fun a b => a.nanos ≤ b.nanos⟩

instance (a b : Span) : Decidable (a ≤ b) :=
  inferInstanceAs (Decidable (a.nanos ≤ b.nanos))

/-- A number of a unit of `10 ^ places` nanoseconds, without trailing zeros after the point. -/
def inUnit (nanos places : Nat) : List Char :=
  let whole := nanos / Nat.pow 10 places
  let part := nanos % Nat.pow 10 places
  if part = 0 then decimal whole
  else
    let digits := decimalPadded places part
    decimal whole ++ '.' :: (digits.reverse.dropWhile (· == '0')).reverse

/-- The span in the largest unit of which it has at least one. -/
def text (s : Span) : String :=
  if 1000000000 ≤ s.nanos then String.ofList (inUnit s.nanos 9) ++ "s"
  else if 1000000 ≤ s.nanos then String.ofList (inUnit s.nanos 6) ++ "ms"
  else if 1000 ≤ s.nanos then String.ofList (inUnit s.nanos 3) ++ "µs"
  else String.ofList (decimal s.nanos) ++ "ns"

end Span

end MysqlDesk
