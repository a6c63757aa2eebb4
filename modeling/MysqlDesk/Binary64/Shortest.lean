/-
The shortest decimal of a floating-point number.

Among the decimals that read back as a given number, the one with the fewest digits is taken, and of
several with that many digits the nearest to the number; of two equally near ones the one with an
even last digit.

The decimals that read back are those in an interval around the number. It reaches half the distance
to the neighbour on each side, and the distance downwards is the smaller one when the mantissa is a
power of two. Its ends belong to it exactly when the mantissa is even, since a tie in reading goes to
the even mantissa. For 1, 2, … 17 digits the two points of that decimal grid next to the number are
tested; if any point of a grid lies in the interval then one of these two does, so the first grid
with a hit gives the fewest digits. Seventeen digits always suffice.
-/
import MysqlDesk.Binary64.Basic
import MysqlDesk.Text.Numeral

set_option autoImplicit false

namespace MysqlDesk.Binary64

/-- A decimal `digits * 10 ^ exponent`. -/
structure Decimal where
  digits : Nat
  exponent : Int
  deriving DecidableEq, Inhabited

/-- The interval of the ratios that read back as a number, over one denominator: the number itself
is `value / den`. -/
structure Interval where
  value : Nat
  low : Nat
  high : Nat
  den : Nat
  closed : Bool

/-- The interval around `m * 2 ^ e`, in quarters of the last place. -/
def interval (m : Nat) (e : Int) : Interval :=
  let below := if m = mantissaUnit ∧ -1074 < e then 1 else 2
  let unit := if 2 ≤ e then Nat.pow 2 (e - 2).toNat else 1
  let den := if 2 ≤ e then 1 else Nat.pow 2 (2 - e).toNat
  { value := 4 * m * unit
    low := (4 * m - below) * unit
    high := (4 * m + 2) * unit
    den := den
    closed := m % 2 == 0 }

/-- The interval divided by `10 ^ k`. -/
def Interval.scaleDown (i : Interval) (k : Int) : Interval :=
  if 0 ≤ k then { i with den := i.den * Nat.pow 10 k.toNat }
  else
    let factor := Nat.pow 10 (-k).toNat
    { i with value := i.value * factor, low := i.low * factor, high := i.high * factor }

/-- Whether the natural number `c` lies in the interval. -/
def Interval.has (i : Interval) (c : Nat) : Bool :=
  if i.closed then decide (i.low ≤ c * i.den ∧ c * i.den ≤ i.high)
  else decide (i.low < c * i.den ∧ c * i.den < i.high)

/-- The point of the interval among the two natural numbers next to its value; the nearer one if
both lie in it, and the even one of two equally near. -/
def Interval.hit? (i : Interval) : Option Nat :=
  let c := i.value / i.den
  match i.has c, i.has (c + 1) with
  | true, false => some c
  | false, true => some (c + 1)
  | false, false => none
  | true, true =>
    let rest := 2 * (i.value % i.den)
    if rest < i.den then some c
    else if i.den < rest then some (c + 1)
    else some (if c % 2 = 0 then c else c + 1)

/-- The exponent `k` with `10 ^ k ≤ value / den < 10 ^ (k + 1)`. Counting digits leaves two
candidates. -/
def Interval.order (i : Interval) : Int :=
  let low : Int := ((Text.decimal i.value).length : Int) - ((Text.decimal i.den).length : Int) - 1
  let next := i.scaleDown (low + 1)
  if next.den ≤ next.value then low + 1 else low

/-- The decimal without trailing zeros in its digits. -/
def Decimal.trim (d : Decimal) : Decimal :=
  let ds := (Text.decimal d.digits).reverse
  let zeros := (ds.takeWhile (· == '0')).length
  if d.digits = 0 then d else ⟨d.digits / Nat.pow 10 zeros, d.exponent + zeros⟩

/-- The shortest decimal of `m * 2 ^ e`, with `m` not zero. -/
def shortest (m : Nat) (e : Int) : Decimal :=
  let i := interval m e
  let order := i.order
  let attempt (count : Nat) : Option Decimal :=
    let k := order - count
    ((i.scaleDown k).hit?).map fun c => Decimal.trim ⟨c, k⟩
  ((List.range 17).findSome? attempt).getD ⟨m, e⟩

end MysqlDesk.Binary64
