/-
Binary floating-point numbers of 64 bits.

A cell of a floating-point column and a JSON number that is no integer are such numbers. They are
kept as their bits, so that a NaN keeps its payload and the two zeros stay apart, and all arithmetic
on them is exact arithmetic on natural numbers followed by one rounding. That makes every result
visible to a proof, which the machine's own operations are not.

A finite number is `m * 2 ^ e` with `m < 2 ^ 53` and `-1074 ≤ e`. Read as a natural number, the bits
without the sign are `(e + 1074) * 2 ^ 52 + m` for the normal numbers and `m` for the subnormal ones,
where `e` is `-1074`: one formula for both. It also carries a mantissa that was rounded up to
`2 ^ 53` into the next exponent, and the last exponent into infinity.
-/

set_option autoImplicit false

namespace MysqlDesk

/-- A floating-point number of 64 bits, NaN and infinities included. -/
structure Binary64 where
  bits : UInt64
  deriving DecidableEq, Inhabited

namespace Binary64

/-! ## Rounding a ratio -/

/-- The quotient rounded to the nearest natural number, and to the even one of two that are equally
near. -/
def roundDiv (num den : Nat) : Nat :=
  let quotient := num / den
  let twice := 2 * (num % den)
  if den < twice ∨ (twice = den ∧ quotient % 2 = 1) then quotient + 1 else quotient

/-- The ratio `num / den` divided by `2 ^ e`, again as a ratio. -/
def scaleDown (num den : Nat) (e : Int) : Nat × Nat :=
  if 0 ≤ e then (num, den * Nat.pow 2 e.toNat) else (num * Nat.pow 2 (-e).toNat, den)

/-- The least mantissa of a normal number, `2 ^ 52`. -/
def mantissaUnit : Nat :=
  0x10000000000000

/-- The place of the sign among the bits, `2 ^ 63`. -/
def signUnit : Nat :=
  0x8000000000000000

/-- The bits of infinity, without the sign. -/
def infinityBits : Nat :=
  0x7FF0000000000000

/-- The exponent with which the ratio has a mantissa from `2 ^ 52` up to `2 ^ 53`, or the least
exponent there is if that one is smaller. The logarithms leave two candidates. -/
def exponentOf (num den : Nat) : Int :=
  let low : Int := (num.log2 : Int) - (den.log2 : Int) - 53
  let scaled := scaleDown num den low
  let exact := if scaled.1 / scaled.2 < 2 * mantissaUnit then low else low + 1
  max exact (-1074)

/-- The bits, without the sign, of the number nearest to `num / den`. -/
def nearestBits (num den : Nat) : Nat :=
  if num = 0 then 0
  else
    let e := exponentOf num den
    let (n, d) := scaleDown num den e
    min ((e + 1074).toNat * mantissaUnit + roundDiv n d) infinityBits

/-- The number nearest to `num / den`, with a minus sign if `negative` says so. -/
def ofRatio (negative : Bool) (num den : Nat) : Binary64 :=
  let bits := UInt64.ofNat (nearestBits num den)
  ⟨if negative then bits ||| 0x8000000000000000 else bits⟩

/-! ## Taking a number apart -/

/-- The bits without the sign. -/
def magnitudeBits (x : Binary64) : Nat :=
  x.bits.toNat % signUnit

/-- Whether the sign is minus, which it may also be for zero and for NaN. -/
def isNegative (x : Binary64) : Bool :=
  decide (signUnit ≤ x.bits.toNat)

/-- Whether the number is an infinity or a NaN. -/
def isSpecial (x : Binary64) : Bool :=
  decide (infinityBits ≤ x.magnitudeBits)

/-- The mantissa `m` and the exponent `e` of a finite number, whose magnitude is `m * 2 ^ e`. -/
def parts (x : Binary64) : Nat × Int :=
  let field : Nat := x.magnitudeBits / mantissaUnit
  let fraction : Nat := x.magnitudeBits % mantissaUnit
  if field = 0 then (fraction, -1074) else (fraction + mantissaUnit, (field : Int) - 1075)

/-- The magnitude of a finite number as a ratio. -/
def ratio (x : Binary64) : Nat × Nat :=
  let (m, e) := x.parts
  if 0 ≤ e then (m * Nat.pow 2 e.toNat, 1) else (m, Nat.pow 2 (-e).toNat)

/-! ## Operations -/

/-- The number with the other sign. -/
def neg (x : Binary64) : Binary64 :=
  ⟨x.bits ^^^ 0x8000000000000000⟩

/-- The product of two finite magnitudes. -/
def mul (x y : Binary64) : Binary64 :=
  ofRatio false (x.ratio.1 * y.ratio.1) (x.ratio.2 * y.ratio.2)

/-- The quotient of two finite magnitudes, the second one not zero. -/
def div (x y : Binary64) : Binary64 :=
  ofRatio false (x.ratio.1 * y.ratio.2) (x.ratio.2 * y.ratio.1)

/-- The number that 32 bits of the short format denote. Every short number is also a long one; a NaN
stays a NaN, with its payload in the leading places and marked as quiet. -/
def ofShort (short : UInt32) : Binary64 :=
  let negative := decide (0x80000000 ≤ short.toNat)
  let magnitude := short.toNat % 0x80000000
  let field := magnitude / 0x800000
  let fraction := magnitude % 0x800000
  if field = 255 then
    let payload := fraction * 0x20000000
    let quiet := if fraction ≠ 0 ∧ fraction < 0x400000 then 0x8000000000000 else 0
    let sign := if negative then signUnit else 0
    ⟨UInt64.ofNat (sign + infinityBits + payload + quiet)⟩
  else if field = 0 then ofRatio negative fraction (Nat.pow 2 149)
  else ofRatio negative ((fraction + 0x800000) * Nat.pow 2 field) (Nat.pow 2 150)

end Binary64

end MysqlDesk
