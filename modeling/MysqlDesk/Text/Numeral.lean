/-
Numerals: numbers written in digits.

Only the ASCII digits count as digits, in every numeral this library reads. The digits of other
scripts are ordinary characters, so a date written in them is no date.
-/

set_option autoImplicit false

namespace MysqlDesk.Text

/-- Whether `c` is one of `0` to `9`. -/
def isDigit (c : Char) : Bool :=
  '0' ≤ c && c ≤ '9'

/-- What the digit `c` counts. -/
def digitValue (c : Char) : Nat :=
  c.toNat - '0'.toNat

/-- The number that a run of digits denotes in base ten; the empty run denotes zero. -/
def ofDigits (ds : List Char) : Nat :=
  ds.foldl (fun n d => n * 10 + digitValue d) 0

/-- The leading digits of the text, at most `limit` of them, and the text after them. -/
def takeDigits : Nat → List Char → List Char × List Char
  | 0, s => ([], s)
  | _ + 1, [] => ([], [])
  | limit + 1, c :: rest =>
    if isDigit c then
      let (ds, after) := takeDigits limit rest
      (c :: ds, after)
    else ([], c :: rest)

/-- The decimal numeral of `n`. -/
def decimal (n : Nat) : List Char :=
  Nat.toDigits 10 n

/-- The digits `ds` behind as many zeros as bring them to `width`. -/
def padLeft (width : Nat) (ds : List Char) : List Char :=
  List.replicate (width - ds.length) '0' ++ ds

/-- The decimal numeral of `n`, with zeros in front up to `width` digits. -/
def decimalPadded (width n : Nat) : List Char :=
  padLeft width (decimal n)

/-- The hexadecimal numeral of `n` in lower case. -/
def hexadecimal (n : Nat) : List Char :=
  Nat.toDigits 16 n

/-- What a hexadecimal digit, in either case, counts. -/
def hexValue? (c : Char) : Option Nat :=
  if isDigit c then some (digitValue c)
  else if 'a' ≤ c && c ≤ 'f' then some (c.toNat - 'a'.toNat + 10)
  else if 'A' ≤ c && c ≤ 'F' then some (c.toNat - 'A'.toNat + 10)
  else none

end MysqlDesk.Text
