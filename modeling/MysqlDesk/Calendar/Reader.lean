/-
Reading a date-time from text.

The form is `year-month-day hour:minute:second` with an optional fraction after a point. Blanks may
stand before every number, and any of them, or none, between the date and the time of day; nowhere
else, and nothing may follow. A number takes as many digits as it finds, up to its width: four for the
year, two for the others. Only a year with a sign may be longer. The digits of the fraction after the
ninth are read and dropped. Second 60 is a leap second.
-/
import MysqlDesk.Calendar.Moment
import MysqlDesk.Text.Blank

set_option autoImplicit false

namespace MysqlDesk.Calendar

open MysqlDesk.Text (skipBlanks takeDigits ofDigits isDigit)

/-- What a part of the reader gives: its value and the text after it. -/
abbrev Read (α : Type) := Option (α × List Char)

/-- A number of one digit up to `width` digits. -/
def readDigits (width : Nat) (s : List Char) : Read Nat :=
  match takeDigits width s with
  | ([], _) => none
  | (ds, rest) => some (ofDigits ds, rest)

/-- A number of one or two digits, with blanks before it. -/
def readPart (s : List Char) : Read Nat :=
  readDigits 2 (skipBlanks s)

/-- A year, with blanks before it: up to four digits, or a sign and any number of digits. -/
def readYear (s : List Char) : Read Int :=
  match skipBlanks s with
  | '-' :: rest => (readDigits rest.length rest).map fun (n, rest) => (-(n : Int), rest)
  | '+' :: rest => (readDigits rest.length rest).map fun (n, rest) => ((n : Int), rest)
  | s => (readDigits 4 s).map fun (n, rest) => ((n : Int), rest)

/-- The mark `c`. -/
def readMark (c : Char) (s : List Char) : Option (List Char) :=
  match s with
  | [] => none
  | d :: rest => if d = c then some rest else none

/-- The fraction in nanoseconds: zero without a point, and else at least one digit after it. -/
def readFraction (s : List Char) : Read Nat :=
  match s with
  | '.' :: rest =>
    match takeDigits 9 rest with
    | ([], _) => none
    | (ds, rest) => some (ofDigits ds * Nat.pow 10 (9 - ds.length), rest.dropWhile isDigit)
  | _ => some (0, s)

/-- The parts of a written date-time. -/
structure Parts where
  year : Int
  month : Nat
  day : Nat
  hour : Nat
  minute : Nat
  second : Nat
  nanosecond : Nat
  deriving DecidableEq

/-- Reads the parts of a date-time and nothing after them. -/
def readParts (s : List Char) : Option Parts := do
  let (year, s) ← readYear s
  let s ← readMark '-' s
  let (month, s) ← readPart s
  let s ← readMark '-' s
  let (day, s) ← readPart s
  let (hour, s) ← readPart s
  let s ← readMark ':' s
  let (minute, s) ← readPart s
  let s ← readMark ':' s
  let (second, s) ← readPart s
  let (nanosecond, s) ← readFraction s
  match s with
  | [] => some ⟨year, month, day, hour, minute, second, nanosecond⟩
  | _ :: _ => none

end MysqlDesk.Calendar

namespace MysqlDesk

/-- The date-time with these parts, if there is one. -/
def Moment.ofParts? (p : Calendar.Parts) : Option Moment := do
  let date ← Date.ofParts? p.year p.month p.day
  let clock ← Clock.ofParts? p.hour p.minute p.second p.nanosecond
  return ⟨date, clock⟩

/-- Reads a date-time. -/
def Moment.ofText? (text : String) : Option Moment :=
  (Calendar.readParts text.toList).bind Moment.ofParts?

end MysqlDesk
