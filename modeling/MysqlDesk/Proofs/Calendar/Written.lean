/-
Written date-times are read back.

A date-time is written as `YYYY-MM-DD HH:MM:SS`, each number with as many digits as there are letters, and a
fraction of the second may follow. `Layout` has the texts of the parts, and `Layout.Writes` says what numbers
they write. There is one such text for each of the numbers but the last: a fraction may have any number of
digits, and it is only their value that counts.

The reader is laxer than this form: it skips blanks, takes shorter numbers, and drops digits after the ninth.
None of that happens here, or it does no harm. A field is as long as its reader has room for, so each number
ends where its field does; and a fraction that is a number of nanoseconds has only zeros after the ninth digit
(`readFraction_point` says what is read of any other).
-/
import Mathlib.Data.List.TakeWhile
import MysqlDesk.Calendar.Reader
import MysqlDesk.Proofs.Text.Numeral

set_option autoImplicit false

namespace MysqlDesk.Calendar

open MysqlDesk.Text

/-! ## The written form -/

/-- The text behind the second: nothing, or a point and at least one digit, and the digits behind the point
have the value of so many nanoseconds. -/
inductive IsFraction : List Char → Nat → Prop where
  | whole : IsFraction [] 0
  | decimals (ds : List Char) (v nanosecond : Nat) (numeral : IsNumeral ds v)
      (value : v * 10 ^ 9 = nanosecond * 10 ^ ds.length) : IsFraction ('.' :: ds) nanosecond

/-- The texts of the parts of a date-time. -/
structure Layout where
  year : List Char
  month : List Char
  day : List Char
  hour : List Char
  minute : List Char
  second : List Char
  /-- The fraction of the second, with its point. -/
  fraction : List Char

/-- The text of a date-time. -/
def Layout.text (l : Layout) : List Char :=
  l.year ++ '-' :: l.month ++ '-' :: l.day ++ ' ' :: l.hour ++ ':' :: l.minute ++ ':' :: l.second
    ++ l.fraction

/-- The texts write these parts. -/
structure Layout.Writes (l : Layout) (p : Parts) : Prop where
  year : ∃ n : Nat, p.year = n ∧ IsField 4 l.year n
  month : IsField 2 l.month p.month
  day : IsField 2 l.day p.day
  hour : IsField 2 l.hour p.hour
  minute : IsField 2 l.minute p.minute
  second : IsField 2 l.second p.second
  fraction : IsFraction l.fraction p.nanosecond

/-! ## Numbers -/

theorem isBlank_of_isDigit {c : Char} (h : isDigit c = true) : isBlank c = false := by
  simp only [isDigit, Bool.and_eq_true, decide_eq_true_eq] at h
  have hlow : '0'.toNat ≤ c.toNat := h.1
  have hhigh : c.toNat ≤ '9'.toNat := h.2
  have hzero : '0'.toNat = 0x30 := rfl
  have hnine : '9'.toNat = 0x39 := rfl
  rw [Bool.eq_false_iff]
  simp only [isBlank, ne_eq, Bool.or_eq_true, Bool.and_eq_true, decide_eq_true_eq, beq_iff_eq]
  omega

section

variable {s : List Char} {n : Nat}

/-- A numeral begins with a digit. -/
theorem exists_digit_of_isNumeral (h : IsNumeral s n) :
    ∃ c ds, s = c :: ds ∧ isDigit c = true := by
  cases s with
  | nil => exact absurd rfl h.ne_nil
  | cons c ds => exact ⟨c, ds, rfl, h.digits c List.mem_cons_self⟩

/-- There is no blank to be skipped before a numeral. -/
theorem skipBlanks_numeral (h : IsNumeral s n) (rest : List Char) :
    skipBlanks (s ++ rest) = s ++ rest := by
  obtain ⟨c, ds, rfl, hc⟩ := exists_digit_of_isNumeral h
  exact List.dropWhile_cons_of_neg (by simp [isBlank_of_isDigit hc])

theorem readDigits_field {width : Nat} (h : IsField width s n) (rest : List Char) :
    readDigits width (s ++ rest) = some (n, rest) := by
  have hvalue : ofDigits s = n := by rw [ofDigits_eq, h.value]
  obtain ⟨c, ds, rfl, -⟩ := exists_digit_of_isNumeral h.toIsNumeral
  rw [readDigits, h.takeDigits rest, ← hvalue]

theorem readPart_field (h : IsField 2 s n) (rest : List Char) :
    readPart (s ++ rest) = some (n, rest) := by
  rw [readPart, skipBlanks_numeral h.toIsNumeral, readDigits_field h]

/-- The space between the date and the time of day is skipped like any other blank. -/
theorem readPart_space_field (h : IsField 2 s n) (rest : List Char) :
    readPart (' ' :: (s ++ rest)) = some (n, rest) :=
  readPart_field h rest

/-- A year that begins with a digit has no sign. -/
theorem readYear_field (h : IsField 4 s n) (rest : List Char) :
    readYear (s ++ rest) = some ((n : Int), rest) := by
  have hread : readDigits 4 (s ++ rest) = some (n, rest) := readDigits_field h rest
  rw [readYear, skipBlanks_numeral h.toIsNumeral]
  obtain ⟨c, ds, rfl, hc⟩ := exists_digit_of_isNumeral h.toIsNumeral
  rw [List.cons_append] at hread ⊢
  -- The reader first looks for one of the two signs, and neither of them is a digit.
  split
  · rename_i heq
    rw [(List.cons.inj heq).1] at hc
    cases hc
  · rename_i heq
    rw [(List.cons.inj heq).1] at hc
    cases hc
  · rw [hread]
    rfl

end

theorem readMark_cons (c : Char) (rest : List Char) : readMark c (c :: rest) = some rest :=
  if_pos rfl

/-! ## The fraction -/

/-- The digits behind a point are read as the whole nanoseconds of their value. -/
theorem readFraction_point {ds : List Char} {v : Nat} (h : IsNumeral ds v) :
    readFraction ('.' :: ds) = some (v * 10 ^ 9 / 10 ^ ds.length, []) := by
  have hdigits : ∀ c ∈ ds, isDigit c = true := h.digits
  have htaken : takeDigits 9 ds = (ds.take 9, ds.drop 9) := by
    have htaken := takeDigits_append hdigits (.inr rfl : 9 ≤ ds.length ∨ ([] : List Char) = [])
    rwa [List.append_nil, List.append_nil] at htaken
  have hdropped : (ds.drop 9).dropWhile isDigit = [] :=
    List.dropWhile_eq_nil_iff.2 fun c hc => hdigits c (List.mem_of_mem_drop hc)
  have hvalue : ofDigits (ds.take 9) * 10 ^ (9 - (ds.take 9).length)
      = v * 10 ^ 9 / 10 ^ ds.length := by
    rw [ofDigits_take hdigits, ofDigits_eq ds, h.value]
  obtain ⟨c, rest, rfl, -⟩ := exists_digit_of_isNumeral h
  rw [readFraction, htaken]
  show some (_ * 10 ^ _, _) = _
  rw [hdropped, ← hvalue]

theorem readFraction_of_isFraction {s : List Char} {n : Nat} (h : IsFraction s n) :
    readFraction s = some (n, []) := by
  cases h with
  | whole => rfl
  | decimals ds v _ numeral value =>
    rw [readFraction_point numeral, value, Nat.mul_div_cancel _ (Nat.pow_pos (by decide))]

/-! ## The parts -/

theorem readParts_text {l : Layout} {p : Parts} (h : l.Writes p) : readParts l.text = some p := by
  obtain ⟨n, hyear, hn⟩ := h.year
  simp only [Layout.text, List.append_assoc, List.cons_append]
  unfold readParts
  simp only [readYear_field hn, readMark_cons, readPart_field h.month, readPart_field h.day,
    readPart_space_field h.hour, readPart_field h.minute, readPart_field h.second,
    readFraction_of_isFraction h.fraction, Option.bind_eq_bind, Option.bind_some]
  rw [← hyear]

end MysqlDesk.Calendar

namespace MysqlDesk

open MysqlDesk.Calendar (IsFraction Layout Parts)
open MysqlDesk.Text (decimalPadded IsField isField_decimalPadded)

/-! ## Date-times -/

/-- The parts of a date-time. -/
def Moment.parts (m : Moment) : Parts :=
  ⟨m.date.year, m.date.month, m.date.day, m.clock.hour, m.clock.minute, m.clock.second,
    m.clock.nanosecond⟩

/-- The text is a written form of the date-time. -/
def Moment.Written (m : Moment) (text : String) : Prop :=
  ∃ l : Layout, l.Writes m.parts ∧ text.toList = l.text

section

variable {m : Moment}

/-- A date-time is valid, so its parts make it up again. -/
theorem Moment.ofParts?_parts (m : Moment) : Moment.ofParts? m.parts = some m := by
  have hdate : Date.ofParts? m.date.year m.date.month m.date.day = some m.date :=
    dif_pos m.date.valid
  have hclock : Clock.ofParts? m.clock.hour m.clock.minute m.clock.second m.clock.nanosecond
      = some m.clock := dif_pos m.clock.valid
  unfold Moment.ofParts? Moment.parts
  simp only [hdate, hclock]
  rfl

theorem Moment.ofText?_of_written {text : String} (h : m.Written text) :
    Moment.ofText? text = some m := by
  obtain ⟨l, hwrites, htext⟩ := h
  rw [Moment.ofText?, htext, Calendar.readParts_text hwrites]
  exact m.ofParts?_parts

/-- What is read is one date-time, so no text is written for two. -/
theorem Moment.Written.unique {m' : Moment} {text : String} (h : m.Written text)
    (h' : m'.Written text) : m = m' := by
  have hread : some m = some m' :=
    (Moment.ofText?_of_written h).symm.trans (Moment.ofText?_of_written h')
  exact Option.some.inj hread

theorem daysInMonth_le (year : Int) (month : Nat) : daysInMonth year month ≤ 31 := by
  unfold daysInMonth
  split
  · split <;> decide
  all_goals decide

theorem yearText_eq {year : Int} (hfirst : 0 ≤ year) (hlast : year ≤ 9999) :
    yearText year = decimalPadded 4 year.natAbs := by
  rw [yearText, if_neg (by omega), if_neg (by omega)]

/-- A date-time with a year of four digits has a written form for each text of its fraction. -/
theorem Moment.written_ofList (hfirst : 0 ≤ m.date.year) (hlast : m.date.year ≤ 9999)
    {fraction : List Char} (hfraction : IsFraction fraction m.clock.nanosecond) :
    m.Written (String.ofList (m.date.text ++ ' ' :: m.clock.secondText ++ fraction)) := by
  obtain ⟨-, -, -, hmonth, -, hday⟩ := m.date.valid
  obtain ⟨hhour, hminute, hsecond, -⟩ := m.clock.valid
  have hdays : daysInMonth m.date.year m.date.month ≤ 31 := daysInMonth_le _ _
  have hfield (n : Nat) (hn : n < 100) : IsField 2 (decimalPadded 2 n) n :=
    isField_decimalPadded (by decide) hn
  have hyear : IsField 4 (decimalPadded 4 m.date.year.natAbs) m.date.year.natAbs :=
    isField_decimalPadded (by decide) (by omega)
  refine ⟨⟨decimalPadded 4 m.date.year.natAbs, decimalPadded 2 m.date.month,
    decimalPadded 2 m.date.day, decimalPadded 2 m.clock.hour, decimalPadded 2 m.clock.minute,
    decimalPadded 2 m.clock.second, fraction⟩, ?_, ?_⟩
  · exact
      { year := ⟨_, (Int.natAbs_of_nonneg hfirst).symm, hyear⟩
        month := hfield _ (show m.date.month < 100 by omega)
        day := hfield _ (show m.date.day < 100 by omega)
        hour := hfield _ (show m.clock.hour < 100 by omega)
        minute := hfield _ (show m.clock.minute < 100 by omega)
        second := hfield _ (show m.clock.second < 100 by omega)
        fraction := hfraction }
  · rw [String.toList_ofList, Date.text, Clock.secondText, yearText_eq hfirst hlast, Layout.text]
    simp only [List.append_assoc, List.cons_append]

end

end MysqlDesk
