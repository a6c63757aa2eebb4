/-
Numerals that are written and read again.

The numerals of `Text.Numeral` are those of the standard library: a digit is one of its digits, and the number
of a run of digits is the one that it reads. `IsNumeral` says so of a text, with zeros in front allowed, and a
number is read back from each of its numerals.

A field is a numeral with a fixed number of digits. A reader that takes so many digits stops at the end of
a field, whatever follows, even where that is another digit.
-/
import Mathlib.Algebra.Group.Nat.Defs
import MysqlDesk.Text.Numeral

set_option autoImplicit false

namespace MysqlDesk.Text

/-- The text is a numeral of `n` in base ten, perhaps with zeros in front. -/
structure IsNumeral (s : List Char) (n : Nat) : Prop where
  ne_nil : s ≠ []
  digits : ∀ c ∈ s, c.isDigit = true
  value : Nat.ofDigitChars 10 s 0 = n

theorem ofDigits_eq (ds : List Char) : ofDigits ds = Nat.ofDigitChars 10 ds 0 := by
  have hstep : (fun (n : Nat) (d : Char) => n * 10 + digitValue d)
      = fun n d => 10 * n + (d.toNat - '0'.toNat) := by
    funext n d
    rw [Nat.mul_comm, digitValue]
  rw [ofDigits, hstep, Nat.ofDigitChars]

/-- A run of digits is a numeral exactly of the number that is read. -/
theorem isNumeral_iff {s : List Char} {n : Nat} :
    IsNumeral s n ↔ s ≠ [] ∧ s.all isDigit = true ∧ ofDigits s = n := by
  rw [List.all_eq_true, ofDigits_eq]
  exact ⟨fun h => ⟨h.ne_nil, h.digits, h.value⟩, fun h => ⟨h.1, h.2.1, h.2.2⟩⟩

theorem isNumeral_decimal (n : Nat) : IsNumeral (decimal n) n where
  ne_nil := Nat.toDigits_ne_nil
  digits _ hc := Nat.isDigit_of_mem_toDigits (by decide) (by decide) hc
  value := Nat.ofDigitChars_ten_toDigits

theorem IsNumeral.not_mem {s : List Char} {n : Nat} (h : IsNumeral s n) {c : Char}
    (hc : c.isDigit = false) : c ∉ s := by
  intro hmem
  rw [h.digits c hmem] at hc
  cases hc

/-! ## Runs of digits -/

theorem ofDigits_append (front back : List Char) :
    ofDigits (front ++ back) = ofDigits front * 10 ^ back.length + ofDigits back := by
  rw [ofDigits_eq, ofDigits_eq, ofDigits_eq, Nat.ofDigitChars_append,
    Nat.ofDigitChars_eq_ofDigitChars_zero, Nat.mul_comm]

theorem digitValue_le {c : Char} (h : isDigit c = true) : digitValue c ≤ 9 := by
  simp only [isDigit, Bool.and_eq_true, decide_eq_true_eq] at h
  have hle : c.toNat ≤ '9'.toNat := h.2
  have hnine : '9'.toNat = '0'.toNat + 9 := rfl
  rw [digitValue]
  omega

theorem ofDigits_lt {ds : List Char} (h : ∀ c ∈ ds, isDigit c = true) :
    ofDigits ds < 10 ^ ds.length := by
  induction ds with
  | nil => exact Nat.one_pos
  | cons c ds ih =>
    have hdigit : digitValue c ≤ 9 := digitValue_le (h c List.mem_cons_self)
    have hrest : ofDigits ds < 10 ^ ds.length := ih fun d hd => h d (List.mem_cons_of_mem c hd)
    have hsplit : ofDigits (c :: ds) = digitValue c * 10 ^ ds.length + ofDigits ds := by
      rw [← List.singleton_append, ofDigits_append]
      show (0 * 10 + digitValue c) * _ + _ = _
      rw [Nat.zero_mul, Nat.zero_add]
    have hnine : digitValue c * 10 ^ ds.length ≤ 9 * 10 ^ ds.length :=
      Nat.mul_le_mul_right _ hdigit
    rw [hsplit, List.length_cons, Nat.pow_succ]
    omega

/-- As many digits are taken as there is room for, if the digits fill it or nothing follows them. -/
theorem takeDigits_append {ds rest : List Char} (hdigits : ∀ c ∈ ds, isDigit c = true)
    {width : Nat} (hstop : width ≤ ds.length ∨ rest = []) :
    takeDigits width (ds ++ rest) = (ds.take width, ds.drop width ++ rest) := by
  induction ds generalizing width with
  | nil =>
    rcases hstop with hwidth | rfl
    · rw [Nat.le_zero.1 hwidth]
      rfl
    · cases width <;> rfl
  | cons c ds ih =>
    cases width with
    | zero => rfl
    | succ width =>
      have hc : isDigit c = true := hdigits c List.mem_cons_self
      have hrest : takeDigits width (ds ++ rest) = (ds.take width, ds.drop width ++ rest) :=
        ih (fun d hd => hdigits d (List.mem_cons_of_mem c hd))
          (hstop.imp_left Nat.le_of_succ_le_succ)
      rw [List.cons_append, takeDigits, if_pos hc, hrest]
      rfl

/-- The first digits of a decimal fraction, brought to a width, are its value in units of the last place of
that width. What is behind them is less than one unit. -/
theorem ofDigits_take {ds : List Char} (hdigits : ∀ c ∈ ds, isDigit c = true) (width : Nat) :
    ofDigits (ds.take width) * 10 ^ (width - (ds.take width).length)
      = ofDigits ds * 10 ^ width / 10 ^ ds.length := by
  have hpos (n : Nat) : 0 < 10 ^ n := Nat.pow_pos (by decide)
  rcases Nat.le_total ds.length width with hshort | hlong
  · -- all digits are taken, and zeros are missing
    have hpow : 10 ^ width = 10 ^ (width - ds.length) * 10 ^ ds.length := by
      rw [← Nat.pow_add, Nat.sub_add_cancel hshort]
    rw [List.take_of_length_le hshort, hpow, ← Nat.mul_assoc, Nat.mul_div_cancel _ (hpos _)]
  · -- the digits that are left out are the remainder of the division
    have hlength : (ds.take width).length = width := by
      rw [List.length_take, Nat.min_eq_left hlong]
    have hsplit : ofDigits ds
        = ofDigits (ds.drop width) + ofDigits (ds.take width) * 10 ^ (ds.drop width).length := by
      rw [Nat.add_comm, ← ofDigits_append, List.take_append_drop]
    have hrest : ofDigits (ds.drop width) < 10 ^ (ds.drop width).length :=
      ofDigits_lt fun c hc => hdigits c (List.mem_of_mem_drop hc)
    have hpow : 10 ^ ds.length = 10 ^ (ds.drop width).length * 10 ^ width := by
      rw [← Nat.pow_add, List.length_drop, Nat.sub_add_cancel hlong]
    rw [hlength, Nat.sub_self, Nat.pow_zero, Nat.mul_one, hpow,
      Nat.mul_div_mul_right _ _ (hpos _), hsplit, Nat.add_mul_div_right _ _ (hpos _),
      Nat.div_eq_of_lt hrest, Nat.zero_add]

/-! ## Fields -/

/-- The text is the numeral of `n` with so many digits. -/
structure IsField (width : Nat) (s : List Char) (n : Nat) : Prop extends IsNumeral s n where
  length : s.length = width

theorem IsField.takeDigits {width n : Nat} {s : List Char} (h : IsField width s n)
    (rest : List Char) : takeDigits width (s ++ rest) = (s, rest) := by
  rw [takeDigits_append h.digits (.inl (Nat.le_of_eq h.length.symm)), ← h.length, List.take_length,
    List.drop_length]
  rfl

/-- A number that is not too long for a field has one, with zeros in front. -/
theorem isField_decimalPadded {width n : Nat} (hwidth : 0 < width) (hn : n < 10 ^ width) :
    IsField width (decimalPadded width n) n where
  ne_nil := List.append_ne_nil_of_right_ne_nil _ (isNumeral_decimal n).ne_nil
  digits c hc := by
    rcases List.mem_append.1 hc with hzero | hc
    · rw [List.eq_of_mem_replicate hzero]
      rfl
    · exact (isNumeral_decimal n).digits c hc
  value := by
    rw [decimalPadded, padLeft, Nat.ofDigitChars_append, Nat.ofDigitChars_replicate_zero,
      Nat.mul_zero]
    exact (isNumeral_decimal n).value
  length := by
    have hle : (decimal n).length ≤ width :=
      (Nat.length_toDigits_le_iff (by decide) hwidth).2 hn
    rw [decimalPadded, padLeft, List.length_append, List.length_replicate]
    omega

end MysqlDesk.Text
