/-
Blanks around a text.

What trimming takes away are blanks at the two ends, and what it leaves stands between them. The other way
round, a word without blanks is what is left of it when blanks are put around it. Blanks have no case, so
they cannot come from the letters of a word.
-/
import Mathlib.Data.List.TakeWhile
import MysqlDesk.Text.Blank

set_option autoImplicit false

namespace MysqlDesk.Text

/-- All characters are blank. -/
def Blank (s : List Char) : Prop :=
  ∀ c ∈ s, isBlank c = true

/-- None of the characters is blank. -/
def Solid (s : List Char) : Prop :=
  ∀ c ∈ s, isBlank c = false

theorem isBlankText_iff {s : List Char} : isBlankText s = true ↔ Blank s :=
  List.all_eq_true

theorem all_not_isBlank_iff {s : List Char} : (s.all fun c => !isBlank c) = true ↔ Solid s := by
  simp only [List.all_eq_true, Solid, Bool.not_eq_true']

instance (s : List Char) : Decidable (Blank s) :=
  decidable_of_iff _ isBlankText_iff

instance (s : List Char) : Decidable (Solid s) :=
  decidable_of_iff _ all_not_isBlank_iff

theorem Blank.reverse {s : List Char} (h : Blank s) : Blank s.reverse :=
  fun c hc => h c (List.mem_reverse.1 hc)

theorem Solid.reverse {s : List Char} (h : Solid s) : Solid s.reverse :=
  fun c hc => h c (List.mem_reverse.1 hc)

/-- Blanks before a word without blanks are skipped, and no more. -/
theorem skipBlanks_append_solid {front core back : List Char} (hfront : Blank front)
    (hback : Blank back) (hcore : Solid core) :
    skipBlanks (front ++ core ++ back) = if core = [] then [] else core ++ back := by
  rw [List.append_assoc, skipBlanks, List.dropWhile_append_of_pos hfront]
  cases core with
  | nil =>
    rw [if_pos rfl, List.nil_append]
    exact List.dropWhile_eq_nil_iff.2 hback
  | cons c core =>
    have hc : ¬ isBlank c = true := by simp [hcore c List.mem_cons_self]
    rw [if_neg (List.cons_ne_nil c core), List.cons_append, List.dropWhile_cons_of_neg hc]

/-- A word without blanks is what is left of it between blanks. -/
theorem trim_append_solid {front core back : List Char} (hfront : Blank front) (hback : Blank back)
    (hcore : Solid core) : trim (front ++ core ++ back) = core := by
  rw [trim, skipBlanks_append_solid hfront hback hcore]
  by_cases hnil : core = []
  · rw [if_pos hnil, hnil]
    rfl
  · -- read from the end, the text is the word between the blanks behind it and nothing
    have hmirror : (core ++ back).reverse = back.reverse ++ core.reverse ++ [] := by
      rw [List.reverse_append, List.append_nil]
    have hreverse : core.reverse ≠ [] := fun h => hnil (List.reverse_eq_nil_iff.1 h)
    rw [if_neg hnil, hmirror,
      skipBlanks_append_solid hback.reverse (List.forall_mem_nil _) hcore.reverse, if_neg hreverse,
      List.append_nil, List.reverse_reverse]

/-- What is skipped at the beginning of a text. -/
theorem exists_eq_append_skipBlanks (s : List Char) : ∃ front, Blank front ∧ s = front ++ skipBlanks s :=
  ⟨s.takeWhile isBlank, fun _ hc => List.mem_takeWhile_imp hc, List.takeWhile_append_dropWhile.symm⟩

/-- A text is its trimmed text between blanks. -/
theorem exists_eq_append_trim (s : List Char) :
    ∃ front back, Blank front ∧ Blank back ∧ s = front ++ trim s ++ back := by
  obtain ⟨front, hfront, hs⟩ := exists_eq_append_skipBlanks s
  obtain ⟨back, hback, hrest⟩ := exists_eq_append_skipBlanks (skipBlanks s).reverse
  refine ⟨front, back.reverse, hfront, hback.reverse, ?_⟩
  have hskipped : skipBlanks s = trim s ++ back.reverse := by
    rw [trim, ← List.reverse_append, ← hrest, List.reverse_reverse]
  rw [List.append_assoc, ← hskipped]
  exact hs

/-! ## Blanks and letters -/

theorem toUpper_of_isBlank {c : Char} (h : isBlank c = true) : c.toUpper = c := by
  have hletter : ¬ (c.val ≥ 'a'.val ∧ c.val ≤ 'z'.val) := by
    have ha : 'a'.val.toNat = 97 := rfl
    have hz : 'z'.val.toNat = 122 := rfl
    have hnat : c.val.toNat = c.toNat := rfl
    simp only [isBlank, Bool.or_eq_true, Bool.and_eq_true, decide_eq_true_eq, beq_iff_eq] at h
    rw [ge_iff_le, UInt32.le_iff_toNat_le, UInt32.le_iff_toNat_le, hnat]
    omega
  exact dif_neg hletter

/-- Letters of any case come from letters, which are not blank. -/
theorem solid_of_map_toUpper_eq {s word : List Char} (h : s.map Char.toUpper = word.map Char.toUpper)
    (hword : Solid (word.map Char.toUpper)) : Solid s := by
  intro c hc
  have hmem : c.toUpper ∈ word.map Char.toUpper := h ▸ List.mem_map_of_mem hc
  cases hblank : isBlank c with
  | false => rfl
  | true =>
    -- a blank is its own capital, so it would be one of the letters of the word
    rw [toUpper_of_isBlank hblank] at hmem
    rw [← hblank]
    exact hword c hmem

end MysqlDesk.Text
