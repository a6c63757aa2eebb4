/-
Which cut is made.

`Text.Cut` says of each cut that its two sides restore the text. This file has the converse: whoever
writes a text with a separator between two sides gets these sides back, as long as the separator is
not in the side that the cut looks through first. Both directions together make a cut a matter of what
the text looks like, which is how the proofs about data source names use it.

The second half names the sides of a cut when there need not be a separator: the text before the first
or the last one, and the text after it.
-/
import MysqlDesk.Text.Cut

set_option autoImplicit false

namespace MysqlDesk.Text

/-! ## A cut and its two sides -/

theorem cutFirst?_append {sep : Char} {before : List Char} (h : sep ∉ before)
    (after : List Char) : cutFirst? sep (before ++ sep :: after) = some (before, after) := by
  induction before with
  | nil => rw [List.nil_append, cutFirst?, if_pos rfl]
  | cons c before ih =>
    have hc : c ≠ sep := fun hc => h (hc ▸ List.mem_cons_self)
    have hbefore : sep ∉ before := fun hm => h (List.mem_cons_of_mem _ hm)
    rw [List.cons_append, cutFirst?, if_neg hc, ih hbefore]
    rfl

theorem cutLast?_append {sep : Char} {after : List Char} (h : sep ∉ after)
    (before : List Char) : cutLast? sep (before ++ sep :: after) = some (before, after) := by
  induction before with
  | nil => rw [List.nil_append, cutLast?, cutLast?_eq_none.2 h, if_pos rfl]
  | cons c before ih => rw [List.cons_append, cutLast?, ih]

/-- Two marked places of one text are the same, or one of them is before the other. -/
theorem append_cons_eq_append_cons {x y : Char} {l₁ r₁ l₂ r₂ : List Char}
    (h : l₁ ++ x :: r₁ = l₂ ++ y :: r₂) :
    (l₁ = l₂ ∧ x = y ∧ r₁ = r₂) ∨ (∃ m, l₂ = l₁ ++ x :: m ∧ r₁ = m ++ y :: r₂)
      ∨ ∃ m, l₁ = l₂ ++ y :: m ∧ r₂ = m ++ x :: r₁ := by
  rcases List.append_eq_append_iff.1 h with ⟨m, hl, hr⟩ | ⟨m, hl, hr⟩
  · cases m with
    | nil =>
      obtain ⟨hx, hr⟩ := List.cons.inj hr
      exact Or.inl ⟨by rw [hl, List.append_nil], hx, hr⟩
    | cons z m =>
      obtain ⟨rfl, hafter⟩ := List.cons.inj hr
      exact Or.inr (Or.inl ⟨m, hl, hafter⟩)
  · cases m with
    | nil =>
      obtain ⟨hy, hr⟩ := List.cons.inj hr
      exact Or.inl ⟨by rw [hl, List.append_nil], hy.symm, hr.symm⟩
    | cons z m =>
      obtain ⟨rfl, hafter⟩ := List.cons.inj hr
      exact Or.inr (Or.inr ⟨m, hl, hafter⟩)

/-! ## Sides of a separator that may be missing -/

/-- The text before the first `sep`, or all of it. -/
def beforeFirst (sep : Char) (s : List Char) : List Char :=
  s.takeWhile (· != sep)

/-- The text after the first `sep`, or nothing. -/
def afterFirst (sep : Char) (s : List Char) : List Char :=
  (s.dropWhile (· != sep)).tail

/-- The text before the last `sep`, or nothing. -/
def beforeLast (sep : Char) (s : List Char) : List Char :=
  (afterFirst sep s.reverse).reverse

/-- The text after the last `sep`, or all of it. -/
def afterLast (sep : Char) (s : List Char) : List Char :=
  (beforeFirst sep s.reverse).reverse

/-- A text without the separator has no other side. -/
theorem sides_of_not_mem {sep : Char} {s : List Char} (h : sep ∉ s) :
    beforeFirst sep s = s ∧ afterFirst sep s = [] := by
  have hall : ∀ c ∈ s, (c != sep) = true := by
    intro c hc
    rw [bne_iff_ne]
    rintro rfl
    exact h hc
  constructor
  · rw [beforeFirst, ← List.append_nil s, List.takeWhile_append_of_pos hall]
    rfl
  · rw [afterFirst, ← List.append_nil s, List.dropWhile_append_of_pos hall]
    rfl

theorem sides_append {sep : Char} {before : List Char} (h : sep ∉ before) (after : List Char) :
    beforeFirst sep (before ++ sep :: after) = before
      ∧ afterFirst sep (before ++ sep :: after) = after := by
  have hall : ∀ c ∈ before, (c != sep) = true := by
    intro c hc
    rw [bne_iff_ne]
    rintro rfl
    exact h hc
  constructor
  · rw [beforeFirst, List.takeWhile_append_of_pos hall, List.takeWhile_cons_of_neg (by simp),
      List.append_nil]
  · rw [afterFirst, List.dropWhile_append_of_pos hall, List.dropWhile_cons_of_neg (by simp)]
    rfl

/-- The sides of the first separator are those of the cut there. -/
theorem getD_cutFirst? (sep : Char) (s : List Char) :
    (cutFirst? sep s).getD (s, []) = (beforeFirst sep s, afterFirst sep s) := by
  cases h : cutFirst? sep s with
  | none =>
    obtain ⟨hbefore, hafter⟩ := sides_of_not_mem (cutFirst?_eq_none.1 h)
    rw [hbefore, hafter]
    rfl
  | some sides =>
    obtain ⟨before, after⟩ := sides
    obtain ⟨rfl, hsep⟩ := cutFirst?_eq_some h
    rw [(sides_append hsep after).1, (sides_append hsep after).2]
    rfl

/-- The sides of the last separator are those of the cut there. -/
theorem getD_cutLast? (sep : Char) (s : List Char) :
    (cutLast? sep s).getD ([], s) = (beforeLast sep s, afterLast sep s) := by
  cases h : cutLast? sep s with
  | none =>
    have hsep : sep ∉ s.reverse := fun hm => cutLast?_eq_none.1 h (List.mem_reverse.1 hm)
    rw [beforeLast, afterLast, (sides_of_not_mem hsep).1, (sides_of_not_mem hsep).2,
      List.reverse_reverse]
    rfl
  | some sides =>
    obtain ⟨before, after⟩ := sides
    obtain ⟨rfl, hsep⟩ := cutLast?_eq_some h
    -- the last separator is the first one from behind
    have hrev : (before ++ sep :: after).reverse = after.reverse ++ sep :: before.reverse := by
      simp
    have hafter : sep ∉ after.reverse := fun hm => hsep (List.mem_reverse.1 hm)
    rw [beforeLast, afterLast, hrev, (sides_append hafter _).1, (sides_append hafter _).2,
      List.reverse_reverse, List.reverse_reverse]
    rfl

theorem sides_append_last {sep : Char} {after : List Char} (h : sep ∉ after)
    (before : List Char) : beforeLast sep (before ++ sep :: after) = before
      ∧ afterLast sep (before ++ sep :: after) = after := by
  have hsides := getD_cutLast? sep (before ++ sep :: after)
  rw [cutLast?_append h] at hsides
  exact ⟨(congrArg Prod.fst hsides).symm, (congrArg Prod.snd hsides).symm⟩

theorem sides_of_not_mem_last {sep : Char} {s : List Char} (h : sep ∉ s) :
    beforeLast sep s = [] ∧ afterLast sep s = s := by
  have hsides := getD_cutLast? sep s
  rw [cutLast?_eq_none.2 h] at hsides
  exact ⟨(congrArg Prod.fst hsides).symm, (congrArg Prod.snd hsides).symm⟩

/-! ### Their characters -/

theorem not_mem_beforeFirst (sep : Char) (s : List Char) : sep ∉ beforeFirst sep s := by
  intro hmem
  have hall : ∀ c ∈ beforeFirst sep s, (c != sep) = true :=
    List.all_eq_true.1 (List.all_takeWhile (p := (· != sep)))
  exact bne_iff_ne.1 (hall sep hmem) rfl

theorem mem_of_mem_beforeFirst {sep c : Char} {s : List Char} (h : c ∈ beforeFirst sep s) :
    c ∈ s :=
  (List.takeWhile_sublist _).subset h

theorem mem_of_mem_afterFirst {sep c : Char} {s : List Char} (h : c ∈ afterFirst sep s) :
    c ∈ s :=
  (List.dropWhile_sublist _).subset ((List.tail_sublist _).subset h)

theorem not_mem_afterLast (sep : Char) (s : List Char) : sep ∉ afterLast sep s := by
  rw [afterLast, List.mem_reverse]
  exact not_mem_beforeFirst sep s.reverse

/-! ## Occurrences -/

/-- A word occurs in a text if it is a stretch of it. -/
theorem occursIn_iff {needle s : List Char} : occursIn needle s = true ↔ needle <:+: s := by
  induction s with
  | nil => rw [occursIn, List.isEmpty_iff, List.infix_nil]
  | cons c s ih =>
    rw [occursIn, Bool.or_eq_true, ih, startsWith, List.isPrefixOf_iff_prefix, List.infix_cons_iff]

/-! ## Pieces -/

/-- The pieces between separators are those of the library's own function. -/
theorem pieces_eq_splitOn (sep : Char) (s : List Char) : pieces sep s = s.splitOn sep := by
  induction s with
  | nil => rfl
  | cons c s ih =>
    rw [pieces, List.splitOn_cons_eq_if_modifyHead, ih]
    by_cases hc : c = sep
    · rw [if_pos hc, if_pos (beq_iff_eq.2 hc)]
    · rw [if_neg hc, if_neg (fun h => hc (beq_iff_eq.1 h))]
      cases hsplit : s.splitOn sep with
      | nil => exact absurd hsplit (List.splitOn_ne_nil sep s)
      | cons piece more => rfl

/-- The characters of a piece are characters of the text, and not the separator. -/
theorem mem_of_mem_splitOn {sep : Char} {s piece : List Char} (h : piece ∈ s.splitOn sep) :
    sep ∉ piece ∧ ∀ c ∈ piece, c ∈ s := by
  rw [← pieces_eq_splitOn] at h
  induction s generalizing piece with
  | nil =>
    rw [pieces, List.mem_singleton] at h
    rw [h]
    exact ⟨List.not_mem_nil, fun c hc => hc⟩
  | cons d s ih =>
    rw [pieces] at h
    by_cases hd : d = sep
    · rw [if_pos hd] at h
      rcases List.mem_cons.1 h with rfl | h
      · exact ⟨List.not_mem_nil, fun c hc => absurd hc List.not_mem_nil⟩
      · exact ⟨(ih h).1, fun c hc => List.mem_cons_of_mem _ ((ih h).2 c hc)⟩
    · -- the character goes to the first piece, and there is always one
      rw [if_neg hd] at h
      cases hpieces : pieces sep s with
      | nil =>
        rw [pieces_eq_splitOn] at hpieces
        exact absurd hpieces (List.splitOn_ne_nil sep s)
      | cons first more =>
        rw [hpieces] at h ih
        rcases List.mem_cons.1 h with rfl | h
        · obtain ⟨hsep, hmem⟩ := ih List.mem_cons_self
          refine ⟨fun hm => ?_, fun c hc => ?_⟩
          · rcases List.mem_cons.1 hm with hm | hm
            · exact hd hm.symm
            · exact hsep hm
          · rcases List.mem_cons.1 hc with rfl | hc
            · exact List.mem_cons_self
            · exact List.mem_cons_of_mem _ (hmem c hc)
        · obtain ⟨hsep, hmem⟩ := ih (List.mem_cons_of_mem _ h)
          exact ⟨hsep, fun c hc => List.mem_cons_of_mem _ (hmem c hc)⟩

/-- A character of no piece, and not the separator, is not in the text of the pieces. -/
theorem not_mem_intercalate {sep c : Char} (hc : c ≠ sep) {l : List (List Char)}
    (h : ∀ piece ∈ l, c ∉ piece) : c ∉ [sep].intercalate l := by
  induction l with
  | nil => exact List.not_mem_nil
  | cons piece rest ih =>
    obtain ⟨hpiece, hrest⟩ := List.forall_mem_cons.1 h
    cases rest with
    | nil => rwa [List.intercalate_singleton]
    | cons next more =>
      rw [List.intercalate_cons_cons, List.mem_append, List.mem_append, List.mem_singleton]
      rintro ((hmem | hmem) | hmem)
      · exact hpiece hmem
      · exact hc hmem
      · exact ih hrest hmem

end MysqlDesk.Text
