/-
Cutting a text at a separator.

A data source name is taken apart from both ends: its last slash, its last at-sign, its first
colon, its first parenthesis, its first question mark. The functions here make these cuts on lists
of characters. Each gives back the two sides without the separator, so that putting the separator
between them restores the text, and says by `none` that the separator does not occur.
-/

set_option autoImplicit false

namespace MysqlDesk.Text

/-- The two sides of the first occurrence of `sep`. -/
def cutFirst? (sep : Char) : List Char → Option (List Char × List Char)
  | [] => none
  | c :: rest =>
    if c = sep then some ([], rest)
    else (cutFirst? sep rest).map fun (before, after) => (c :: before, after)

/-- The two sides of the last occurrence of `sep`. -/
def cutLast? (sep : Char) : List Char → Option (List Char × List Char)
  | [] => none
  | c :: rest =>
    match cutLast? sep rest with
    | some (before, after) => some (c :: before, after)
    | none => if c = sep then some ([], rest) else none

/-- The pieces of the text between the occurrences of `sep`. There is one piece more than there
are separators, so an empty text has one empty piece. -/
def pieces (sep : Char) : List Char → List (List Char)
  | [] => [[]]
  | c :: rest =>
    if c = sep then [] :: pieces sep rest
    else match pieces sep rest with
      | [] => [[c]]
      | piece :: more => (c :: piece) :: more

/-- Whether `needle` is a prefix of the text. -/
def startsWith (needle : List Char) (s : List Char) : Bool :=
  needle.isPrefixOf s

/-- Whether `needle` occurs somewhere in the text. -/
def occursIn (needle : List Char) : List Char → Bool
  | [] => needle.isEmpty
  | c :: rest => startsWith needle (c :: rest) || occursIn needle rest

/-- The text with every occurrence of the non-empty word `old`, from left to right and without
overlap, exchanged for `new`. The count `skip` says how many characters of an exchanged word are
still to be passed over. -/
def exchangeFrom (old new : List Char) : Nat → List Char → List Char
  | _, [] => []
  | skip + 1, _ :: rest => exchangeFrom old new skip rest
  | 0, c :: rest =>
    if startsWith old (c :: rest) then new ++ exchangeFrom old new (old.length - 1) rest
    else c :: exchangeFrom old new 0 rest

/-- The text with every occurrence of the non-empty word `old` exchanged for `new`. -/
def exchange (old new s : List Char) : List Char :=
  exchangeFrom old new 0 s

/-! ## What a cut says -/

theorem cutFirst?_eq_some {sep : Char} {s before after : List Char}
    (h : cutFirst? sep s = some (before, after)) : s = before ++ sep :: after ∧ sep ∉ before := by
  induction s generalizing before with
  | nil => simp [cutFirst?] at h
  | cons c rest ih =>
    by_cases hc : c = sep
    · simp [cutFirst?, hc] at h
      simp [h, hc]
    · simp [cutFirst?, hc] at h
      obtain ⟨b, hb, rfl⟩ := h
      obtain ⟨hs, hn⟩ := ih hb
      exact ⟨by simp [hs], by simp [hn, Ne.symm hc]⟩

theorem cutFirst?_eq_none {sep : Char} {s : List Char} : cutFirst? sep s = none ↔ sep ∉ s := by
  induction s with
  | nil => simp [cutFirst?]
  | cons c rest ih =>
    by_cases hc : c = sep
    · simp [cutFirst?, hc]
    · simp [cutFirst?, hc, ih, Ne.symm hc]

theorem cutLast?_eq_none {sep : Char} {s : List Char} : cutLast? sep s = none ↔ sep ∉ s := by
  induction s with
  | nil => simp [cutLast?]
  | cons c rest ih =>
    simp only [cutLast?]
    split
    · rename_i before after h
      have : ¬ cutLast? sep rest = none := by simp [h]
      rw [ih] at this
      simp only [reduceCtorEq, List.mem_cons, not_or, false_iff, not_and]
      exact fun _ => this
    · rename_i h
      rw [ih] at h
      by_cases hc : c = sep
      · simp [hc]
      · simp [hc, h, Ne.symm hc]

theorem cutLast?_eq_some {sep : Char} {s before after : List Char}
    (h : cutLast? sep s = some (before, after)) : s = before ++ sep :: after ∧ sep ∉ after := by
  induction s generalizing before with
  | nil => simp [cutLast?] at h
  | cons c rest ih =>
    simp only [cutLast?] at h
    split at h
    · rename_i b a hb
      simp only [Option.some.injEq, Prod.mk.injEq] at h
      obtain ⟨rfl, rfl⟩ := h
      obtain ⟨hs, hn⟩ := ih hb
      exact ⟨by simp [hs], hn⟩
    · rename_i hnone
      by_cases hc : c = sep
      · simp only [hc, if_true, Option.some.injEq, Prod.mk.injEq] at h
        obtain ⟨rfl, rfl⟩ := h
        exact ⟨by simp [hc], cutLast?_eq_none.1 hnone⟩
      · simp [hc] at h

end MysqlDesk.Text
