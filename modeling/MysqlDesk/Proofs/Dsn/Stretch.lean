/-
Which stretch of an unreadable text is masked.

The rule of `Dsn.Mask` is a search: for the last colon that works, and from there for the first at-sign
that works. This file says what is searched for. A `Stretch` is any part of the text that might be
masked; the `Chosen` one begins last of them all, and of those that begin with it it is the shortest.
There is at most one such stretch, and one as soon as there is any.

The two searches recurse on the text, so each relation has a lemma that takes the first character off
(`ends_cons_iff`, `stretch_cons_iff`), and everything else is by induction from these.
-/
import MysqlDesk.Dsn.Mask

set_option autoImplicit false

namespace MysqlDesk.Dsn

/-! ## Stretches -/

/-- The text begins with `b`, and an at-sign of the last line ends it before any slash. -/
structure Ends (s b c : List Char) : Prop where
  text : s = b ++ '@' :: c
  noSlash : '/' ∉ b
  lastLine : '\n' ∉ c

/-- Of the at-signs that can end a part of the text, the first one ends `b`. -/
structure FirstEnd (s b c : List Char) : Prop extends Ends s b c where
  shortest : ∀ b' c', Ends s b' c' → b.length ≤ b'.length

/-- The part `b` of the text `a:b@c` may be masked: it has no slash, its colon is on the first line,
and its at-sign on the last. -/
structure Stretch (s a b c : List Char) : Prop where
  text : s = a ++ ':' :: (b ++ '@' :: c)
  firstLine : '\n' ∉ a
  noSlash : '/' ∉ b
  lastLine : '\n' ∉ c

/-- The stretch that is masked. -/
structure Chosen (s a b c : List Char) : Prop where
  stretch : Stretch s a b c
  last : ∀ a' b' c', Stretch s a' b' c' → a'.length ≤ a.length
  shortest : ∀ b' c', Stretch s a b' c' → b.length ≤ b'.length

/-- The text `a:b@c` with its stretch masked. -/
def maskedForm (a c : List Char) : List Char :=
  a ++ ':' :: (passwordMask.toList ++ '@' :: c)

theorem FirstEnd.unique {s b c b' c' : List Char} (h : FirstEnd s b c) (h' : FirstEnd s b' c') :
    b = b' ∧ c = c' := by
  have htext : b ++ '@' :: c = b' ++ '@' :: c' := by rw [← h.text, ← h'.text]
  have hlength : b.length = b'.length :=
    Nat.le_antisymm (h.shortest b' c' h'.toEnds) (h'.shortest b c h.toEnds)
  obtain ⟨hb, hend⟩ := List.append_inj htext hlength
  exact ⟨hb, (List.cons.inj hend).2⟩

/-- An at-sign in front is the first end of a text, if no line ends behind it. -/
theorem firstEnd_nil {s : List Char} (h : '\n' ∉ s) : FirstEnd ('@' :: s) [] s where
  text := rfl
  noSlash := List.not_mem_nil
  lastLine := h
  shortest _ _ _ := Nat.zero_le _

/-- What the first end of a text leaves is one text, if there is any. -/
theorem exists_tail (s : List Char) : ∃ tail, ∀ b c, FirstEnd s b c → c = tail := by
  by_cases h : ∃ b c, FirstEnd s b c
  · obtain ⟨b, c, hfirst⟩ := h
    exact ⟨c, fun b' c' hfirst' => (hfirst'.unique hfirst).2⟩
  · exact ⟨[], fun b c hfirst => absurd ⟨b, c, hfirst⟩ h⟩

theorem Chosen.unique {s a b c a' b' c' : List Char} (h : Chosen s a b c)
    (h' : Chosen s a' b' c') : a = a' ∧ b = b' ∧ c = c' := by
  have htext : a ++ ':' :: (b ++ '@' :: c) = a' ++ ':' :: (b' ++ '@' :: c') := by
    rw [← h.stretch.text, ← h'.stretch.text]
  have hlast : a.length = a'.length :=
    Nat.le_antisymm (h'.last a b c h.stretch) (h.last a' b' c' h'.stretch)
  obtain ⟨rfl, hrest⟩ := List.append_inj htext hlast
  have hshortest : b.length = b'.length :=
    Nat.le_antisymm (h.shortest b' c' h'.stretch) (h'.shortest b c h.stretch)
  obtain ⟨rfl, hend⟩ := List.append_inj (List.cons.inj hrest).2 hshortest
  exact ⟨rfl, rfl, (List.cons.inj hend).2⟩

/-! ## The search for the at-sign -/

theorem ends_cons_iff {x : Char} {s b c : List Char} :
    Ends (x :: s) b c ↔
      (b = [] ∧ x = '@' ∧ c = s ∧ '\n' ∉ s) ∨ ∃ b', b = x :: b' ∧ x ≠ '/' ∧ Ends s b' c := by
  constructor
  · rintro ⟨htext, hslash, hline⟩
    cases b with
    | nil =>
      obtain ⟨hx, hs⟩ := List.cons.inj htext
      exact Or.inl ⟨rfl, hx, hs.symm, hs ▸ hline⟩
    | cons y b =>
      obtain ⟨rfl, hs⟩ := List.cons.inj htext
      have hx : x ≠ '/' := fun hx => hslash (hx ▸ List.mem_cons_self)
      exact Or.inr ⟨b, rfl, hx, hs, fun hm => hslash (List.mem_cons_of_mem _ hm), hline⟩
  · rintro (⟨rfl, rfl, rfl, hline⟩ | ⟨b', rfl, hx, htext, hslash, hline⟩)
    · exact ⟨rfl, List.not_mem_nil, hline⟩
    · refine ⟨by rw [htext]; rfl, ?_, hline⟩
      intro hm
      rcases List.mem_cons.1 hm with hm | hm
      · exact hx hm.symm
      · exact hslash hm

theorem fromAtSign?_none {s : List Char} (h : fromAtSign? s = none) (b c : List Char) :
    ¬ Ends s b c := by
  induction s generalizing b with
  | nil =>
    rintro ⟨htext, -, -⟩
    exact List.append_ne_nil_of_right_ne_nil b (List.cons_ne_nil '@' c) htext.symm
  | cons x s ih =>
    rw [fromAtSign?] at h
    rw [ends_cons_iff]
    rintro (⟨-, hx, -, hline⟩ | ⟨b', -, hx, hends⟩)
    · rw [if_neg (by rw [hx]; decide), if_pos ⟨hx, hline⟩] at h
      cases h
    · rw [if_neg hx] at h
      split at h
      · cases h
      · exact ih h b' hends

theorem fromAtSign?_some {s tail : List Char} (h : fromAtSign? s = some tail) :
    ∃ b c, tail = '@' :: c ∧ FirstEnd s b c := by
  induction s with
  | nil => cases h
  | cons x s ih =>
    rw [fromAtSign?] at h
    by_cases hx : x = '/'
    · rw [if_pos hx] at h
      cases h
    · rw [if_neg hx] at h
      by_cases hat : x = '@' ∧ '\n' ∉ s
      · rw [if_pos hat] at h
        have hends : Ends (x :: s) [] s := ends_cons_iff.2 (Or.inl ⟨rfl, hat.1, rfl, hat.2⟩)
        refine ⟨[], s, ?_, hends, ?_⟩
        · rw [← Option.some.inj h, hat.1]
        · intro b' c' _
          exact Nat.zero_le _
      · -- this character is passed over, so it belongs to every stretch that ends further on
        rw [if_neg hat] at h
        obtain ⟨b, c, htail, hfirst⟩ := ih h
        have hends : Ends (x :: s) (x :: b) c := ends_cons_iff.2 (Or.inr ⟨b, rfl, hx, hfirst.toEnds⟩)
        refine ⟨x :: b, c, htail, hends, ?_⟩
        intro b' c' hends'
        rcases ends_cons_iff.1 hends' with ⟨-, hx', -, hline⟩ | ⟨b'', rfl, -, hends''⟩
        · exact absurd ⟨hx', hline⟩ hat
        · exact Nat.succ_le_succ (hfirst.shortest b'' c' hends'')

/-- One end is the first wherever there are any. -/
theorem exists_firstEnd {s b c : List Char} (h : Ends s b c) : ∃ b' c', FirstEnd s b' c' := by
  cases hs : fromAtSign? s with
  | none => exact absurd h (fromAtSign?_none hs b c)
  | some tail =>
    obtain ⟨b', c', -, hfirst⟩ := fromAtSign?_some hs
    exact ⟨b', c', hfirst⟩

/-! ## The search for the colon -/

theorem stretch_cons_iff {x : Char} {s a b c : List Char} :
    Stretch (x :: s) a b c ↔
      (a = [] ∧ x = ':' ∧ Ends s b c) ∨ ∃ a', a = x :: a' ∧ x ≠ '\n' ∧ Stretch s a' b c := by
  constructor
  · rintro ⟨htext, hfirst, hslash, hline⟩
    cases a with
    | nil =>
      obtain ⟨hx, hs⟩ := List.cons.inj htext
      exact Or.inl ⟨rfl, hx, hs, hslash, hline⟩
    | cons y a =>
      obtain ⟨rfl, hs⟩ := List.cons.inj htext
      have hx : x ≠ '\n' := fun hx => hfirst (hx ▸ List.mem_cons_self)
      have ha : '\n' ∉ a := fun hm => hfirst (List.mem_cons_of_mem _ hm)
      exact Or.inr ⟨a, rfl, hx, hs, ha, hslash, hline⟩
  · rintro (⟨rfl, rfl, htext, hslash, hline⟩ | ⟨a', rfl, hx, htext, hfirst, hslash, hline⟩)
    · exact ⟨by rw [htext]; rfl, List.not_mem_nil, hslash, hline⟩
    · refine ⟨by rw [htext]; rfl, ?_, hslash, hline⟩
      intro hm
      rcases List.mem_cons.1 hm with hm | hm
      · exact hx hm.symm
      · exact hfirst hm

theorem maskStretch?_none {s : List Char} (h : maskStretch? s = none) (a b c : List Char) :
    ¬ Stretch s a b c := by
  induction s generalizing a with
  | nil =>
    rintro ⟨htext, -, -, -⟩
    exact List.append_ne_nil_of_right_ne_nil a (List.cons_ne_nil ':' _) htext.symm
  | cons x s ih =>
    rw [maskStretch?] at h
    rw [stretch_cons_iff]
    by_cases hx : x = '\n'
    · -- no colon behind a line end is on the first line
      rintro (⟨-, hcolon, -⟩ | ⟨a', -, hne, -⟩)
      · rw [hx] at hcolon
        exact absurd hcolon (by decide)
      · exact hne hx
    · rw [if_neg hx] at h
      cases hrest : maskStretch? s with
      | some masked =>
        rw [hrest] at h
        cases h
      | none =>
        rw [hrest] at h
        rintro (⟨-, hcolon, hends⟩ | ⟨a', -, -, hstretch⟩)
        · simp only [if_pos hcolon, Option.map_eq_none_iff] at h
          exact fromAtSign?_none h b c hends
        · exact ih hrest a' hstretch

theorem maskStretch?_some {s m : List Char} (h : maskStretch? s = some m) :
    ∃ a b c, Chosen s a b c ∧ m = maskedForm a c := by
  induction s generalizing m with
  | nil => cases h
  | cons x s ih =>
    rw [maskStretch?] at h
    by_cases hx : x = '\n'
    · rw [if_pos hx] at h
      cases h
    · rw [if_neg hx] at h
      cases hrest : maskStretch? s with
      | some masked =>
        -- a stretch further on is preferred to one that begins here
        rw [hrest] at h
        obtain ⟨a, b, c, hchosen, hmasked⟩ := ih hrest
        refine ⟨x :: a, b, c, ⟨?_, ?_, ?_⟩, ?_⟩
        · exact stretch_cons_iff.2 (Or.inr ⟨a, rfl, hx, hchosen.stretch⟩)
        · intro a' b' c' hstretch
          rcases stretch_cons_iff.1 hstretch with ⟨rfl, -, -⟩ | ⟨a'', rfl, -, hstretch'⟩
          · exact Nat.zero_le _
          · exact Nat.succ_le_succ (hchosen.last a'' b' c' hstretch')
        · intro b' c' hstretch
          rcases stretch_cons_iff.1 hstretch with ⟨ha, -, -⟩ | ⟨a'', ha, -, hstretch'⟩
          · cases ha
          · rw [← (List.cons.inj ha).2] at hstretch'
            exact hchosen.shortest b' c' hstretch'
        · rw [← Option.some.inj h, hmasked]
          rfl
      | none =>
        -- no stretch begins further on, so the first at-sign from here on decides
        rw [hrest] at h
        by_cases hcolon : x = ':'
        · simp only [if_pos hcolon, Option.map_eq_some_iff] at h
          obtain ⟨tail, htail, hm⟩ := h
          obtain ⟨b, c, rfl, hfirst⟩ := fromAtSign?_some htail
          refine ⟨[], b, c, ⟨?_, ?_, ?_⟩, ?_⟩
          · exact stretch_cons_iff.2 (Or.inl ⟨rfl, hcolon, hfirst.toEnds⟩)
          · intro a' b' c' hstretch
            rcases stretch_cons_iff.1 hstretch with ⟨rfl, -, -⟩ | ⟨a'', -, -, hstretch'⟩
            · exact Nat.le_refl _
            · exact absurd hstretch' (maskStretch?_none hrest a'' b' c')
          · intro b' c' hstretch
            rcases stretch_cons_iff.1 hstretch with ⟨-, -, hends'⟩ | ⟨a'', ha, -, -⟩
            · exact hfirst.shortest b' c' hends'
            · cases ha
          · rw [← hm, hcolon]
            rfl
        · simp only [if_neg hcolon] at h
          cases h

/-- **What the search finds** is the chosen stretch, masked. -/
theorem maskStretch?_eq_some_iff {s m : List Char} :
    maskStretch? s = some m ↔ ∃ a b c, Chosen s a b c ∧ m = maskedForm a c := by
  refine ⟨maskStretch?_some, ?_⟩
  rintro ⟨a, b, c, hchosen, rfl⟩
  cases h : maskStretch? s with
  | none => exact absurd hchosen.stretch (maskStretch?_none h a b c)
  | some m =>
    obtain ⟨a', b', c', hchosen', rfl⟩ := maskStretch?_some h
    obtain ⟨rfl, -, rfl⟩ := hchosen.unique hchosen'
    rfl

theorem chosen_or_none (s : List Char) :
    (∃ a b c, Chosen s a b c) ∨ ∀ a b c, ¬ Stretch s a b c := by
  cases hs : maskStretch? s with
  | none => exact Or.inr (maskStretch?_none hs)
  | some m =>
    obtain ⟨a, b, c, hchosen, -⟩ := maskStretch?_eq_some_iff.1 hs
    exact Or.inl ⟨a, b, c, hchosen⟩

/-- One stretch is chosen wherever there are any. -/
theorem exists_chosen {s a b c : List Char} (h : Stretch s a b c) :
    ∃ a' b' c', Chosen s a' b' c' :=
  (chosen_or_none s).resolve_right fun hnone => hnone a b c h

theorem forall_not_stretch_iff {s : List Char} :
    (∀ a b c, ¬ Stretch s a b c) ↔ ∀ a b c, Chosen s a b c → False := by
  refine ⟨fun hnone a b c hchosen => hnone a b c hchosen.stretch, fun hnone a b c h => ?_⟩
  obtain ⟨a', b', c', hchosen⟩ := exists_chosen h
  exact hnone a' b' c' hchosen

/-! ## The form that is shown -/

/-- There is nothing to mask in the text: no stretch, or none but the mask itself. -/
def Blank (s : List Char) : Prop :=
  ∀ a b c, Chosen s a b c → b = passwordMask.toList

section

variable {s : String} {a b c : List Char}

/-- A text without a stretch is shown as the mask alone. -/
theorem maskUnread_of_none (h : ∀ a b c, ¬ Stretch s.toList a b c) :
    maskUnread s = passwordMask := by
  have hfound : maskStretch? s.toList = none := by
    refine Option.eq_none_iff_forall_ne_some.2 fun m hm => ?_
    obtain ⟨a, b, c, hchosen, -⟩ := maskStretch?_eq_some_iff.1 hm
    exact h a b c hchosen.stretch
  rw [maskUnread, survey_eq, hfound]

/-- A text with a stretch is shown with it masked, unless it was the mask before. -/
theorem maskUnread_of_chosen (h : Chosen s.toList a b c) :
    maskUnread s
      = if b = passwordMask.toList then passwordMask else String.ofList (maskedForm a c) := by
  have hfound : maskStretch? s.toList = some (maskedForm a c) :=
    maskStretch?_eq_some_iff.2 ⟨a, b, c, h, rfl⟩
  -- the masked text is the text itself exactly if the mask is what it had there
  have hself : String.ofList (maskedForm a c) = s ↔ b = passwordMask.toList := by
    constructor
    · intro hs
      have htext : maskedForm a c = a ++ ':' :: (b ++ '@' :: c) := by
        rw [← h.stretch.text, ← hs, String.toList_ofList]
      have htail := (List.cons.inj (List.append_cancel_left htext)).2
      exact (List.append_cancel_right htail).symm
    · rintro rfl
      rw [maskedForm, ← h.stretch.text, String.ofList_toList]
  rw [maskUnread, survey_eq, hfound]
  by_cases hb : b = passwordMask.toList
  · rw [if_pos hb]
    exact if_pos (hself.2 hb)
  · rw [if_neg hb]
    exact if_neg fun hs => hb (hself.1 hs)

end

theorem blank_of_none {s : List Char} (h : ∀ a b c, ¬ Stretch s a b c) : Blank s :=
  fun a b c hchosen => absurd hchosen.stretch (h a b c)

/-- There is nothing to mask exactly if the chosen stretch is the mask. -/
theorem blank_iff_of_chosen {s a b c : List Char} (h : Chosen s a b c) :
    Blank s ↔ b = passwordMask.toList := by
  refine ⟨fun hblank => hblank a b c h, ?_⟩
  rintro hb a' b' c' hchosen
  rw [← (h.unique hchosen).2.1, hb]

/-- There is nothing to mask if there is no stretch, or if the chosen one is the mask. -/
theorem blank_iff {s : List Char} :
    Blank s ↔ (∀ a b c, ¬ Stretch s a b c) ∨ ∃ a c, Chosen s a passwordMask.toList c := by
  constructor
  · intro hblank
    rcases chosen_or_none s with ⟨a, b, c, hchosen⟩ | hnone
    · obtain rfl := hblank a b c hchosen
      exact Or.inr ⟨a, c, hchosen⟩
    · exact Or.inl hnone
  · rintro (hnone | ⟨a, c, hchosen⟩)
    · exact blank_of_none hnone
    · exact (blank_iff_of_chosen hchosen).2 rfl

/-- A text is shown as the mask alone if it is blank, and else with its chosen stretch masked. -/
theorem maskUnread_cases (s : String) :
    (Blank s.toList ∧ maskUnread s = passwordMask)
      ∨ ¬ Blank s.toList ∧ ∃ a b c, Chosen s.toList a b c
          ∧ maskUnread s = String.ofList (maskedForm a c) := by
  rcases chosen_or_none s.toList with ⟨a, b, c, hchosen⟩ | hnone
  · have hmask := maskUnread_of_chosen hchosen
    have hblank := blank_iff_of_chosen hchosen
    by_cases hb : b = passwordMask.toList
    · rw [if_pos hb] at hmask
      exact Or.inl ⟨hblank.2 hb, hmask⟩
    · rw [if_neg hb] at hmask
      exact Or.inr ⟨fun h => hb (hblank.1 h), a, b, c, hchosen, hmask⟩
  · exact Or.inl ⟨blank_of_none hnone, maskUnread_of_none hnone⟩

end MysqlDesk.Dsn
