/-
Where a word is exchanged.

`Text.exchange` goes through a text and puts another word in for each occurrence of one. A proof about a
text with an unknown stretch in it must say what happens there without knowing the stretch. The lemmas
here do so for a word that has a mark in it, such as an apostrophe: an occurrence of the word needs the
mark, and around the mark the rest of the word. So a text is gone through from mark to mark. Up to a mark
nothing is exchanged unless the word stands around it, whatever else is written there
(`exchange_append_mark`), and where the word does stand around the mark, it and nothing else is exchanged
(`exchange_append_word`).
-/
import MysqlDesk.Proofs.Text.Cut

set_option autoImplicit false

namespace MysqlDesk.Text

section Marked

variable {old front back : List Char} {mark : Char}

/-! ## Occurrences around a mark -/

theorem startsWith_iff {needle s : List Char} : startsWith needle s = true ↔ needle <+: s := by
  rw [startsWith, List.isPrefixOf_iff_prefix]

/-- A word whose first mark is the first mark of the text stands around it. -/
theorem eq_of_startsWith_marked (hfront : mark ∉ front) {before rest : List Char}
    (hbefore : mark ∉ before) (h : front ++ mark :: back <+: before ++ mark :: rest) :
    front = before ∧ back <+: rest := by
  obtain ⟨more, hmore⟩ := h
  rw [List.append_assoc, List.cons_append] at hmore
  rcases append_cons_eq_append_cons hmore with ⟨hsame, -, hback⟩ | ⟨m, hm, -⟩ | ⟨m, hm, -⟩
  · exact ⟨hsame, more, hback⟩
  · exact absurd (hm ▸ by simp) hbefore
  · exact absurd (hm ▸ by simp) hfront

/-! ## What is exchanged -/

theorem exchange_cons_of_not_start {new : List Char} {c : Char} {rest : List Char}
    (h : ¬ old <+: c :: rest) : exchange old new (c :: rest) = c :: exchange old new rest := by
  rw [exchange, exchangeFrom, if_neg (fun hstart => h (startsWith_iff.1 hstart))]
  rfl

/-- The characters of an exchanged word are passed over. -/
theorem exchangeFrom_append (old new word rest : List Char) :
    exchangeFrom old new word.length (word ++ rest) = exchange old new rest := by
  induction word with
  | nil => rfl
  | cons c word ih => exact ih

theorem exchange_append_self (hold : old ≠ []) (new rest : List Char) :
    exchange old new (old ++ rest) = new ++ exchange old new rest := by
  obtain ⟨c, word, rfl⟩ := List.exists_cons_of_ne_nil hold
  have hstart : startsWith (c :: word) (c :: (word ++ rest)) = true :=
    startsWith_iff.2 ⟨rest, rfl⟩
  have hlength : (c :: word).length - 1 = word.length := rfl
  rw [List.cons_append, exchange, exchangeFrom, if_pos hstart, hlength, exchangeFrom_append]

/-- Without its mark a word does not occur. -/
theorem exchange_of_not_mem (hold : mark ∈ old) (new : List Char) {s : List Char}
    (h : mark ∉ s) : exchange old new s = s := by
  induction s with
  | nil => rfl
  | cons c s ih =>
    have hnone : ¬ old <+: c :: s := fun hstart => h (hstart.subset hold)
    rw [exchange_cons_of_not_start hnone, ih fun hmem => h (List.mem_cons_of_mem _ hmem)]

/-- **Up to a mark** nothing is exchanged if the word does not stand around it. The induction is on the
text before the mark, where an occurrence could begin at each character. -/
theorem exchange_append_mark (hold : old = front ++ mark :: back) (hfront : mark ∉ front)
    (new : List Char) {before rest : List Char} (hbefore : mark ∉ before)
    (h : ¬ (front <:+ before ∧ back <+: rest)) :
    exchange old new (before ++ mark :: rest) = before ++ mark :: exchange old new rest := by
  subst hold
  induction before with
  | nil =>
    refine exchange_cons_of_not_start fun hstart => ?_
    obtain ⟨hsame, hback⟩ := eq_of_startsWith_marked hfront List.not_mem_nil hstart
    exact h ⟨hsame ▸ List.suffix_rfl, hback⟩
  | cons c before ih =>
    have hnone : ¬ front ++ mark :: back <+: c :: (before ++ mark :: rest) := by
      intro hstart
      obtain ⟨hsame, hback⟩ := eq_of_startsWith_marked hfront hbefore hstart
      exact h ⟨hsame ▸ List.suffix_rfl, hback⟩
    have hrest : ¬ (front <:+ before ∧ back <+: rest) :=
      fun hword => h ⟨hword.1.trans (List.suffix_cons c before), hword.2⟩
    rw [List.cons_append, exchange_cons_of_not_start hnone,
      ih (fun hmem => hbefore (List.mem_cons_of_mem _ hmem)) hrest]
    rfl

/-- **Around a mark** the word is exchanged, and nothing before it. -/
theorem exchange_append_word (hold : old = front ++ mark :: back) (hfront : mark ∉ front)
    (new : List Char) {before : List Char} (hbefore : mark ∉ before) (rest : List Char) :
    exchange old new (before ++ old ++ rest) = before ++ new ++ exchange old new rest := by
  subst hold
  induction before with
  | nil => exact exchange_append_self (by simp) new rest
  | cons c before ih =>
    -- an occurrence here would have its mark where the next one has it, and be longer
    have hnone : ¬ front ++ mark :: back
        <+: c :: (before ++ (front ++ mark :: back) ++ rest) := by
      intro hstart
      have htext : c :: (before ++ (front ++ mark :: back) ++ rest)
          = (c :: before ++ front) ++ mark :: (back ++ rest) := by simp
      have hclear : mark ∉ c :: before ++ front := by
        rw [List.mem_append, not_or]
        exact ⟨hbefore, hfront⟩
      rw [htext] at hstart
      have hlength := congrArg List.length (eq_of_startsWith_marked hfront hclear hstart).1
      simp only [List.length_append, List.length_cons] at hlength
      omega
    rw [List.cons_append, List.cons_append, exchange_cons_of_not_start hnone,
      ih fun hmem => hbefore (List.mem_cons_of_mem _ hmem)]
    rfl

/-- Nothing is exchanged in a stretch between two marks, nor around it, if what stands before it does not
end as the word begins, and what stands behind it does not begin as the word ends. -/
theorem exchange_append_marked_stretch (hold : old = front ++ mark :: back)
    (hfront : mark ∉ front) (new : List Char) {before stretch after : List Char}
    (hbefore : mark ∉ before) (hstretch : mark ∉ stretch)
    (hends : ¬ front <:+ before) (hbegins : ¬ back <+: after) :
    exchange old new (before ++ mark :: (stretch ++ mark :: after))
      = before ++ mark :: (stretch ++ mark :: exchange old new after) := by
  rw [exchange_append_mark hold hfront new hbefore fun hword => hends hword.1,
    exchange_append_mark hold hfront new hstretch fun hword => hbegins hword.2]

end Marked

end MysqlDesk.Text
