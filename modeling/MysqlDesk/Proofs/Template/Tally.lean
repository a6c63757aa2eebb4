/-
The number of keys that were used is enough.

The pass of `Template.Tally` compares two numbers where `fill` compares two sets. The invariant, `Counts`,
says what the pass knows after some pieces: it has used the keys of their slots that have a value, and
misses the keys of their slots that have none. So every key that was used is one of those with a value, and
of two sets of which one is within the other, the numbers are the same only if the sets are.
-/
import MysqlDesk.Proofs.Template.Filling
import MysqlDesk.Template.Tally

set_option autoImplicit false

namespace MysqlDesk.Template

/-! ## What the pass knows -/

/-- **The invariant.** The tally is the one of the pieces `passed`. -/
structure Counts (values : Dictionary String) (passed : List Piece) (t : Tally) : Prop where
  text : t.text = passed.flatMap (fillPiece values)
  used : ∀ k, k ∈ t.used.keys ↔ k ∈ slotKeys passed ∧ (values.get? k).isSome = true
  missing : ∀ k, k ∈ t.missing.keys ↔ k ∈ slotKeys passed ∧ values.get? k = none

variable {values : Dictionary String}

theorem mem_keys_insert (d : Dictionary Unit) (k key : String) :
    k ∈ (d.insert key ()).keys ↔ k ∈ d.keys ∨ k = key := by
  rw [Dictionary.mem_keys_iff, Dictionary.mem_keys_iff, Dictionary.get?_insert]
  by_cases hk : k = key
  · simp [hk]
  · simp [hk]

theorem counts_start (values : Dictionary String) : Counts values [] Tally.start where
  text := rfl
  used _ := ⟨fun h => absurd h List.not_mem_nil, fun h => absurd h.1 List.not_mem_nil⟩
  missing _ := ⟨fun h => absurd h List.not_mem_nil, fun h => absurd h.1 List.not_mem_nil⟩

/-- The step: the tally after a piece is the tally of that piece too. -/
theorem Counts.add {passed : List Piece} {t : Tally} (h : Counts values passed t) (p : Piece) :
    Counts values (passed ++ [p]) (t.add values p) := by
  cases p with
  | verbatim c =>
    have hkeys : slotKeys (passed ++ [.verbatim c]) = slotKeys passed := by
      rw [slotKeys_append]
      exact List.append_nil _
    refine ⟨?_, fun k => ?_, fun k => ?_⟩
    · rw [List.flatMap_append, ← h.text]
      rfl
    · rw [hkeys]
      exact h.used k
    · rw [hkeys]
      exact h.missing k
  | slot key =>
    have hkeys : ∀ k, k ∈ slotKeys (passed ++ [.slot key]) ↔ k ∈ slotKeys passed ∨ k = key := by
      intro k
      rw [slotKeys_append, List.mem_append]
      exact or_congr_right List.mem_singleton
    have htext : (passed ++ [Piece.slot key]).flatMap (fillPiece values)
        = t.text ++ ((values.get? key).getD "").toList := by
      rw [List.flatMap_append, ← h.text, List.flatMap_singleton]
      rfl
    -- the key goes to one of the two sets, and no key is in both
    cases hvalue : values.get? key with
    | some value =>
      have hadd : t.add values (.slot key)
          = { t with text := t.text ++ value.toList, used := t.used.insert key () } := by
        simp only [Tally.add, hvalue]
      rw [hadd]
      refine ⟨?_, fun k => ?_, fun k => ?_⟩
      · rw [htext, hvalue]
        rfl
      · rw [mem_keys_insert, h.used, hkeys]
        by_cases hk : k = key
        · simp [hk, hvalue]
        · simp [hk]
      · rw [h.missing, hkeys]
        by_cases hk : k = key
        · simp [hk, hvalue]
        · simp [hk]
    | none =>
      have hadd : t.add values (.slot key) = { t with missing := t.missing.insert key () } := by
        simp only [Tally.add, hvalue]
      rw [hadd]
      refine ⟨?_, fun k => ?_, fun k => ?_⟩
      · rw [htext, hvalue]
        exact (List.append_nil _).symm
      · rw [h.used, hkeys]
        by_cases hk : k = key
        · simp [hk, hvalue]
        · simp [hk]
      · rw [mem_keys_insert, h.missing, hkeys]
        by_cases hk : k = key
        · simp [hk, hvalue]
        · simp [hk]

/-- The run: the pass ends with the tally of all pieces. -/
theorem Counts.foldl {passed : List Piece} {t : Tally} (h : Counts values passed t)
    (ps : List Piece) : Counts values (passed ++ ps) (ps.foldl (Tally.add values) t) := by
  induction ps generalizing passed t with
  | nil => rwa [List.append_nil]
  | cons p ps ih =>
    have hnext := ih (h.add p)
    rw [List.append_assoc] at hnext
    exact hnext

/-! ## Numbers and sets -/

/-- Of two lists without repetition, one within the other, the lengths agree exactly if the members
do. -/
theorem length_eq_iff_subset {a b : List String} (ha : a.Nodup) (hb : b.Nodup) (hsub : a ⊆ b) :
    b.length = a.length ↔ b ⊆ a := by
  constructor
  · intro hlength
    exact ((List.subperm_of_subset ha hsub).perm_of_length_le (Nat.le_of_eq hlength)).symm.subset
  · intro hback
    exact Nat.le_antisymm (hb.length_le_of_subset hback) (ha.length_le_of_subset hsub)

/-- **Counting is enough.** The pass that compares numbers of keys fills a template as the definition that
compares the keys does, and finds the same faults. -/
theorem fillByCount_eq (values : Dictionary String) (ps : List Piece) :
    fillByCount values ps = fill values ps := by
  have hcounts : Counts values ps (ps.foldl (Tally.add values) Tally.start) :=
    (counts_start values).foldl ps
  rw [fillByCount, fill]
  generalize ps.foldl (Tally.add values) Tally.start = t at hcounts
  have hsub : t.used.keys ⊆ values.keys := by
    intro k hk
    exact (Dictionary.mem_keys_iff values k).2 ((hcounts.used k).1 hk).2
  -- a key with a value was used exactly if it has a slot
  have hused : ∀ k ∈ values.keys, t.used.contains k = (slotKeys ps).contains k := by
    intro k hk
    have hmem : t.used.contains k = true ↔ (slotKeys ps).contains k = true := by
      rw [Dictionary.contains, ← Dictionary.mem_keys_iff, hcounts.used, List.contains_iff_mem]
      exact and_iff_left ((Dictionary.mem_keys_iff values k).1 hk)
    exact Bool.eq_iff_iff.2 hmem
  have hunused : (values.keys.filter fun k => !t.used.contains k)
      = values.keys.filter fun k => !(slotKeys ps).contains k := by
    apply List.filter_congr
    intro k hk
    rw [hused k hk]
  have hcount : values.keys.length ≠ t.used.keys.length
      ↔ (values.keys.filter fun k => !t.used.contains k) ≠ [] := by
    rw [Ne, length_eq_iff_subset t.used.nodup_keys values.nodup_keys hsub, Ne, List.filter_eq_nil_iff]
    refine not_congr (forall_congr' fun k => imp_congr_right fun _ => ?_)
    rw [Dictionary.mem_keys_iff, Dictionary.contains]
    simp [Option.isSome_iff_ne_none]
  have hmissing : t.missing.keys
      = distinct ((slotKeys ps).filter fun k => !values.contains k) := by
    apply eq_of_pairwise_of_mem_iff (fun a b => String.lt_asymm) t.missing.keys_pairwise
      (Dictionary.keys_pairwise _)
    intro k
    rw [hcounts.missing, ← distinct, mem_distinct_iff, List.mem_filter, Dictionary.contains]
    simp
  simp only [hcount, hunused, hmissing]
  rw [hcounts.text]

theorem substituteByCount_eq (statement : String) (arguments : List String) :
    substituteByCount statement arguments = substitute statement arguments := by
  rw [substituteByCount, substitute]
  cases pieces statement with
  | error u => rfl
  | ok ps => exact fillByCount_eq _ ps

end MysqlDesk.Template
