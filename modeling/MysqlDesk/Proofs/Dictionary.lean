/-
The laws of look-up in a dictionary.

A dictionary is the ascending list of its entries, so a look-up walks a list and an insertion puts an
entry at its place. What the rest of the library needs of it is the usual map: a look-up after an
insertion finds what was put in, a look-up in the dictionary of a list of pairs finds the last pair of
its key, and the keys are those that a look-up finds. The last section is about a dictionary that is
built again from its own entries, which is what reading back a written list of parameters does.
-/
import MysqlDesk.Dictionary
import Mathlib.Data.List.Sort

set_option autoImplicit false

namespace MysqlDesk

/-- Two lists that are ascending in one strict order are equal if they have the same members. -/
theorem eq_of_pairwise_of_mem_iff {α : Type} {r : α → α → Prop} (hr : ∀ a b, r a b → ¬ r b a)
    {l m : List α} (hl : l.Pairwise r) (hm : m.Pairwise r) (h : ∀ a, a ∈ l ↔ a ∈ m) : l = m := by
  have hantisymm : Std.Antisymm r := ⟨fun a b hab hba => absurd hba (hr a b hab)⟩
  have hirrefl : Std.Irrefl r := ⟨fun a haa => hr a a haa haa⟩
  exact List.Pairwise.eq_of_mem_iff hl hm h

namespace Entries

variable {β : Type}

/-! ## Look-up in a list of entries -/

/-- A look-up after an insertion. No order is needed: the new entry stands before every entry that is
passed over, and an old entry of its key is replaced where the walk would have stopped. -/
theorem find?_insert (k k' : String) (v : β) (es : List (String × β)) :
    find? k' (insert k v es) = if k' = k then some v else find? k' es := by
  induction es with
  | nil => rfl
  | cons e rest ih =>
    rw [insert]
    by_cases hlt : k < e.1
    · rw [if_pos hlt, find?]
    · rw [if_neg hlt]
      by_cases heq : k = e.1
      · rw [if_pos heq, find?, find?]
        by_cases hk : k' = k
        · rw [if_pos hk, if_pos hk]
        · rw [if_neg hk, if_neg hk, if_neg (heq ▸ hk)]
      · rw [if_neg heq, find?, find?, ih]
        by_cases hk : k' = k
        · have hne : k' ≠ e.1 := hk ▸ heq
          rw [if_neg hne, if_pos hk, if_pos hk]
        · rw [if_neg hk, if_neg hk]

theorem isSome_find?_iff (k : String) (es : List (String × β)) :
    (find? k es).isSome = true ↔ k ∈ es.map Prod.fst := by
  induction es with
  | nil => simp [find?]
  | cons e rest ih =>
    rw [find?, List.map_cons, List.mem_cons]
    by_cases hk : k = e.1
    · rw [if_pos hk]
      simp [hk]
    · rw [if_neg hk, ih]
      simp [hk]

theorem insert_eq_append {k : String} {v : β} {es : List (String × β)}
    (h : ∀ e ∈ es, e.1 < k) : insert k v es = es ++ [(k, v)] := by
  induction es with
  | nil => rfl
  | cons e rest ih =>
    have he : e.1 < k := h e List.mem_cons_self
    have hrest : ∀ e' ∈ rest, e'.1 < k := fun e' he' => h e' (List.mem_cons_of_mem _ he')
    have hlt : ¬ k < e.1 := fun hk => String.lt_irrefl k (String.lt_trans hk he)
    have hne : k ≠ e.1 := fun hk => String.lt_irrefl k (by rw [← hk] at he; exact he)
    rw [insert, if_neg hlt, if_neg hne, ih hrest]
    rfl

/-- A list that has one entry of a key at most: a look-up finds it. -/
theorem find?_eq_some_iff {k : String} {v : β} {es : List (String × β)}
    (h : (es.map Prod.fst).Nodup) : find? k es = some v ↔ (k, v) ∈ es := by
  induction es with
  | nil => simp [find?]
  | cons e rest ih =>
    obtain ⟨hfirst, hrest⟩ := List.nodup_cons.1 h
    rw [find?, List.mem_cons]
    by_cases hk : k = e.1
    · -- the key does not come again
      have hnot : (k, v) ∉ rest := fun hmem => hfirst (hk ▸ List.mem_map_of_mem hmem)
      rw [if_pos hk, or_iff_left hnot, Prod.ext_iff, Option.some_inj]
      exact ⟨fun hv => ⟨hk, hv.symm⟩, fun he => he.2.symm⟩
    · have hne : (k, v) ≠ e := fun he => hk (congrArg Prod.fst he)
      rw [if_neg hk, ih hrest, or_iff_right hne]

end Entries

namespace Dictionary

variable {β : Type}

/-! ## The last pair of a key -/

/-- The value in the last pair of the key `k`. -/
def lastValue? (k : String) : List (String × β) → Option β
  | [] => none
  | p :: rest => (lastValue? k rest).or (if k = p.1 then some p.2 else none)

theorem get?_empty (k : String) : (empty : Dictionary β).get? k = none := rfl

theorem get?_insert (d : Dictionary β) (k k' : String) (v : β) :
    (d.insert k v).get? k' = if k' = k then some v else d.get? k' :=
  Entries.find?_insert k k' v d.entries

/-- A look-up after many insertions finds the last pair of its key, and what was there before if no
pair has that key. -/
theorem get?_insertAll (d : Dictionary β) (pairs : List (String × β)) (k : String) :
    (d.insertAll pairs).get? k = (lastValue? k pairs).or (d.get? k) := by
  induction pairs generalizing d with
  | nil => rfl
  | cons p rest ih =>
    have hstep : d.insertAll (p :: rest) = (d.insert p.1 p.2).insertAll rest := rfl
    rw [hstep, ih, get?_insert, lastValue?, Option.or_assoc]
    by_cases hk : k = p.1
    · rw [if_pos hk, if_pos hk]
      rfl
    · rw [if_neg hk, if_neg hk]
      rfl

/-- **A dictionary of pairs** has for each key the value of its last pair. -/
theorem get?_ofPairs (pairs : List (String × β)) (k : String) :
    (ofPairs pairs).get? k = lastValue? k pairs := by
  rw [ofPairs, get?_insertAll, get?_empty, Option.or_none]

/-- A default for one key shows only where that key had no value. -/
theorem get?_insertIfNew (d : Dictionary β) (k k' : String) (v : β) :
    (d.insertIfNew k v).get? k' = (d.get? k').or (if k' = k then some v else none) := by
  rw [insertIfNew, contains]
  by_cases hk : k' = k
  · subst hk
    rw [if_pos rfl]
    cases hd : d.get? k' with
    | none => rw [if_neg (by simp), get?_insert, if_pos rfl, Option.none_or]
    | some old => rw [if_pos (by simp), hd, Option.some_or]
  · rw [if_neg hk, Option.or_none]
    split
    · rfl
    · rw [get?_insert, if_neg hk]

theorem lastValue?_append (k : String) (front back : List (String × β)) :
    lastValue? k (front ++ back) = (lastValue? k back).or (lastValue? k front) := by
  induction front with
  | nil => exact Option.or_none.symm
  | cons p rest ih =>
    rw [List.cons_append, lastValue?, lastValue?, ih, Option.or_assoc]

theorem lastValue?_eq_none_iff (k : String) (pairs : List (String × β)) :
    lastValue? k pairs = none ↔ ∀ p ∈ pairs, p.1 ≠ k := by
  induction pairs with
  | nil => simp [lastValue?]
  | cons p rest ih =>
    rw [lastValue?, Option.or_eq_none_iff, ih, List.forall_mem_cons, and_comm]
    refine and_congr_left fun _ => ?_
    by_cases hk : k = p.1
    · rw [if_pos hk]
      simp [hk]
    · rw [if_neg hk]
      simp [Ne.symm hk]

/-- A last value stands in a pair after which its key does not come again. -/
theorem lastValue?_eq_some_iff (k : String) (v : β) (pairs : List (String × β)) :
    lastValue? k pairs = some v ↔
      ∃ before after, pairs = before ++ (k, v) :: after ∧ ∀ p ∈ after, p.1 ≠ k := by
  constructor
  · intro h
    induction pairs with
    | nil => cases h
    | cons p rest ih =>
      -- the value is in the rest, or the key is not there and this pair is its last
      rw [lastValue?] at h
      rcases Option.or_eq_some_iff.1 h with hrest | ⟨hnone, hp⟩
      · obtain ⟨before, after, rfl, hafter⟩ := ih hrest
        exact ⟨p :: before, after, rfl, hafter⟩
      · by_cases hk : k = p.1
        · rw [if_pos hk] at hp
          have hpair : p = (k, v) := by rw [hk, ← Option.some.inj hp]
          exact ⟨[], rest, by rw [hpair]; rfl, (lastValue?_eq_none_iff k rest).1 hnone⟩
        · rw [if_neg hk] at hp
          cases hp
  · rintro ⟨before, after, rfl, hafter⟩
    rw [lastValue?_append, lastValue?, (lastValue?_eq_none_iff k after).2 hafter, if_pos rfl]
    rfl

/-! ## Keys and entries -/

theorem isSome_lastValue?_iff (k : String) (pairs : List (String × β)) :
    (lastValue? k pairs).isSome = true ↔ k ∈ pairs.map Prod.fst := by
  induction pairs with
  | nil => simp [lastValue?]
  | cons p rest ih =>
    rw [lastValue?, Option.isSome_or, Bool.or_eq_true, ih, List.map_cons, List.mem_cons, or_comm]
    refine or_congr_left ?_
    by_cases hk : k = p.1
    · rw [if_pos hk]
      simp [hk]
    · rw [if_neg hk]
      simp [hk]

/-- The keys are those that a look-up finds. -/
theorem mem_keys_iff (d : Dictionary β) (k : String) :
    k ∈ d.keys ↔ (d.get? k).isSome = true :=
  (Entries.isSome_find?_iff k d.entries).symm

theorem keys_pairwise (d : Dictionary β) : d.keys.Pairwise (· < ·) :=
  List.pairwise_map.2 d.ascending

theorem nodup_keys (d : Dictionary β) : d.keys.Nodup := by
  apply d.keys_pairwise.imp
  intro a b hlt heq
  rw [heq] at hlt
  exact String.lt_irrefl b hlt

theorem get?_eq_some_iff (d : Dictionary β) (k : String) (v : β) :
    d.get? k = some v ↔ (k, v) ∈ d.entries :=
  Entries.find?_eq_some_iff d.nodup_keys

/-- Two dictionaries with the same look-ups are equal. An ascending list is fixed by its members, and a
look-up finds exactly these. -/
theorem ext_get? {d e : Dictionary β} (h : ∀ k, d.get? k = e.get? k) : d = e := by
  have hentries : d.entries = e.entries := by
    apply eq_of_pairwise_of_mem_iff (fun a b => String.lt_asymm) d.ascending e.ascending
    intro entry
    rw [← get?_eq_some_iff, ← get?_eq_some_iff, h]
  cases d
  cases e
  cases hentries
  rfl

/-- Putting in ascending pairs, all above what is there, appends them. The induction is on the pairs;
each one goes to the end, since the keys before it are smaller. -/
theorem entries_insertAll_of_ascending (d : Dictionary β) (pairs : List (String × β))
    (h : Entries.Ascending (d.entries ++ pairs)) :
    (d.insertAll pairs).entries = d.entries ++ pairs := by
  induction pairs generalizing d with
  | nil => exact (List.append_nil _).symm
  | cons p rest ih =>
    have hbelow : ∀ e ∈ d.entries, e.1 < p.1 := fun e he =>
      (List.pairwise_append.1 h).2.2 e he p List.mem_cons_self
    have hput : (d.insert p.1 p.2).entries = d.entries ++ [p] := Entries.insert_eq_append hbelow
    have hmove : d.entries ++ p :: rest = (d.insert p.1 p.2).entries ++ rest := by
      rw [hput, List.append_assoc]
      rfl
    have hstep : d.insertAll (p :: rest) = (d.insert p.1 p.2).insertAll rest := rfl
    rw [hstep, hmove]
    exact ih (d.insert p.1 p.2) (hmove ▸ h)

/-- A dictionary is the dictionary of its own entries. -/
theorem ofPairs_entries (d : Dictionary β) : ofPairs d.entries = d := by
  have h : (ofPairs d.entries).entries = d.entries :=
    entries_insertAll_of_ascending empty d.entries d.ascending
  cases d
  cases hd : ofPairs _ with
  | mk entries ascending =>
    rw [hd] at h
    cases h
    rfl

end Dictionary

end MysqlDesk
