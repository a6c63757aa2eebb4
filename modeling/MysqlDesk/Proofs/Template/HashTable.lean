/-
Of the values of a template only the last ones count.

The values are given as a flat list of keys and values by turns, in which a key may come again, the pairs may
stand in any order, and a key may be left over at the end. `LastGiven` says which value a key has in the end, by
the places of the list. The filling puts the pairs into a hash table, one after the other, and neither the
order of the pairs nor that of the table is to be seen in the result.

The argument goes through the table's look-ups. A look-up after all pairs were put in finds the last value of
its key, whatever the orders were (`HashTable.get?_ofPairs`). With the look-ups the keys are known, except for
their order, so there are as many of them as in the dictionary of the same pairs; and a list of keys that is
sorted does not depend on the order that it had before.
-/
import MysqlDesk.Proofs.Template.Cursor
import MysqlDesk.Template.HashTable

set_option autoImplicit false

namespace MysqlDesk.Template

/-! ## The last values -/

/-- Lists in which each key has the same last value supply the same values. -/
theorem suppliedValue?_congr {a b : List String}
    (h : ∀ key value, LastGiven a key value ↔ LastGiven b key value) :
    suppliedValue? a = suppliedValue? b := by
  funext key
  apply Option.ext
  intro value
  rw [suppliedValue?_eq_some_iff, suppliedValue?_eq_some_iff]
  exact h key value

/-! ## The table -/

namespace HashTable

variable (d : Disorder)

theorem get?_eq_some_iff (t : HashTable) (k v : String) :
    t.get? k = some v ↔ (k, v) ∈ t.entries :=
  Entries.find?_eq_some_iff t.nodup

/-- The step: a pair that is put in is found, and the other keys keep their values. -/
theorem get?_put (step : Nat) (t : HashTable) (p : String × String) (k : String) :
    (t.put d step p).get? k = if k = p.1 then some p.2 else t.get? k := by
  apply Option.ext
  intro v
  -- A look-up asks for membership only, and that does not change when the entries are arranged anew.
  have hmem : (k, v) ∈ (t.put d step p).entries
      ↔ (k, v) = p ∨ (k, v) ∈ t.entries ∧ k ≠ p.1 := by
    rw [put, (d.perm step _).mem_iff, replace, List.mem_cons, List.mem_filter]
    simp
  rw [get?_eq_some_iff, hmem]
  by_cases hk : k = p.1
  · rw [if_pos hk, or_iff_left fun h => h.2 hk, Option.some_inj, Prod.ext_iff]
    exact ⟨fun h => h.2.symm, fun h => ⟨hk, h.symm⟩⟩
  · rw [if_neg hk, or_iff_right fun h => hk (congrArg Prod.fst h), get?_eq_some_iff]
    exact and_iff_left hk

/-- The run: after all pairs were put in, the last pair of a key counts. -/
theorem get?_putAll (step : Nat) (t : HashTable) (pairs : List (String × String)) (k : String) :
    (putAll d step t pairs).get? k = (Dictionary.lastValue? k pairs).or (t.get? k) := by
  induction pairs generalizing step t with
  | nil => rfl
  | cons p rest ih =>
    rw [putAll, ih, get?_put, Dictionary.lastValue?, Option.or_assoc]
    by_cases hk : k = p.1
    · rw [if_pos hk, if_pos hk, Option.some_or]
    · rw [if_neg hk, if_neg hk, Option.none_or]

theorem get?_ofPairs (pairs : List (String × String)) :
    (ofPairs d pairs).get? = (Dictionary.ofPairs pairs).get? := by
  funext k
  rw [ofPairs, get?_putAll, Dictionary.get?_ofPairs]
  exact Option.or_none

/-- The keys are those of a dictionary with the same look-ups, in an order of their own. -/
theorem keys_perm {t : HashTable} {values : Dictionary String} (h : t.get? = values.get?) :
    t.keys.Perm values.keys := by
  have hnodup : t.keys.Nodup := t.nodup
  -- Neither list has a key twice, so it is enough that they have the same members.
  rw [List.perm_ext_iff_of_nodup hnodup values.nodup_keys]
  intro k
  rw [Dictionary.mem_keys_iff, ← h]
  exact (Entries.isSome_find?_iff k t.entries).symm

end HashTable

/-! ## Filling -/

/-- A list of keys, sorted, is the list of these keys that is in order already. -/
theorem sorted_eq_of_perm {keys inOrder : List String} (hperm : keys.Perm inOrder)
    (horder : inOrder.Pairwise (· < ·)) : sorted keys = inOrder := by
  have hsorted : (sorted keys).Pairwise (· ≤ ·) := List.pairwise_mergeSort' (· ≤ ·) keys
  have hle : inOrder.Pairwise (· ≤ ·) := horder.imp fun hlt => String.not_lt.1 (String.lt_asymm hlt)
  exact List.Perm.eq_of_pairwise (fun _ _ _ _ => String.le_antisymm) hsorted hle
    ((List.mergeSort_perm keys _).trans hperm)

theorem take_get? (values : Dictionary String) :
    Tally.take values.get? = Tally.add values := by
  funext t p
  cases p <;> rfl

/-- **The order of the table does not show.** A filling from a hash table is that from a dictionary with the
same look-ups. -/
theorem HashTable.fill_eq {t : HashTable} {values : Dictionary String} (h : t.get? = values.get?)
    (ps : List Piece) : t.fill ps = Template.fill values ps := by
  have hkeys : t.keys.Perm values.keys := HashTable.keys_perm h
  have hlength : t.entries.length = values.keys.length := by
    rw [← hkeys.length_eq, HashTable.keys, List.length_map]
  have hunused (unused : String → Bool) :
      sorted (t.keys.filter unused) = values.keys.filter unused :=
    sorted_eq_of_perm (hkeys.filter unused) (values.keys_pairwise.filter unused)
  rw [← fillByCount_eq, HashTable.fill, fillByCount, h, take_get?, hlength]
  simp only [hunused]

/-- The loop with a hash table gives what the pieces and a dictionary give. -/
theorem HashTable.substitute?_eq (d : Disorder) (statement : String) (arguments : List String) :
    HashTable.substitute? d statement arguments = some (substitute statement arguments) := by
  rw [HashTable.substitute?, pieces?_scan_start, substitute, pieces, Option.map_some]
  cases piecesFrom .plain 0 statement.toList with
  | error slot => rfl
  | ok ps => exact congrArg some (HashTable.fill_eq (HashTable.get?_ofPairs d _) ps)

/-- Lists that supply the same values fill a statement alike. -/
theorem substitute_congr (statement : String) {a b : List String}
    (h : suppliedValue? a = suppliedValue? b) : substitute statement a = substitute statement b := by
  have hvalues : Dictionary.ofPairs (pairUp a) = Dictionary.ofPairs (pairUp b) := by
    apply Dictionary.ext_get?
    intro k
    rw [get?_ofPairs_pairUp, get?_ofPairs_pairUp, h]
  rw [substitute, substitute, hvalues]

/-- **Only the last values count.** Let the same keys have the same last values in two lists. Then a statement
is filled alike with both, or the fault is the same, with the same keys in the same order. The hash tables may
give their entries in any two orders; and the result is that of the definition by pieces and a dictionary, and
of the machine that runs over the bytes. -/
theorem only_last_values_count (statement : String) {a b : List String}
    (h : ∀ key value, LastGiven a key value ↔ LastGiven b key value) (d d' : Disorder) :
    HashTable.substitute? d statement a = HashTable.substitute? d' statement b
    ∧ substitute statement a = substitute statement b
    ∧ HashTable.substitute? d statement a = some (substitute statement a)
    ∧ Octets.substitute? statement a = some (substitute statement a) := by
  have hsame : substitute statement a = substitute statement b :=
    substitute_congr statement (suppliedValue?_congr h)
  refine ⟨?_, hsame, HashTable.substitute?_eq d statement a, Octets.substitute?_eq statement a⟩
  rw [HashTable.substitute?_eq, HashTable.substitute?_eq, hsame]

/-- The order in which the entry of the latest pair comes first. -/
def latestFirst : Disorder :=
  ⟨fun _ entries => entries, fun _ _ => .refl _⟩

/-- Two lists of values without slots, with a key that comes twice in the one and a key that is left over in
the other. The tables give the keys in opposite orders, and the fault names them in ascending order. -/
theorem only_last_values_count_unused :
    let a := ["a", "0", "b", "1", "a", "2"]
    let b := ["a", "2", "b", "1", "c"]
    (∀ key value, LastGiven a key value ↔ LastGiven b key value)
      ∧ (HashTable.ofPairs latestFirst (pairUp a)).keys = ["a", "b"]
      ∧ (HashTable.ofPairs latestFirst (pairUp b)).keys = ["b", "a"]
      ∧ HashTable.substitute? latestFirst "$(c)" a = some (.error (.unused ["a", "b"]))
      ∧ HashTable.substitute? latestFirst "$(c)" b = some (.error (.unused ["a", "b"])) := by
  intro a b
  have hlast : ∀ key value, LastGiven a key value ↔ LastGiven b key value := by
    intro key value
    rw [← suppliedValue?_eq_some_iff, ← suppliedValue?_eq_some_iff]
    simp only [a, b, suppliedValue?, Option.none_or]
    by_cases ha : key = "a"
    · simp [ha]
    · by_cases hb : key = "b" <;> simp [ha, hb]
  obtain ⟨hsame, -, hfilled, -⟩ := only_last_values_count "$(c)" hlast latestFirst latestFirst
  have hfault : HashTable.substitute? latestFirst "$(c)" a = some (.error (.unused ["a", "b"])) := by
    rw [hfilled]
    rfl
  refine ⟨hlast, by decide, by decide, hfault, ?_⟩
  rw [← hsame, hfault]

end MysqlDesk.Template
