/-
Dictionaries: finite maps from text, kept in the order of their keys.

Connection parameters, template values and the members of a JSON object are all dictionaries. In
each of them a later value for a key takes the place of an earlier one, and whatever is written from
them follows the order of the keys, which is the order of code points. A dictionary is therefore the
strictly ascending list of its entries: there is one such list for a map, so two dictionaries with
the same look-ups are equal.

The functions on entry lists come first; they do not need the order, and the members of a JSON object
are such a list. The type `Dictionary` carries the order as a proof.
-/

set_option autoImplicit false

namespace MysqlDesk

namespace Entries

variable {β : Type}

/-- The entries with the value `v` for the key `k`, at its place in the order. -/
def insert (k : String) (v : β) : List (String × β) → List (String × β)
  | [] => [(k, v)]
  | e :: rest =>
    if k < e.1 then (k, v) :: e :: rest
    else if k = e.1 then (k, v) :: rest
    else e :: insert k v rest

/-- The value of the key `k`. -/
def find? (k : String) : List (String × β) → Option β
  | [] => none
  | e :: rest => if k = e.1 then some e.2 else find? k rest

/-- Each key is smaller than those after it. -/
def Ascending (es : List (String × β)) : Prop :=
  es.Pairwise fun a b => a.1 < b.1

theorem mem_insert {k : String} {v : β} {es : List (String × β)} {e : String × β}
    (h : e ∈ insert k v es) : e = (k, v) ∨ e ∈ es := by
  induction es with
  | nil => simpa [insert] using h
  | cons a rest ih =>
    simp only [insert] at h
    split at h
    · simpa using h
    · split at h
      · rcases List.mem_cons.1 h with h | h
        · exact Or.inl h
        · exact Or.inr (List.mem_cons_of_mem _ h)
      · rcases List.mem_cons.1 h with h | h
        · exact Or.inr (h ▸ List.mem_cons_self)
        · rcases ih h with h | h
          · exact Or.inl h
          · exact Or.inr (List.mem_cons_of_mem _ h)

theorem Ascending.insert {k : String} {v : β} {es : List (String × β)} (h : Ascending es) :
    Ascending (insert k v es) := by
  induction es with
  | nil => simp [Entries.insert, Ascending]
  | cons a rest ih =>
    obtain ⟨ha, hrest⟩ := List.pairwise_cons.1 h
    simp only [Entries.insert]
    split
    · rename_i hk
      refine List.pairwise_cons.2 ⟨fun e he => ?_, h⟩
      rcases List.mem_cons.1 he with rfl | he
      · exact hk
      · exact String.lt_trans hk (ha e he)
    · rename_i hk
      split
      · rename_i heq
        exact List.pairwise_cons.2 ⟨fun e he => heq ▸ ha e he, hrest⟩
      · rename_i hne
        refine List.pairwise_cons.2 ⟨fun e he => ?_, ih hrest⟩
        rcases mem_insert he with rfl | he
        · have hle : a.1 ≤ k := String.not_lt.1 hk
          by_cases hlt : a.1 < k
          · exact hlt
          · exact absurd (String.le_antisymm (String.not_lt.1 hlt) hle) hne
        · exact ha e he

end Entries

/-- A finite map from text, as the ascending list of its entries. -/
structure Dictionary (β : Type) where
  entries : List (String × β)
  ascending : Entries.Ascending entries

namespace Dictionary

variable {β : Type}

/-- The dictionary without entries. -/
def empty : Dictionary β :=
  ⟨[], List.Pairwise.nil⟩

instance : Inhabited (Dictionary β) := ⟨empty⟩

instance [DecidableEq β] : DecidableEq (Dictionary β) := fun a b =>
  if h : a.entries = b.entries then
    isTrue (by cases a; cases b; cases h; rfl)
  else
    isFalse fun hab => h (hab ▸ rfl)

/-- The dictionary with the value `v` for the key `k`, whatever that key had before. -/
def insert (d : Dictionary β) (k : String) (v : β) : Dictionary β :=
  ⟨Entries.insert k v d.entries, d.ascending.insert⟩

/-- The dictionary with all the pairs put in, from first to last. -/
def insertAll (d : Dictionary β) (pairs : List (String × β)) : Dictionary β :=
  pairs.foldl (fun d p => d.insert p.1 p.2) d

/-- The dictionary of a list of pairs, in which the last pair of a key counts. -/
def ofPairs (pairs : List (String × β)) : Dictionary β :=
  empty.insertAll pairs

/-- The value of the key `k`. -/
def get? (d : Dictionary β) (k : String) : Option β :=
  Entries.find? k d.entries

/-- Whether `k` has a value. -/
def contains (d : Dictionary β) (k : String) : Bool :=
  (d.get? k).isSome

/-- The keys in ascending order. -/
def keys (d : Dictionary β) : List String :=
  d.entries.map Prod.fst

/-- The dictionary with the value `v` for the key `k`, unless that key has one already. -/
def insertIfNew (d : Dictionary β) (k : String) (v : β) : Dictionary β :=
  if d.contains k then d else d.insert k v

end Dictionary

end MysqlDesk
