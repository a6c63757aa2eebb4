/-
Which fault a template is answered with.

A statement is read before its arguments are looked at, so a slot that is never closed is reported
whatever the arguments are, and with the place where it begins. `opensAt?` finds that place along the
tokens; here it is said of the statement itself (`BeginsOpen`): of all the texts behind which the reading
comes to the sign of a slot without an end, the shortest one counts, and its bytes are the place.

If all slots are closed, two sets of keys decide, the supplied ones and those of the slots. A supplied key
without a slot is a fault before a slot without a value. Each of the two faults names its keys as a list,
and `Lists` says which list that is: it has exactly the keys in question, in the order of their bytes, so
it has none of them twice.
-/
import MysqlDesk.Proofs.Template.Tally
import MysqlDesk.Proofs.Text.ByteOrder

set_option autoImplicit false

namespace MysqlDesk.Template

open MysqlDesk.Text.Utf8 (size size_append encode encode_lt_encode_iff)

/-! ## The first slot that is never closed -/

/-- The reading of `s` comes, behind the text `front`, to the sign of a slot that is never closed. -/
def OpensBehind (s front : List Char) : Prop :=
  ∃ ts rest, tokens s = ts ++ tokens ('$' :: '(' :: rest) ∧ ')' ∉ rest
    ∧ ts.flatMap Token.source = front

/-- The first slot of `s` that is never closed begins after so many bytes. -/
def BeginsOpen (s : List Char) (position : Nat) : Prop :=
  (∃ front, OpensBehind s front ∧ size front = position)
    ∧ ∀ front, OpensBehind s front → position ≤ size front

theorem BeginsOpen.unique {s : List Char} {p q : Nat} (hp : BeginsOpen s p)
    (hq : BeginsOpen s q) : p = q := by
  obtain ⟨⟨front, hfront, hsize⟩, hleast⟩ := hp
  obtain ⟨⟨front', hfront', hsize'⟩, hleast'⟩ := hq
  have hle := hleast front' hfront'
  have hge := hleast' front hfront
  omega

/-- The place that is found along the tokens is the one of two literals that leave a slot open, and no two
such literals stand before it. -/
theorem opensAt?_eq_some {passed position : Nat} {ts : List Token}
    (h : opensAt? passed ts = some position) :
    (∃ before after, ts = before ++ .literal '$' :: .literal '(' :: after
      ∧ passed + size (before.flatMap Token.source) = position)
    ∧ ∀ before after, ts = before ++ .literal '$' :: .literal '(' :: after →
      position ≤ passed + size (before.flatMap Token.source) := by
  induction ts generalizing passed with
  | nil => cases h
  | cons t ts ih =>
    rw [opensAt?] at h
    by_cases hopen : t = .literal '$' ∧ ts.head? = some (.literal '(')
    · rw [if_pos hopen] at h
      have hposition : passed = position := Option.some.inj h
      obtain ⟨rfl, hhead⟩ := hopen
      obtain ⟨after, hafter⟩ := List.head?_eq_some_iff.1 hhead
      constructor
      · exact ⟨[], after, by rw [hafter]; rfl, hposition⟩
      · intro before _ _
        omega
    · rw [if_neg hopen] at h
      obtain ⟨⟨before, after, hsplit, hposition⟩, hleast⟩ := ih h
      constructor
      · refine ⟨t :: before, after, by rw [hsplit]; rfl, ?_⟩
        rw [List.flatMap_cons, size_append]
        omega
      · intro before' after' hsplit'
        cases before' with
        | nil =>
          -- the slot would be open right here
          obtain ⟨ht, hts⟩ := List.cons.inj hsplit'
          exact absurd ⟨ht, by rw [hts]; rfl⟩ hopen
        | cons t' before' =>
          obtain ⟨rfl, hts⟩ := List.cons.inj hsplit'
          have hle := hleast before' after' hts
          rw [List.flatMap_cons, size_append]
          omega

theorem beginsOpen_of_opensAt? {s : List Char} {position : Nat}
    (h : opensAt? 0 (tokens s) = some position) : BeginsOpen s position := by
  obtain ⟨⟨before, after, hsplit, hposition⟩, hleast⟩ := opensAt?_eq_some h
  rw [Nat.zero_add] at hposition
  constructor
  · obtain ⟨rest, hread, hopen⟩ := exists_open_iff.2 ⟨after, hsplit⟩
    exact ⟨_, ⟨before, rest, hread, hopen, rfl⟩, hposition⟩
  · rintro front ⟨ts, rest, hread, hopen, rfl⟩
    obtain ⟨us, hus⟩ := exists_open_iff.1 ⟨rest, hread, hopen⟩
    have hle := hleast ts us hus
    omega

/-- A statement whose slots are closed has no such place. -/
theorem not_beginsOpen {s : List Char} (h : SlotsClosed s) (position : Nat) :
    ¬ BeginsOpen s position := by
  rintro ⟨⟨front, ⟨ts, rest, hread, hopen, -⟩, -⟩, -⟩
  exact hopen (h ts rest hread)

/-! ## Lists of keys -/

/-- The list of the keys that have a property, in the order of their bytes. -/
structure Lists (keys : List String) (p : String → Prop) : Prop where
  ascending : keys.Pairwise fun a b => encode a.toList < encode b.toList
  mem_iff : ∀ k, k ∈ keys ↔ p k

/-- There is one such list. -/
theorem Lists.unique {as bs : List String} {p : String → Prop} (ha : Lists as p)
    (hb : Lists bs p) : as = bs := by
  apply eq_of_pairwise_of_mem_iff (fun a b => List.lt_asymm) ha.ascending hb.ascending
  intro k
  rw [ha.mem_iff, hb.mem_iff]

/-- Keys in the order of their characters are in the order of their bytes. -/
theorem pairwise_encode {keys : List String} (h : keys.Pairwise (· < ·)) :
    keys.Pairwise fun a b => encode a.toList < encode b.toList := by
  apply h.imp
  intro a b hlt
  exact (encode_lt_encode_iff a.toList b.toList).2 hlt

theorem lists_unused (values : Dictionary String) (ps : List Piece) :
    Lists (values.keys.filter fun k => !(slotKeys ps).contains k)
      fun k => (values.get? k).isSome = true ∧ k ∉ slotKeys ps where
  ascending := pairwise_encode (values.keys_pairwise.filter _)
  mem_iff k := by
    rw [List.mem_filter, Dictionary.mem_keys_iff]
    simp

theorem lists_unresolved (values : Dictionary String) (ps : List Piece) :
    Lists (distinct ((slotKeys ps).filter fun k => !values.contains k))
      fun k => k ∈ slotKeys ps ∧ ¬ (values.get? k).isSome = true where
  ascending := pairwise_encode (Dictionary.keys_pairwise _)
  mem_iff k := by
    rw [mem_distinct_iff, List.mem_filter, Dictionary.contains]
    simp

/-! ## Filling -/

section Filling

variable (values : Dictionary String) (ps : List Piece)

theorem fill_ne_unclosed (position : Nat) : fill values ps ≠ .error (.unclosed position) := by
  intro h
  unfold fill at h
  dsimp only at h
  split at h
  · cases h
  split at h
  · cases h
  · cases h

/-- A filling finds unused values if there is one, and lists all of them. -/
theorem fill_eq_unused_iff (keys : List String) :
    fill values ps = .error (.unused keys) ↔
      (∃ k, (values.get? k).isSome = true ∧ k ∉ slotKeys ps)
        ∧ Lists keys fun k => (values.get? k).isSome = true ∧ k ∉ slotKeys ps := by
  have hlists := lists_unused values ps
  have hnil := unused_eq_nil_iff values ps
  unfold fill
  by_cases hunused : (values.keys.filter fun k => !(slotKeys ps).contains k) = []
  · rw [if_neg (not_not_intro hunused)]
    constructor
    · intro h
      split at h
      · cases h
      · cases h
    · rintro ⟨⟨k, hk, hslot⟩, -⟩
      exact absurd (hnil.1 hunused k hk) hslot
  · rw [if_pos hunused]
    constructor
    · intro h
      cases h
      rw [hnil] at hunused
      push Not at hunused
      exact ⟨hunused, hlists⟩
    · rintro ⟨-, hkeys⟩
      rw [hkeys.unique hlists]

/-- It finds slots without a value if there is one and no value is unused, and lists all of them. -/
theorem fill_eq_unresolved_iff (keys : List String) :
    fill values ps = .error (.unresolved keys) ↔
      (∀ k, (values.get? k).isSome = true → k ∈ slotKeys ps)
        ∧ (∃ k, k ∈ slotKeys ps ∧ ¬ (values.get? k).isSome = true)
        ∧ Lists keys fun k => k ∈ slotKeys ps ∧ ¬ (values.get? k).isSome = true := by
  have hlists := lists_unresolved values ps
  have hnil := unresolved_eq_nil_iff values ps
  unfold fill
  rw [← unused_eq_nil_iff]
  by_cases hunused : (values.keys.filter fun k => !(slotKeys ps).contains k) = []
  · rw [if_neg (not_not_intro hunused)]
    by_cases hunresolved : distinct ((slotKeys ps).filter fun k => !values.contains k) = []
    · rw [if_neg (not_not_intro hunresolved)]
      constructor
      · intro h
        cases h
      · rintro ⟨-, ⟨k, hslot, hk⟩, -⟩
        exact absurd (hnil.1 hunresolved k hslot) hk
    · rw [if_pos hunresolved]
      constructor
      · intro h
        cases h
        rw [hnil] at hunresolved
        push Not at hunresolved
        exact ⟨hunused, hunresolved, hlists⟩
      · rintro ⟨-, -, hkeys⟩
        rw [hkeys.unique hlists]
  · rw [if_pos hunused]
    constructor
    · intro h
      cases h
    · rintro ⟨h, -⟩
      exact absurd h hunused

end Filling

/-! ## The outcome -/

/-- **The outcome of a substitution.** A slot that is never closed is the fault of the statement, at the
byte where the first one begins. Else a supplied key without a slot is a fault, which lists all of them;
else a slot without a value is, and lists the keys of all of them; else the statement is filled. Going over
the bytes, or counting the keys that are used, finds the same. -/
theorem substitute_outcome (statement : String) (arguments : List String) :
    (Octets.substitute? statement arguments = some (substitute statement arguments)
      ∧ substituteByCount statement arguments = substitute statement arguments)
    ∧ (∀ position, substitute statement arguments = .error (.unclosed position)
      ↔ BeginsOpen statement.toList position)
    ∧ (∀ keys, substitute statement arguments = .error (.unused keys)
      ↔ SlotsClosed statement.toList
        ∧ (∃ k, (suppliedValue? arguments k).isSome = true
          ∧ k ∉ placeholderKeys (tokens statement.toList))
        ∧ Lists keys fun k => (suppliedValue? arguments k).isSome = true
          ∧ k ∉ placeholderKeys (tokens statement.toList))
    ∧ (∀ keys, substitute statement arguments = .error (.unresolved keys)
      ↔ SlotsClosed statement.toList
        ∧ (∀ k, (suppliedValue? arguments k).isSome = true
          → k ∈ placeholderKeys (tokens statement.toList))
        ∧ (∃ k, k ∈ placeholderKeys (tokens statement.toList)
          ∧ ¬ (suppliedValue? arguments k).isSome = true)
        ∧ Lists keys fun k => k ∈ placeholderKeys (tokens statement.toList)
          ∧ ¬ (suppliedValue? arguments k).isSome = true)
    ∧ ((∃ filled, substitute statement arguments = .ok filled)
      ↔ SlotsClosed statement.toList
        ∧ ∀ k, (suppliedValue? arguments k).isSome = true
          ↔ k ∈ placeholderKeys (tokens statement.toList)) := by
  refine ⟨⟨Octets.substitute?_eq statement arguments, substituteByCount_eq statement arguments⟩, ?_⟩
  by_cases hclosed : SlotsClosed statement.toList
  · -- the keys decide
    obtain ⟨hvalues, hslots⟩ := get?_arguments_and_slotKeys statement arguments
    rw [substitute_of_slotsClosed hclosed]
    refine ⟨fun position => ?_, fun keys => ?_, fun keys => ?_, ?_⟩
    · exact iff_of_false (fill_ne_unclosed _ _ position) (not_beginsOpen hclosed position)
    · rw [fill_eq_unused_iff, hvalues, hslots]
      exact (and_iff_right hclosed).symm
    · rw [fill_eq_unresolved_iff, hvalues, hslots]
      exact (and_iff_right hclosed).symm
    · simp only [fill_eq_ok_iff, hvalues, hslots]
      constructor
      · rintro ⟨filled, hsame, -⟩
        exact ⟨hclosed, hsame⟩
      · rintro ⟨-, hsame⟩
        exact ⟨_, hsame, String.toList_ofList⟩
  · -- the statement is faulty, and no other outcome is possible
    obtain ⟨position, hposition, hfault⟩ := substitute_of_not_slotsClosed hclosed
    have hopen : BeginsOpen statement.toList position := beginsOpen_of_opensAt? hposition
    rw [hfault]
    refine ⟨fun p => ⟨fun h => ?_, fun h => ?_⟩, fun keys => ?_, fun keys => ?_, ?_⟩
    · cases h
      exact hopen
    · rw [hopen.unique h]
    · exact iff_of_false (fun h => by cases h) fun h => hclosed h.1
    · exact iff_of_false (fun h => by cases h) fun h => hclosed h.1
    · exact iff_of_false (fun ⟨filled, h⟩ => by cases h) fun h => hclosed h.1

end MysqlDesk.Template
