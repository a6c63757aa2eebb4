/-
Lists that are read entry by entry.

Parameters of a name, destinations of a variable and rows of a log are read in the same way: each entry
by itself, from the first to the last, and the first one that cannot be read ends it all. So such a
reading has two laws, one for each way in which it can end, and both are equivalences. It succeeds exactly
if every entry is read, with one value for each entry; and it fails with the error of an entry exactly if
all entries before that one are read.
-/
import Mathlib.Data.List.Forall2

set_option autoImplicit false

namespace MysqlDesk

/-- A list has a first element without the property, or all of its elements have it. -/
theorem forall_or_exists_first {α : Type} (good : α → Prop) [DecidablePred good] (l : List α) :
    (∀ x ∈ l, good x) ∨
      ∃ before x after, l = before ++ x :: after ∧ (∀ y ∈ before, good y) ∧ ¬ good x := by
  induction l with
  | nil => exact Or.inl fun x hx => absurd hx List.not_mem_nil
  | cons x l ih =>
    by_cases hx : good x
    · rcases ih with hall | ⟨before, y, after, rfl, hbefore, hy⟩
      · exact Or.inl (List.forall_mem_cons.2 ⟨hx, hall⟩)
      · exact Or.inr ⟨x :: before, y, after, rfl, List.forall_mem_cons.2 ⟨hx, hbefore⟩, hy⟩
    · exact Or.inr ⟨[], x, l, rfl, fun y hy => absurd hy List.not_mem_nil, hx⟩

section

variable {α β ε : Type}

theorem bind_eq_ok_iff {x : Except ε α} {f : α → Except ε β} {b : β} :
    x >>= f = .ok b ↔ ∃ a, x = .ok a ∧ f a = .ok b := by
  cases x with
  | error e => exact iff_of_false (fun h => by cases h) fun ⟨_, h, _⟩ => by cases h
  | ok a => exact ⟨fun h => ⟨a, rfl, h⟩, fun ⟨_, ha, h⟩ => by cases ha; exact h⟩

theorem bind_eq_error_iff {x : Except ε α} {f : α → Except ε β} {e : ε} :
    x >>= f = .error e ↔ x = .error e ∨ ∃ a, x = .ok a ∧ f a = .error e := by
  cases x with
  | error e' =>
    refine ⟨fun h => Or.inl (congrArg Except.error (Except.error.inj h)), ?_⟩
    rintro (h | ⟨_, h, _⟩)
    · exact congrArg Except.error (Except.error.inj h)
    · cases h
  | ok a =>
    refine ⟨fun h => Or.inr ⟨a, rfl, h⟩, ?_⟩
    rintro (h | ⟨_, ha, h⟩)
    · cases h
    · cases ha
      exact h

variable {f : α → Except ε β}

/-- The reading of a list, by its first entry and the reading of the others. -/
theorem mapM_cons_eq_bind (x : α) (xs : List α) :
    (x :: xs).mapM f = (f x).bind fun y => (xs.mapM f).map (y :: ·) := by
  rw [List.mapM_cons]
  cases f x with
  | error e => rfl
  | ok y => cases xs.mapM f <;> rfl

/-- All entries are read, and the values are theirs, in order. -/
theorem mapM_eq_ok_iff {xs : List α} {ys : List β} :
    xs.mapM f = .ok ys ↔ List.Forall₂ (fun x y => f x = .ok y) xs ys := by
  induction xs generalizing ys with
  | nil =>
    rw [List.forall₂_nil_left_iff]
    exact ⟨fun h => (Except.ok.inj h).symm, fun h => congrArg Except.ok h.symm⟩
  | cons x xs ih =>
    rw [mapM_cons_eq_bind, List.forall₂_cons_left_iff]
    cases hx : f x with
    | error e => simp [Except.bind]
    | ok y =>
      cases hxs : xs.mapM f with
      | error e => simp [Except.bind, Except.map, ← ih, hxs]
      | ok rest => simp [Except.bind, Except.map, ← ih, hxs, eq_comm]

theorem exists_mapM_eq_ok_iff {xs : List α} :
    (∃ ys, xs.mapM f = .ok ys) ↔ ∀ x ∈ xs, ∃ y, f x = .ok y := by
  induction xs with
  | nil => exact ⟨fun _ x hx => absurd hx List.not_mem_nil, fun _ => ⟨[], rfl⟩⟩
  | cons x xs ih =>
    rw [List.forall_mem_cons, ← ih]
    constructor
    · rintro ⟨ys, h⟩
      cases mapM_eq_ok_iff.1 h with
      | cons hx hxs => exact ⟨⟨_, hx⟩, _, mapM_eq_ok_iff.2 hxs⟩
    · rintro ⟨⟨y, hx⟩, ys, hxs⟩
      exact ⟨y :: ys, mapM_eq_ok_iff.2 (.cons hx (mapM_eq_ok_iff.1 hxs))⟩

/-- The error is that of an entry before which all are read. -/
theorem mapM_eq_error_iff {xs : List α} {e : ε} :
    xs.mapM f = .error e ↔
      ∃ before x after, xs = before ++ x :: after ∧ (∀ z ∈ before, ∃ y, f z = .ok y)
        ∧ f x = .error e := by
  constructor
  · intro h
    induction xs with
    | nil => cases h
    | cons x xs ih =>
      rw [mapM_cons_eq_bind] at h
      cases hx : f x with
      | error e' =>
        rw [hx] at h
        obtain rfl : e' = e := Except.error.inj h
        exact ⟨[], x, xs, rfl, fun z hz => absurd hz List.not_mem_nil, hx⟩
      | ok y =>
        rw [hx] at h
        cases hxs : xs.mapM f with
        | ok rest =>
          rw [hxs] at h
          cases h
        | error e' =>
          rw [hxs] at h
          obtain rfl : e' = e := Except.error.inj h
          obtain ⟨before, z, after, rfl, hbefore, hz⟩ := ih hxs
          exact ⟨x :: before, z, after, rfl, List.forall_mem_cons.2 ⟨⟨y, hx⟩, hbefore⟩, hz⟩
  · rintro ⟨before, x, after, rfl, hbefore, hx⟩
    induction before with
    | nil =>
      rw [List.nil_append, mapM_cons_eq_bind, hx]
      rfl
    | cons z before ih =>
      obtain ⟨⟨y, hz⟩, hrest⟩ := List.forall_mem_cons.1 hbefore
      rw [List.cons_append, mapM_cons_eq_bind, hz, ih hrest]
      rfl

end

end MysqlDesk
