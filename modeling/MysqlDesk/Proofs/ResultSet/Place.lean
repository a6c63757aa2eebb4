/-
Which column answers to a name.

Names need not be distinct, and the last column of a name is the one that counts. This file says so in
terms of the list of names alone (`LastAt`), without the walk that finds it. So a look-up by name is the
cell at that place, if the row is long enough to have one there.
-/
import MysqlDesk.ResultSet

set_option autoImplicit false

namespace MysqlDesk

/-- The last of the places at which a list has a name. -/
structure LastAt (name : String) (names : List String) (place : Nat) : Prop where
  here : names[place]? = some name
  last : ∀ later, place < later → names[later]? ≠ some name

section

variable {name column : String} {names rest : List String}

theorem LastAt.unique {p q : Nat} (hp : LastAt name names p) (hq : LastAt name names q) : p = q := by
  rcases Nat.lt_trichotomy p q with hlt | heq | hlt
  · exact absurd hq.here (hp.last q hlt)
  · exact heq
  · exact absurd hp.here (hq.last p hlt)

theorem lastAt_cons_zero_iff : LastAt name (column :: rest) 0 ↔ column = name ∧ name ∉ rest := by
  constructor
  · rintro ⟨hhere, hlast⟩
    refine ⟨Option.some.inj hhere, fun hmem => ?_⟩
    obtain ⟨place, hplace⟩ := List.getElem?_of_mem hmem
    exact hlast (place + 1) (Nat.succ_pos place) hplace
  · rintro ⟨rfl, hrest⟩
    refine ⟨rfl, fun later hlater hname => hrest ?_⟩
    cases later with
    | zero => exact absurd hlater (Nat.lt_irrefl 0)
    | succ later => exact List.mem_of_getElem? hname

theorem lastAt_cons_succ_iff {place : Nat} :
    LastAt name (column :: rest) (place + 1) ↔ LastAt name rest place := by
  constructor
  · rintro ⟨hhere, hlast⟩
    exact ⟨hhere, fun later hlater => hlast (later + 1) (Nat.succ_lt_succ hlater)⟩
  · rintro ⟨hhere, hlast⟩
    refine ⟨hhere, fun later hlater => ?_⟩
    cases later with
    | zero => exact absurd hlater (Nat.not_lt_zero _)
    | succ later => exact hlast later (Nat.lt_of_succ_lt_succ hlater)

/-- In a list of distinct names every place is the last one of its name. -/
theorem lastAt_iff_of_nodup (h : names.Nodup) {place : Nat} :
    LastAt name names place ↔ names[place]? = some name := by
  refine ⟨LastAt.here, fun hhere => ⟨hhere, fun later hlater hname => ?_⟩⟩
  have hlt : place < names.length := (List.getElem?_eq_some_iff.1 hhere).1
  exact absurd ((List.getElem?_inj hlt h).1 (hhere.trans hname.symm)) (Nat.ne_of_lt hlater)

namespace Row

theorem lastPlace?_eq_none_iff {start : Nat} : lastPlace? name start names = none ↔ name ∉ names := by
  induction names generalizing start with
  | nil => exact iff_of_true rfl List.not_mem_nil
  | cons column rest ih =>
    rw [lastPlace?, List.mem_cons, not_or]
    cases hrest : lastPlace? name (start + 1) rest with
    | some found =>
      have hmem : ¬ name ∉ rest := fun h => by
        rw [ih.2 h] at hrest
        cases hrest
      exact iff_of_false (fun h => by cases h) fun h => hmem h.2
    | none =>
      rw [and_iff_left (ih.1 hrest)]
      by_cases hcolumn : column = name
      · simp [hcolumn]
      · simp [hcolumn, Ne.symm hcolumn]

/-- The walk ends at the last place of the name, counted from where it starts. -/
theorem lastPlace?_eq_some_iff {start place : Nat} :
    lastPlace? name start names = some place ↔ ∃ i, place = start + i ∧ LastAt name names i := by
  induction names generalizing start place with
  | nil =>
    refine iff_of_false (fun h => by cases h) ?_
    rintro ⟨i, -, ⟨hhere, -⟩⟩
    cases hhere
  | cons column rest ih =>
    rw [lastPlace?]
    cases hrest : lastPlace? name (start + 1) rest with
    | some found =>
      -- a later column of the name counts
      obtain ⟨i, hi, hlast⟩ := ih.1 hrest
      have hwhole : LastAt name (column :: rest) (i + 1) := lastAt_cons_succ_iff.2 hlast
      constructor
      · intro h
        obtain rfl := Option.some.inj h
        exact ⟨i + 1, by omega, hwhole⟩
      · rintro ⟨j, hj, hother⟩
        obtain rfl := hother.unique hwhole
        exact congrArg some (by omega)
    | none =>
      have hnot : name ∉ rest := lastPlace?_eq_none_iff.1 hrest
      have hzero (j : Nat) (h : LastAt name (column :: rest) j) : j = 0 := by
        cases j with
        | zero => rfl
        | succ j => exact absurd (List.mem_of_getElem? (lastAt_cons_succ_iff.1 h).here) hnot
      by_cases hcolumn : column = name
      · have hfirst : LastAt name (column :: rest) 0 := lastAt_cons_zero_iff.2 ⟨hcolumn, hnot⟩
        simp only [if_pos hcolumn, Option.some.injEq]
        constructor
        · rintro rfl
          exact ⟨0, rfl, hfirst⟩
        · rintro ⟨j, hj, hother⟩
          rw [hzero j hother] at hj
          exact hj.symm
      · simp only [if_neg hcolumn]
        refine iff_of_false (fun h => by cases h) ?_
        rintro ⟨j, -, hother⟩
        rw [hzero j hother] at hother
        exact hcolumn (lastAt_cons_zero_iff.1 hother).1

variable {row : Row}

theorem place?_eq_some_iff {place : Nat} :
    row.place? name = some place ↔ LastAt name row.columns place := by
  rw [place?, lastPlace?_eq_some_iff]
  constructor
  · rintro ⟨i, hi, hlast⟩
    rwa [hi, Nat.zero_add]
  · exact fun h => ⟨place, (Nat.zero_add place).symm, h⟩

theorem place?_eq_none_iff : row.place? name = none ↔ name ∉ row.columns :=
  lastPlace?_eq_none_iff

/-- The cell of a name stands at the last place of the name. -/
theorem get?_eq_some_iff {cell : Cell} :
    row.get? name = some cell ↔
      ∃ place, LastAt name row.columns place ∧ row.cells[place]? = some cell := by
  rw [get?, Option.bind_eq_some_iff]
  simp only [place?_eq_some_iff, cell?]

end Row

end

end MysqlDesk
