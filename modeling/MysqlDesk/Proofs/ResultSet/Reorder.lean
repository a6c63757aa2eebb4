/-
Columns in another order.

An order is a list of places, and to put a list in that order is to take what stands at each of them. If
the places are all the places of the list, each once, nothing is lost and nothing is doubled. When the
names of a row and its cells are put in the same order, every name keeps its cell, as long as the names are
distinct and each of them has one.
-/
import Mathlib.Data.List.Perm.Basic
import MysqlDesk.Proofs.ResultSet.Place

set_option autoImplicit false

namespace MysqlDesk

/-- What stands at the places of `order`, one after the other. -/
def reorder {α : Type} (order : List Nat) (l : List α) : List α :=
  order.filterMap fun place => l[place]?

section

variable {α : Type} {order : List Nat} {l : List α}

theorem getElem?_reorder (h : ∀ place ∈ order, place < l.length) (i : Nat) :
    (reorder order l)[i]? = order[i]?.bind fun place => l[place]? := by
  induction order generalizing i with
  | nil => rfl
  | cons place order ih =>
    obtain ⟨hplace, horder⟩ := List.forall_mem_cons.1 h
    rw [reorder, List.filterMap_cons_some (List.getElem?_eq_getElem hplace)]
    cases i with
    | zero => exact (List.getElem?_eq_getElem hplace).symm
    | succ i => exact ih horder i

/-- The places of a list in their own order give the list. -/
theorem reorder_range (l : List α) : reorder (List.range l.length) l = l := by
  refine List.ext_getElem? fun i => ?_
  rw [getElem?_reorder fun place hplace => List.mem_range.1 hplace]
  by_cases hi : i < l.length
  · rw [List.getElem?_range hi]
    rfl
  · have hlength : (List.range l.length).length ≤ i := by
      rw [List.length_range]
      exact Nat.le_of_not_lt hi
    rw [List.getElem?_eq_none hlength, List.getElem?_eq_none (Nat.le_of_not_lt hi)]
    rfl

theorem reorder_perm (h : order.Perm (List.range l.length)) : (reorder order l).Perm l := by
  have hperm := h.filterMap fun place => l[place]?
  have hrange : (List.range l.length).filterMap (fun place => l[place]?) = l := reorder_range l
  rwa [hrange] at hperm

end

namespace Row

/-- The row with its columns in another order. -/
def reorder (order : List Nat) (row : Row) : Row :=
  ⟨MysqlDesk.reorder order row.columns, MysqlDesk.reorder order row.cells⟩

/-- The names of the row are distinct, each of them has a cell, and the order has each of their places
once. -/
structure Reorderable (order : List Nat) (row : Row) : Prop where
  distinct : row.columns.Nodup
  whole : row.cells.length = row.columns.length
  places : order.Perm (List.range row.columns.length)

/-- **Every name keeps its cell.** -/
theorem get?_reorder {order : List Nat} {row : Row} (h : Reorderable order row) (name : String) :
    (row.reorder order).get? name = row.get? name := by
  have hcolumns : ∀ place ∈ order, place < row.columns.length := fun place hplace =>
    List.mem_range.1 (h.places.subset hplace)
  have hcells : ∀ place ∈ order, place < row.cells.length := fun place hplace =>
    h.whole ▸ hcolumns place hplace
  have hdistinct : (row.reorder order).columns.Nodup :=
    (reorder_perm h.places).nodup_iff.2 h.distinct
  refine Option.ext fun cell => ?_
  rw [get?_eq_some_iff, get?_eq_some_iff]
  simp only [lastAt_iff_of_nodup hdistinct, lastAt_iff_of_nodup h.distinct]
  simp only [reorder, getElem?_reorder hcolumns, getElem?_reorder hcells]
  constructor
  · rintro ⟨i, hname, hcell⟩
    obtain ⟨place, hplace, hname⟩ := Option.bind_eq_some_iff.1 hname
    rw [hplace] at hcell
    exact ⟨place, hname, hcell⟩
  · rintro ⟨place, hname, hcell⟩
    have hlt : place < row.columns.length := (List.getElem?_eq_some_iff.1 hname).1
    obtain ⟨i, hi⟩ := List.getElem?_of_mem (h.places.symm.subset (List.mem_range.2 hlt))
    refine ⟨i, ?_, ?_⟩
    · rw [hi]
      exact hname
    · rw [hi]
      exact hcell

end Row

/-- The result set with its columns in another order. -/
def ResultSet.reorder (order : List Nat) (rs : ResultSet) : ResultSet :=
  { rs with
    columns := rs.columns.map (MysqlDesk.reorder order)
    rows := rs.rows.map (Row.reorder order) }

end MysqlDesk
