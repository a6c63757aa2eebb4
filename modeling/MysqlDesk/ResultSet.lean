/-
Result sets.

A result set holds the rows of an answer in order. A row keeps the column names it was added under,
so later changes of the names do not reach it. If a name is used for several columns, the last of
them answers to it.

Rows are counted as they are added. Before the column names are set there is no way to read a row,
so adding one is ignored; a row that is appended with names of its own is kept but not counted.
-/
import MysqlDesk.Cell

set_option autoImplicit false

namespace MysqlDesk

/-- A row with the names of its columns. -/
structure Row where
  columns : List String
  cells : List Cell
  deriving Inhabited

namespace Row

/-- The place of the last column with the given name in a list of names that begins at `place`. -/
def lastPlace? (name : String) (place : Nat) : List String → Option Nat
  | [] => none
  | column :: rest =>
    match lastPlace? name (place + 1) rest with
    | some found => some found
    | none => if column = name then some place else none

/-- The place of the column with the given name. -/
def place? (row : Row) (name : String) : Option Nat :=
  lastPlace? name 0 row.columns

/-- The cell at a place. -/
def cell? (row : Row) (place : Nat) : Option Cell :=
  row.cells[place]?

/-- The cell of the column with the given name. A row may have fewer cells than columns. -/
def get? (row : Row) (name : String) : Option Cell :=
  (row.place? name).bind row.cell?

end Row

/-- The rows of an answer. -/
structure ResultSet where
  columns : Option (List String)
  rows : List Row
  affected : Nat
  deriving Inhabited

namespace ResultSet

/-- The answer without rows, for which no columns are known. -/
def empty : ResultSet :=
  ⟨none, [], 0⟩

/-- Sets the column names of the rows to come. -/
def setColumns (rs : ResultSet) (names : List String) : ResultSet :=
  { rs with columns := some names }

/-- Adds a row under the current column names. -/
def addRow (rs : ResultSet) (cells : List Cell) : ResultSet :=
  match rs.columns with
  | none => rs
  | some names => { rs with rows := rs.rows ++ [⟨names, cells⟩], affected := rs.affected + 1 }

/-- Appends a row that has column names of its own. -/
def append (rs : ResultSet) (row : Row) : ResultSet :=
  { rs with rows := rs.rows ++ [row] }

/-- The answer with these columns and rows. -/
def ofRows (columns : List String) (rows : List (List Cell)) : ResultSet :=
  rows.foldl addRow (empty.setColumns columns)

/-- Rows are added behind those that are there, under the names in force, and counted. -/
theorem foldl_addRow {rs : ResultSet} {names : List String} (h : rs.columns = some names)
    (rows : List (List Cell)) :
    rows.foldl addRow rs
      = ⟨some names, rs.rows ++ rows.map fun cells => ⟨names, cells⟩, rs.affected + rows.length⟩ := by
  induction rows generalizing rs with
  | nil =>
    rw [List.foldl_nil, List.map_nil, List.append_nil, ← h]
    rfl
  | cons cells rows ih =>
    have hadd : rs.addRow cells
        = ⟨some names, rs.rows ++ [⟨names, cells⟩], rs.affected + 1⟩ := by
      rw [addRow, h]
    rw [List.foldl_cons, hadd, ih rfl, List.map_cons, List.append_assoc, List.length_cons,
      Nat.add_assoc, Nat.add_comm 1]
    rfl

theorem ofRows_eq (columns : List String) (rows : List (List Cell)) :
    ofRows columns rows
      = ⟨some columns, rows.map fun cells => ⟨columns, cells⟩, rows.length⟩ := by
  rw [ofRows, foldl_addRow rfl]
  simp only [empty, setColumns, List.nil_append, Nat.zero_add]

/-- The first cell of the first row, which is the whole answer of a look-up. -/
def first? (rs : ResultSet) : Option Cell :=
  rs.rows.head?.bind fun row => row.cell? 0

end ResultSet

end MysqlDesk
