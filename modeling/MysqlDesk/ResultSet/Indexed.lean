/-
Result sets with an index of their names.

A row of `ResultSet` finds a column by walking through its names. Where many rows are read by name it is
better to walk once: the index has the place of the last column of each name, it is made when the names
are set, and every row that is added under them gets both. A row that is made by itself makes an index of
its own.

So names are kept twice, and nothing but these functions ties the one form to the other. A row never
looks at its names again: all that it says of them comes from its index.
-/
import MysqlDesk.Dictionary
import MysqlDesk.ResultSet

set_option autoImplicit false

namespace MysqlDesk

/-- The index of a list of names: the place of the last column of each name. -/
def indexColumns (names : List String) : Dictionary Nat :=
  Dictionary.ofPairs names.zipIdx

/-- A row with the names of its columns and their index. -/
structure IndexedRow where
  columns : List String
  cells : List Cell
  index : Dictionary Nat

namespace IndexedRow

/-- A row that is made by itself. -/
def ofCells (columns : List String) (cells : List Cell) : IndexedRow :=
  ⟨columns, cells, indexColumns columns⟩

/-- The place of the column with the given name. -/
def place? (row : IndexedRow) (name : String) : Option Nat :=
  row.index.get? name

/-- The cell at a place. -/
def cell? (row : IndexedRow) (place : Nat) : Option Cell :=
  row.cells[place]?

/-- The cell of the column with the given name. A row may have fewer cells than columns. -/
def get? (row : IndexedRow) (name : String) : Option Cell :=
  (row.place? name).bind row.cell?

/-- The row without its index. -/
def plain (row : IndexedRow) : Row :=
  ⟨row.columns, row.cells⟩

end IndexedRow

/-- The rows of an answer, with the names for the rows to come and their index. -/
structure IndexedSet where
  rows : List IndexedRow
  affected : Nat
  columns : Option (List String)
  index : Dictionary Nat

namespace IndexedSet

/-- The answer without rows, for which no columns are known. -/
def empty : IndexedSet :=
  ⟨[], 0, none, Dictionary.empty⟩

/-- Sets the column names of the rows to come. -/
def setColumns (rs : IndexedSet) (names : List String) : IndexedSet :=
  { rs with columns := some names, index := indexColumns names }

/-- Adds a row under the current column names, which shares their index. -/
def addRow (rs : IndexedSet) (cells : List Cell) : IndexedSet :=
  match rs.columns with
  | none => rs
  | some names =>
    { rs with rows := rs.rows ++ [⟨names, cells, rs.index⟩], affected := rs.affected + 1 }

/-- Appends a row that has column names of its own. -/
def append (rs : IndexedSet) (row : IndexedRow) : IndexedSet :=
  { rs with rows := rs.rows ++ [row] }

/-- The result set without indexes. -/
def plain (rs : IndexedSet) : ResultSet :=
  ⟨rs.columns, rs.rows.map IndexedRow.plain, rs.affected⟩

end IndexedSet

end MysqlDesk
