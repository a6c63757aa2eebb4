/-
Answers that differ in how their texts are delivered.

A server is free to deliver a text as text or as bytes, and some of its own tables have both kinds of
columns for what is text to a reader. Two answers are alike here if they are the same apart from that:
where one has a text, the other may have the bytes of that text. A column can be named in which not even
this is allowed, because what is read in it is not text (`exact`).

What has to be known of such answers is what the views of a cell say of them. The lenient view of a text
gives the same for both forms, since decoding undoes encoding; a view that knows neither form gives nothing
for both; and any view at all gives the same in a column that is exact. The lemmas go up from cells to
rows, and from rows to the one cell that a look-up asks for.
-/
import Mathlib.Data.List.Forall2
import MysqlDesk.Program
import MysqlDesk.Proofs.ResultSet.Place
import MysqlDesk.Proofs.Text.Utf8

set_option autoImplicit false

namespace MysqlDesk

/-! ## Cells -/

/-- The cells are the same, or one has a text and the other its bytes. -/
inductive Cell.SameText : Cell → Cell → Prop where
  | same (c : Cell) : SameText c c
  | asBytes (x : String) : SameText (.text x) (.blob (Text.Utf8.encode x.toList))
  | asText (x : String) : SameText (.blob (Text.Utf8.encode x.toList)) (.text x)

theorem lossyText?_encode (x : String) :
    (Cell.blob (Text.Utf8.encode x.toList)).lossyText? = some x := by
  show some (String.ofList (Text.Utf8.decodeLossy (Text.Utf8.encode x.toList))) = some x
  rw [Text.Utf8.decodeLossy_encode, String.ofList_toList]

theorem Cell.SameText.lossyText? {c c' : Cell} (h : c.SameText c') :
    c.lossyText? = c'.lossyText? := by
  cases h with
  | same => rfl
  | asBytes x => exact (lossyText?_encode x).symm
  | asText x => exact lossyText?_encode x

/-- No form of a text is an integer. -/
theorem Cell.SameText.int? {c c' : Cell} (h : c.SameText c') : c.int? = c'.int? := by
  cases h <;> rfl

theorem Cell.SameText.answerText {c c' : Cell} (h : c.SameText c') :
    c.answerText = c'.answerText := by
  unfold Cell.answerText
  rw [h.lossyText?]

/-! ## Rows -/

/-- The rows have the same columns and, cell by cell, the same texts; in exact columns they have the same
cells. -/
structure Row.Alike (exact : String → Prop) (r r' : Row) : Prop where
  columns : r'.columns = r.columns
  cells : ∀ place, Option.Rel Cell.SameText (r.cell? place) (r'.cell? place)
  exactCells : ∀ place name, r.columns[place]? = some name → exact name →
    r'.cell? place = r.cell? place

theorem Row.columns_of_place? {r : Row} {name : String} {place : Nat}
    (h : r.place? name = some place) : r.columns[place]? = some name :=
  (Row.place?_eq_some_iff.1 h).here

section

variable {exact : String → Prop} {r r' : Row}

theorem Row.Alike.place? (h : Row.Alike exact r r') (name : String) :
    r'.place? name = r.place? name := by
  unfold Row.place?
  rw [h.columns]

/-- The cells of a name have the same text. -/
theorem Row.Alike.get? (h : Row.Alike exact r r') (name : String) :
    Option.Rel Cell.SameText (r.get? name) (r'.get? name) := by
  unfold Row.get?
  rw [h.place? name]
  cases r.place? name with
  | none => exact .none
  | some place => exact h.cells place

theorem Row.Alike.get?_of_exact (h : Row.Alike exact r r') {name : String} (hname : exact name) :
    r'.get? name = r.get? name := by
  unfold Row.get?
  rw [h.place? name]
  cases hplace : r.place? name with
  | none => rfl
  | some place => exact h.exactCells place name (Row.columns_of_place? hplace) hname

end

/-- Cells with the same text have the same views, if the view does not tell the forms of a text apart. -/
theorem bind_of_sameText {α : Type} {view : Cell → Option α}
    (hview : ∀ c c', Cell.SameText c c' → view c = view c') {o o' : Option Cell}
    (h : Option.Rel Cell.SameText o o') : o.bind view = o'.bind view := by
  cases h with
  | none => rfl
  | some hsame => exact hview _ _ hsame

/-! ## Result sets -/

/-- The result sets are the same, row by row, apart from the delivery of texts. -/
structure ResultSet.Alike (exact : String → Prop) (rs rs' : ResultSet) : Prop where
  columns : rs'.columns = rs.columns
  rows : List.Forall₂ (Row.Alike exact) rs.rows rs'.rows
  affected : rs'.affected = rs.affected

/-- A look-up finds the same text. -/
theorem ResultSet.Alike.first? {exact : String → Prop} {rs rs' : ResultSet}
    (h : ResultSet.Alike exact rs rs') : Option.Rel Cell.SameText rs.first? rs'.first? := by
  unfold ResultSet.first?
  have hrows := h.rows
  generalize rs.rows = rows at hrows ⊢
  generalize rs'.rows = rows' at hrows ⊢
  cases hrows with
  | nil => exact .none
  | cons hrow _ => exact hrow.cells 0

/-! ## Outcomes -/

/-- Both outcomes are the same error, or both are values that are related. -/
inductive Outcome.Alike {α β : Type} (rel : α → β → Prop) : Outcome α → Outcome β → Prop where
  | ok {a : α} {b : β} (h : rel a b) : Alike rel (.ok a) (.ok b)
  | error (e : Error) : Alike rel (.error e) (.error e)

theorem Outcome.Alike.eq {α : Type} {o o' : Outcome α} (h : Outcome.Alike Eq o o') : o = o' := by
  cases h with
  | ok h => rw [h]
  | error e => rfl

theorem Outcome.Alike.refl {α : Type} (o : Outcome α) : Outcome.Alike Eq o o := by
  cases o with
  | ok a => exact .ok rfl
  | error e => exact .error e

end MysqlDesk
