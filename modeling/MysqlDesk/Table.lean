/-
Tables: finding them, and their comments.

Where a schema can be given, none and the empty name both mean the schema in use.

A comment becomes part of a statement as a string literal. Backslashes are written twice and so are
single quotes. In the usual mode of the server a backslash escapes the next character, so the literal
stands for the comment itself; in the mode in which it is an ordinary character the comment is stored
with its backslashes doubled. In either mode the literal ends where it should.
-/
import MysqlDesk.Schema

set_option autoImplicit false

namespace MysqlDesk.Table

/-! ## Literals -/

/-- How a character is written in a string literal. -/
def literalChar (c : Char) : List Char :=
  if c = '\\' then ['\\', '\\']
  else if c = '\'' then ['\'', '\'']
  else [c]

/-- A text as a string literal. -/
def literal (s : String) : String :=
  String.ofList ('\'' :: s.toList.flatMap literalChar ++ ['\''])

/-! ## Look-ups -/

/-- The schema to be named, if any. -/
def named (schema : Option String) : Option String :=
  schema.filter fun name => name != ""

/-- The look-up behind `isThere`. -/
def findQuery : String :=
  "SELECT 1 FROM information_schema.TABLES WHERE TABLE_SCHEMA = ? AND TABLE_NAME = ?"

/-- Whether the schema in use has a table of this name. -/
def isThere (name : String) : Call Bool := do
  let schema ← Schema.current
  let found ← Call.lookUpValue? findQuery [.text schema, .text name]
  return found.isSome

/-- The look-up of a comment in a named schema. -/
def commentQuery : String :=
  "SELECT TABLE_COMMENT FROM information_schema.TABLES WHERE TABLE_NAME = ? AND TABLE_SCHEMA = ?"

/-- The look-up of a comment in the schema in use. -/
def currentCommentQuery : String :=
  "SELECT TABLE_COMMENT FROM information_schema.TABLES "
    ++ "WHERE TABLE_NAME = ? AND TABLE_SCHEMA = SCHEMA()"

/-- The comment of a table. A table that does not exist gives no rows, which is an error. -/
def comment (table : String) (schema : Option String) : Call String :=
  match named schema with
  | some name => Call.lookUpText commentQuery [.text table, .text name]
  | none => Call.lookUpText currentCommentQuery [.text table]

/-- The comment of a table, read as JSON. -/
def commentJson (table : String) (schema : Option String) : Call Json.Value := do
  let text ← comment table schema
  Call.ofOutcome ((Json.Value.ofText? text).mapError fun cause => .json (.unreadable cause))

/-! ## Changes -/

/-- The name of a table in a statement, with its schema if that is to be named. -/
def target (table : String) (schema : Option String) : Call String :=
  match named schema with
  | some name => Call.statement "$(schema).$(table)" ["schema", name, "table", table]
  | none => return table

/-- Sets the comment of a table. -/
def setComment (table : String) (comment : String) (schema : Option String) : Call Unit := do
  let place ← target table schema
  let sql ← Call.statement "ALTER TABLE $(table) COMMENT = $(comment)"
    ["table", place, "comment", literal comment]
  Call.perform sql []

/-- Sets the comment of a table to the JSON text of some data. Data that has none is refused before
anything is sent. -/
def setCommentJson {α : Type} [Json.ToValue α] (table : String) (data : α)
    (schema : Option String) : Call Unit := do
  let value ← Call.ofOutcome
    ((Json.ToValue.toValue data).mapError fun cause => .json (.unwritable cause))
  setComment table value.toText schema

end MysqlDesk.Table
