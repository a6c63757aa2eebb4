/-
Schemas: creating, dropping and finding them.

The server takes no parameter in the place of a name, so the name of a schema becomes part of the
statement as it is.
-/
import MysqlDesk.Program

set_option autoImplicit false

namespace MysqlDesk.Schema

/-- Creates a schema. -/
def create (name : String) : Call Unit := do
  let sql ← Call.statement "CREATE SCHEMA $(name)" ["name", name]
  Call.perform sql []

/-- Drops a schema. -/
def drop (name : String) : Call Unit := do
  let sql ← Call.statement "DROP SCHEMA $(name)" ["name", name]
  Call.perform sql []

/-- The look-up behind `isThere`. -/
def findQuery : String :=
  "SELECT 1 FROM information_schema.SCHEMATA WHERE SCHEMA_NAME = ?"

/-- Whether there is a schema of this name. -/
def isThere (name : String) : Call Bool := do
  let found ← Call.lookUpValue? findQuery [.text name]
  return found.isSome

/-- The name of the schema in use; empty if none is. -/
def current : Call String :=
  Call.lookUpText "SELECT SCHEMA()" []

end MysqlDesk.Schema
