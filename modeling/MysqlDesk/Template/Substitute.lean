/-
Filling the slots of a statement template.

Values come as a flat list of keys and values by turns. A key at the end without a value is left
out, and the last value of a key counts. Every value must have a slot and every slot a value; values
without a slot are reported before slots without a value, and both with their keys in ascending
order. A value is put in as it is: quotes and slots inside it mean nothing.
-/
import MysqlDesk.Dictionary
import MysqlDesk.Template.Piece

set_option autoImplicit false

namespace MysqlDesk.Template

/-- Why a template cannot be filled. -/
inductive Fault where
  /-- A slot is never closed. -/
  | unclosed (position : Nat)
  /-- Some values have no slot. -/
  | unused (keys : List String)
  /-- Some slots have no value. -/
  | unresolved (keys : List String)
  deriving DecidableEq

/-- The message of a fault. -/
def Fault.message : Fault → String
  | .unclosed position => s!"unclosed substitution at position {position}"
  | .unused keys => "placeholder missing for " ++ ",".intercalate keys
  | .unresolved keys => "key/value missing for " ++ ",".intercalate keys

/-- The pairs of a flat list of keys and values. -/
def pairUp : List String → List (String × String)
  | key :: value :: rest => (key, value) :: pairUp rest
  | _ => []

/-- The given keys in ascending order and without repetition. -/
def distinct (keys : List String) : List String :=
  (Dictionary.ofPairs (keys.map fun key => (key, ()))).keys

/-- The text of a piece. A slot without a value has none. -/
def fillPiece (values : Dictionary String) : Piece → List Char
  | .verbatim c => [c]
  | .slot key => ((values.get? key).getD "").toList

/-- The statement in which every slot has its value, or the fault that comes first in order. -/
def fill (values : Dictionary String) (ps : List Piece) : Except Fault String :=
  let wanted := slotKeys ps
  let unused := values.keys.filter fun key => !wanted.contains key
  let unresolved := distinct (wanted.filter fun key => !values.contains key)
  if unused ≠ [] then .error (.unused unused)
  else if unresolved ≠ [] then .error (.unresolved unresolved)
  else .ok (String.ofList (ps.flatMap (fillPiece values)))

/-- Fills the slots of `statement` with the values of the flat list `arguments`. -/
def substitute (statement : String) (arguments : List String) : Except Fault String :=
  match pieces statement with
  | .error u => .error (.unclosed u.position)
  | .ok ps => fill (Dictionary.ofPairs (pairUp arguments)) ps

end MysqlDesk.Template
