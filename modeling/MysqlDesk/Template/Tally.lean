/-
Filling a template in one pass.

The pieces of a template are gone through once. The pass writes the text and keeps account of two sets of
keys: those of slots that were filled, and those of slots without a value. Whether a value is left over is
then seen from numbers alone: there are as many keys with a value as keys that were used, or some key was
not used.
-/
import MysqlDesk.Template.Substitute

set_option autoImplicit false

namespace MysqlDesk.Template

/-- What a pass over some pieces has written, and the keys that it has met. -/
structure Tally where
  text : List Char
  /-- The keys of the slots that were filled. -/
  used : Dictionary Unit
  /-- The keys of the slots without a value. -/
  missing : Dictionary Unit

/-- Before the first piece. -/
def Tally.start : Tally :=
  ⟨[], Dictionary.empty, Dictionary.empty⟩

/-- Takes the next piece. -/
def Tally.add (values : Dictionary String) (t : Tally) : Piece → Tally
  | .verbatim c => { t with text := t.text ++ [c] }
  | .slot key =>
    match values.get? key with
    | some value => { t with text := t.text ++ value.toList, used := t.used.insert key () }
    | none => { t with missing := t.missing.insert key () }

/-- The filled pieces, where a value is known to be left over by the number of keys that were used. -/
def fillByCount (values : Dictionary String) (ps : List Piece) : Except Fault String :=
  let t := ps.foldl (Tally.add values) Tally.start
  if values.keys.length ≠ t.used.keys.length then
    .error (.unused (values.keys.filter fun key => !t.used.contains key))
  else if t.missing.keys ≠ [] then .error (.unresolved t.missing.keys)
  else .ok (String.ofList t.text)

/-- Fills the slots of `statement` in one pass over its pieces. -/
def substituteByCount (statement : String) (arguments : List String) : Except Fault String :=
  match pieces statement with
  | .error u => .error (.unclosed u.position)
  | .ok ps => fillByCount (Dictionary.ofPairs (pairUp arguments)) ps

end MysqlDesk.Template
