/-
Filling a template from its bytes.

The marks of a template are ASCII characters, so its slots can be found without decoding it: the same
machine that reads characters runs over the bytes and notes, as places, the stretches to be copied
and the stretches that are keys. Only these stretches are decoded.

A stretch has a text only if it lies within the statement and neither of its ends is inside a
character. Nothing in the types promises that, so a filling from bytes may be missing.
-/
import MysqlDesk.Template.Substitute

set_option autoImplicit false

namespace MysqlDesk.Template.Octets

/-- The bytes from the place `first` up to the place `after`. -/
structure Stretch where
  first : Nat
  after : Nat
  deriving DecidableEq

/-- A part of a template: bytes that stand for themselves, or a slot with the bytes of its key. -/
inductive Part where
  | copied (text : Stretch)
  | slot (key : Stretch)
  deriving DecidableEq

/-- The bytes of the three quote characters. -/
def isQuote (b : UInt8) : Bool :=
  b == 0x27 || b == 0x22 || b == 0x60

/-- Where the reader is: in plain text, in a quotation, between the two characters that open the slot
at `opened`, or in the key of that slot. -/
inductive Mode where
  | plain
  | quoted (mark : UInt8)
  | opening (opened : Nat)
  | key (opened : Nat)
  deriving DecidableEq

/-- The parts of a template from the byte at `place` on. The bytes since `start` are not yet part of
a stretch. -/
def partsFrom : Mode → Nat → Nat → List UInt8 → Except Unclosed (List Part)
  | .plain, start, place, [] => .ok [.copied ⟨start, place⟩]
  | .quoted _, start, place, [] => .ok [.copied ⟨start, place⟩]
  | .opening opened, _, _, [] => .error ⟨opened⟩
  | .key opened, _, _, [] => .error ⟨opened⟩
  | .plain, start, place, b :: rest =>
    if isQuote b then partsFrom (.quoted b) start (place + 1) rest
    else if b = 0x24 ∧ rest.head? = some 0x28 then
      (partsFrom (.opening place) start (place + 1) rest).map (.copied ⟨start, place⟩ :: ·)
    else partsFrom .plain start (place + 1) rest
  | .quoted mark, start, place, b :: rest =>
    partsFrom (if b = mark then .plain else .quoted mark) start (place + 1) rest
  | .opening opened, start, place, _ :: rest => partsFrom (.key opened) start (place + 1) rest
  | .key opened, start, place, b :: rest =>
    if b = 0x29 then
      (partsFrom .plain (place + 1) (place + 1) rest).map (.slot ⟨opened + 2, place⟩ :: ·)
    else partsFrom (.key opened) start (place + 1) rest

/-- The parts of a template. -/
def parts (bytes : List UInt8) : Except Unclosed (List Part) :=
  partsFrom .plain 0 0 bytes

/-- The text of a stretch. -/
def Stretch.text? (s : Stretch) (bytes : List UInt8) : Option (List Char) :=
  if s.first ≤ s.after ∧ s.after ≤ bytes.length then
    Text.Utf8.decode? ((bytes.drop s.first).take (s.after - s.first))
  else none

/-- The pieces of a part. -/
def Part.pieces? (bytes : List UInt8) : Part → Option (List Piece)
  | .copied s => (s.text? bytes).map fun text => text.map Piece.verbatim
  | .slot s => (s.text? bytes).map fun key => [Piece.slot (String.ofList key)]

/-- Fills the slots of `statement` with the values of the flat list `arguments`, unless some stretch
has no text. -/
def substitute? (statement : String) (arguments : List String) : Option (Except Fault String) :=
  let bytes := Text.Utf8.encode statement.toList
  match parts bytes with
  | .error u => some (.error (.unclosed u.position))
  | .ok ps =>
    (ps.mapM (Part.pieces? bytes)).map fun pieces =>
      fill (Dictionary.ofPairs (pairUp arguments)) pieces.flatten

end MysqlDesk.Template.Octets
