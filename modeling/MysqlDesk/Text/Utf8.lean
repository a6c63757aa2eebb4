/-
Text and its UTF-8 bytes.

A server sends text as bytes. Two readings of them are needed. The strict one accepts exactly the
well-formed byte sequences. The lenient one never fails: it puts one U+FFFD in the place of each
maximal broken piece, that is, of the longest run of bytes that begins some well-formed sequence
and is not continued, or of a single byte that begins none.

Both are the same pass over the bytes. Its only state is the sequence under way, so the pass is a
plain recursion on the list of bytes and needs no measure: a byte that does not continue the
sequence under way ends it as broken and is looked at once more as a first byte, in the same step.
-/

set_option autoImplicit false

namespace MysqlDesk.Text.Utf8

/-- The bytes of a text. -/
def encode (s : List Char) : List UInt8 :=
  s.flatMap String.utf8EncodeChar

/-- How many bytes a text has. -/
def size : List Char → Nat
  | [] => 0
  | c :: rest => c.utf8Size + size rest

/-- A sequence whose first bytes were seen: `need + 1` more are due, the next of them between `low`
and `high`, and the bits so far have the value `value`. -/
structure Pending where
  need : Nat
  low : UInt8
  high : UInt8
  value : Nat
  deriving DecidableEq

/-- What a first byte announces: a character of its own, a longer sequence, or nothing. The bounds
of the second byte exclude overlong forms, surrogates and numbers above U+10FFFF. -/
inductive Start where
  | single (c : Char)
  | sequence (p : Pending)
  | broken
  deriving DecidableEq

/-- Classifies a first byte. -/
def start (b : UInt8) : Start :=
  if b < 0x80 then .single (Char.ofNat b.toNat)
  else if b < 0xC2 then .broken
  else if b < 0xE0 then .sequence ⟨0, 0x80, 0xBF, b.toNat - 0xC0⟩
  else if b < 0xF0 then
    let low : UInt8 := if b = 0xE0 then 0xA0 else 0x80
    let high : UInt8 := if b = 0xED then 0x9F else 0xBF
    .sequence ⟨1, low, high, b.toNat - 0xE0⟩
  else if b < 0xF5 then
    let low : UInt8 := if b = 0xF0 then 0x90 else 0x80
    let high : UInt8 := if b = 0xF4 then 0x8F else 0xBF
    .sequence ⟨2, low, high, b.toNat - 0xF0⟩
  else .broken

/-- Takes the byte `b` as a first byte: the pieces it completes and the sequence it leaves open.
A piece `none` is a broken one. -/
def begin (b : UInt8) : List (Option Char) × Option Pending :=
  match start b with
  | .single c => ([some c], none)
  | .sequence p => ([], some p)
  | .broken => ([none], none)

/-- Takes the byte `b` after the sequence `under` way, if there is one. -/
def advance (under : Option Pending) (b : UInt8) : List (Option Char) × Option Pending :=
  match under with
  | none => begin b
  | some p =>
    if p.low ≤ b ∧ b ≤ p.high then
      let value := p.value * 64 + (b.toNat - 0x80)
      match p.need with
      | 0 => ([some (Char.ofNat value)], none)
      | need + 1 => ([], some ⟨need, 0x80, 0xBF, value⟩)
    else
      let (pieces, next) := begin b
      (none :: pieces, next)

/-- The characters and broken pieces of the bytes, after a sequence under way. -/
def piecesFrom : Option Pending → List UInt8 → List (Option Char)
  | none, [] => []
  | some _, [] => [none]
  | under, b :: rest =>
    let (pieces, next) := advance under b
    pieces ++ piecesFrom next rest

/-- The characters and broken pieces of the bytes. -/
def pieces (bytes : List UInt8) : List (Option Char) :=
  piecesFrom none bytes

/-- Reads well-formed bytes; `none` if a piece is broken. -/
def decode? (bytes : List UInt8) : Option (List Char) :=
  (pieces bytes).mapM id

/-- Reads any bytes, with U+FFFD for each broken piece. -/
def decodeLossy (bytes : List UInt8) : List Char :=
  (pieces bytes).map fun piece => piece.getD '\uFFFD'

/-! ## Sizes -/

@[simp] theorem size_append (s t : List Char) : size (s ++ t) = size s + size t := by
  induction s with
  | nil => simp [size]
  | cons c rest ih => simp [size, ih, Nat.add_assoc]

@[simp] theorem encode_append (s t : List Char) : encode (s ++ t) = encode s ++ encode t := by
  simp [encode]

/-- The size counts the bytes. -/
theorem length_encode (s : List Char) : (encode s).length = size s := by
  induction s with
  | nil => rfl
  | cons c rest ih =>
    have h : (String.utf8EncodeChar c).length = c.utf8Size := String.length_utf8EncodeChar c
    have hc : encode (c :: rest) = String.utf8EncodeChar c ++ encode rest := rfl
    rw [hc, List.length_append, ih, h, size]

end MysqlDesk.Text.Utf8
