/-
Filling a template from its bytes by one loop with places.

The machine of `Template.Octets` takes one byte after the other. The loop of this file has the bytes at
hand as a whole and remembers three things: the quotation that is open, the place that it has come to, and
the place up to which the statement was copied. Where a slot begins it looks for the end of the key at
once, copies what stands before the slot, and goes on behind it. Everything is taken from the statement by
slices, and what is taken is taken even if a later slot turns out to be open.

A slice of a text must begin and end between two characters, and the byte at a place shows whether it does.
A filling for which some slice cannot be taken is missing.
-/
import MysqlDesk.Template.Octets
import MysqlDesk.Template.Tally

set_option autoImplicit false

namespace MysqlDesk.Template

open Octets (Stretch Part)

/-! ## Slices -/

/-- The bytes that continue a character. -/
def isContinuation (b : UInt8) : Bool :=
  0x80 ≤ b.toNat && b.toNat < 0xC0

/-- The place is the beginning, the end, or one whose byte begins a character. -/
def isBoundary (bytes : List UInt8) (place : Nat) : Bool :=
  if place = 0 then true
  else match bytes[place]? with
    | none => place == bytes.length
    | some b => !isContinuation b

/-- The text of a stretch, which must begin and end between two characters. -/
def slice? (bytes : List UInt8) (s : Stretch) : Option (List Char) :=
  if s.first ≤ s.after ∧ isBoundary bytes s.first ∧ isBoundary bytes s.after then s.text? bytes
  else none

/-- The pieces of a part. -/
def taken? (bytes : List UInt8) : Part → Option (List Piece)
  | .copied s => (slice? bytes s).map fun text => text.map Piece.verbatim
  | .slot s => (slice? bytes s).map fun key => [Piece.slot (String.ofList key)]

/-! ## The loop -/

/-- What the loop remembers. -/
structure Cursor where
  /-- The mark of the quotation that is open. -/
  mark : Option UInt8
  /-- The place up to which the statement was copied. -/
  copied : Nat
  /-- The place of the next byte. -/
  place : Nat
  deriving DecidableEq

/-- What a turn of the loop comes to. -/
inductive Turn where
  /-- The loop goes on, and nothing is taken. -/
  | on (next : Cursor)
  /-- The text before a slot and the key of the slot are taken. -/
  | filled (text key : Stretch) (next : Cursor)
  /-- A slot is never closed. -/
  | unclosed (slot : Unclosed)
  deriving DecidableEq

namespace Cursor

/-- Before the first byte. -/
def start : Cursor :=
  ⟨none, 0, 0⟩

/-- What is open behind a byte that opens or closes a quotation. Any other byte leaves it as it is. -/
def switch? (mark : Option UInt8) (b : UInt8) : Option (Option UInt8) :=
  match mark with
  | some q => if b = q then some none else none
  | none => if Octets.isQuote b then some (some b) else none

/-- The two bytes that open a slot are at the place. -/
def opensSlot (bytes : List UInt8) (place : Nat) : Bool :=
  bytes[place]? == some 0x24 && bytes[place + 1]? == some 0x28

/-- The place of the first closing parenthesis from the given place on. -/
def keyEnd? (bytes : List UInt8) (first : Nat) : Option Nat :=
  ((bytes.drop first).findIdx? (· == 0x29)).map (first + ·)

/-- The turn for the byte `b`, which is at the place of the cursor. -/
def turn (bytes : List UInt8) (c : Cursor) (b : UInt8) : Turn :=
  match switch? c.mark b with
  | some mark => .on ⟨mark, c.copied, c.place + 1⟩
  | none =>
    if c.mark = none ∧ opensSlot bytes c.place then
      match keyEnd? bytes (c.place + 2) with
      | none => .unclosed ⟨c.place⟩
      | some after => .filled ⟨c.copied, c.place⟩ ⟨c.place + 2, after⟩ ⟨none, after + 1, after + 1⟩
    else .on ⟨c.mark, c.copied, c.place + 1⟩

/-- The next turn, unless the loop is over. -/
def turn? (bytes : List UInt8) (c : Cursor) : Option Turn :=
  bytes[c.place]?.map (turn bytes c)

end Cursor

/-- The cursor behind a turn. -/
def Turn.next? : Turn → Option Cursor
  | .on next => some next
  | .filled _ _ next => some next
  | .unclosed _ => none

namespace Cursor

theorem le_of_keyEnd? {bytes : List UInt8} {first after : Nat}
    (h : keyEnd? bytes first = some after) : first ≤ after ∧ after < bytes.length := by
  obtain ⟨offset, hfound, rfl⟩ := Option.map_eq_some_iff.1 h
  have hin : offset < (bytes.drop first).length := (List.findIdx?_eq_some_iff_findIdx_eq.1 hfound).1
  rw [List.length_drop] at hin
  omega

/-- What a turn can do. -/
theorem turn?_cases {bytes : List UInt8} {c : Cursor} {t : Turn} (h : turn? bytes c = some t) :
    c.place < bytes.length
      ∧ ((∃ mark, t = .on ⟨mark, c.copied, c.place + 1⟩)
        ∨ (∃ after, c.place + 2 ≤ after ∧ after < bytes.length
          ∧ t = .filled ⟨c.copied, c.place⟩ ⟨c.place + 2, after⟩ ⟨none, after + 1, after + 1⟩)
        ∨ t = .unclosed ⟨c.place⟩) := by
  obtain ⟨b, hb, rfl⟩ := Option.map_eq_some_iff.1 h
  refine ⟨(List.getElem?_eq_some_iff.1 hb).1, ?_⟩
  fun_cases turn bytes c b with
  | case1 mark hmark => exact .inl ⟨mark, rfl⟩
  | case2 hmark hopen hkey => exact .inr (.inr rfl)
  | case3 hmark hopen after hkey =>
    obtain ⟨hfirst, hafter⟩ := le_of_keyEnd? hkey
    exact .inr (.inl ⟨after, hfirst, hafter, rfl⟩)
  | case4 hmark hopen => exact .inl ⟨c.mark, rfl⟩

/-- A turn takes the loop past the place, and not beyond the end. -/
theorem place_lt_of_turn? {bytes : List UInt8} {c next : Cursor} {t : Turn}
    (h : turn? bytes c = some t) (hnext : t.next? = some next) :
    c.place < next.place ∧ next.place ≤ bytes.length := by
  obtain ⟨hin, ⟨mark, rfl⟩ | ⟨after, hfirst, hafter, rfl⟩ | rfl⟩ := turn?_cases h
  · obtain rfl := Option.some.inj hnext
    exact ⟨Nat.lt_succ_self _, hin⟩
  · obtain rfl := Option.some.inj hnext
    refine ⟨?_, hafter⟩
    show c.place < after + 1
    omega
  · cases hnext

end Cursor

/-- What the loop finds: the parts that it takes from the statement, and the slot at which it fails. -/
structure Found where
  parts : List Part
  unclosed? : Option Unclosed
  deriving DecidableEq

namespace Cursor

/-- What the loop finds from a cursor on. -/
def scan (bytes : List UInt8) (c : Cursor) : Found :=
  match _h : turn? bytes c with
  | none => ⟨[.copied ⟨c.copied, bytes.length⟩], none⟩
  | some (.on next) => scan bytes next
  | some (.filled text key next) =>
    let found := scan bytes next
    { found with parts := .copied text :: .slot key :: found.parts }
  | some (.unclosed slot) => ⟨[], some slot⟩
termination_by bytes.length - c.place
decreasing_by
  · have := place_lt_of_turn? _h rfl
    omega
  · have := place_lt_of_turn? _h rfl
    omega

end Cursor

/-! ## Filling -/

/-- The pieces of what the loop found, if every slice can be taken. -/
def Found.pieces? (bytes : List UInt8) (f : Found) : Option (Except Unclosed (List Piece)) :=
  (f.parts.mapM (taken? bytes)).map fun taken =>
    match f.unclosed? with
    | some slot => .error slot
    | none => .ok taken.flatten

/-- Fills the slots of `statement` with the values of the flat list `arguments`, unless some slice
cannot be taken. -/
def Cursor.substitute? (statement : String) (arguments : List String) :
    Option (Except Fault String) :=
  let bytes := Text.Utf8.encode statement.toList
  ((scan bytes start).pieces? bytes).map fun
    | .error slot => .error (.unclosed slot.position)
    | .ok ps => fillByCount (Dictionary.ofPairs (pairUp arguments)) ps

end MysqlDesk.Template
