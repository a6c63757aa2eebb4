/-
Statement templates: what they are made of.

A template is a statement with slots of the form `$(key)`. A slot counts only outside quotes; a
quotation begins with one of the three quote characters of SQL and runs to the next occurrence of the
same character, or to the end. The key of a slot runs to the next closing parenthesis, whatever stands
in between. A slot that is never closed makes the whole template faulty; its place is the number of
bytes before it.

The reader is a machine with three modes that takes one character at a time: plain text, a
quotation, and the key of a slot.
-/
import MysqlDesk.Text.Utf8

set_option autoImplicit false

namespace MysqlDesk.Template

/-- A part of a template: a character that stands for itself, or a slot. -/
inductive Piece where
  | verbatim (c : Char)
  | slot (key : String)
  deriving DecidableEq

/-- The three characters that open a quotation. -/
def isQuote (c : Char) : Bool :=
  c == '\'' || c == '"' || c == '\x60'

/-- Where the reader is: in plain text, in a quotation that ends with `mark`, or in the key of the
slot that began after `opened` bytes, with the characters of the key so far, last one first. -/
inductive Mode where
  | plain
  | quoted (mark : Char)
  | key (opened : Nat) (seen : List Char)
  deriving DecidableEq

/-- A slot that is never closed, and how many bytes stand before it. -/
structure Unclosed where
  position : Nat
  deriving DecidableEq

/-- The pieces of a template from some place on, `passed` being the bytes before that place. -/
def piecesFrom : Mode → Nat → List Char → Except Unclosed (List Piece)
  | .key opened _, _, [] => .error ⟨opened⟩
  | .plain, _, [] => .ok []
  | .quoted _, _, [] => .ok []
  | .plain, passed, '$' :: '(' :: rest => piecesFrom (.key passed []) (passed + 2) rest
  | .plain, passed, c :: rest =>
    let mode := if isQuote c then Mode.quoted c else .plain
    (piecesFrom mode (passed + c.utf8Size) rest).map (.verbatim c :: ·)
  | .quoted mark, passed, c :: rest =>
    let mode := if c = mark then Mode.plain else .quoted mark
    (piecesFrom mode (passed + c.utf8Size) rest).map (.verbatim c :: ·)
  | .key opened seen, passed, c :: rest =>
    if c = ')' then
      (piecesFrom .plain (passed + 1) rest).map (.slot (String.ofList seen.reverse) :: ·)
    else piecesFrom (.key opened (c :: seen)) (passed + c.utf8Size) rest

/-- The pieces of a template. -/
def pieces (statement : String) : Except Unclosed (List Piece) :=
  piecesFrom .plain 0 statement.toList

/-- The keys of the slots, in the order of the template. -/
def slotKeys (ps : List Piece) : List String :=
  ps.filterMap fun
    | .verbatim _ => none
    | .slot key => some key

end MysqlDesk.Template
