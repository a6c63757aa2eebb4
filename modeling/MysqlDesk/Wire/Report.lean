/-
Reports of failure, as a server sends them.

After the number of the failure comes its text. A text that begins with a number sign has the state
in the five bytes after it and the note behind that; every other text is all note. The sign decides
alone: a server that sends no state, but a note that happens to begin with the sign, is understood as
if the beginning of the note were the state.

The five bytes need not be five characters. If they end inside a character, the report cannot be
understood. If there are not even five bytes, the report breaks off, which no server may do.
-/
import MysqlDesk.Text.Cut

set_option autoImplicit false

namespace MysqlDesk.Wire

/-- What a report says. -/
structure Report where
  state : Option String
  note : String
  deriving DecidableEq, Inhabited

/-- Why a report cannot be understood. -/
inductive BadReport where
  /-- It breaks off: so many bytes stand after the sign. -/
  | brokenOff (left : Nat)
  /-- The state ends inside the character that begins after so many of its bytes. -/
  | splitCharacter (place : Nat)
  deriving DecidableEq

/-- How many bytes a state has. -/
def stateSize : Nat := 5

/-- The message of a report that cannot be understood. -/
def BadReport.message : BadReport → String
  | .brokenOff left => s!"range end index {stateSize} out of range for slice of length {left}"
  | .splitCharacter place =>
    s!"incomplete utf-8 byte sequence from index {place} (sqlx_core::io::buf:51)"

/-- Whether the client gives up on the connection. -/
def BadReport.isFatal : BadReport → Bool
  | .brokenOff _ => true
  | .splitCharacter _ => false

/-- The text that a server sends for a state, if it sends one, and a note. -/
def reportText (state : Option String) (note : String) : String :=
  match state with
  | some state => "#" ++ state ++ note
  | none => note

/-- The first `wanted` bytes of a text and what comes after them; `passed` bytes were seen before. -/
def splitBytes (wanted passed : Nat) : List Char → Except BadReport (List Char × List Char)
  | [] => if wanted = 0 then .ok ([], []) else .error (.brokenOff passed)
  | c :: rest =>
    if wanted = 0 then .ok ([], c :: rest)
    else if c.utf8Size ≤ wanted then
      (splitBytes (wanted - c.utf8Size) (passed + c.utf8Size) rest).map fun (first, after) =>
        (c :: first, after)
    else .error (.splitCharacter passed)

/-- Reads the text of a report. -/
def Report.ofText (text : String) : Except BadReport Report :=
  match text.toList with
  | '#' :: rest =>
    (splitBytes stateSize 0 rest).map fun (state, note) =>
      ⟨some (String.ofList state), String.ofList note⟩
  | _ => .ok ⟨none, text⟩

end MysqlDesk.Wire
