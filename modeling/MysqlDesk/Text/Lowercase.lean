/-
Lower case.

A server's message is shown in lower case, whole, whatever alphabet it is in. Each character goes to
its own lower-case form with two exceptions. The capital I with a dot above, U+0130, becomes two
characters, a small i and a combining dot. The capital sigma has two small forms: the final one is
used at the end of a word, which is to say that a letter with case stands before it and none after
it, the marks that words ignore being passed over on both sides.
-/
import MysqlDesk.Text.CaseData

set_option autoImplicit false

namespace MysqlDesk.Text

/-- The lower-case form of a character by itself. -/
def lowerChar (c : Char) : List Char :=
  if c.toNat = 0x130 then ['i', '\u0307']
  else match caseRuns.find? (·.covers c.toNat) with
    | some run => [Char.ofNat (c.toNat + run.shift).toNat]
    | none => [c]

/-- Whether the first character that words do not ignore is a letter with case. -/
def meetsLetter (s : List Char) : Bool :=
  match s.dropWhile isCaseIgnorable with
  | [] => false
  | c :: _ => isCased c

/-- The text in lower case, where `seen` is what stands before it, last character first. -/
def lowercaseFrom (seen : List Char) : List Char → List Char
  | [] => []
  | c :: rest =>
    let form :=
      if c = 'Σ' then [if meetsLetter seen && !meetsLetter rest then 'ς' else 'σ']
      else lowerChar c
    form ++ lowercaseFrom (c :: seen) rest

/-- The text in lower case. -/
def lowercase (s : String) : String :=
  String.ofList (lowercaseFrom [] s.toList)

end MysqlDesk.Text
