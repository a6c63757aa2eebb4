/-
Reading string literals.

`Table.literal` is only half of the story: whether a comment stays within its literal is for the server
to say. This file has the server's side, a reader that does not know how literals are written here. It
takes two quotes for one and ends at any other quote; a backslash escapes the character after it, or is
an ordinary character, depending on the mode of the server.

In both modes the reader comes to the end of a written literal and not a character further, whatever
follows. It finds the text itself where backslashes escape, and the text with its backslashes doubled
where they do not. The second half is read off from the two doublings that make a literal: the reader
undoes the later one.
-/
import MysqlDesk.Table

set_option autoImplicit false

namespace MysqlDesk.Table

/-! ## The reader -/

/-- What an escaped character stands for. -/
structure Escapes where
  meaning : Char → List Char
  backslash : meaning '\\' = ['\\']
  quote : meaning '\'' = ['\'']

/-- What a backslash in a literal is to the server. -/
inductive Backslashes where
  /-- It escapes the character after it, as it does by default. -/
  | escaping (escapes : Escapes)
  /-- It is an ordinary character. -/
  | ordinary

/-- Puts what was read before in front of what a literal stands for. -/
def putBefore (read : List Char) (whole : List Char × List Char) : List Char × List Char :=
  (read ++ whole.1, whole.2)

/-- Reads a literal from behind its opening quote: what it stands for, and what follows it. -/
def readOpen (mode : Backslashes) : List Char → Option (List Char × List Char)
  | [] => none
  | '\'' :: '\'' :: rest => (readOpen mode rest).map (putBefore ['\''])
  | '\'' :: rest => some ([], rest)
  | '\\' :: c :: rest =>
    match mode with
    | .escaping escapes => (readOpen mode rest).map (putBefore (escapes.meaning c))
    | .ordinary => (readOpen mode (c :: rest)).map (putBefore ['\\'])
  | c :: rest => (readOpen mode rest).map (putBefore [c])

/-- Reads the string literal that a text begins with. -/
def readLiteral (mode : Backslashes) : List Char → Option (List Char × List Char)
  | '\'' :: rest => readOpen mode rest
  | _ => none

section

variable {mode : Backslashes} {rest : List Char}

theorem readOpen_quotes :
    readOpen mode ('\'' :: '\'' :: rest) = (readOpen mode rest).map (putBefore ['\'']) := by
  rw [readOpen]

/-- A quote ends the literal, unless a second one follows. -/
theorem readOpen_quote (h : rest.head? ≠ some '\'') :
    readOpen mode ('\'' :: rest) = some ([], rest) := by
  cases rest with
  | nil =>
    rw [readOpen]
    rintro rest' ⟨⟩
  | cons c rest =>
    rw [readOpen]
    rintro rest' ⟨⟩
    exact h rfl

theorem readOpen_backslashes (escapes : Escapes) :
    readOpen (.escaping escapes) ('\\' :: '\\' :: rest)
      = (readOpen (.escaping escapes) rest).map (putBefore ['\\']) := by
  rw [readOpen, escapes.backslash]

theorem readOpen_other {c : Char} (hquote : c ≠ '\'') (hbackslash : c ≠ '\\') :
    readOpen mode (c :: rest) = (readOpen mode rest).map (putBefore [c]) := by
  rw [readOpen]
  · exact fun _ h => absurd h hquote
  · exact hquote
  · exact fun _ _ h => absurd h hbackslash

theorem readOpen_ordinary {c : Char} (hquote : c ≠ '\'') :
    readOpen .ordinary (c :: rest) = (readOpen .ordinary rest).map (putBefore [c]) := by
  by_cases hc : c = '\\'
  · subst hc
    cases rest with
    | nil => rfl
    | cons d rest => rw [readOpen]
  · exact readOpen_other hquote hc

end

/-! ## Two doublings -/

/-- The text with every `mark` written twice. -/
def doubled (mark : Char) (s : List Char) : List Char :=
  s.flatMap fun c => if c = mark then [mark, mark] else [c]

theorem doubled_cons_self (mark : Char) (s : List Char) :
    doubled mark (mark :: s) = mark :: mark :: doubled mark s := by
  rw [doubled, List.flatMap_cons, if_pos rfl]
  rfl

theorem doubled_cons_of_ne {mark c : Char} (h : c ≠ mark) (s : List Char) :
    doubled mark (c :: s) = c :: doubled mark s := by
  rw [doubled, List.flatMap_cons, if_neg h]
  rfl

/-- A literal is made by doubling the backslashes and then the quotes. -/
theorem toList_literal (s : String) :
    (literal s).toList = '\'' :: doubled '\'' (doubled '\\' s.toList) ++ ['\''] := by
  have htwo (s : List Char) : s.flatMap literalChar = doubled '\'' (doubled '\\' s) := by
    induction s with
    | nil => rfl
    | cons c s ih =>
      rw [List.flatMap_cons, ih, literalChar]
      by_cases hbackslash : c = '\\'
      · -- the second doubling passes over what the first one wrote
        rw [if_pos hbackslash, hbackslash, doubled_cons_self, doubled_cons_of_ne (by decide),
          doubled_cons_of_ne (by decide)]
        rfl
      · rw [if_neg hbackslash, doubled_cons_of_ne hbackslash]
        by_cases hquote : c = '\''
        · rw [if_pos hquote, hquote, doubled_cons_self]
          rfl
        · rw [if_neg hquote, doubled_cons_of_ne hquote]
          rfl
  rw [literal, String.toList_ofList, htwo]

/-! ## What a literal stands for -/

section

variable {rest : List Char} (hrest : rest.head? ≠ some '\'')

include hrest

/-- With ordinary backslashes the reader undoes the doubling of the quotes. -/
theorem readOpen_doubled (s : List Char) :
    readOpen .ordinary (doubled '\'' s ++ '\'' :: rest) = some (s, rest) := by
  induction s with
  | nil => exact readOpen_quote hrest
  | cons c s ih =>
    by_cases hc : c = '\''
    · rw [hc, doubled_cons_self, List.cons_append, List.cons_append, readOpen_quotes, ih]
      rfl
    · rw [doubled_cons_of_ne hc, List.cons_append, readOpen_ordinary hc, ih]
      rfl

/-- Where backslashes escape, the reader undoes both doublings. -/
theorem readOpen_doubled_doubled (escapes : Escapes) (s : List Char) :
    readOpen (.escaping escapes) (doubled '\'' (doubled '\\' s) ++ '\'' :: rest)
      = some (s, rest) := by
  induction s with
  | nil => exact readOpen_quote hrest
  | cons c s ih =>
    by_cases hbackslash : c = '\\'
    · rw [hbackslash, doubled_cons_self, doubled_cons_of_ne (by decide),
        doubled_cons_of_ne (by decide), List.cons_append, List.cons_append, readOpen_backslashes, ih]
      rfl
    · rw [doubled_cons_of_ne hbackslash]
      by_cases hquote : c = '\''
      · rw [hquote, doubled_cons_self, List.cons_append, List.cons_append, readOpen_quotes, ih]
        rfl
      · rw [doubled_cons_of_ne hquote, List.cons_append, readOpen_other hquote hbackslash, ih]
        rfl

end

/-- What the literal of a text stands for: the text, or the text with its backslashes doubled. -/
def Backslashes.meant : Backslashes → List Char → List Char
  | .escaping _, s => s
  | .ordinary, s => doubled '\\' s

/-- **A literal is read to its end.** In either mode the literal of a text is complete, and ends at its
last character if no quote follows. -/
theorem readLiteral_literal (mode : Backslashes) (s : String) {rest : List Char}
    (hrest : rest.head? ≠ some '\'') :
    readLiteral mode ((literal s).toList ++ rest) = some (mode.meant s.toList, rest) := by
  rw [toList_literal, List.append_assoc, List.cons_append, List.singleton_append, readLiteral]
  cases mode with
  | escaping escapes => exact readOpen_doubled_doubled hrest escapes s.toList
  | ordinary => exact readOpen_doubled hrest (doubled '\\' s.toList)

end MysqlDesk.Table
