/-
Blank characters and trimming.

Three places of this library skip blanks: the names in a list of log destinations, the numeric
fields of a written date-time, and the gap between its date and its clock. All three mean the same
set, the Unicode property White_Space, which is wider than the ASCII blanks and narrower than "every
space-like character": the zero-width space U+200B, for one, is not in it.
-/

set_option autoImplicit false

namespace MysqlDesk.Text

/-- A character with the Unicode property White_Space. -/
def isBlank (c : Char) : Bool :=
  let n := c.toNat
  (0x09 ≤ n && n ≤ 0x0D) || n == 0x20 || n == 0x85 || n == 0xA0 || n == 0x1680
    || (0x2000 ≤ n && n ≤ 0x200A) || n == 0x2028 || n == 0x2029 || n == 0x202F || n == 0x205F
    || n == 0x3000

/-- The text from its first character that is not blank. -/
def skipBlanks (s : List Char) : List Char :=
  s.dropWhile isBlank

/-- The text without the blanks at its two ends. -/
def trim (s : List Char) : List Char :=
  (skipBlanks (skipBlanks s).reverse).reverse

/-- Whether nothing is left of the text once it is trimmed. -/
def isBlankText (s : List Char) : Bool :=
  s.all isBlank

end MysqlDesk.Text
