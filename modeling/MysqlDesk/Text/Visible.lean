/-
A text as it is dumped for a reader: between double quotes, on one line, with every character that
would not show written by its code.
-/
import MysqlDesk.Text.Numeral
import MysqlDesk.Text.VisibleData

set_option autoImplicit false

namespace MysqlDesk.Text

/-- How a dump shows one character: the quote, the backslash and the four control characters with a
letter of their own behind a backslash, the other hidden characters by number, the rest as they
are. -/
def showChar (c : Char) : List Char :=
  if c = '"' then ['\\', '"']
  else if c = '\\' then ['\\', '\\']
  else if c = '\t' then ['\\', 't']
  else if c = '\r' then ['\\', 'r']
  else if c = '\n' then ['\\', 'n']
  else if c.toNat = 0 then ['\\', '0']
  else if isHidden c then ['\\', 'u', '\x7b'] ++ hexadecimal c.toNat ++ ['\x7d']
  else [c]

/-- The text between double quotes, shown character by character. -/
def visible (s : String) : String :=
  String.ofList ('"' :: s.toList.flatMap showChar ++ ['"'])

end MysqlDesk.Text
