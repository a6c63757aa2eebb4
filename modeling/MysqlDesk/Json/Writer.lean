/-
Compact JSON text.

The text has no blanks. Strings keep every character as it is except the quote, the backslash and
the controls below U+0020. A floating-point number is written with the fewest digits that read back,
and always so that it cannot be taken for an integer: with a decimal point while its decimal exponent
is from `-5` up to `15`, and with an exponent beyond.
-/
import MysqlDesk.Binary64.Shortest
import MysqlDesk.Json.Value

set_option autoImplicit false

namespace MysqlDesk.Json

open MysqlDesk.Text (decimal hexadecimal padLeft)

/-! ## Strings -/

/-- One character of a string. -/
def escape (c : Char) : List Char :=
  if c = '"' then ['\\', '"']
  else if c = '\\' then ['\\', '\\']
  else if c.toNat = 0x08 then ['\\', 'b']
  else if c = '\t' then ['\\', 't']
  else if c = '\n' then ['\\', 'n']
  else if c.toNat = 0x0C then ['\\', 'f']
  else if c = '\r' then ['\\', 'r']
  else if c.toNat < 0x20 then ['\\', 'u'] ++ padLeft 4 (hexadecimal c.toNat)
  else [c]

/-- A string between its quotes. -/
def quote (s : String) : List Char :=
  '"' :: s.toList.flatMap escape ++ ['"']

/-! ## Numbers -/

/-- Where the writing of floating-point numbers changes from positional to exponential, and how an
exponent is marked. -/
structure RealFormat where
  leastPositional : Int
  firstExponential : Int
  plusSign : Bool

/-- Positional from `-5` up to `15`; an exponent carries its sign in either direction. -/
def realFormat : RealFormat :=
  { leastPositional := -5, firstExponential := 16, plusSign := true }

/-- The exponent after its mark `e`. -/
def writeExponent (format : RealFormat) (e : Int) : List Char :=
  if e < 0 then '-' :: decimal (-e).toNat
  else if format.plusSign then '+' :: decimal e.toNat
  else decimal e.toNat

/-- The decimal `ds * 10 ^ k`, with the digits `ds` given as text. -/
def writeDecimal (format : RealFormat) (ds : List Char) (k : Int) : List Char :=
  let lead : Int := k + (ds.length : Int) - 1
  if lead < format.leastPositional ∨ format.firstExponential ≤ lead then
    match ds with
    | [] => []
    | [d] => d :: 'e' :: writeExponent format lead
    | d :: more => d :: '.' :: more ++ 'e' :: writeExponent format lead
  else if 0 ≤ k then ds ++ List.replicate k.toNat '0' ++ ['.', '0']
  else if 0 ≤ lead then ds.take (lead + 1).toNat ++ '.' :: ds.drop (lead + 1).toNat
  else '0' :: '.' :: List.replicate (-lead - 1).toNat '0' ++ ds

/-- A finite floating-point number. -/
def writeReal (x : Binary64) : List Char :=
  let (m, e) := x.parts
  let body :=
    if m = 0 then ['0', '.', '0']
    else
      let d := Binary64.shortest m e
      writeDecimal realFormat (decimal d.digits) d.exponent
  if x.isNegative then '-' :: body else body

/-- A number. An infinity or a NaN has no JSON text of its own and is written as `null`. -/
def writeNumber : Number → List Char
  | .integer n => if n < 0 then '-' :: decimal n.natAbs else decimal n.natAbs
  | .real x => if x.isSpecial then ['n', 'u', 'l', 'l'] else writeReal x

/-! ## Values -/

mutual

/-- A value. -/
def write : Value → List Char
  | .null => ['n', 'u', 'l', 'l']
  | .bool true => ['t', 'r', 'u', 'e']
  | .bool false => ['f', 'a', 'l', 's', 'e']
  | .number n => writeNumber n
  | .text s => quote s
  | .array items => '[' :: writeItems items ++ [']']
  | .object members => '\x7b' :: writeMembers members ++ ['\x7d']

/-- The items of an array with commas between them. -/
def writeItems : List Value → List Char
  | [] => []
  | [v] => write v
  | v :: rest => write v ++ ',' :: writeItems rest

/-- The members of an object with commas between them. -/
def writeMembers : List (String × Value) → List Char
  | [] => []
  | [(name, v)] => quote name ++ ':' :: write v
  | (name, v) :: rest => quote name ++ ':' :: write v ++ ',' :: writeMembers rest

end

/-- The compact text of a value. -/
def Value.toText (v : Value) : String :=
  String.ofList (write v)

/-! ## Anything that can be written -/

/-- Why something has no JSON text. -/
inductive Unwritable where
  | keyNotText
  deriving DecidableEq, Inhabited

/-- The message of a refusal to write. -/
def Unwritable.message : Unwritable → String
  | .keyNotText => "key must be a string"

/-- Data with a JSON form, or with a reason for having none. -/
class ToValue (α : Type) where
  toValue : α → Except Unwritable Value

instance : ToValue Value := ⟨.ok⟩

/-- Pairs whose first parts are meant as the names of members. -/
structure Pairs where
  pairs : List (Value × Value)

/-- Pairs make an object if their first parts are texts. -/
instance : ToValue Pairs where
  toValue p := do
    let members ← p.pairs.mapM fun (key, v) =>
      match key with
      | .text name => .ok (name, v)
      | _ => .error Unwritable.keyNotText
    return Value.ofMembers members

end MysqlDesk.Json
