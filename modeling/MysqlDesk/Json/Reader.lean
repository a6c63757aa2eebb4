/-
Reading JSON text.

The reader takes one value, with blanks around it, and refuses everything else. A refusal names its
cause and its place: the line, counted from one, and the column, counted in bytes from the start of
that line, up to and including the byte at which reading stopped.

A cause is found either at the end of what was read so far, or one byte further, at the byte that
does not fit. Inside the reader a place is the number of bytes that are left behind it, because
the text still to be read is what every function has at hand; the whole text is consulted once, at
the end, to turn this into a line and a column.

A JSON text may be wrapped up in another one, as the string behind the one name that is reserved for
this. An object that begins with this name is no object: it stands for the value of the text inside.
The text is read on its own, with its own places, so a refusal inside it names the place in it.

Numbers are read as many programs do that value speed over the last bit: the digits as a natural
number of 64 bits, as far as they fit, and then one multiplication or division by a power of ten. A
number in that form can miss the nearest floating-point number by a unit in the last place.
-/
import MysqlDesk.Json.Writer
import MysqlDesk.Text.Utf8

set_option autoImplicit false

namespace MysqlDesk.Json

open MysqlDesk.Text (isDigit digitValue hexValue?)

/-! ## Refusals -/

/-- What stands where a string is wanted. -/
inductive Other where
  | null
  | bool (value : Bool)
  | number (value : Number)
  | array
  | object
  deriving DecidableEq, Inhabited

/-- What is said of it. -/
def Other.description : Other → String
  | .null => "null"
  | .bool true => "boolean `true`"
  | .bool false => "boolean `false`"
  | .number (.integer n) => s!"integer `{n}`"
  | .number (.real x) => "floating point `" ++ String.ofList (writeReal x) ++ "`"
  | .array => "sequence"
  | .object => "map"

/-- Why a text is not JSON. -/
inductive Cause where
  /-- The reserved name has something else behind it than a text. -/
  | noEmbeddedText (found : Other)
  | endInArray
  | endInObject
  | endInString
  | endInValue
  | colonExpected
  | arrayGoesOn
  | objectGoesOn
  | wordExpected
  | valueExpected
  | badEscape
  | badNumber
  | numberTooLarge
  | controlInString
  | nameExpected
  | loneSurrogate
  | trailingComma
  | trailingText
  | surrogateUnpaired
  | tooDeep
  deriving DecidableEq, Inhabited

/-- The message of a cause. -/
def Cause.message : Cause → String
  | .noEmbeddedText found => "invalid type: " ++ found.description ++ ", expected raw value"
  | .endInArray => "EOF while parsing a list"
  | .endInObject => "EOF while parsing an object"
  | .endInString => "EOF while parsing a string"
  | .endInValue => "EOF while parsing a value"
  | .colonExpected => "expected `:`"
  | .arrayGoesOn => "expected `,` or `]`"
  | .objectGoesOn => "expected `,` or `\x7d`"
  | .wordExpected => "expected ident"
  | .valueExpected => "expected value"
  | .badEscape => "invalid escape"
  | .badNumber => "invalid number"
  | .numberTooLarge => "number out of range"
  | .controlInString => "control character (\\u0000-\\u001F) found while parsing a string"
  | .nameExpected => "key must be a string"
  | .loneSurrogate => "lone leading surrogate in hex escape"
  | .trailingComma => "trailing comma"
  | .trailingText => "trailing characters"
  | .surrogateUnpaired => "unexpected end of hex escape"
  | .tooDeep => "recursion limit exceeded"

/-- A refusal with its place. -/
structure Unreadable where
  cause : Cause
  line : Nat
  column : Nat
  deriving DecidableEq, Inhabited

/-- The message of a refusal. -/
def Unreadable.message (u : Unreadable) : String :=
  s!"{u.cause.message} at line {u.line} column {u.column}"

/-- A refusal while a text is being read. -/
inductive Stop where
  /-- A cause, and how many bytes of the text lie behind its place. -/
  | behind (cause : Cause) (left : Nat)
  /-- A refusal of a text inside this one, with its place there. -/
  | inside (refusal : Unreadable)

/-- The place after the first `offset` bytes: one more than the line ends among them, and the bytes
since the last of these. -/
def placeOf (bytes : List UInt8) (offset : Nat) : Nat × Nat :=
  let seen := bytes.take offset
  (1 + seen.count 10, (seen.reverse.takeWhile (· != 10)).length)

/-- The refusal of a text, with its place in the innermost text that was being read. -/
def Stop.locate (text : List Char) : Stop → Unreadable
  | .behind cause left =>
    let bytes := Text.Utf8.encode text
    let (line, column) := placeOf bytes (bytes.length - left)
    ⟨cause, line, column⟩
  | .inside refusal => refusal

/-- What a part of the reader gives: its value and the text after it, or a refusal. -/
abbrev Read (α : Type) := Except Stop (α × List Char)

/-- A refusal at the end of what was read, with `rest` still to come. -/
def stopAt {α : Type} (cause : Cause) (rest : List Char) : Except Stop α :=
  .error (.behind cause (Text.Utf8.size rest))

/-- A refusal at the first byte of `rest`, or at the end if there is none. -/
def stopOn {α : Type} (cause : Cause) (rest : List Char) : Except Stop α :=
  .error (.behind cause (Text.Utf8.size rest - 1))

/-- Drops the blanks that JSON knows. -/
def skip (s : List Char) : List Char :=
  s.dropWhile fun c => c == ' ' || c == '\n' || c == '\t' || c == '\r'

/-! ## Numbers -/

/-- The largest number of an unsigned word. -/
def wordMax : Nat := 0xFFFFFFFFFFFFFFFF

/-- The power of ten as a floating-point number. -/
def powerOfTen (k : Nat) : Binary64 :=
  Binary64.ofRatio false (Nat.pow 10 k) 1

/-- The number `x` divided by `10 ^ k`, in steps of at most `10 ^ 308`. -/
def shrink (x : Binary64) (k : Nat) : Binary64 :=
  if k ≤ 308 then x.div (powerOfTen k)
  else if x.magnitudeBits = 0 then x
  else shrink (x.div (powerOfTen 308)) (k - 308)
termination_by k

/-- The number `significand * 10 ^ exponent`, or nothing if it is too large. -/
def scale? (significand : Nat) (exponent : Int) : Option Binary64 :=
  let x := Binary64.ofRatio false significand 1
  if exponent < 0 then some (shrink x (-exponent).toNat)
  else if exponent ≤ 308 then
    let y := x.mul (powerOfTen exponent.toNat)
    if y.isSpecial then none else some y
  else if x.magnitudeBits = 0 then some x
  else none

/-- The floating-point number of these parts, read up to `rest`. -/
def finishReal (negative : Bool) (significand : Nat) (exponent : Int) (rest : List Char) :
    Read Number :=
  match scale? significand exponent with
  | some x => .ok (.real (if negative then x.neg else x), rest)
  | none => stopAt .numberTooLarge rest

/-- The largest exponent that is read in full. -/
def exponentMax : Nat := 0x7FFFFFFF

/-- The digits of an exponent after those that denote `value`. A numeral beyond `exponentMax` is given
as `none`, with the text after the digit that went beyond it. -/
def exponentDigits (value : Nat) : List Char → Option Nat × List Char
  | [] => (some value, [])
  | c :: rest =>
    if isDigit c then
      let next := value * 10 + digitValue c
      if exponentMax < next then (none, rest) else exponentDigits next rest
    else (some value, c :: rest)

/-- An exponent that is kept within the range of a signed word of 32 bits. -/
def clampExponent (e : Int) : Int :=
  max (-0x80000000) (min 0x7FFFFFFF e)

/-- The exponent part of a number, from the character after its mark on. -/
def readExponent (negative : Bool) (significand : Nat) (start : Int) (s : List Char) :
    Read Number :=
  let (upwards, s) :=
    match s with
    | '+' :: rest => (true, rest)
    | '-' :: rest => (false, rest)
    | _ => (true, s)
  match s with
  | [] => stopAt .endInValue []
  | c :: rest =>
    if isDigit c then
      match exponentDigits (digitValue c) rest with
      | (some value, rest) =>
        let exponent := if upwards then start + value else start - value
        finishReal negative significand (clampExponent exponent) rest
      | (none, rest) =>
        if significand ≠ 0 ∧ upwards then stopAt .numberTooLarge rest
        else finishReal negative 0 0 (rest.dropWhile isDigit)
    else stopOn .badNumber s

/-- What follows the digits of a number: an exponent or the end. -/
def readTail (negative : Bool) (significand : Nat) (exponent : Int) (s : List Char) :
    Read Number :=
  match s with
  | 'e' :: rest => readExponent negative significand exponent rest
  | 'E' :: rest => readExponent negative significand exponent rest
  | _ => finishReal negative significand exponent s

/-- The digits after the decimal point. Digits that no longer fit a word are dropped; `exponent` is
the power of ten reached so far, and `seen` says whether a digit was read. -/
def readFraction (negative : Bool) (significand : Nat) (exponent : Int) (seen : Bool) :
    List Char → Read Number
  | [] => if seen then finishReal negative significand exponent [] else stopAt .endInValue []
  | c :: rest =>
    if isDigit c then
      let next := significand * 10 + digitValue c
      if wordMax < next then readTail negative significand exponent (rest.dropWhile isDigit)
      else readFraction negative next (exponent - 1) true rest
    else if seen then readTail negative significand exponent (c :: rest)
    else stopOn .badNumber (c :: rest)

/-- The remaining digits before the decimal point of a number whose digits no longer fit a word. -/
def readLong (negative : Bool) (significand : Nat) (exponent : Int) : List Char → Read Number
  | [] => finishReal negative significand exponent []
  | c :: rest =>
    if isDigit c then readLong negative significand (exponent + 1) rest
    else if c = '.' then readFraction negative significand exponent false rest
    else readTail negative significand exponent (c :: rest)

/-- The number without fraction and exponent: an integer where a word has room for it. Minus zero is
no integer. -/
def finishInteger (negative : Bool) (significand : Nat) (rest : List Char) : Read Number :=
  if negative then
    if significand = 0 ∨ 0x8000000000000000 < significand then
      .ok (.real (Binary64.ofRatio true significand 1), rest)
    else .ok (.integer (-(significand : Int)), rest)
  else .ok (.integer significand, rest)

/-- The digits before the decimal point, after those that denote `significand`. -/
def readInteger (negative : Bool) (significand : Nat) : List Char → Read Number
  | [] => finishInteger negative significand []
  | c :: rest =>
    if isDigit c then
      let next := significand * 10 + digitValue c
      if wordMax < next then readLong negative significand 1 rest
      else readInteger negative next rest
    else if c = '.' then readFraction negative significand 0 false rest
    else if c = 'e' ∨ c = 'E' then readExponent negative significand 0 rest
    else finishInteger negative significand (c :: rest)

/-- A number after its sign. No digit may follow a leading zero. -/
def readNumber (negative : Bool) : List Char → Read Number
  | [] => stopAt .endInValue []
  | c :: rest =>
    if c = '0' then
      match rest with
      | d :: _ => if isDigit d then stopOn .badNumber rest else readInteger negative 0 rest
      | [] => readInteger negative 0 []
    else if isDigit c then readInteger negative (digitValue c) rest
    else stopOn .badNumber (c :: rest)

/-! ## Strings -/

/-- The number of four hexadecimal digits. The text must have four bytes left; these are passed over
even if they are no digits. -/
def readHex (s : List Char) : Read Nat :=
  if Text.Utf8.size (s.take 4) < 4 then stopAt .endInString []
  else match s with
    | a :: b :: c :: d :: rest =>
      match hexValue? a, hexValue? b, hexValue? c, hexValue? d with
      | some a, some b, some c, some d => .ok (((a * 16 + b) * 16 + c) * 16 + d, rest)
      | _, _, _, _ => .error (.behind .badEscape (Text.Utf8.size s - 4))
    | _ => .error (.behind .badEscape (Text.Utf8.size s - 4))

/-- The second half of a surrogate pair whose first half is `high`. -/
def readLowHalf (high : Nat) (s : List Char) : Read Char :=
  match s with
  | '\\' :: 'u' :: rest =>
    match readHex rest with
    | .error stop => .error stop
    | .ok (low, rest) =>
      if 0xDC00 ≤ low ∧ low ≤ 0xDFFF then
        .ok (Char.ofNat ((high - 0xD800) * 0x400 + (low - 0xDC00) + 0x10000), rest)
      else stopAt .loneSurrogate rest
  | '\\' :: [] => stopAt .endInString []
  | '\\' :: rest => stopOn .surrogateUnpaired rest
  | [] => stopAt .endInString []
  | _ => stopOn .surrogateUnpaired s

/-- The character of a numeric escape. -/
def readCode (s : List Char) : Read Char :=
  match readHex s with
  | .error stop => .error stop
  | .ok (n, rest) =>
    if 0xDC00 ≤ n ∧ n ≤ 0xDFFF then stopAt .loneSurrogate rest
    else if 0xD800 ≤ n ∧ n ≤ 0xDBFF then readLowHalf n rest
    else .ok (Char.ofNat n, rest)

/-- The character of an escape, from the character after the backslash on. -/
def readEscape (s : List Char) : Read Char :=
  match s with
  | [] => stopAt .endInString []
  | '"' :: rest => .ok ('"', rest)
  | '\\' :: rest => .ok ('\\', rest)
  | '/' :: rest => .ok ('/', rest)
  | 'b' :: rest => .ok ('\x08', rest)
  | 'f' :: rest => .ok ('\x0c', rest)
  | 'n' :: rest => .ok ('\n', rest)
  | 'r' :: rest => .ok ('\r', rest)
  | 't' :: rest => .ok ('\t', rest)
  | 'u' :: rest => readCode rest
  | _ => stopOn .badEscape s

/-- A string after its opening quote. Each step takes at least one character, so one step more than
there are characters is enough; `seen` holds the characters read, last one first. -/
def readString : Nat → List Char → List Char → Read String
  | 0, _, s => stopAt .endInString s
  | steps + 1, seen, s =>
    match s with
    | [] => stopAt .endInString []
    | c :: rest =>
      if c = '"' then .ok (String.ofList seen.reverse, rest)
      else if c = '\\' then
        match readEscape rest with
        | .ok (d, rest) => readString steps (d :: seen) rest
        | .error stop => .error stop
      else if c.toNat < 0x20 then stopOn .controlInString s
      else readString steps (c :: seen) rest

/-! ## Values -/

/-- How deep arrays and objects may be nested, plus one. -/
def depthLimit : Nat := 128

/-- The name that is reserved for a text inside the text. -/
def embeddedName : String := "$serde_json::private::RawValue"

/-- The rest of one of the three words of JSON, which stands for `v`. -/
def readWord {α : Type} (v : α) : List Char → List Char → Read α
  | [], s => .ok (v, s)
  | _ :: _, [] => stopAt .endInValue []
  | d :: word, c :: rest =>
    if c = d then readWord v word rest else stopOn .wordExpected (c :: rest)

/-- What stands where a string is wanted. Of an array or an object only the beginning is looked at. -/
def readOther (s : List Char) : Read Other :=
  match s with
  | 'n' :: rest => readWord .null ['u', 'l', 'l'] rest
  | 't' :: rest => readWord (.bool true) ['r', 'u', 'e'] rest
  | 'f' :: rest => readWord (.bool false) ['a', 'l', 's', 'e'] rest
  | '-' :: rest => (readNumber true rest).map fun (n, rest) => (.number n, rest)
  | '[' :: _ => .ok (.array, s)
  | '\x7b' :: _ => .ok (.object, s)
  | c :: _ =>
    if isDigit c then (readNumber false s).map fun (n, rest) => (.number n, rest)
    else stopOn .valueExpected s
  | [] => stopAt .endInValue []

/-- The text behind the reserved name, from its colon on. -/
def readEmbeddedText (steps : Nat) (s : List Char) : Read String :=
  match skip s with
  | [] => stopAt .endInObject []
  | ':' :: rest =>
    match skip rest with
    | '"' :: rest => readString steps [] rest
    | rest =>
      match readOther rest with
      | .ok (found, rest) => stopAt (.noEmbeddedText found) rest
      | .error stop => .error stop
  | rest => stopOn .colonExpected rest

/-- The brace that must follow the text behind the reserved name. -/
def closeEmbedded (v : Value) (s : List Char) : Read Value :=
  match skip s with
  | [] => stopAt .endInObject []
  | '\x7d' :: rest => .ok (v, rest)
  | ',' :: rest => stopOn .trailingComma (',' :: rest)
  | rest => stopOn .trailingText rest

/-- The blanks that may follow a whole text, and nothing else. -/
def finish (v : Value) (s : List Char) : Except Stop Value :=
  match skip s with
  | [] => .ok v
  | rest => stopOn .trailingText rest

mutual

/-- A value with blanks before it. The first number bounds the steps of every kind; no three of them
in a row take less than one character. `depth` is how many arrays and objects may still be opened. -/
def readValue : Nat → Nat → List Char → Read Value
  | 0, _, s => stopAt .endInValue s
  | steps + 1, depth, s =>
    match skip s with
    | [] => stopAt .endInValue []
    | '"' :: rest => (readString steps [] rest).map fun (t, rest) => (.text t, rest)
    | '-' :: rest => (readNumber true rest).map fun (n, rest) => (.number n, rest)
    | 'n' :: rest => readWord .null ['u', 'l', 'l'] rest
    | 't' :: rest => readWord (.bool true) ['r', 'u', 'e'] rest
    | 'f' :: rest => readWord (.bool false) ['a', 'l', 's', 'e'] rest
    | '[' :: rest =>
      if depth ≤ 1 then stopOn .tooDeep ('[' :: rest)
      else (readItems steps (depth - 1) true [] rest).map fun (items, rest) =>
        (.array items, rest)
    | '\x7b' :: rest =>
      if depth ≤ 1 then stopOn .tooDeep ('\x7b' :: rest)
      else readObject steps (depth - 1) rest
    | c :: rest =>
      if isDigit c then (readNumber false (c :: rest)).map fun (n, rest) => (.number n, rest)
      else stopOn .valueExpected (c :: rest)

/-- The items of an array up to its bracket; `seen` holds those read, last one first. -/
def readItems : Nat → Nat → Bool → List Value → List Char → Read (List Value)
  | 0, _, _, _, s => stopAt .endInArray s
  | steps + 1, depth, first, seen, s =>
    match skip s with
    | [] => stopAt .endInArray []
    | ']' :: rest => .ok (seen.reverse, rest)
    | c :: rest =>
      if first then
        match readValue steps depth (c :: rest) with
        | .ok (v, rest) => readItems steps depth false (v :: seen) rest
        | .error stop => .error stop
      else if c = ',' then
        match skip rest with
        | [] => stopAt .endInValue []
        | ']' :: rest => stopOn .trailingComma (']' :: rest)
        | rest =>
          match readValue steps depth rest with
          | .ok (v, rest) => readItems steps depth false (v :: seen) rest
          | .error stop => .error stop
      else stopOn .arrayGoesOn (c :: rest)

/-- An object after its brace, or the value of the text that is wrapped up in it. -/
def readObject : Nat → Nat → List Char → Read Value
  | 0, _, s => stopAt .endInObject s
  | steps + 1, depth, s =>
    match skip s with
    | [] => stopAt .endInObject []
    | '\x7d' :: rest => .ok (.object [], rest)
    | '"' :: rest =>
      match readString steps [] rest with
      | .error stop => .error stop
      | .ok (name, rest) =>
        if name = embeddedName then readEmbedded steps rest
        else (readMember steps depth name [] rest).map fun (members, rest) =>
          (.object members, rest)
    | rest => stopOn .nameExpected rest

/-- The members of an object after the first one, up to its brace; `seen` holds those read. -/
def readMembers : Nat → Nat → List (String × Value) → List Char → Read (List (String × Value))
  | 0, _, _, s => stopAt .endInObject s
  | steps + 1, depth, seen, s =>
    match skip s with
    | [] => stopAt .endInObject []
    | '\x7d' :: rest => .ok (seen, rest)
    | ',' :: rest =>
      match skip rest with
      | [] => stopAt .endInValue []
      | '"' :: rest =>
        match readString steps [] rest with
        | .error stop => .error stop
        | .ok (name, rest) => readMember steps depth name seen rest
      | '\x7d' :: rest => stopOn .trailingComma ('\x7d' :: rest)
      | rest => stopOn .nameExpected rest
    | rest => stopOn .objectGoesOn rest

/-- The member of the given name, from its colon on, and the members after it. -/
def readMember : Nat → Nat → String → List (String × Value) → List Char →
    Read (List (String × Value))
  | 0, _, _, _, s => stopAt .endInObject s
  | steps + 1, depth, name, seen, s =>
    match skip s with
    | [] => stopAt .endInObject []
    | ':' :: rest =>
      match readValue steps depth rest with
      | .ok (v, rest) => readMembers steps depth (Entries.insert name v seen) rest
      | .error stop => .error stop
    | rest => stopOn .colonExpected rest

/-- The value of a text that is wrapped up in an object, from the colon after the reserved name on. The
text is shorter than the one around it, so the steps that are left are enough for it too. -/
def readEmbedded : Nat → List Char → Read Value
  | 0, s => stopAt .endInObject s
  | steps + 1, s =>
    match readEmbeddedText steps s with
    | .error stop => .error stop
    | .ok (text, rest) =>
      match readValue steps depthLimit text.toList with
      | .error stop => .error (.inside (stop.locate text.toList))
      | .ok (v, after) =>
        match finish v after with
        | .error stop => .error (.inside (stop.locate text.toList))
        | .ok v => closeEmbedded v rest

end

/-! ## Whole texts -/

/-- The value of a text that is one value and blanks. -/
def readAll (s : List Char) : Except Stop Value := do
  let (v, rest) ← readValue (3 * s.length + 3) depthLimit s
  finish v rest

/-- Reads a text as a JSON value. -/
def Value.ofText? (text : String) : Except Unreadable Value :=
  (readAll text.toList).mapError (Stop.locate text.toList)

end MysqlDesk.Json
