/-
Errors of a database call, in words for a reader.

The error of the driver is kept as it came, with what was being run. Its message is reworded: three
well-known server errors are said in a few words that name the object, an unreachable server is named
with its address, and every other server error is shown in lower case. A message that the caller gave
is shown as it is, except that the three well-known errors are reworded also then.
-/
import MysqlDesk.Cell
import MysqlDesk.Error.Driver
import MysqlDesk.Text.Cut
import MysqlDesk.Text.Lowercase

set_option autoImplicit false

namespace MysqlDesk

/-- An error of a database call. -/
structure DatabaseError where
  driver : DriverError
  /-- What the caller says instead of the driver. -/
  note : Option String
  query : Option String
  values : List Cell
  host : Option String
  deriving Inhabited

namespace DatabaseError

/-- The error of the driver and nothing else. -/
def ofDriver (driver : DriverError) : DatabaseError :=
  ⟨driver, none, none, [], none⟩

/-- The error with a message of the caller. -/
def withNote (driver : DriverError) (note : String) : DatabaseError :=
  { ofDriver driver with note := some note }

/-- The error with the statement that failed and its values. -/
def withQuery (driver : DriverError) (query : String) (values : List Cell) : DatabaseError :=
  { ofDriver driver with query := some query, values }

/-- A transaction could not be begun. -/
def onBegin (driver : DriverError) : DatabaseError :=
  withNote driver "failed starting transaction"

/-- A transaction could not be committed. -/
def onCommit (driver : DriverError) : DatabaseError :=
  withNote driver "failed committing transaction"

/-- The error with the server it came from. -/
def withHost (e : DatabaseError) (host : String) : DatabaseError :=
  { e with host := some host }

/-- The error number. -/
def number? (e : DatabaseError) : Option UInt16 :=
  e.driver.number?

/-- Whether the error has this number. -/
def hasNumber (e : DatabaseError) (number : UInt16) : Bool :=
  e.number? == some number

/-! ## Wording -/

/-- The text up to the next single quote on the same line. -/
def untilQuote? : List Char → Option (List Char)
  | [] => none
  | c :: rest =>
    if c = '\'' then some []
    else if c = '\n' then none
    else (untilQuote? rest).map (c :: ·)

/-- The text between the first two single quotes that stand on one line with no quote between. -/
def firstQuoted? : List Char → Option (List Char)
  | [] => none
  | c :: rest =>
    if c = '\'' then
      match untilQuote? rest with
      | some name => some name
      | none => firstQuoted? rest
    else firstQuoted? rest

/-- The text with the contractions of `cannot` and `does not` written out, so that their apostrophes
are not taken for quotes. -/
def spellOut (s : List Char) : List Char :=
  Text.exchange "oesn't".toList "oes not".toList (Text.exchange "an't".toList "annot".toList s)

/-- The wording for an error of a well-known number about the object `name`. -/
def namedWording (number : UInt16) (name : String) : Option String :=
  if number = schemaExists then some s!"schema '{name}' not available"
  else if number = schemaMissing then some s!"schema '{name}' does not exist"
  else if number = duplicateEntry then some s!"'{name}' not available"
  else none

/-- The numbers whose errors are reworded. -/
def isWellKnown (number : UInt16) : Bool :=
  number == schemaExists || number == schemaMissing || number == duplicateEntry

/-- The message for a reader. -/
def message (e : DatabaseError) : String :=
  match e.driver with
  | .refused cause =>
    "unknown MySQL server host '" ++ e.host.getD "<unknown>" ++ "' (" ++ cause.message
      ++ ") [2005:HY000]"
  | driver =>
    let said := e.note.getD driver.note
    match driver.number? with
    | none => said
    | some number =>
      if isWellKnown number then
        let spelled := spellOut said.toList
        match firstQuoted? spelled with
        | some name => (namedWording number (String.ofList name)).getD (String.ofList spelled)
        | none => String.ofList spelled
      else if e.note.isNone then Text.lowercase said
      else said

/-- The message, followed by those of the errors behind it. -/
def chain (e : DatabaseError) : List String :=
  e.message :: e.driver.message :: e.driver.causes

end DatabaseError

end MysqlDesk
