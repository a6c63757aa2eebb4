/-
How a field becomes a cell: one decoding after the other.

A client can be asked for the value of a field in a certain form. It refuses if it does not list the type
of the column among those that go with the form, or if the contents cannot be decoded that way; and a NULL
is there in every form. No form goes with all types, so the forms are tried in turn, the most common first,
and the first value that is there becomes the cell. If no form is left, the cell is NULL.

Every type that JSON text can be read from goes with JSON, plain texts among them. So this form is tried on
columns of JSON alone.
-/
import MysqlDesk.Wire.Column

set_option autoImplicit false

namespace MysqlDesk.Wire

/-! ## One decoding -/

/-- A form in which a client decodes fields: the types that go with it, and what it makes of contents. -/
structure Decoding (α : Type) where
  accepts : ColumnType → Bool
  decode : ColumnType → Content → Option α

/-- Asks for a field in this form. The outer `none` is a refusal, the inner one is NULL. -/
def Decoding.get? {α : Type} (d : Decoding α) (type : ColumnType) :
    Option Content → Option (Option α)
  | none => some none
  | some content => if d.accepts type then (d.decode type content).map some else none

/-- The cell that is made of a field in this form, if it is not refused. -/
def Decoding.trial {α : Type} (d : Decoding α) (cell : α → Cell) (type : ColumnType)
    (field : Option Content) : Option Cell :=
  (d.get? type field).map fun value => (value.map cell).getD .null

/-! ## All decodings in turn -/

/-- The forms in which fields are asked for. -/
structure Client where
  signed : Decoding Int64
  unsigned : Decoding UInt64
  double : Decoding Binary64
  /-- A number of single precision, by its bits. -/
  single : Decoding UInt32
  moment : Decoding Moment
  json : Decoding Json.Value
  characters : Decoding String
  octets : Decoding (List UInt8)

/-- An attempt to make a cell of a field of a column. -/
abbrev Trial := ColumnType → Option Content → Option Cell

/-- The trial is made on columns of one type alone. -/
def Trial.onlyOn (type : ColumnType) (trial : Trial) : Trial :=
  fun actual field => if actual = type then trial actual field else none

/-- The trials in their order. -/
def Client.trials (client : Client) : List Trial :=
  [ client.signed.trial .int,
    client.unsigned.trial unsignedCell,
    client.double.trial .real,
    client.single.trial fun bits => .real (Binary64.ofShort bits),
    client.moment.trial .moment,
    Trial.onlyOn .json (client.json.trial .json),
    client.characters.trial .text,
    client.octets.trial .blob ]

/-- The cell of the first trial that is not refused, or NULL. -/
def Client.extract (client : Client) (type : ColumnType) (field : Option Content) : Cell :=
  (client.trials.findSome? fun trial => trial type field).getD .null

/-! ## What a client goes by -/

/-- The forms by the types that go with them. Dates, times of day, time stamps, decimals and geometries go
with forms of their own, which are not asked for. -/
def Client.standard : Client where
  signed :=
    { accepts := (· == .signedInteger)
      decode := fun
        | _, .signed n => some n
        | _, _ => none }
  unsigned :=
    { accepts := fun type => type == .unsignedInteger || type == .year || type == .bit
      decode := fun
        | .bit, .octets bytes => some (bigEndian bytes)
        | .unsignedInteger, .unsigned n => some n
        | .year, .unsigned n => some n
        | _, _ => none }
  double :=
    { accepts := fun type => type == .float || type == .double
      decode := fun
        | .float, .short bits => some (Binary64.ofShort bits)
        | .double, .long bits => some ⟨bits⟩
        | _, _ => none }
  single :=
    { accepts := (· == .float)
      decode := fun
        | _, .short bits => some bits
        | _, _ => none }
  moment :=
    { accepts := (· == .datetime)
      decode := fun
        | _, .moment parts => parts.bind RawMoment.toMoment?
        | _, _ => none }
  json :=
    { accepts := fun type => type == .json || type == .characters || type == .octets
      decode := fun
        | _, .octets bytes =>
          (Text.Utf8.decode? bytes).bind fun s => (Json.Value.ofText? (String.ofList s)).toOption
        | _, _ => none }
  characters :=
    { accepts := (· == .characters)
      decode := fun
        | _, .octets bytes => (Text.Utf8.decode? bytes).map String.ofList
        | _, _ => none }
  octets :=
    { accepts := fun type => type == .characters || type == .octets
      decode := fun
        | _, .octets bytes => some bytes
        | _, _ => none }

end MysqlDesk.Wire
