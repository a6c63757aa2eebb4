/-
Which values of a server become NULL.

The cell of a field is that of the first trial which is not refused. A NULL is refused by none, so it stays
NULL. For any other field a trial makes a cell that is not NULL (`isNull_of_trial`), so the cell is NULL
exactly if all trials refuse it (`isNull_extract_iff`). Who refuses what is a matter of the types that go
with each form, and then of the contents: `refuses_iff_loses` finds that dates, times of day, decimals and
geometries go with no form that is tried, that a date-time must be one, and that JSON must be readable.

`extract_eq_field` says that the trials make the cell that `ColumnType.field` gives at once, so all of this
holds for the rows of every select over a connection.
-/
import MysqlDesk.Wire.Connection
import MysqlDesk.Wire.Extraction

set_option autoImplicit false

namespace MysqlDesk.Wire

/-! ## Trials -/

theorem isNull_unsignedCell (n : UInt64) : (unsignedCell n).isNull = false := by
  unfold unsignedCell
  split <;> rfl

theorem Decoding.trial_some {α : Type} (d : Decoding α) (cell : α → Cell) (type : ColumnType)
    (content : Content) : d.trial cell type (some content)
      = if d.accepts type then (d.decode type content).map cell else none := by
  unfold Decoding.trial Decoding.get?
  by_cases haccepts : d.accepts type = true
  · simp only [haccepts, if_true]
    cases d.decode type content <;> rfl
  · simp [haccepts]

/-- What is decoded is no NULL. -/
theorem Decoding.isNull_of_trial {α : Type} {d : Decoding α} {cell : α → Cell}
    (hcell : ∀ value, (cell value).isNull = false) {type : ColumnType} {content : Content} {c : Cell}
    (h : d.trial cell type (some content) = some c) : c.isNull = false := by
  rw [Decoding.trial_some] at h
  split at h
  · obtain ⟨value, -, rfl⟩ := Option.map_eq_some_iff.1 h
    exact hcell value
  · cases h

/-- All trials refuse the contents. -/
structure Client.Refuses (client : Client) (type : ColumnType) (content : Content) : Prop where
  signed : client.signed.trial .int type (some content) = none
  unsigned : client.unsigned.trial unsignedCell type (some content) = none
  double : client.double.trial .real type (some content) = none
  single : client.single.trial (fun bits => .real (Binary64.ofShort bits)) type (some content) = none
  moment : client.moment.trial .moment type (some content) = none
  json : Trial.onlyOn .json (client.json.trial .json) type (some content) = none
  characters : client.characters.trial .text type (some content) = none
  octets : client.octets.trial .blob type (some content) = none

theorem Client.refuses_iff (client : Client) (type : ColumnType) (content : Content) :
    client.Refuses type content
      ↔ client.trials.findSome? (fun trial => trial type (some content)) = none := by
  rw [List.findSome?_eq_none_iff]
  unfold Client.trials
  simp only [List.forall_mem_cons, List.not_mem_nil, false_implies, implies_true, and_true]
  constructor
  · intro h
    exact ⟨h.signed, h.unsigned, h.double, h.single, h.moment, h.json, h.characters, h.octets⟩
  · rintro ⟨hsigned, hunsigned, hdouble, hsingle, hmoment, hjson, hcharacters, hoctets⟩
    exact ⟨hsigned, hunsigned, hdouble, hsingle, hmoment, hjson, hcharacters, hoctets⟩

/-- A trial that is not refused gives a cell that is not NULL. -/
theorem Client.isNull_of_mem_trials {client : Client} {trial : Trial} (hmem : trial ∈ client.trials)
    {type : ColumnType} {content : Content} {c : Cell} (h : trial type (some content) = some c) :
    c.isNull = false := by
  simp only [Client.trials, List.mem_cons, List.not_mem_nil, or_false] at hmem
  rcases hmem with rfl | rfl | rfl | rfl | rfl | rfl | rfl | rfl
  · exact Decoding.isNull_of_trial (fun _ => rfl) h
  · exact Decoding.isNull_of_trial isNull_unsignedCell h
  · exact Decoding.isNull_of_trial (fun _ => rfl) h
  · exact Decoding.isNull_of_trial (fun _ => rfl) h
  · exact Decoding.isNull_of_trial (fun _ => rfl) h
  · unfold Trial.onlyOn at h
    split at h
    · exact Decoding.isNull_of_trial (fun _ => rfl) h
    · cases h
  · exact Decoding.isNull_of_trial (fun _ => rfl) h
  · exact Decoding.isNull_of_trial (fun _ => rfl) h

/-- NULL is there in every form, so already the first trial gives it back. -/
theorem Client.extract_none (client : Client) (type : ColumnType) :
    client.extract type none = .null := rfl

/-- **Contents become NULL** exactly if all trials refuse them. -/
theorem Client.isNull_extract_iff (client : Client) (type : ColumnType) (content : Content) :
    (client.extract type (some content)).isNull = true ↔ client.Refuses type content := by
  rw [Client.refuses_iff]
  unfold Client.extract
  cases hfound : client.trials.findSome? fun trial => trial type (some content) with
  | none => exact iff_of_true rfl rfl
  | some c =>
    obtain ⟨trial, hmem, htrial⟩ := List.exists_of_findSome?_eq_some hfound
    rw [Option.getD_some, Client.isNull_of_mem_trials hmem htrial]
    exact iff_of_false Bool.false_ne_true (Option.some_ne_none c)

/-! ## Contents and their types -/

/-- The contents that a server sends in columns of a type. -/
inductive ColumnType.Carries : ColumnType → Content → Prop where
  | signedInteger (n : Int64) : Carries .signedInteger (.signed n)
  | unsignedInteger (n : UInt64) : Carries .unsignedInteger (.unsigned n)
  | year (n : UInt64) : Carries .year (.unsigned n)
  | bit (bytes : List UInt8) : Carries .bit (.octets bytes)
  | float (bits : UInt32) : Carries .float (.short bits)
  | double (bits : UInt64) : Carries .double (.long bits)
  | date (parts : Option RawMoment) : Carries .date (.moment parts)
  | time (bytes : List UInt8) : Carries .time (.octets bytes)
  | datetime (parts : Option RawMoment) : Carries .datetime (.moment parts)
  | timestamp (parts : Option RawMoment) : Carries .timestamp (.moment parts)
  | decimal (bytes : List UInt8) : Carries .decimal (.octets bytes)
  | geometry (bytes : List UInt8) : Carries .geometry (.octets bytes)
  | json (bytes : List UInt8) : Carries .json (.octets bytes)
  | characters (bytes : List UInt8) : Carries .characters (.octets bytes)
  | octets (bytes : List UInt8) : Carries .octets (.octets bytes)

/-- The parts are a day of the calendar and a time of day, perhaps in a leap second. -/
def RawMoment.Valid (r : RawMoment) : Prop :=
  r.year ≤ 262142 ∧ (1 ≤ r.month ∧ r.month ≤ 12) ∧ (1 ≤ r.day ∧ r.day ≤ daysInMonth r.year r.month)
    ∧ r.hour < 24 ∧ r.minute < 60 ∧ r.second < 60
    ∧ (r.microsecond < 1000000 ∨ r.second = 59 ∧ r.microsecond < 2000000)

/-- The contents of which no cell is made. -/
inductive ColumnType.Loses : ColumnType → Content → Prop where
  /-- No date is read. -/
  | date (content : Content) : Loses .date content
  /-- No time of day is read. -/
  | time (content : Content) : Loses .time content
  /-- No decimal is read. -/
  | decimal (content : Content) : Loses .decimal content
  /-- No geometry is read. -/
  | geometry (content : Content) : Loses .geometry content
  /-- The zero date, or parts that are no date-time. -/
  | datetime (parts : Option RawMoment) (h : ∀ r, parts = some r → ¬ r.Valid) :
      Loses .datetime (.moment parts)
  /-- Bytes that are no text, or a text that is not JSON. -/
  | json (bytes : List UInt8)
      (h : ∀ s v, Text.Utf8.decode? bytes = some s → Json.Value.ofText? (String.ofList s) ≠ .ok v) :
      Loses .json (.octets bytes)

/-! ## Who refuses what -/

/-- Parts are a date-time exactly if they are a date and a time of day. -/
theorem isSome_ofParts?_iff (p : Calendar.Parts) : (Moment.ofParts? p).isSome = true
    ↔ (-262143 ≤ p.year ∧ p.year ≤ 262142 ∧ 1 ≤ p.month ∧ p.month ≤ 12 ∧ 1 ≤ p.day ∧
        p.day ≤ daysInMonth p.year p.month)
      ∧ p.hour < 24 ∧ p.minute < 60 ∧ p.second ≤ 60 ∧ p.nanosecond < 1000000000 := by
  unfold Moment.ofParts? Date.ofParts? Clock.ofParts?
  split
  · rename_i hdate
    rw [and_iff_right hdate]
    split
    · rename_i hclock
      exact iff_of_true rfl hclock
    · rename_i hclock
      exact iff_of_false Bool.false_ne_true hclock
  · rename_i hdate
    exact iff_of_false Bool.false_ne_true fun h => hdate h.1

/-- The parts that a server sends give a date-time exactly if they are valid. -/
theorem RawMoment.isSome_toMoment?_iff (r : RawMoment) : r.toMoment?.isSome = true ↔ r.Valid := by
  unfold RawMoment.toMoment? RawMoment.Valid
  by_cases hsecond : 59 < r.second
  · simp only [if_pos hsecond]
    exact iff_of_false Bool.false_ne_true (by omega)
  · by_cases hleap : r.second = 59 ∧ 1000000 ≤ r.microsecond
    · -- the second is 60 then, and a million microseconds are taken off
      simp only [if_neg hsecond, if_pos hleap, isSome_ofParts?_iff]
      omega
    · simp only [if_neg hsecond, if_neg hleap, isSome_ofParts?_iff]
      omega

/-- No date-time is made of the zero date, nor of parts that are not valid. -/
theorem bind_toMoment?_eq_none_iff (parts : Option RawMoment) :
    parts.bind RawMoment.toMoment? = none ↔ ∀ r, parts = some r → ¬ r.Valid := by
  rw [Option.bind_eq_none_iff]
  constructor
  · intro h r hr hvalid
    have hsome : r.toMoment?.isSome = true := r.isSome_toMoment?_iff.2 hvalid
    rw [h r hr] at hsome
    cases hsome
  · intro h r hr
    rw [← Option.not_isSome_iff_eq_none, r.isSome_toMoment?_iff]
    exact h r hr

/-- The value of bytes that are the text of one. -/
def jsonValue? (bytes : List UInt8) : Option Json.Value :=
  (Text.Utf8.decode? bytes).bind fun s => (Json.Value.ofText? (String.ofList s)).toOption

theorem jsonValue?_eq_none_iff (bytes : List UInt8) :
    jsonValue? bytes = none ↔ ∀ s v, Text.Utf8.decode? bytes = some s →
      Json.Value.ofText? (String.ofList s) ≠ .ok v := by
  unfold jsonValue?
  rw [Option.bind_eq_none_iff]
  constructor
  · intro h s v hs hv
    have hnone := h s hs
    rw [hv] at hnone
    cases hnone
  · intro h s hs
    cases hread : Json.Value.ofText? (String.ofList s) with
    | error cause => rfl
    | ok v => exact absurd hread (h s v hs)

theorem trial_moment (parts : Option RawMoment) :
    Client.standard.moment.trial .moment .datetime (some (.moment parts))
      = (parts.bind RawMoment.toMoment?).map .moment :=
  Decoding.trial_some _ _ _ _

theorem trial_json (bytes : List UInt8) :
    Trial.onlyOn .json (Client.standard.json.trial .json) .json (some (.octets bytes))
      = (jsonValue? bytes).map .json :=
  Decoding.trial_some _ _ _ _

theorem trial_characters (bytes : List UInt8) :
    Client.standard.characters.trial .text .characters (some (.octets bytes))
      = ((Text.Utf8.decode? bytes).map String.ofList).map .text :=
  Decoding.trial_some _ _ _ _

/-- **Who refuses what.** Of the contents that a server sends, all trials refuse those that are lost, and
only those. The cases are the types of columns, and in each case one trial decides. -/
theorem refuses_iff_loses {type : ColumnType} {content : Content} (hcarries : type.Carries content)
    (htype : type ≠ .timestamp) : Client.standard.Refuses type content ↔ type.Loses content := by
  cases hcarries with
  | signedInteger n =>
    exact iff_of_false (fun h => Option.some_ne_none _ h.signed) fun h => nomatch h
  | unsignedInteger n =>
    exact iff_of_false (fun h => Option.some_ne_none _ h.unsigned) fun h => nomatch h
  | year n => exact iff_of_false (fun h => Option.some_ne_none _ h.unsigned) fun h => nomatch h
  | bit bytes => exact iff_of_false (fun h => Option.some_ne_none _ h.unsigned) fun h => nomatch h
  | float bits => exact iff_of_false (fun h => Option.some_ne_none _ h.double) fun h => nomatch h
  | double bits => exact iff_of_false (fun h => Option.some_ne_none _ h.double) fun h => nomatch h
  | date parts => exact iff_of_true ⟨rfl, rfl, rfl, rfl, rfl, rfl, rfl, rfl⟩ (.date _)
  | time bytes => exact iff_of_true ⟨rfl, rfl, rfl, rfl, rfl, rfl, rfl, rfl⟩ (.time _)
  | decimal bytes => exact iff_of_true ⟨rfl, rfl, rfl, rfl, rfl, rfl, rfl, rfl⟩ (.decimal _)
  | geometry bytes => exact iff_of_true ⟨rfl, rfl, rfl, rfl, rfl, rfl, rfl, rfl⟩ (.geometry _)
  | timestamp parts => exact absurd rfl htype
  | datetime parts =>
    have hmoment : Client.standard.moment.trial .moment .datetime (some (.moment parts)) = none
        ↔ ∀ r, parts = some r → ¬ r.Valid := by
      rw [trial_moment, Option.map_eq_none_iff, bind_toMoment?_eq_none_iff]
    constructor
    · intro h
      exact .datetime parts (hmoment.1 h.moment)
    · intro h
      cases h with
      | datetime parts hinvalid =>
        exact ⟨rfl, rfl, rfl, rfl, hmoment.2 hinvalid, rfl, rfl, rfl⟩
  | json bytes =>
    have hjson := jsonValue?_eq_none_iff bytes
    rw [← Option.map_eq_none_iff (f := Cell.json), ← trial_json] at hjson
    constructor
    · intro h
      exact .json bytes (hjson.1 h.json)
    · intro h
      cases h with
      | json bytes hunreadable =>
        exact ⟨rfl, rfl, rfl, rfl, rfl, hjson.2 hunreadable, rfl, rfl⟩
  | characters bytes =>
    -- bytes that are no text are left as bytes
    exact iff_of_false (fun h => Option.some_ne_none _ h.octets) fun h => nomatch h
  | octets bytes => exact iff_of_false (fun h => Option.some_ne_none _ h.octets) fun h => nomatch h

/-! ## The same cell at once -/

theorem findSome?_cons_eq_or {α β : Type} (f : α → Option β) (a : α) (l : List α) :
    (a :: l).findSome? f = (f a).or (l.findSome? f) := by
  rw [List.findSome?_cons]
  cases f a <;> rfl

/-- The trials one behind the other. -/
theorem Client.extract_eq_or (client : Client) (type : ColumnType) (field : Option Content) :
    client.extract type field
      = ((client.signed.trial .int type field).or
        ((client.unsigned.trial unsignedCell type field).or
        ((client.double.trial .real type field).or
        ((client.single.trial (fun bits => .real (Binary64.ofShort bits)) type field).or
        ((client.moment.trial .moment type field).or
        ((Trial.onlyOn .json (client.json.trial .json) type field).or
        ((client.characters.trial .text type field).or
        ((client.octets.trial .blob type field).or none)))))))).getD .null := by
  unfold Client.extract Client.trials
  simp only [findSome?_cons_eq_or, List.findSome?_nil]

/-- The trials make the same cell as the type of the column does at once. For most contents one trial takes
them and all others refuse, whatever the contents are; the three cases that are written out depend on what
is decoded. -/
theorem extract_eq_field (type : ColumnType) (field : Option Content) :
    Client.standard.extract type field = type.field field := by
  cases field with
  | none => rfl
  | some content =>
    -- contents that do not belong to the type are refused by all, and are NULL at once
    cases type <;> cases content
    case datetime.moment parts =>
      have htrials : Client.standard.extract .datetime (some (.moment parts))
          = (((parts.bind RawMoment.toMoment?).map Cell.moment).or none).getD .null := by
        rw [Client.extract_eq_or, trial_moment]
        rfl
      rw [htrials, Option.or_none]
      rfl
    case json.octets bytes =>
      have htrials : Client.standard.extract .json (some (.octets bytes))
          = (((jsonValue? bytes).map Cell.json).or none).getD .null := by
        rw [Client.extract_eq_or, trial_json]
        rfl
      have hfield : ColumnType.json.field (some (.octets bytes)) = jsonCell bytes := rfl
      rw [htrials, Option.or_none, hfield]
      unfold jsonValue? jsonCell
      cases Text.Utf8.decode? bytes with
      | none => rfl
      | some s =>
        dsimp only [Option.bind_some]
        cases Json.Value.ofText? (String.ofList s) <;> rfl
    case characters.octets bytes =>
      -- what is no text is taken by the last trial
      have htrials : Client.standard.extract .characters (some (.octets bytes))
          = ((((Text.Utf8.decode? bytes).map String.ofList).map Cell.text).or
              (some (.blob bytes))).getD .null := by
        rw [Client.extract_eq_or, trial_characters]
        rfl
      have hfield : ColumnType.characters.field (some (.octets bytes)) = charactersCell bytes := rfl
      rw [htrials, hfield]
      unfold charactersCell
      cases Text.Utf8.decode? bytes <;> rfl
    all_goals rfl

/-- A field that may be NULL becomes NULL exactly if it is, or if its contents are lost. -/
theorem isNull_extract_iff_loses {type : ColumnType} {field : Option Content}
    (hcarries : ∀ content, field = some content → type.Carries content) (htype : type ≠ .timestamp) :
    (Client.standard.extract type field).isNull = true
      ↔ field = none ∨ ∃ content, field = some content ∧ type.Loses content := by
  cases field with
  | none =>
    rw [Client.extract_none]
    exact iff_of_true rfl (Or.inl rfl)
  | some content =>
    rw [Client.isNull_extract_iff, refuses_iff_loses (hcarries content rfl) htype]
    constructor
    · intro hloses
      exact Or.inr ⟨content, rfl, hloses⟩
    · rintro (hnone | ⟨other, hother, hloses⟩)
      · cases hnone
      · rwa [Option.some.inj hother]

/-! ## The rows of a select -/

/-- The contents of a row are such as a server sends in the columns where they stand. -/
def Fits (columns : List Column) (row : List (Option Content)) : Prop :=
  ∀ (place : Nat) column content, columns[place]? = some column →
    row[place]? = some (some content) → column.type.Carries content

/-- The cells of a row. -/
def cellsOf (columns : List Column) (row : List (Option Content)) : List Cell :=
  List.zipWith (fun column field => Client.standard.extract column.type field) columns row

/-- A reply with rows is a result set of as many rows, each with the cells of its fields. -/
theorem resultSet_of_rows (c : Connection) (columns : List Column)
    (rows : List (List (Option Content))) : ∃ rs, c.resultSet (.rows columns rows) = .ok rs
      ∧ rs.rows = rows.map fun row => ⟨columns.map Column.name, cellsOf columns row⟩ := by
  have hcells : cellsOf columns = fun row =>
      List.zipWith (fun (column : Column) field => column.type.field field) columns row := by
    funext row
    unfold cellsOf
    simp only [extract_eq_field]
  unfold Connection.resultSet
  by_cases hempty : rows = []
  · simp only [hempty, if_true]
    exact ⟨_, rfl, rfl⟩
  · simp only [if_neg hempty]
    refine ⟨_, rfl, ?_⟩
    rw [ResultSet.ofRows_eq, List.map_map, hcells]
    rfl

/-- A select whose parameters can be written gives the result set of the next reply. -/
theorem select_of_reply {c : Connection} {statement : Statement} {params : List Param}
    (hparams : Param.ofCells statement.params = .ok params) {reply : Reply} {rest : List Reply}
    (hreplies : c.replies = reply :: rest) (limit : Option Span) :
    ∃ c' : Connection, (Connection.executor.select statement limit c).1 = c'.resultSet reply := by
  unfold Connection.executor Connection.execute Connection.send
  simp only [hparams, hreplies]
  exact ⟨_, rfl⟩

/-- **No value is dropped but those that are lost.** A select whose parameters can be written, and that the
server answers with rows, gives a result set of as many rows, with a cell for each field. In every column but
those of time stamps the cell is what the trials make of the field, and it is NULL exactly if the field is
NULL, or is a date, a time of day, a decimal or a geometry, or a date-time that is not valid, or JSON that
cannot be read. -/
theorem select_isNull_iff {c : Connection} {statement : Statement} {params : List Param}
    (hparams : Param.ofCells statement.params = .ok params)
    {columns : List Column} {rows : List (List (Option Content))} {rest : List Reply}
    (hreplies : c.replies = .rows columns rows :: rest) (hfits : ∀ row ∈ rows, Fits columns row)
    (limit : Option Span) :
    ∃ rs : ResultSet, (Connection.executor.select statement limit c).1 = .ok rs
      ∧ rs.rows.length = rows.length
      ∧ ∀ (i j : Nat) row column field,
          rows[i]? = some row → columns[j]? = some column → row[j]? = some field →
          ∃ cell : Cell, (rs.rows[i]?.bind fun r => r.cell? j) = some cell
            ∧ (column.type ≠ .timestamp → cell = Client.standard.extract column.type field
              ∧ (cell.isNull = true
                ↔ field = none ∨ ∃ content, field = some content ∧ column.type.Loses content)) := by
  obtain ⟨c', hselect⟩ := select_of_reply hparams hreplies limit
  obtain ⟨rs, hread, hrows⟩ := resultSet_of_rows c' columns rows
  refine ⟨rs, hselect.trans hread, by rw [hrows, List.length_map], ?_⟩
  intro i j row column field hrow hcolumn hfield
  refine ⟨Client.standard.extract column.type field, ?_, fun htype => ⟨rfl, ?_⟩⟩
  · rw [hrows, List.getElem?_map, hrow]
    show (cellsOf columns row)[j]? = _
    unfold cellsOf
    rw [List.getElem?_zipWith, hcolumn, hfield]
  · refine isNull_extract_iff_loses (fun content hcontent => ?_) htype
    rw [hcontent] at hfield
    exact hfits row (List.mem_of_getElem? hrow) j column content hcolumn hfield

/-- A connection over which one reply is still to come. -/
def answering (reply : Reply) : Connection :=
  { (default : Connection) with replies := [reply] }

/-- A number too large for a signed word is kept, and a price in the next column is not. -/
theorem select_isNull_iff_of_price :
    ∃ rs : ResultSet, (Connection.executor.select ⟨"SELECT id, price FROM orders", []⟩ none (answering
        (.rows [⟨"id", .unsignedInteger⟩, ⟨"price", .decimal⟩]
          [[some (.unsigned 18446744073709551615), some (.octets [49, 46, 53, 48])]]))).1 = .ok rs
      ∧ (∃ cell : Cell, (rs.rows[0]?.bind fun r => r.cell? 0) = some cell ∧ cell.isNull ≠ true)
      ∧ ∃ cell : Cell, (rs.rows[0]?.bind fun r => r.cell? 1) = some cell ∧ cell.isNull = true := by
  have hfits : ∀ row ∈ [[some (Content.unsigned 18446744073709551615),
      some (Content.octets [49, 46, 53, 48])]],
      Fits [⟨"id", .unsignedInteger⟩, ⟨"price", .decimal⟩] row := by
    intro row hrow place column content hcolumn hcontent
    rw [List.mem_singleton.1 hrow] at hcontent
    match place with
    | 0 =>
      cases hcolumn
      cases hcontent
      exact .unsignedInteger _
    | 1 =>
      cases hcolumn
      cases hcontent
      exact .decimal _
    | _ + 2 => cases hcolumn
  have hparams : Param.ofCells (⟨"SELECT id, price FROM orders", []⟩ : Statement).params = .ok [] :=
    rfl
  obtain ⟨rs, hselect, -, hcells⟩ := select_isNull_iff hparams
    (c := answering (.rows [⟨"id", .unsignedInteger⟩, ⟨"price", .decimal⟩]
      [[some (.unsigned 18446744073709551615), some (.octets [49, 46, 53, 48])]])) rfl hfits none
  obtain ⟨id, hid, hkept⟩ := hcells 0 0 _ _ _ rfl rfl rfl
  obtain ⟨price, hprice, hlost⟩ := hcells 0 1 _ _ _ rfl rfl rfl
  refine ⟨rs, hselect, ⟨id, hid, ?_⟩, price, hprice, ?_⟩
  · intro hnull
    rcases (hkept (by decide)).2.1 hnull with hnone | ⟨content, hcontent, hloses⟩
    · cases hnone
    · cases hcontent
      cases hloses
  · exact (hlost (by decide)).2.2 (Or.inr ⟨_, rfl, .decimal _⟩)

/-- None of these fields is NULL, and all of them become NULL: a decimal, a date, a time of day, a geometry,
the zero date, the thirteenth month, a brace that is not closed, and a byte that is no text. -/
theorem select_drops_values :
    ∃ rs : ResultSet, (Connection.executor.select ⟨"SELECT * FROM orders", []⟩ none (answering
        (.rows
          [⟨"price", .decimal⟩, ⟨"day", .date⟩, ⟨"hour", .time⟩, ⟨"place", .geometry⟩,
            ⟨"paid", .datetime⟩, ⟨"sent", .datetime⟩, ⟨"tags", .json⟩, ⟨"notes", .json⟩]
          [[some (.octets [49, 46, 53, 48]), some (.moment (some ⟨2024, 5, 6, 0, 0, 0, 0⟩)),
            some (.octets [49, 50, 58, 51, 48]), some (.octets [0]), some (.moment none),
            some (.moment (some ⟨2024, 13, 6, 0, 0, 0, 0⟩)), some (.octets [123]),
            some (.octets [255])]]))).1 = .ok rs
      ∧ rs.rows.map (fun row => row.cells.map Cell.isNull)
        = [[true, true, true, true, true, true, true, true]] :=
  ⟨_, rfl, by decide +kernel⟩

end MysqlDesk.Wire
