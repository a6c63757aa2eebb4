/-
The events of the general log: all of them, or what the first bad row is missing.

The rows come from a server, and nothing is known of them. A row may have its columns in any order, others
between them and some of them twice; it may be too short; and a cell may be of any kind. So what it is for a
row to have a value is said here without the reader: the last column of the name has a cell, and the cell is
of a kind that has such a value (`Row.Has`). A row is read exactly if all six columns have theirs
(`Reads`), and else the error names the first of them that does not, in the order of the fields of an event
(`FirstUnreadable`).

The laws of a whole answer are then those of a list that is read entry by entry. And as all of this is about
names, an answer with its columns in another order gives the same events, and the same error.
-/
import MysqlDesk.Log.General
import MysqlDesk.Proofs.Program.Run
import MysqlDesk.Proofs.ResultSet.Reorder
import MysqlDesk.Proofs.Traversal
import MysqlDesk.Script

set_option autoImplicit false

namespace MysqlDesk

/-! ## The values of cells -/

/-- The cell is a date-time, or the text of one. -/
inductive Cell.IsMoment : Cell → Moment → Prop where
  | moment (m : Moment) : IsMoment (.moment m) m
  | text (s : String) (m : Moment) (h : Moment.ofText? s = some m) : IsMoment (.text s) m

/-- The cell is a text, or the bytes of one. -/
inductive Cell.IsText : Cell → String → Prop where
  | text (s : String) : IsText (.text s) s
  | blob (bytes : List UInt8) :
      IsText (.blob bytes) (String.ofList (Text.Utf8.decodeLossy bytes))

/-- The cell is an integer. -/
inductive Cell.IsInt : Cell → Int64 → Prop where
  | int (n : Int64) : IsInt (.int n) n

theorem Cell.moment?_eq_some_iff {cell : Cell} {m : Moment} :
    cell.moment? = some m ↔ cell.IsMoment m := by
  constructor
  · intro h
    cases cell with
    | moment m' =>
      obtain rfl := Option.some.inj h
      exact .moment _
    | text s => exact .text s m h
    | _ => cases h
  · rintro (_ | ⟨_, _, h⟩)
    · rfl
    · exact h

theorem Cell.lossyText?_eq_some_iff {cell : Cell} {s : String} :
    cell.lossyText? = some s ↔ cell.IsText s := by
  constructor
  · intro h
    cases cell with
    | text s' =>
      obtain rfl := Option.some.inj h
      exact .text _
    | blob bytes =>
      obtain rfl := Option.some.inj h
      exact .blob bytes
    | _ => cases h
  · rintro (_ | _) <;> rfl

theorem Cell.int?_eq_some_iff {cell : Cell} {n : Int64} : cell.int? = some n ↔ cell.IsInt n := by
  constructor
  · intro h
    cases cell with
    | int n' =>
      obtain rfl := Option.some.inj h
      exact .int _
    | _ => cases h
  · rintro ⟨⟩
    rfl

/-- The last column of the name has a cell with such a value. -/
def Row.Has {α : Type} (row : Row) (name : String) (is : Cell → α → Prop) (value : α) : Prop :=
  ∃ place cell, LastAt name row.columns place ∧ row.cells[place]? = some cell ∧ is cell value

namespace GeneralLog

open Call (Runs)

/-! ## The request -/

/-- The number of events that is asked for. -/
def asked (limit : Nat) : Nat :=
  if 1 ≤ limit ∧ limit ≤ 1000 then limit else 1000

/-- The text of the statement that asks for the events, under a condition. -/
def requestSql (condition : String) (limit : Nat) : String :=
  "SELECT event_time, user_host, thread_id, server_id, command_type, argument "
    ++ "FROM mysql.general_log" ++ condition
    ++ " ORDER BY event_time ASC LIMIT " ++ toString (asked limit)

/-- The statement that asks for the events. A pattern is bound to it, unless it is empty. -/
def request (like : Option String) (limit : Nat) : Statement :=
  match like with
  | none => ⟨requestSql "" limit, []⟩
  | some pattern =>
    if pattern = "" then ⟨requestSql "" limit, []⟩
    else ⟨requestSql " WHERE argument LIKE ?" limit, [.text pattern]⟩

theorem effectiveLimit_eq (limit : Nat) : effectiveLimit limit = asked limit := by
  unfold effectiveLimit asked hardLimit
  by_cases h : 1 ≤ limit ∧ limit ≤ 1000
  · rw [if_pos h, if_neg (by omega)]
  · rw [if_neg h, if_pos (by omega)]

theorem eventsQuery_eq (like : Option String) (limit : Nat) :
    eventsQuery like limit
      = requestSql (if (pattern? like).isSome then " WHERE argument LIKE ?" else "") limit := by
  unfold eventsQuery requestSql
  rw [effectiveLimit_eq]
  -- the number is the end of the last part there, and a part by itself here
  exact String.append_assoc.symm

theorem request_eq (like : Option String) (limit : Nat) :
    ⟨eventsQuery like limit, (pattern? like).toList.map Cell.text⟩ = request like limit := by
  rw [eventsQuery_eq]
  cases like with
  | none => rfl
  | some pattern =>
    by_cases hpattern : pattern = ""
    · subst hpattern
      rfl
    · have hsome : pattern? (some pattern) = some pattern := by
        simp [pattern?, hpattern]
      rw [hsome, request, if_neg hpattern]
      rfl

/-! ## One row -/

/-- The columns of the log. -/
inductive Column where
  | eventTime
  | userHost
  | threadId
  | serverId
  | commandType
  | argument
  deriving DecidableEq

namespace Column

/-- The name of a column. -/
def name : Column → String
  | .eventTime => "event_time"
  | .userHost => "user_host"
  | .threadId => "thread_id"
  | .serverId => "server_id"
  | .commandType => "command_type"
  | .argument => "argument"

/-- All columns, in the order in which they are read. -/
def all : List Column :=
  [.eventTime, .userHost, .threadId, .serverId, .commandType, .argument]

/-- The columns that are read before a column. -/
def earlier (column : Column) : List Column :=
  all.takeWhile (· ≠ column)

/-- The row has a value for the column, of the kind of the column. -/
def Readable (row : Row) (column : Column) : Prop :=
  match column with
  | .eventTime => ∃ m, row.Has column.name Cell.IsMoment m
  | .threadId | .serverId => ∃ n, row.Has column.name Cell.IsInt n
  | .userHost | .commandType | .argument => ∃ s, row.Has column.name Cell.IsText s

end Column

/-- The event has the values of the row. -/
structure Reads (row : Row) (event : Event) : Prop where
  time : row.Has Column.eventTime.name Cell.IsMoment event.time
  userHost : row.Has Column.userHost.name Cell.IsText event.userHost
  threadId : row.Has Column.threadId.name Cell.IsInt event.threadId
  serverId : row.Has Column.serverId.name Cell.IsInt event.serverId
  commandType : row.Has Column.commandType.name Cell.IsText event.commandType
  argument : row.Has Column.argument.name Cell.IsText event.argument

/-- The column is the first one for which the row has no value. -/
structure FirstUnreadable (row : Row) (column : Column) : Prop where
  earlier : ∀ other ∈ column.earlier, other.Readable row
  unreadable : ¬ column.Readable row

/-- What is wrong with a row that has no value for the column. -/
def Column.fault (column : Column) : Error :=
  .answer (.logRowWithout column.name)

theorem Column.message_fault (column : Column) :
    column.fault.message = "SQL execution error: general log row without " ++ column.name := by
  cases column <;> rfl

section

variable {row : Row}

section

variable {α : Type} (column : Column) {view : Cell → Option α} {is : Cell → α → Prop}

theorem field_eq_ok_iff (hview : ∀ {cell value}, view cell = some value ↔ is cell value) {value : α} :
    field row column.name view = .ok value ↔ row.Has column.name is value := by
  have hhas : (row.get? column.name).bind view = some value ↔ row.Has column.name is value := by
    simp only [Option.bind_eq_some_iff, Row.get?_eq_some_iff, hview, Row.Has]
    constructor
    · rintro ⟨cell, ⟨place, hplace, hcell⟩, hvalue⟩
      exact ⟨place, cell, hplace, hcell, hvalue⟩
    · rintro ⟨place, cell, hplace, hcell, hvalue⟩
      exact ⟨cell, ⟨place, hplace, hcell⟩, hvalue⟩
  rw [← hhas, field]
  cases (row.get? column.name).bind view <;> simp

/-- A reading that goes on after a column has a value of this column. -/
theorem field_bind_eq_ok_iff (hview : ∀ {cell value}, view cell = some value ↔ is cell value)
    {β : Type} {rest : α → Outcome β} {b : β} :
    field row column.name view >>= rest = .ok b
      ↔ ∃ value, row.Has column.name is value ∧ rest value = .ok b := by
  simp only [bind_eq_ok_iff, field_eq_ok_iff column hview]

/-- After the columns before it, a column is the first one that cannot be read, or the rest is left to the
columns after it. -/
theorem first_or_rest (hview : ∀ {cell value}, view cell = some value ↔ is cell value)
    (hkind : column.Readable row = ∃ value, row.Has column.name is value)
    (hearlier : ∀ other ∈ column.earlier, other.Readable row) {β : Type} {rest : α → Outcome β}
    {e : Error} (h : field row column.name view >>= rest = .error e) :
    (FirstUnreadable row column ∧ e = column.fault)
      ∨ ∃ value, rest value = .error e
          ∧ ∀ other ∈ column.earlier ++ [column], other.Readable row := by
  rcases bind_eq_error_iff.1 h with h | ⟨value, hvalue, h⟩
  · -- the error is that of the column, so there is no value to be had
    left
    rw [field] at h
    cases hfound : (row.get? column.name).bind view with
    | some value =>
      rw [hfound] at h
      cases h
    | none =>
      rw [hfound] at h
      refine ⟨⟨hearlier, fun hreadable => ?_⟩, (Except.error.inj h).symm⟩
      obtain ⟨value, hvalue⟩ := hkind.mp hreadable
      rw [← field_eq_ok_iff column hview, field, hfound] at hvalue
      cases hvalue
  · right
    have hcolumn : column.Readable row := hkind.mpr ⟨value, (field_eq_ok_iff column hview).1 hvalue⟩
    exact ⟨value, h, List.forall_mem_append.2 ⟨hearlier, List.forall_mem_singleton.2 hcolumn⟩⟩

end

/-- A row is read exactly if each column has a value of its kind, and the event has these values. -/
theorem ofRow_eq_ok_iff {event : Event} : Event.ofRow row = .ok event ↔ Reads row event := by
  constructor
  · intro h
    obtain ⟨time, htime, h⟩ :=
      (field_bind_eq_ok_iff .eventTime Cell.moment?_eq_some_iff).1 h
    obtain ⟨userHost, huserHost, h⟩ :=
      (field_bind_eq_ok_iff .userHost Cell.lossyText?_eq_some_iff).1 h
    obtain ⟨threadId, hthreadId, h⟩ :=
      (field_bind_eq_ok_iff .threadId Cell.int?_eq_some_iff).1 h
    obtain ⟨serverId, hserverId, h⟩ :=
      (field_bind_eq_ok_iff .serverId Cell.int?_eq_some_iff).1 h
    obtain ⟨commandType, hcommandType, h⟩ :=
      (field_bind_eq_ok_iff .commandType Cell.lossyText?_eq_some_iff).1 h
    obtain ⟨argument, hargument, h⟩ :=
      (field_bind_eq_ok_iff .argument Cell.lossyText?_eq_some_iff).1 h
    obtain rfl := Except.ok.inj h
    exact ⟨htime, huserHost, hthreadId, hserverId, hcommandType, hargument⟩
  · rintro ⟨htime, huserHost, hthreadId, hserverId, hcommandType, hargument⟩
    refine (field_bind_eq_ok_iff .eventTime Cell.moment?_eq_some_iff).2 ⟨_, htime, ?_⟩
    refine (field_bind_eq_ok_iff .userHost Cell.lossyText?_eq_some_iff).2 ⟨_, huserHost, ?_⟩
    refine (field_bind_eq_ok_iff .threadId Cell.int?_eq_some_iff).2 ⟨_, hthreadId, ?_⟩
    refine (field_bind_eq_ok_iff .serverId Cell.int?_eq_some_iff).2 ⟨_, hserverId, ?_⟩
    refine (field_bind_eq_ok_iff .commandType Cell.lossyText?_eq_some_iff).2 ⟨_, hcommandType, ?_⟩
    refine (field_bind_eq_ok_iff .argument Cell.lossyText?_eq_some_iff).2 ⟨_, hargument, ?_⟩
    rfl

theorem exists_reads_iff : (∃ event, Reads row event) ↔ ∀ column, Column.Readable row column := by
  constructor
  · rintro ⟨event, h⟩ column
    cases column with
    | eventTime => exact ⟨_, h.time⟩
    | userHost => exact ⟨_, h.userHost⟩
    | threadId => exact ⟨_, h.threadId⟩
    | serverId => exact ⟨_, h.serverId⟩
    | commandType => exact ⟨_, h.commandType⟩
    | argument => exact ⟨_, h.argument⟩
  · intro h
    obtain ⟨time, htime⟩ := h .eventTime
    obtain ⟨userHost, huserHost⟩ := h .userHost
    obtain ⟨threadId, hthreadId⟩ := h .threadId
    obtain ⟨serverId, hserverId⟩ := h .serverId
    obtain ⟨commandType, hcommandType⟩ := h .commandType
    obtain ⟨argument, hargument⟩ := h .argument
    exact ⟨⟨time, userHost, threadId, serverId, commandType, argument⟩,
      ⟨htime, huserHost, hthreadId, hserverId, hcommandType, hargument⟩⟩

theorem firstUnreadable_of_ofRow {e : Error} (h : Event.ofRow row = .error e) :
    ∃ column, FirstUnreadable row column ∧ e = column.fault := by
  obtain hfirst | ⟨time, h, hearlier⟩ :=
    first_or_rest .eventTime Cell.moment?_eq_some_iff rfl (List.forall_mem_nil _) h
  · exact ⟨.eventTime, hfirst⟩
  obtain hfirst | ⟨userHost, h, hearlier⟩ :=
    first_or_rest .userHost Cell.lossyText?_eq_some_iff rfl hearlier h
  · exact ⟨.userHost, hfirst⟩
  obtain hfirst | ⟨threadId, h, hearlier⟩ :=
    first_or_rest .threadId Cell.int?_eq_some_iff rfl hearlier h
  · exact ⟨.threadId, hfirst⟩
  obtain hfirst | ⟨serverId, h, hearlier⟩ :=
    first_or_rest .serverId Cell.int?_eq_some_iff rfl hearlier h
  · exact ⟨.serverId, hfirst⟩
  obtain hfirst | ⟨commandType, h, hearlier⟩ :=
    first_or_rest .commandType Cell.lossyText?_eq_some_iff rfl hearlier h
  · exact ⟨.commandType, hfirst⟩
  obtain hfirst | ⟨argument, h, -⟩ :=
    first_or_rest .argument Cell.lossyText?_eq_some_iff rfl hearlier h
  · exact ⟨.argument, hfirst⟩
  cases h

/-- Of two columns one is read before the other. -/
theorem Column.earlier_total (c c' : Column) : c = c' ∨ c ∈ c'.earlier ∨ c' ∈ c.earlier := by
  cases c <;> cases c' <;> decide

theorem FirstUnreadable.unique {c c' : Column} (h : FirstUnreadable row c)
    (h' : FirstUnreadable row c') : c = c' := by
  rcases Column.earlier_total c c' with heq | hbefore | hafter
  · exact heq
  · exact absurd (h'.earlier c hbefore) h.unreadable
  · exact absurd (h.earlier c' hafter) h'.unreadable

/-- A row is refused for the first column that has no value of its kind. -/
theorem ofRow_eq_error_iff {e : Error} :
    Event.ofRow row = .error e ↔ ∃ column, FirstUnreadable row column ∧ e = column.fault := by
  refine ⟨firstUnreadable_of_ofRow, ?_⟩
  rintro ⟨column, hfirst, rfl⟩
  -- the row cannot be read, so it is refused for some first column, and there is only one
  cases hrow : Event.ofRow row with
  | ok event =>
    exact absurd (exists_reads_iff.1 ⟨event, ofRow_eq_ok_iff.1 hrow⟩ column) hfirst.unreadable
  | error e =>
    obtain ⟨other, hother, rfl⟩ := firstUnreadable_of_ofRow hrow
    rw [hfirst.unique hother]

/-- A row with its columns in another order is read in the same way. -/
theorem ofRow_reorder {order : List Nat} (h : Row.Reorderable order row) :
    Event.ofRow (row.reorder order) = Event.ofRow row := by
  simp only [Event.ofRow, field, Row.get?_reorder h]

/-! ## All rows -/

/-- All rows before some row can be read, and the column is the first one for which that row has no
value. -/
def FirstBad (rows : List Row) (column : Column) : Prop :=
  ∃ before row after, rows = before ++ row :: after
    ∧ (∀ other ∈ before, ∀ c, Column.Readable other c) ∧ FirstUnreadable row column

variable {rows : List Row}

theorem exists_ofRow_iff : (∃ event, Event.ofRow row = .ok event) ↔ ∀ c, Column.Readable row c := by
  simp only [ofRow_eq_ok_iff, exists_reads_iff]

theorem mapM_ofRow_eq_ok_iff {events : List Event} :
    rows.mapM Event.ofRow = .ok events ↔ List.Forall₂ Reads rows events := by
  simp only [mapM_eq_ok_iff, ofRow_eq_ok_iff]

theorem exists_mapM_ofRow_iff :
    (∃ events, rows.mapM Event.ofRow = .ok events) ↔ ∀ row ∈ rows, ∀ c, Column.Readable row c := by
  simp only [exists_mapM_eq_ok_iff, exists_ofRow_iff]

theorem mapM_ofRow_eq_error_iff {e : Error} :
    rows.mapM Event.ofRow = .error e ↔ ∃ column, FirstBad rows column ∧ e = column.fault := by
  simp only [mapM_eq_error_iff, exists_ofRow_iff, ofRow_eq_error_iff, FirstBad]
  constructor
  · rintro ⟨before, row, after, hrows, hbefore, column, hfirst, he⟩
    exact ⟨column, ⟨before, row, after, hrows, hbefore, hfirst⟩, he⟩
  · rintro ⟨column, ⟨before, row, after, hrows, hbefore, hfirst⟩, he⟩
    exact ⟨before, row, after, hrows, hbefore, column, hfirst, he⟩

theorem mapM_ofRow_reorder {order : List Nat} (h : ∀ row ∈ rows, Row.Reorderable order row) :
    (rows.map (Row.reorder order)).mapM Event.ofRow = rows.mapM Event.ofRow := by
  induction rows with
  | nil => rfl
  | cons row rows ih =>
    obtain ⟨hrow, hrows⟩ := List.forall_mem_cons.1 h
    rw [List.map_cons, mapM_cons_eq_bind, mapM_cons_eq_bind, ofRow_reorder hrow, ih hrows]

end

/-! ## The call -/

section

variable {σ : Type} (executor : Executor σ) (s : σ) (like : Option String) (limit : Nat)

/-- The call sends its request and reads the rows of the answer. -/
theorem runs_events :
    Runs executor (events like limit) s
      [.select (request like limit) (some readTimeout)
        (executor.select (request like limit) (some readTimeout) s).1]
      ((executor.select (request like limit) (some readTimeout) s).1.bind fun rs =>
        rs.rows.mapM Event.ofRow)
      (executor.select (request like limit) (some readTimeout) s).2 := by
  rw [← request_eq]
  exact (Call.runs_select _ _ (some readTimeout) s).bind_ofOutcome fun rs => rs.rows.mapM Event.ofRow

/-- **All events or the first fault.** The call sends one statement, which asks for at most a thousand
events, and has a parameter only for a pattern that is not empty. It gives its events exactly if every row
of the answer has a value for each of the six columns; then there is one event for each row, with the values
of this row. Otherwise it fails for the first column without a value in the first such row. Other columns,
and columns in another order, change nothing of this. -/
theorem events_all_or_nothing :
    (events like limit).exchanges executor s
        = [.select (request like limit) (some readTimeout)
            (executor.select (request like limit) (some readTimeout) s).1]
      ∧ (∀ e, (executor.select (request like limit) (some readTimeout) s).1 = .error e →
          ((events like limit).run executor s).1 = .error e)
      ∧ ∀ rs, (executor.select (request like limit) (some readTimeout) s).1 = .ok rs →
          ((∃ es, ((events like limit).run executor s).1 = .ok es)
              ↔ ∀ row ∈ rs.rows, ∀ column, Column.Readable row column)
            ∧ (∀ es, ((events like limit).run executor s).1 = .ok es ↔ List.Forall₂ Reads rs.rows es)
            ∧ (∀ e, ((events like limit).run executor s).1 = .error e
                ↔ ∃ column, FirstBad rs.rows column ∧ e = column.fault)
            ∧ ∀ (order : List Nat) {τ : Type} (other : Executor τ) (s' : τ),
                (∀ row ∈ rs.rows, Row.Reorderable order row) →
                (other.select (request like limit) (some readTimeout) s').1
                  = .ok (rs.reorder order) →
                ((events like limit).run other s').1 = ((events like limit).run executor s).1 := by
  refine ⟨(runs_events executor s like limit).exchanges_eq, fun e he => ?_, fun rs hrs => ?_⟩
  · rw [(runs_events executor s like limit).run_eq, he]
    rfl
  · have houtcome : ((events like limit).run executor s).1 = rs.rows.mapM Event.ofRow := by
      rw [(runs_events executor s like limit).run_eq, hrs]
      rfl
    rw [houtcome]
    refine ⟨exists_mapM_ofRow_iff, fun es => mapM_ofRow_eq_ok_iff, fun e => mapM_ofRow_eq_error_iff,
      fun order _ other s' hrows hother => ?_⟩
    rw [(runs_events other s' like limit).run_eq, hother]
    exact mapM_ofRow_reorder hrows

end

/-- A row that can be read, and one with a word for the number of its thread and without a statement. -/
def twoRows : ResultSet :=
  ResultSet.ofRows ["thread_id", "server_id", "user_host", "command_type", "argument", "event_time"]
    [ [.int 7, .int 1, .text "root", .text "Query", .blob [0x61], .text "2024-01-02 03:04:05"],
      [.text "eight", .int 1, .text "root", .text "Query", .null, .text "2024-01-02 03:04:05"] ]

/-- The two rows as they are, with their columns in the order of the fields, and too late. -/
theorem events_fail_for_second_row :
    let order := [5, 2, 0, 1, 3, 4]
    let given : Script := { Script.fresh with queued := [twoRows] }
    let inOrder : Script := { Script.fresh with queued := [twoRows.reorder order] }
    (∀ row ∈ twoRows.rows, Row.Reorderable order row)
      ∧ ((events none 0).run Script.executor given).1 = .error Column.threadId.fault
      ∧ ((events none 0).run Script.executor inOrder).1 = .error Column.threadId.fault
      ∧ ((events none 0).run Script.executor (given.delaySelects (Span.seconds 4))).1
          = .error (.timeout readTimeout) := by
  intro order given inOrder
  have hrows : ∀ row ∈ twoRows.rows, Row.Reorderable order row :=
    List.forall_mem_cons.2 ⟨⟨by decide, rfl, by decide⟩,
      List.forall_mem_singleton.2 ⟨by decide, rfl, by decide⟩⟩
  have hread : twoRows.rows.mapM Event.ofRow = .error Column.threadId.fault := rfl
  obtain ⟨-, -, hanswered⟩ := events_all_or_nothing Script.executor given none 0
  obtain ⟨-, -, herror, hreorder⟩ := hanswered twoRows rfl
  have hgiven : ((events none 0).run Script.executor given).1 = .error Column.threadId.fault :=
    (herror _).2 (mapM_ofRow_eq_error_iff.1 hread)
  obtain ⟨-, hfailed, -⟩ :=
    events_all_or_nothing Script.executor (given.delaySelects (Span.seconds 4)) none 0
  exact ⟨hrows, hgiven, (hreorder order Script.executor inOrder hrows rfl).trans hgiven,
    hfailed _ rfl⟩

end GeneralLog

end MysqlDesk
