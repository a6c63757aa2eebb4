/-
The time of an event, delivered as a date-time or as the text of one.

A server may deliver the time column of its log as a date-time, and it may deliver it as text. The text is then
a written form in the sense of `Proofs.Calendar.Written`, with as many digits behind the second as the server
likes. Both are the same to a reader: the view of a cell as a date-time gives the one that is written, and a row
with either of them in its time column gives the same event, or is refused for the same column.
-/
import MysqlDesk.Proofs.Calendar.Written
import MysqlDesk.Proofs.Log.Events

set_option autoImplicit false

namespace MysqlDesk

/-- The cell is the date-time, or a text that is one of its written forms. -/
inductive Cell.Delivers : Cell → Moment → Prop where
  | native (m : Moment) : Delivers (.moment m) m
  | written (m : Moment) (text : String) (h : m.Written text) : Delivers (.text text) m

theorem Cell.moment?_of_delivers {cell : Cell} {m : Moment} (h : cell.Delivers m) :
    cell.moment? = some m := by
  cases h with
  | native => rfl
  | written _ text hwritten => exact Moment.ofText?_of_written hwritten

namespace GeneralLog

/-- Both rows deliver the date-time as the time of their event, in one form or the other, and have the same
cells in the other columns of the log. -/
structure SameButTime (m : Moment) (row row' : Row) : Prop where
  time : row.Has Column.eventTime.name Cell.Delivers m
  time' : row'.Has Column.eventTime.name Cell.Delivers m
  others : ∀ column : Column, column ≠ .eventTime →
    row.get? column.name = row'.get? column.name

section

variable {m : Moment} {row row' : Row}

theorem field_eventTime (h : row.Has Column.eventTime.name Cell.Delivers m) :
    field row Column.eventTime.name Cell.moment? = .ok m := by
  obtain ⟨place, cell, hplace, hcell, hdelivers⟩ := h
  have hmoment : cell.IsMoment m := Cell.moment?_eq_some_iff.1 (Cell.moment?_of_delivers hdelivers)
  exact (field_eq_ok_iff .eventTime Cell.moment?_eq_some_iff).2 ⟨place, cell, hplace, hcell, hmoment⟩

/-- The form in which the time is delivered makes no difference. -/
theorem SameButTime.ofRow_eq (h : SameButTime m row row') : Event.ofRow row = Event.ofRow row' := by
  have htime : field row Column.eventTime.name Cell.moment?
      = field row' Column.eventTime.name Cell.moment? :=
    (field_eventTime h.time).trans (field_eventTime h.time').symm
  have hother {α : Type} {column : Column} (hcolumn : column ≠ .eventTime) (view : Cell → Option α) :
      field row column.name view = field row' column.name view := by
    apply field_of_get?
    rw [h.others column hcolumn]
  have huserHost := hother (show Column.userHost ≠ .eventTime by decide) Cell.lossyText?
  have hthreadId := hother (show Column.threadId ≠ .eventTime by decide) Cell.int?
  have hserverId := hother (show Column.serverId ≠ .eventTime by decide) Cell.int?
  have hcommandType := hother (show Column.commandType ≠ .eventTime by decide) Cell.lossyText?
  have hargument := hother (show Column.argument ≠ .eventTime by decide) Cell.lossyText?
  simp only [Column.name] at htime huserHost hthreadId hserverId hcommandType hargument
  simp only [Event.ofRow, htime, huserHost, hthreadId, hserverId, hcommandType, hargument]

/-- An event that is read of such a row has the time that the row delivers. -/
theorem SameButTime.time_eq (h : SameButTime m row row') {event : Event}
    (hevent : Event.ofRow row = .ok event) : event.time = m := by
  have hread : field row Column.eventTime.name Cell.moment? = .ok event.time :=
    (field_eq_ok_iff .eventTime Cell.moment?_eq_some_iff).2 (ofRow_eq_ok_iff.1 hevent).time
  rw [field_eventTime h.time] at hread
  exact (Except.ok.inj hread).symm

/-- Such a row is read if it has values for the columns that are left. -/
theorem SameButTime.exists_ofRow_iff (h : SameButTime m row row') :
    (∃ event, Event.ofRow row = .ok event)
      ↔ ∀ column : Column, column ≠ .eventTime → Column.Readable row column := by
  rw [GeneralLog.exists_ofRow_iff]
  refine ⟨fun hall column _ => hall column, fun hothers column => ?_⟩
  by_cases hcolumn : column = .eventTime
  · rw [hcolumn]
    exact ⟨m, (field_eq_ok_iff .eventTime Cell.moment?_eq_some_iff).1 (field_eventTime h.time)⟩
  · exact hothers column hcolumn

end

/-- **Written and native times agree.** A text that writes a date-time is viewed as this date-time, like the
date-time itself. Two rows of the log that deliver one date-time in either form, and are the same otherwise,
are read as the same event, which has this time, or are refused for the same column; the time is never what
they are refused for. No text writes two date-times, and every date-time with a year of four digits is written
by its fields with zeros in front and each text of its fraction. -/
theorem written_time_agrees :
    (∀ (m : Moment) (text : String), m.Written text →
      (Cell.text text).moment? = (Cell.moment m).moment?)
    ∧ (∀ (m : Moment) (row row' : Row), SameButTime m row row' →
      Event.ofRow row = Event.ofRow row'
      ∧ (∀ event, Event.ofRow row = .ok event → event.time = m)
      ∧ ((∃ event, Event.ofRow row = .ok event)
        ↔ ∀ column : Column, column ≠ .eventTime → Column.Readable row column))
    ∧ (∀ (m m' : Moment) (text : String), m.Written text → m'.Written text → m = m')
    ∧ (∀ (m : Moment) (fraction : List Char), 0 ≤ m.date.year → m.date.year ≤ 9999 →
      Calendar.IsFraction fraction m.clock.nanosecond →
      m.Written (String.ofList (m.date.text ++ ' ' :: m.clock.secondText ++ fraction))) := by
  refine ⟨fun m text h => ?_, fun m row row' h => ?_, fun m m' text h h' => ?_,
    fun m fraction hfirst hlast h => ?_⟩
  · exact Cell.moment?_of_delivers (.written m text h)
  · exact ⟨h.ofRow_eq, fun event => h.time_eq, h.exists_ofRow_iff⟩
  · exact h.unique h'
  · exact Moment.written_ofList hfirst hlast h

/-- The last second of a leap day with one nanosecond, which is written with twelve digits. -/
theorem written_time_agrees_leap_day :
    let m : Moment := ⟨⟨2024, 2, 29, by decide⟩, ⟨23, 59, 59, 1, by decide⟩⟩
    let written := "2024-02-29 23:59:59.000000001000"
    let columns := ["server_id", "event_time", "user_host", "thread_id", "command_type", "argument"]
    let row (time : Cell) : Row :=
      ⟨columns, [.int 1, time, .text "root", .int 7, .text "Query", .text "COMMIT"]⟩
    m.Written written
      ∧ (Cell.text written).moment? = some m
      ∧ Event.ofRow (row (.text written)) = Event.ofRow (row (.moment m))
      ∧ (∃ event, Event.ofRow (row (.text written)) = .ok event ∧ event.time = m)
      ∧ ∀ m' : Moment, m'.Written written → m' = m := by
  intro m written columns row
  obtain ⟨hview, hrows, hunique, hwrite⟩ := written_time_agrees
  have hfraction : Calendar.IsFraction ".000000001000".toList m.clock.nanosecond :=
    .decimals "000000001000".toList 1000 1 (Text.isNumeral_iff.2 ⟨by decide, rfl, rfl⟩) (by decide)
  have htext : String.ofList (m.date.text ++ ' ' :: m.clock.secondText ++ ".000000001000".toList)
      = written := by cbv
  have hwritten : m.Written written := by
    rw [← htext]
    exact hwrite m _ (by decide) (by decide) hfraction
  have hsame : SameButTime m (row (.text written)) (row (.moment m)) :=
    { time := ⟨1, _, (lastAt_iff_of_nodup (by decide)).2 rfl, rfl, .written m written hwritten⟩
      time' := ⟨1, _, (lastAt_iff_of_nodup (by decide)).2 rfl, rfl, .native m⟩
      others := by
        intro column hcolumn
        cases column with
        | eventTime => exact absurd rfl hcolumn
        | _ => rfl }
  obtain ⟨heq, htime, -⟩ := hrows m _ _ hsame
  have hread : ∃ event, Event.ofRow (row (.moment m)) = .ok event := ⟨_, rfl⟩
  obtain ⟨event, hevent⟩ := hread
  rw [← heq] at hevent
  exact ⟨hwritten, hview m written hwritten, heq, ⟨event, hevent, htime event hevent⟩,
    fun m' h => hunique m' m written h hwritten⟩

end GeneralLog

end MysqlDesk
