/-
The helpers that read do not tell a text from its bytes.

Every helper that reads looks at the cells of its answers through the lenient view of a text, or only asks
whether there is a cell. So each of them is alike to itself in the sense of `Proofs.Delivery.Program`, and
two executors that differ in the delivery of texts cannot be told apart by it: it sends the same statements,
also where it sends on what it has read, and ends with the same result or the same error.

There is one exception. The time of a logged event is read as a date-time, and of the forms of a text only
one is taken for a date-time. The column of the time is therefore exact for the look-up of events.
-/
import MysqlDesk.Proofs.Delivery.Program
import MysqlDesk.Proofs.Log.Flush
import MysqlDesk.Script
import MysqlDesk.Table

set_option autoImplicit false

namespace MysqlDesk

/-! ## The helpers -/

/-- No column has to be delivered in one way only. -/
def noColumn (_ : String) : Prop :=
  False

/-- The column with the time of an event has to be delivered in one way only. -/
def timeColumn (name : String) : Prop :=
  name = "event_time"

/-- The helpers that read, each with the columns that have to be delivered in one way only. -/
inductive Reading : (String → Prop) → {α : Type} → Call α → Prop where
  | currentSchema : Reading noColumn Schema.current
  | tableIsThere (name : String) : Reading noColumn (Table.isThere name)
  | globalVariable (name : String) : Reading noColumn (Variable.get name)
  | comment (table : String) (schema : Option String) :
      Reading noColumn (Table.comment table schema)
  | commentJson (table : String) (schema : Option String) :
      Reading noColumn (Table.commentJson table schema)
  | logOutput : Reading noColumn LogOutput.get
  | logIsEnabled : Reading noColumn GeneralLog.isEnabled
  | flushLog : Reading noColumn GeneralLog.flush
  | events (like : Option String) (limit : Nat) : Reading timeColumn (GeneralLog.events like limit)

/-! ## Each of them is alike to itself -/

section

variable {exact : String → Prop}

theorem alike_currentSchema : Call.Alike exact Eq Schema.current Schema.current :=
  Call.alike_lookUpText _ _

theorem alike_variable (name : String) :
    Call.Alike exact Eq (Variable.get name) (Variable.get name) :=
  Call.alike_lookUpText _ _

/-- The schema that was read is sent on; of what is found then, only its presence counts. -/
theorem alike_tableIsThere (name : String) :
    Call.Alike exact Eq (Table.isThere name) (Table.isThere name) := by
  refine alike_currentSchema.bind_eq ?_
  intro schema
  refine (Call.alike_lookUpValue? Table.findQuery [.text schema, .text name]).bind ?_
  intro found found' h
  cases h with
  | none => exact Call.alike_pure rfl
  | some _ => exact Call.alike_pure rfl

theorem alike_comment (table : String) (schema : Option String) :
    Call.Alike exact Eq (Table.comment table schema) (Table.comment table schema) := by
  unfold Table.comment
  cases Table.named schema with
  | none => exact Call.alike_lookUpText _ _
  | some name => exact Call.alike_lookUpText _ _

theorem alike_commentJson (table : String) (schema : Option String) :
    Call.Alike exact Eq (Table.commentJson table schema) (Table.commentJson table schema) := by
  refine (alike_comment table schema).bind_eq ?_
  intro text
  exact Call.alike_ofOutcome (.refl _)

theorem alike_logOutput : Call.Alike exact Eq LogOutput.get LogOutput.get := by
  refine (alike_variable "log_output").bind_eq ?_
  intro value
  exact Call.alike_ofOutcome (.refl _)

namespace GeneralLog

theorem alike_isEnabled : Call.Alike exact Eq isEnabled isEnabled :=
  (alike_variable "general_log").bind_eq fun _ => Call.alike_pure rfl

theorem alike_switch (enabled : Bool) (sql : String) :
    Call.Alike exact Eq (if enabled then Call.perform sql [] else pure ())
      (if enabled then Call.perform sql [] else pure ()) := by
  cases enabled with
  | false => exact Call.alike_pure rfl
  | true => exact Call.alike_perform sql []

theorem alike_flushAndEmpty : Call.Alike exact Eq flushAndEmpty flushAndEmpty :=
  (Call.alike_perform _ []).bind_eq fun _ => Call.alike_perform _ []

theorem alike_workAndRestore (enabled : Bool) :
    Call.Alike exact Eq (workAndRestore enabled) (workAndRestore enabled) := by
  refine alike_flushAndEmpty.lift_run.bind ?_
  intro flushed flushed' hflushed
  refine (alike_switch enabled _).lift_run.bind ?_
  intro restored restored' hrestored
  rw [hflushed.eq, hrestored.eq]
  exact Call.alike_ofOutcome (.refl _)

theorem alike_flush : Call.Alike exact Eq flush flush := by
  rw [flush_eq]
  refine alike_isEnabled.bind_eq ?_
  intro enabled
  refine (alike_switch enabled _).bind_eq ?_
  intro _
  exact alike_workAndRestore enabled

/-! ### Events -/

/-- Two forms of a row are read as the same event, or refused for the same column. -/
theorem ofRow_of_alike {row row' : Row} (h : Row.Alike timeColumn row row') :
    Event.ofRow row = Event.ofRow row' := by
  have htime : field row "event_time" Cell.moment? = field row' "event_time" Cell.moment? := by
    apply field_of_get?
    rw [h.get?_of_exact rfl]
  have htext (column : String) :
      field row column Cell.lossyText? = field row' column Cell.lossyText? :=
    field_of_get? (bind_of_sameText (fun _ _ hsame => hsame.lossyText?) (h.get? column))
  have hint (column : String) : field row column Cell.int? = field row' column Cell.int? :=
    field_of_get? (bind_of_sameText (fun _ _ hsame => hsame.int?) (h.get? column))
  unfold Event.ofRow
  simp only [htime, htext, hint]

theorem mapM_ofRow_of_alike {rows rows' : List Row}
    (h : List.Forall₂ (Row.Alike timeColumn) rows rows') :
    rows.mapM Event.ofRow = rows'.mapM Event.ofRow := by
  induction h with
  | nil => rfl
  | cons hrow _ ih => rw [List.mapM_cons, List.mapM_cons, ofRow_of_alike hrow, ih]

theorem alike_events (like : Option String) (limit : Nat) :
    Call.Alike timeColumn Eq (events like limit) (events like limit) := by
  refine (Call.alike_select _ _ (some readTimeout)).bind ?_
  intro rs rs' h
  rw [mapM_ofRow_of_alike h.rows]
  exact Call.alike_ofOutcome (.refl _)

end GeneralLog

/-- A helper that reads does not tell the forms of a text apart. -/
theorem Reading.alike {α : Type} {call : Call α} (h : Reading exact call) :
    Call.Alike exact Eq call call := by
  cases h with
  | currentSchema => exact alike_currentSchema
  | tableIsThere name => exact alike_tableIsThere name
  | globalVariable name => exact alike_variable name
  | comment table schema => exact alike_comment table schema
  | commentJson table schema => exact alike_commentJson table schema
  | logOutput => exact alike_logOutput
  | logIsEnabled => exact GeneralLog.alike_isEnabled
  | flushLog => exact GeneralLog.alike_flush
  | events like limit => exact GeneralLog.alike_events like limit

end

/-! ## Two runs -/

/-- The two runs of the call send the same statements, with the same parameters, and end with the same
result or the same error. -/
structure SameRun {α σ τ : Type} (A : Executor σ) (B : Executor τ) (s : σ) (t : τ)
    (call : Call α) : Prop where
  statements : (call.exchanges A s).map Exchange.statement
    = (call.exchanges B t).map Exchange.statement
  outcome : (call.run A s).1 = (call.run B t).1

/-! ### Scripted answers

The executors of a script are the nearest ones that differ in nothing but the delivery of texts: the same
was prepared for both, in the one or the other form. -/

/-- The scripts differ in how the texts of the prepared answers are delivered. -/
structure Script.Alike (exact : String → Prop) (s s' : Script) : Prop where
  queued : List.Forall₂ (ResultSet.Alike exact) s.queued s'.queued
  failures : s'.failures = s.failures
  delay : s'.delay = s.delay
  statements : s'.statements = s.statements

section

variable {exact : String → Prop} {s s' : Script}

theorem Script.Alike.verdict (h : Script.Alike exact s s') (sql : String) :
    s'.verdict sql = s.verdict sql := by
  unfold Script.verdict Script.failureOf?
  rw [h.failures]

theorem Script.Alike.record (h : Script.Alike exact s s') (statement : Statement) :
    Script.Alike exact (s.record statement) (s'.record statement) where
  queued := h.queued
  failures := h.failures
  delay := h.delay
  statements := by
    unfold Script.record
    rw [h.statements]

theorem Script.Alike.take (h : Script.Alike exact s s') :
    ResultSet.Alike exact s.take.1 s'.take.1 ∧ Script.Alike exact s.take.2 s'.take.2 := by
  obtain ⟨queued, failures, delay, statements⟩ := s
  obtain ⟨queued', failures', delay', statements'⟩ := s'
  obtain ⟨hqueued, hfailures, hdelay, hstatements⟩ := h
  cases hqueued with
  | nil => exact ⟨⟨rfl, .nil, rfl⟩, ⟨.nil, hfailures, hdelay, hstatements⟩⟩
  | cons hfirst hrest => exact ⟨hfirst, ⟨hrest, hfailures, hdelay, hstatements⟩⟩

/-- Whether a select is late does not depend on its answer. -/
theorem Script.Alike.answer (h : Script.Alike exact s s') (limit : Option Span) :
    Outcome.Alike (ResultSet.Alike exact) (s.answer limit).1 (s'.answer limit).1
      ∧ Script.Alike exact (s.answer limit).2 (s'.answer limit).2 := by
  obtain ⟨hset, hafter⟩ := h.take
  cases limit with
  | none => exact ⟨.ok hset, hafter⟩
  | some limit =>
    unfold Script.answer Timed.within
    simp only [h.delay]
    by_cases hdelay : s.delay ≤ limit
    · simp only [if_pos hdelay]
      exact ⟨.ok hset, hafter⟩
    · simp only [if_neg hdelay]
      exact ⟨.error _, h⟩

theorem Script.executor_alike :
    Executor.Alike exact Script.executor Script.executor (Script.Alike exact) where
  batch sql s s' h := ⟨h.verdict sql, h.record ⟨sql, []⟩⟩
  select statement limit s s' h := by
    unfold Script.executor
    simp only [h.verdict statement.sql]
    cases s.verdict statement.sql with
    | error e => exact ⟨.error e, h.record statement⟩
    | ok _ => exact (h.record statement).answer limit
  change statement s s' h :=
    ⟨congrArg (Except.map fun _ => 0) (h.verdict statement.sql), h.record statement⟩

/-- A single value that was prepared in two forms of one text. -/
theorem Script.pushValue_alike (h : Script.Alike exact s s') {column : String}
    (hcolumn : ¬ exact column) {c c' : Cell} (hcell : c.SameText c') :
    Script.Alike exact (s.pushValue column c) (s'.pushValue column c') where
  queued := by
    have hrow : Row.Alike exact ⟨[column], [c]⟩ ⟨[column], [c']⟩ :=
      { columns := rfl
        cells := by
          intro place
          cases place with
          | zero => exact .some hcell
          | succ place => exact .none
        exactCells := by
          intro place name hname hexact
          cases place with
          | zero =>
            rw [List.getElem?_cons_zero, Option.some.injEq] at hname
            exact absurd (hname ▸ hexact) hcolumn
          | succ place => rfl }
    exact List.rel_append h.queued (.cons ⟨rfl, .cons hrow .nil, rfl⟩ .nil)
  failures := h.failures
  delay := h.delay
  statements := h.statements

end

/-! ### All runs -/

/-- **Texts and bytes are interchangeable.** Let two executors, from related states on, give the same
answers to the same statements, except that a cell may be a text for one of them and the bytes of this text
for the other. Then a helper that reads sends the same to both and ends in the same way. -/
theorem reading_same_run {exact : String → Prop} {α σ τ : Type} {call : Call α}
    (hcall : Reading exact call) {A : Executor σ} {B : Executor τ} {R : σ → τ → Prop}
    (hexecutors : Executor.Alike exact A B R) {s : σ} {t : τ} (hstates : R s t) :
    SameRun A B s t call := by
  obtain ⟨houtcome, -, hsent⟩ := Program.Alike.run hexecutors hcall.alike hstates
  exact ⟨map_statement_of_alike hsent, houtcome.eq⟩

/-- The name of the schema in use, as text and as bytes. It is sent on as text in both runs. -/
theorem tableIsThere_same_run :
    let asText := Script.fresh.pushValue "SCHEMA()" (.text "größe")
    let asBytes := Script.fresh.pushValue "SCHEMA()" (.blob (Text.Utf8.encode "größe".toList))
    Executor.Alike noColumn Script.executor Script.executor (Script.Alike noColumn)
      ∧ Script.Alike noColumn asText asBytes
      ∧ SameRun Script.executor Script.executor asText asBytes (Table.isThere "t")
      ∧ ((Table.isThere "t").exchanges Script.executor asBytes).map Exchange.statement
        = [⟨"SELECT SCHEMA()", []⟩, ⟨Table.findQuery, [.text "größe", .text "t"]⟩] := by
  intro asText asBytes
  have hfresh : Script.Alike noColumn Script.fresh Script.fresh := ⟨.nil, rfl, rfl, rfl⟩
  have hscripts : Script.Alike noColumn asText asBytes :=
    Script.pushValue_alike hfresh (fun h => h) (.asBytes "größe")
  have hsame : SameRun Script.executor Script.executor asText asBytes (Table.isThere "t") :=
    reading_same_run (.tableIsThere "t") Script.executor_alike hscripts
  refine ⟨Script.executor_alike, hscripts, hsame, ?_⟩
  rw [← hsame.statements]
  rfl

end MysqlDesk
