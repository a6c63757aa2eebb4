/-
The time limit of the helpers.

Nothing in a program says that its selects have a limit: each of them is sent with one or without. That the
helpers of this library wait for no select longer than the limit of look-ups is shown here, and it is shown of
them as trees. A program is `Limited` if every select in it has the limit, whatever was answered before. Then
each select that it sends has the limit, to any executor and in any state (`Program.Limited.within`).

There is a rule for each part of a call and for each way in which one part follows another, and the helpers
are put together from these.
-/
import MysqlDesk.Proofs.Log.Flush
import MysqlDesk.Table

set_option autoImplicit false

namespace MysqlDesk

/-! ## Programs -/

/-- If this is a select, it was sent with the limit. -/
def Exchange.Within (limit : Span) : Exchange → Prop
  | .select _ limit' _ => limit' = some limit
  | _ => True

/-- Every select of the program has the limit, whatever the answers are. -/
inductive Program.Limited (limit : Span) {α : Type} : Program α → Prop where
  | done (value : α) : Limited limit (.done value)
  | batch (sql : String) {next : Outcome Unit → Program α}
      (h : ∀ answer, Limited limit (next answer)) : Limited limit (.batch sql next)
  | select (statement : Statement) {next : Outcome ResultSet → Program α}
      (h : ∀ answer, Limited limit (next answer)) :
      Limited limit (.select statement (some limit) next)
  | change (statement : Statement) {next : Outcome Nat → Program α}
      (h : ∀ answer, Limited limit (next answer)) : Limited limit (.change statement next)

section

variable {limit : Span} {α β σ : Type}

theorem Program.Limited.bind {p : Program α} {f : α → Program β} (h : p.Limited limit)
    (hnext : ∀ value, (f value).Limited limit) : (p.bind f).Limited limit := by
  induction h with
  | done value => exact hnext value
  | batch sql _ ih => exact .batch sql ih
  | select statement _ ih => exact .select statement ih
  | change statement _ ih => exact .change statement ih

/-- **The run.** What is sent on the way is sent within the limit. -/
theorem Program.Limited.within {p : Program α} (h : p.Limited limit) (executor : Executor σ)
    (s : σ) : ∀ t ∈ p.transitions executor s, t.exchange.Within limit := by
  induction h generalizing s with
  | done value => exact fun t ht => absurd ht List.not_mem_nil
  | batch sql _ ih => exact List.forall_mem_cons.2 ⟨trivial, ih _ _⟩
  | select statement _ ih => exact List.forall_mem_cons.2 ⟨rfl, ih _ _⟩
  | change statement _ ih => exact List.forall_mem_cons.2 ⟨trivial, ih _ _⟩

/-! ## Calls -/

namespace Call

/-- Every select of the call has the limit, whatever the answers are. -/
def Limited (limit : Span) (call : Call α) : Prop :=
  Program.Limited limit (ExceptT.run call)

theorem limited_ofOutcome (outcome : Outcome α) : Limited limit (ofOutcome outcome) :=
  .done outcome

theorem limited_pure (value : α) : Limited limit (pure value : Call α) :=
  limited_ofOutcome (.ok value)

theorem limited_change (sql : String) (params : List Cell) : Limited limit (change sql params) :=
  .change ⟨sql, params⟩ .done

/-- One call after the other. After an error nothing more is sent. -/
theorem Limited.bind {call : Call α} {f : α → Call β} (h : Limited limit call)
    (hnext : ∀ value, Limited limit (f value)) : Limited limit (call >>= f) := by
  refine Program.Limited.bind h ?_
  intro outcome
  cases outcome with
  | ok value => exact hnext value
  | error e => exact limited_ofOutcome (.error e)

/-- A call whose failure is kept for later. -/
theorem Limited.lift_run {call : Call α} (h : Limited limit call) :
    Limited limit (ExceptT.lift (ExceptT.run call) : Call (Outcome α)) :=
  Program.Limited.bind h fun outcome => limited_ofOutcome (.ok outcome)

theorem limited_statement (template : String) (arguments : List String) :
    Limited limit (statement template arguments) :=
  limited_ofOutcome _

theorem limited_perform (sql : String) (params : List Cell) : Limited limit (perform sql params) :=
  (limited_change sql params).bind fun _ => limited_pure ()

/-- The one place where the limit comes in. -/
theorem limited_lookUp (sql : String) (params : List Cell) :
    Limited readTimeout (lookUp sql params) :=
  .select ⟨sql, params⟩ .done

theorem limited_lookUpValue? (sql : String) (params : List Cell) :
    Limited readTimeout (lookUpValue? sql params) :=
  (limited_lookUp sql params).bind fun rs => limited_pure rs.first?

theorem limited_lookUpText (sql : String) (params : List Cell) :
    Limited readTimeout (lookUpText sql params) := by
  refine (limited_lookUpValue? sql params).bind ?_
  intro found
  cases found with
  | none => exact limited_ofOutcome (.error .noRows)
  | some cell => exact limited_pure cell.answerText

end Call

end

/-! ## The helpers -/

/-- The calls that this library offers: a select within the limit of look-ups, and the helpers for schemas,
tables, variables and the logs of the server. -/
inductive Helper : {α : Type} → Call α → Prop where
  | lookUp (sql : String) (params : List Cell) : Helper (Call.lookUp sql params)
  | createSchema (name : String) : Helper (Schema.create name)
  | dropSchema (name : String) : Helper (Schema.drop name)
  | schemaIsThere (name : String) : Helper (Schema.isThere name)
  | currentSchema : Helper Schema.current
  | tableIsThere (name : String) : Helper (Table.isThere name)
  | comment (table : String) (schema : Option String) : Helper (Table.comment table schema)
  | commentJson (table : String) (schema : Option String) : Helper (Table.commentJson table schema)
  | setComment (table comment : String) (schema : Option String) :
      Helper (Table.setComment table comment schema)
  | setCommentJson {α : Type} [Json.ToValue α] (table : String) (data : α)
      (schema : Option String) : Helper (Table.setCommentJson table data schema)
  | globalVariable (name : String) : Helper (Variable.get name)
  | logOutput : Helper LogOutput.get
  | setLogOutput (outputs : List LogOutput) : Helper (LogOutput.set outputs)
  | enableLog : Helper GeneralLog.enable
  | disableLog : Helper GeneralLog.disable
  | logIsEnabled : Helper GeneralLog.isEnabled
  | flushLog : Helper GeneralLog.flush
  | events (like : Option String) (limit : Nat) : Helper (GeneralLog.events like limit)

section

variable {limit : Span}

theorem limited_comment (table : String) (schema : Option String) :
    Call.Limited readTimeout (Table.comment table schema) := by
  unfold Table.comment
  cases Table.named schema with
  | none => exact Call.limited_lookUpText _ _
  | some name => exact Call.limited_lookUpText _ _

theorem limited_setComment (table comment : String) (schema : Option String) :
    Call.Limited limit (Table.setComment table comment schema) := by
  have htarget : Call.Limited limit (Table.target table schema) := by
    unfold Table.target
    cases Table.named schema with
    | none => exact Call.limited_pure _
    | some name => exact Call.limited_statement _ _
  exact htarget.bind fun _ => (Call.limited_statement _ _).bind fun _ => Call.limited_perform _ _

theorem limited_setLogOutput (outputs : List LogOutput) :
    Call.Limited limit (LogOutput.set outputs) := by
  unfold LogOutput.set
  split
  · exact Call.limited_pure _
  · exact Call.limited_perform _ _

theorem limited_switch (enabled : Bool) {call : Call Unit} (h : call.Limited limit) :
    Call.Limited limit (if enabled then call else pure ()) := by
  cases enabled with
  | false => exact Call.limited_pure ()
  | true => exact h

/-- A flush looks the switch up, and all that follows are changes. -/
theorem limited_flush : Call.Limited readTimeout GeneralLog.flush := by
  have hwork : Call.Limited readTimeout GeneralLog.flushAndEmpty :=
    (Call.limited_perform _ _).bind fun _ => Call.limited_perform _ _
  have hrestore (enabled : Bool) :
      Call.Limited readTimeout (GeneralLog.workAndRestore enabled) := by
    refine hwork.lift_run.bind fun flushed => ?_
    refine (limited_switch enabled (Call.limited_perform _ _)).lift_run.bind fun restored => ?_
    exact Call.limited_ofOutcome _
  rw [GeneralLog.flush_eq]
  refine ((Call.limited_lookUpText _ _).bind fun _ => Call.limited_pure _).bind fun enabled => ?_
  exact (limited_switch enabled (Call.limited_perform _ _)).bind fun _ => hrestore enabled

end

/-- **No helper waits longer than the limit of look-ups.** -/
theorem Helper.limited {α : Type} {call : Call α} (h : Helper call) :
    Call.Limited readTimeout call := by
  cases h with
  | lookUp sql params => exact Call.limited_lookUp sql params
  | createSchema name => exact (Call.limited_statement _ _).bind fun _ => Call.limited_perform _ _
  | dropSchema name => exact (Call.limited_statement _ _).bind fun _ => Call.limited_perform _ _
  | schemaIsThere name => exact (Call.limited_lookUpValue? _ _).bind fun _ => Call.limited_pure _
  | currentSchema => exact Call.limited_lookUpText _ _
  | tableIsThere name =>
    refine (Call.limited_lookUpText _ _).bind fun schema => ?_
    exact (Call.limited_lookUpValue? _ _).bind fun _ => Call.limited_pure _
  | comment table schema => exact limited_comment table schema
  | commentJson table schema =>
    exact (limited_comment table schema).bind fun _ => Call.limited_ofOutcome _
  | setComment table comment schema => exact limited_setComment table comment schema
  | setCommentJson table data schema =>
    exact (Call.limited_ofOutcome _).bind fun _ => limited_setComment table _ schema
  | globalVariable name => exact Call.limited_lookUpText _ _
  | logOutput => exact (Call.limited_lookUpText _ _).bind fun _ => Call.limited_ofOutcome _
  | setLogOutput outputs => exact limited_setLogOutput outputs
  | enableLog => exact Call.limited_perform _ _
  | disableLog => exact Call.limited_perform _ _
  | logIsEnabled => exact (Call.limited_lookUpText _ _).bind fun _ => Call.limited_pure _
  | flushLog => exact limited_flush
  | events like limit => exact (Call.limited_lookUp _ _).bind fun _ => Call.limited_ofOutcome _

end MysqlDesk
