/-
Flushing the general log leaves it switched as it was.

A flush looks up the switch, may switch the log off, does its work, which is one or two statements, and
may switch the log on again. Any of these statements can fail, and any executor may answer them, so
there are many runs. They have four shapes (`Flushed`), and `flushed` is the only place where the program
itself is looked at.

Everything else is read off the shapes: which statement is sent when (`Orderly`), which error is reported,
and what becomes of the switch on a server that tells the truth about it. The one step that the rest
depends on is the last one: once the log was switched off, no failure keeps the flush from sending the
statement that switches it on.
-/
import MysqlDesk.Log.General
import MysqlDesk.Proofs.Program.Run
import MysqlDesk.Script

set_option autoImplicit false

namespace MysqlDesk.GeneralLog

open Call (Runs lookedUp)

/-! ## The statements of a flush -/

/-- The statements that change something. -/
inductive Command where
  | disable
  | enable
  | flush
  | empty
  deriving DecidableEq

/-- The text of a statement. -/
def Command.sql : Command → String
  | .disable => "SET GLOBAL general_log = 'OFF'"
  | .enable => "SET GLOBAL general_log = 'ON'"
  | .flush => "FLUSH GENERAL LOGS"
  | .empty => "TRUNCATE TABLE mysql.general_log"

/-- A statement that was sent, with its answer. -/
def Command.sent (c : Command) (answer : Outcome Nat) : Exchange :=
  .change ⟨c.sql, []⟩ answer

/-- The look-up of the switch. -/
def probe : Statement :=
  ⟨Variable.query, [.text "general_log"]⟩

/-- The look-up of the switch, with its answer. -/
def probed (answer : Outcome ResultSet) : Exchange :=
  .select probe (some readTimeout) answer

theorem Command.sql_inj {c c' : Command} : c.sql = c'.sql ↔ c = c' := by
  cases c <;> cases c' <;> decide

@[simp] theorem Command.sent_inj {c c' : Command} {answer answer' : Outcome Nat} :
    c.sent answer = c'.sent answer' ↔ c = c' ∧ answer = answer' := by
  simp [sent, sql_inj]

@[simp] theorem probed_inj {answer answer' : Outcome ResultSet} :
    probed answer = probed answer' ↔ answer = answer' := by
  simp [probed]

@[simp] theorem Command.sent_ne_probed (c : Command) (answer : Outcome Nat)
    (answer' : Outcome ResultSet) : c.sent answer ≠ probed answer' := by
  simp [sent, probed]

@[simp] theorem Command.sql_sent (c : Command) (answer : Outcome Nat) :
    (c.sent answer).statement.sql = c.sql :=
  rfl

@[simp] theorem Command.sql_probed (c : Command) (answer : Outcome ResultSet) :
    (probed answer).statement.sql ≠ c.sql := by
  show Variable.query ≠ c.sql
  cases c <;> decide

@[simp] theorem Command.error?_sent (c : Command) (answer : Outcome Nat) :
    (c.sent answer).error? = Exchange.errorOf answer :=
  rfl

@[simp] theorem error?_probed (answer : Outcome ResultSet) :
    (probed answer).error? = Exchange.errorOf answer :=
  rfl

/-! ## The shapes of a flush -/

/-- The work: the table is emptied only after the file was flushed. -/
inductive Worked : List Exchange → Outcome Unit → Prop where
  | notFlushed (e : Error) : Worked [Command.flush.sent (.error e)] (.error e)
  | flushed (n : Nat) (answer : Outcome Nat) :
      Worked [Command.flush.sent (.ok n), Command.empty.sent answer]
        (answer.bind fun _ => .ok ())

/-- A flush whose first statement, the look-up of the switch, has the answer `answer`. -/
inductive Flushed (answer : Outcome ResultSet) : List Exchange → Outcome Unit → Prop where
  /-- The switch could not be read. -/
  | unread (e : Error) (hread : lookedUp answer = .error e) : Flushed answer [probed answer] (.error e)
  /-- The log was off. -/
  | wasOff (text : String) (hread : lookedUp answer = .ok text) (htext : text ≠ "ON")
      {sent : List Exchange} {outcome : Outcome Unit} (hwork : Worked sent outcome) :
      Flushed answer (probed answer :: sent) outcome
  /-- The log was on and stayed on. -/
  | notDisabled (hread : lookedUp answer = .ok "ON") (e : Error) :
      Flushed answer [probed answer, Command.disable.sent (.error e)] (.error e)
  /-- The log was on and was switched off. -/
  | wasOn (hread : lookedUp answer = .ok "ON") (n : Nat)
      {sent : List Exchange} {outcome : Outcome Unit} (hwork : Worked sent outcome)
      (restored : Outcome Nat) :
      Flushed answer
        (probed answer :: Command.disable.sent (.ok n) :: (sent ++ [Command.enable.sent restored]))
        (outcome.bind fun _ => restored.bind fun _ => .ok ())

section

variable {σ : Type} (executor : Executor σ) (s : σ)

/-- A command sends its statement. -/
theorem runs_command (c : Command) (s : σ) :
    ∃ answer s', Runs executor (Call.perform c.sql []) s [c.sent answer]
      (answer.bind fun _ => .ok ()) s' :=
  ⟨_, _, Call.runs_perform c.sql [] s⟩

/-- A text that stands for "on" is the only one that does. -/
theorem runs_isEnabled :
    Runs executor isEnabled s [probed (executor.select probe (some readTimeout) s).1]
      ((lookedUp (executor.select probe (some readTimeout) s).1).bind fun text =>
        .ok (text == "ON"))
      (executor.select probe (some readTimeout) s).2 :=
  (Call.runs_lookUpText Variable.query [.text "general_log"] s).bind_ofOutcome fun text =>
    .ok (text == "ON")

theorem runs_flushAndEmpty (s : σ) :
    ∃ sent outcome s', Runs executor flushAndEmpty s sent outcome s' ∧ Worked sent outcome := by
  obtain ⟨answer, s₁, hflush⟩ := runs_command executor .flush s
  cases answer with
  | error e => exact ⟨_, _, s₁, hflush.bind_error _, .notFlushed e⟩
  | ok n =>
    obtain ⟨answer, s₂, hempty⟩ := runs_command executor .empty s₁
    exact ⟨_, _, s₂, hflush.bind hempty, .flushed n answer⟩

/-- What a flush does once it knows the switch, and has switched the log off if it was on. -/
def workAndRestore (enabled : Bool) : Call Unit := do
  let flushed ← ExceptT.lift (ExceptT.run flushAndEmpty)
  let restored ← ExceptT.lift (ExceptT.run (if enabled then enable else pure ()))
  Call.ofOutcome do
    flushed
    restored

theorem flush_eq :
    flush = isEnabled >>= fun enabled =>
      (if enabled then disable else pure ()) >>= fun _ => workAndRestore enabled := by
  refine congrArg (fun f => isEnabled >>= f) (funext fun enabled => ?_)
  cases enabled <;> rfl

/-- The work does not end early: its outcome waits until the switch was restored. -/
theorem runs_workAndRestore {enabled : Bool} {s s₁ s₂ : σ} {sent restoring : List Exchange}
    {outcome restored : Outcome Unit} (hwork : Runs executor flushAndEmpty s sent outcome s₁)
    (hrestore : Runs executor (if enabled then enable else pure ()) s₁ restoring restored s₂) :
    Runs executor (workAndRestore enabled) s (sent ++ restoring)
      (outcome.bind fun _ => restored) s₂ := by
  have hend := hrestore.lift_run.bind_ofOutcome fun restored => outcome.bind fun _ => restored
  exact hwork.lift_run.bind hend

/-- **The shapes of a flush**, for any executor. -/
theorem flushed :
    Flushed (executor.select probe (some readTimeout) s).1 (flush.exchanges executor s)
      (flush.run executor s).1 := by
  suffices h : ∃ sent outcome s', Runs executor flush s sent outcome s'
      ∧ Flushed (executor.select probe (some readTimeout) s).1 sent outcome by
    obtain ⟨sent, outcome, s', hrun, hshape⟩ := h
    rw [hrun.exchanges_eq, hrun.run_eq]
    exact hshape
  rw [flush_eq]
  have hprobe := runs_isEnabled executor s
  cases hread : lookedUp (executor.select probe (some readTimeout) s).1 with
  | error e =>
    rw [hread] at hprobe
    exact ⟨_, _, _, hprobe.bind_error _, .unread e hread⟩
  | ok text =>
    rw [hread] at hprobe
    by_cases htext : text = "ON"
    · rw [htext] at hread hprobe
      obtain ⟨answer, s₁, hdisable⟩ := runs_command executor .disable
        (executor.select probe (some readTimeout) s).2
      cases answer with
      | error e =>
        exact ⟨_, _, s₁, hprobe.bind (hdisable.bind_error _), .notDisabled hread e⟩
      | ok n =>
        obtain ⟨sent, outcome, s₂, hwork, hworked⟩ := runs_flushAndEmpty executor s₁
        obtain ⟨restored, s₃, henable⟩ := runs_command executor .enable s₂
        exact ⟨_, _, s₃, hprobe.bind (hdisable.bind (runs_workAndRestore executor hwork henable)),
          .wasOn hread n hworked restored⟩
    · have hoff : (text == "ON") = false := beq_eq_false_iff_ne.2 htext
      obtain ⟨sent, outcome, s₁, hwork, hworked⟩ :=
        runs_flushAndEmpty executor (executor.select probe (some readTimeout) s).2
      have hrest : Runs executor (workAndRestore false) _ _ _ s₁ :=
        runs_workAndRestore executor hwork (Call.runs_pure () s₁)
      rw [List.append_nil] at hrest
      have houtcome : (outcome.bind fun _ => Except.ok ()) = outcome := by
        cases outcome <;> rfl
      rw [houtcome] at hrest
      have hprobe' : Runs executor isEnabled s _ (.ok (text == "ON")) _ := hprobe
      rw [hoff] at hprobe'
      exact ⟨_, _, s₁, hprobe'.bind hrest.pure_bind, .wasOff text hread htext hworked⟩

end

/-! ## The order of the statements -/

/-- The value of the switch that the first statement read; none if it failed or gave no row. -/
def reading : List Exchange → Option String
  | .select _ _ answer :: _ => (lookedUp answer).toOption
  | _ => none

@[simp] theorem reading_probed (answer : Outcome ResultSet) (rest : List Exchange) :
    reading (probed answer :: rest) = (lookedUp answer).toOption :=
  rfl

/-- What is promised of the statements of a flush. -/
structure Orderly (sent : List Exchange) : Prop where
  /-- The switch is looked up before anything else is sent. -/
  probedFirst : ∃ answer, sent.head? = some (probed answer)
  /-- If it cannot be read, nothing else is sent. -/
  unread : reading sent = none → sent.length = 1
  /-- Otherwise the log is switched off next, exactly if it was on. -/
  disabledNext : reading sent ≠ none →
    ((∃ answer, sent[1]? = some (Command.disable.sent answer)) ↔ reading sent = some "ON")
  /-- If that fails, nothing more is sent. -/
  notDisabled : ∀ e, Command.disable.sent (.error e) ∈ sent →
    sent.getLast? = some (Command.disable.sent (.error e))
  /-- Nothing else keeps the log from being flushed. -/
  flushed : (∃ answer, Command.flush.sent answer ∈ sent) ↔
    reading sent ≠ none ∧ ∀ e, Command.disable.sent (.error e) ∉ sent
  /-- The table is emptied exactly if the file was flushed. -/
  emptied : (∃ answer, Command.empty.sent answer ∈ sent) ↔
    ∃ n, Command.flush.sent (.ok n) ∈ sent
  /-- If the log was on, both come after it was switched off. -/
  afterDisabled : reading sent = some "ON" → ∀ c, c = Command.flush ∨ c = .empty →
    ∀ answer, c.sent answer ∈ sent → ∃ n, sent[1]? = some (Command.disable.sent (.ok n))
  /-- If the log was switched off, the last statement switches it on. -/
  enabledLast : reading sent = some "ON" → ∀ n, Command.disable.sent (.ok n) ∈ sent →
    ∃ answer, sent.getLast? = some (Command.enable.sent answer)
  /-- If the log was not on, the switch is not touched. -/
  untouched : reading sent ≠ some "ON" → ∀ x ∈ sent,
    x.statement.sql ≠ Command.enable.sql ∧ x.statement.sql ≠ Command.disable.sql

/-- Each shape is a list that is written out, so each promise is about its few members. -/
theorem Flushed.orderly {answer : Outcome ResultSet} {sent : List Exchange}
    {outcome : Outcome Unit} (h : Flushed answer sent outcome) : Orderly sent := by
  cases h with
  | unread e hread =>
    constructor <;> simp [hread, Except.toOption]
  | wasOff text hread htext hwork =>
    cases hwork <;> constructor <;> simp [hread, htext, Except.toOption, Command.sql_inj]
  | notDisabled hread e =>
    constructor <;> simp [hread, Except.toOption]
  | wasOn hread n hwork restored =>
    cases hwork <;> constructor <;> simp [hread, Except.toOption]

/-! ## The outcome -/

theorem errorOf_bind {α β : Type} (first : Outcome α) (second : Outcome β) :
    Exchange.errorOf (first.bind fun _ => second)
      = (Exchange.errorOf first).or (Exchange.errorOf second) := by
  cases first <;> rfl

theorem eq_ok_iff {outcome : Outcome Unit} :
    outcome = .ok () ↔ Exchange.errorOf outcome = none := by
  cases outcome <;> simp [Exchange.errorOf]

theorem eq_error_iff {outcome : Outcome Unit} {e : Error} :
    outcome = .error e ↔ Exchange.errorOf outcome = some e := by
  cases outcome <;> simp [Exchange.errorOf]

theorem errorOf_of_lookedUp {answer : Outcome ResultSet} {text : String}
    (h : lookedUp answer = .ok text) : Exchange.errorOf answer = none := by
  cases answer with
  | ok rs => rfl
  | error e => cases h

/-- The work fails with the error of the first statement that does. -/
theorem Worked.error_eq {sent : List Exchange} {outcome : Outcome Unit} (h : Worked sent outcome) :
    Exchange.errorOf outcome = sent.findSome? Exchange.error? := by
  cases h with
  | notFlushed e => rfl
  | flushed n answer => cases answer <;> rfl

/-- A flush fails with the error of the first statement that does, or for want of a row. The error of
switching the log on again comes last, so it does not hide one of the work. -/
theorem Flushed.error_eq {answer : Outcome ResultSet} {sent : List Exchange}
    {outcome : Outcome Unit} (h : Flushed answer sent outcome) :
    Exchange.errorOf outcome
      = (sent.findSome? Exchange.error?).or
          (if reading sent = none then some .noRows else none) := by
  cases h with
  | unread e hread =>
    rw [reading_probed, hread]
    cases answer with
    | error e' =>
      obtain rfl : e' = e := Except.error.inj hread
      rfl
    | ok rs =>
      -- the look-up succeeded, so it is the row that is missing
      have hrow : Call.foundText rs.first? = .error e := hread
      cases hfirst : rs.first? with
      | some cell =>
        rw [hfirst] at hrow
        cases hrow
      | none =>
        rw [hfirst] at hrow
        obtain rfl : Error.noRows = e := Except.error.inj hrow
        rfl
  | wasOff text hread htext hwork =>
    rw [reading_probed, hread, List.findSome?_cons, error?_probed, errorOf_of_lookedUp hread,
      hwork.error_eq]
    exact Option.or_none.symm
  | notDisabled hread e =>
    rw [reading_probed, hread, List.findSome?_cons, error?_probed, errorOf_of_lookedUp hread]
    rfl
  | wasOn hread n hwork restored =>
    rw [reading_probed, hread, List.findSome?_cons, error?_probed, errorOf_of_lookedUp hread,
      errorOf_bind, errorOf_bind, hwork.error_eq]
    show _ = (List.findSome? _ (_ ++ [Command.enable.sent restored])).or none
    rw [List.findSome?_append, Option.or_none]
    cases restored <;> rfl

/-! ## The switch -/

/-- How the log is switched after a statement: only a successful change of the switch matters. -/
def switched (on : Bool) (x : Exchange) : Bool :=
  if x.error?.isSome then on
  else if x.statement.sql = Command.enable.sql then true
  else if x.statement.sql = Command.disable.sql then false
  else on

/-- A server that tells the truth about the switch of its log, which `on` gives for each of its states,
and on which nothing but a successful change of the switch has an effect on it. -/
structure TruthfulSwitch {σ : Type} (executor : Executor σ) (on : σ → Bool) : Prop where
  read : ∀ s rs cell, (executor.select probe (some readTimeout) s).1 = .ok rs →
    rs.first? = some cell → cell.answerText = if on s then "ON" else "OFF"
  switch : ∀ t, executor.Makes t → on t.after = switched (on t.before) t.exchange

@[simp] theorem switched_probed (on : Bool) (answer : Outcome ResultSet) :
    switched on (probed answer) = on := by
  simp [switched]

@[simp] theorem switched_error (on : Bool) (c : Command) (e : Error) :
    switched on (c.sent (.error e)) = on :=
  rfl

@[simp] theorem switched_ok (on : Bool) (c : Command) (n : Nat) :
    switched on (c.sent (.ok n))
      = if c = .enable then true else if c = .disable then false else on := by
  simp [switched, Exchange.errorOf, Command.sql_inj]

/-- The work does not touch the switch. -/
theorem Worked.foldl_switched {sent : List Exchange} {outcome : Outcome Unit}
    (h : Worked sent outcome) (on : Bool) : sent.foldl switched on = on := by
  cases h with
  | notFlushed e => rfl
  | flushed n answer => cases answer <;> simp

/-- Where the truth is read, the switch is in the end as it was, or the last statement failed. -/
theorem Flushed.foldl_switched {answer : Outcome ResultSet} {sent : List Exchange}
    {outcome : Outcome Unit} (h : Flushed answer sent outcome) {on : Bool}
    (htruth : ∀ text, lookedUp answer = .ok text → text = if on then "ON" else "OFF") :
    sent.foldl switched on = on
      ∨ ∃ e, sent.getLast? = some (Command.enable.sent (.error e)) := by
  cases h with
  | unread e hread => exact Or.inl (switched_probed on answer)
  | wasOff text hread htext hwork =>
    rw [List.foldl_cons, switched_probed]
    exact Or.inl (hwork.foldl_switched on)
  | notDisabled hread e => exact Or.inl (switched_probed on answer)
  | wasOn hread n hwork restored =>
    have hon : on = true := by
      cases on with
      | true => rfl
      | false => exact absurd (htruth "ON" hread) (by decide)
    cases restored with
    | error e =>
      right
      refine ⟨e, ?_⟩
      rw [← List.cons_append, ← List.cons_append]
      exact List.getLast?_concat
    | ok n' =>
      left
      rw [List.foldl_cons, List.foldl_cons, List.foldl_append, hwork.foldl_switched, hon]
      simp

section

variable {σ : Type} {executor : Executor σ}

/-- What a truthful look-up reads. -/
theorem TruthfulSwitch.text_of_lookedUp {on : σ → Bool} (h : TruthfulSwitch executor on) {s : σ}
    {text : String}
    (hread : lookedUp (executor.select probe (some readTimeout) s).1 = .ok text) :
    text = if on s then "ON" else "OFF" := by
  cases hanswer : (executor.select probe (some readTimeout) s).1 with
  | error e =>
    rw [hanswer] at hread
    cases hread
  | ok rs =>
    rw [hanswer] at hread
    have hrow : Call.foundText rs.first? = .ok text := hread
    cases hfirst : rs.first? with
    | none =>
      rw [hfirst] at hrow
      cases hrow
    | some cell =>
      rw [hfirst] at hrow
      rw [← Except.ok.inj hrow]
      exact h.read s rs cell hanswer hfirst

theorem TruthfulSwitch.kept {on : σ → Bool} (h : TruthfulSwitch executor on) (s : σ) :
    on (flush.run executor s).2 = on s
      ∨ ∃ e, (flush.exchanges executor s).getLast? = some (Command.enable.sent (.error e)) := by
  have hlast : on (flush.run executor s).2 = (flush.exchanges executor s).foldl switched (on s) :=
    Program.view_run on switched h.switch _ s
  rw [hlast]
  exact (flushed executor s).foldl_switched fun text => h.text_of_lookedUp

/-! ## All runs of a flush -/

/-- **Flushing the general log**, with any executor. The statements are sent in the order that `Orderly`
describes. The flush succeeds exactly if each of them did and the switch was read; otherwise it fails
with the error of the first one that did, or, if none did, for want of a row. And on a server that tells
the truth about the switch it is in the end as it was, unless the last statement failed to restore it. -/
theorem flush_orderly (executor : Executor σ) (s : σ) :
    Orderly (flush.exchanges executor s)
      ∧ ((flush.run executor s).1 = .ok () ↔
          (∀ x ∈ flush.exchanges executor s, x.error? = none)
            ∧ reading (flush.exchanges executor s) ≠ none)
      ∧ (∀ e, (flush.exchanges executor s).findSome? Exchange.error? = some e →
          (flush.run executor s).1 = .error e)
      ∧ ((∀ x ∈ flush.exchanges executor s, x.error? = none) →
          reading (flush.exchanges executor s) = none → (flush.run executor s).1 = .error .noRows)
      ∧ ∀ on : σ → Bool, TruthfulSwitch executor on →
          on (flush.run executor s).2 = on s
            ∨ ∃ e, (flush.exchanges executor s).getLast?
                = some (Command.enable.sent (.error e)) := by
  have herror := (flushed executor s).error_eq
  refine ⟨(flushed executor s).orderly, ?_, ?_, ?_, fun on h => h.kept s⟩
  · rw [eq_ok_iff, herror, Option.or_eq_none_iff, List.findSome?_eq_none_iff]
    refine and_congr_right fun _ => ?_
    by_cases hread : reading (flush.exchanges executor s) = none
    · simp [hread]
    · simp [hread]
  · intro e he
    rw [eq_error_iff, herror, he, Option.some_or]
  · intro hall hread
    rw [eq_error_iff, herror, List.findSome?_eq_none_iff.2 hall, if_pos hread, Option.none_or]

end

/-- A server with a switch for its log, on which the statement `broken` is always late. -/
def switchServer (broken : Command) : Executor Bool where
  batch sql on := (.ok (), switched on (.batch sql (.ok ())))
  select statement limit on :=
    let rs := ResultSet.ofRows ["VARIABLE_VALUE"] [[.text (if on then "ON" else "OFF")]]
    (.ok rs, switched on (.select statement limit (.ok rs)))
  change statement on :=
    if statement.sql = broken.sql then (.error (.timeout readTimeout), on)
    else (.ok 0, switched on (.change statement (.ok 0)))

theorem truthfulSwitch_switchServer (broken : Command) :
    TruthfulSwitch (switchServer broken) id := by
  constructor
  · intro on rs cell hanswer hfirst
    obtain rfl := Except.ok.inj hanswer
    obtain rfl := Option.some.inj hfirst
    rfl
  · intro t ht
    cases ht with
    | batch sql on => rfl
    | select statement limit on => rfl
    | change statement on =>
      show ((switchServer broken).change statement on).2
        = switched on (.change statement ((switchServer broken).change statement on).1)
      by_cases hbroken : statement.sql = broken.sql
      · simp [switchServer, hbroken, switched, Exchange.error?, Exchange.errorOf]
      · simp [switchServer, hbroken]

/-- The file cannot be flushed, so the table is not emptied; the log is switched on again. -/
theorem flush_orderly_unflushed :
    TruthfulSwitch (switchServer .flush) id
      ∧ flush.exchanges (switchServer .flush) true
        = [probed ((switchServer .flush).select probe (some readTimeout) true).1,
            Command.disable.sent (.ok 0), Command.flush.sent (.error (.timeout readTimeout)),
            Command.enable.sent (.ok 0)]
      ∧ (flush.run (switchServer .flush) true).1 = .error (.timeout readTimeout)
      ∧ (flush.run (switchServer .flush) true).2 = true := by
  have htruthful := truthfulSwitch_switchServer .flush
  have hsent : flush.exchanges (switchServer .flush) true
      = [probed ((switchServer .flush).select probe (some readTimeout) true).1,
          Command.disable.sent (.ok 0), Command.flush.sent (.error (.timeout readTimeout)),
          Command.enable.sent (.ok 0)] := rfl
  obtain ⟨-, -, herror, -, hswitch⟩ := flush_orderly (switchServer .flush) true
  rw [hsent] at herror hswitch
  refine ⟨htruthful, hsent, herror _ rfl, ?_⟩
  rcases hswitch id htruthful with hkept | ⟨e, hlast⟩
  · exact hkept
  · exact absurd hlast (by simp)

/-- A flush can fail although nothing that it sent did: there may be no row to read the switch from. -/
theorem flush_fails_without_row :
    ¬ ∀ (σ : Type) (executor : Executor σ) (s : σ),
      (flush.run executor s).1 = .ok () ↔ ∀ x ∈ flush.exchanges executor s, x.error? = none := by
  intro h
  have hsent : flush.exchanges Script.executor Script.fresh.pushEmpty
      = [probed (.ok (ResultSet.ofRows [] []))] := rfl
  have hend : (flush.run Script.executor Script.fresh.pushEmpty).1 = .error .noRows := rfl
  have hall : ∀ x ∈ flush.exchanges Script.executor Script.fresh.pushEmpty, x.error? = none := by
    rw [hsent]
    exact List.forall_mem_singleton.2 rfl
  have hok := (h Script Script.executor Script.fresh.pushEmpty).2 hall
  rw [hend] at hok
  cases hok

end MysqlDesk.GeneralLog
