/-
Whole runs of the scripted executor.

A session prepares answers and makes calls, in any order and of any kind: a call may be any program, so
the helpers of this library are among them, and each sends as many statements as it likes. What holds of
a session is proved in three steps. `answered_of_makes` says how a single statement is answered,
`call_law` takes it along the run of one call, and the induction on the steps puts the calls together with
the preparations between them.

Whether a select has a limit is up to the call that sends it. For the helpers it is a fact about them as
programs, and comes from `Proofs.Program.TimeLimit`.

The queue is kept in balance by one equation: what was handed out, followed by what still waits, is what
was prepared. A select that fails or is given up leaves the queue alone, and one that finds it empty
answers without rows and adds nothing to either side.
-/
import Mathlib.Data.List.Induction
import MysqlDesk.Proofs.Program.TimeLimit
import MysqlDesk.Proofs.Text.Cut
import MysqlDesk.Script

set_option autoImplicit false

namespace MysqlDesk.Script

/-! ## Sessions -/

/-- A step of a session. -/
inductive Step where
  | pushRows (columns : List String) (rows : List (List Cell))
  | pushValue (column : String) (value : Cell)
  | pushEmpty
  | failWhen (fragment : String) (number : UInt16) (note : String)
  | delaySelects (delay : Span)
  | call {α : Type} (call : Call α)

namespace Step

/-- The script after a step. -/
def next (s : Script) : Step → Script
  | .pushRows columns rows => s.pushRows columns rows
  | .pushValue column value => s.pushValue column value
  | .pushEmpty => s.pushEmpty
  | .failWhen fragment number note => s.failWhen fragment number note
  | .delaySelects delay => s.delaySelects delay
  | .call c => (c.run executor s).2

/-- The transitions of a step: those of its call, if it is one. -/
def transitions (s : Script) : Step → List (Transition Script)
  | .call c => c.transitions executor s
  | _ => []

/-- The result sets that a step prepares: each row has the names of the columns, and every row is counted. -/
def pushed : Step → List ResultSet
  | .pushRows columns rows =>
    [⟨some columns, rows.map fun cells => ⟨columns, cells⟩, rows.length⟩]
  | .pushValue column value => [⟨some [column], [⟨[column], [value]⟩], 1⟩]
  | .pushEmpty => [⟨some [], [], 0⟩]
  | _ => []

/-- The failures that a step declares. -/
def declared : Step → List Failure
  | .failWhen fragment number note => [⟨fragment, number, note⟩]
  | _ => []

/-- The delay that a step sets. -/
def delay? : Step → Option Span
  | .delaySelects delay => some delay
  | _ => none

end Step

/-- The script after a session. -/
def after (steps : List Step) : Script :=
  steps.foldl Step.next fresh

/-- The transitions of a session that begins with the script `s`. -/
def transitionsFrom (s : Script) : List Step → List (Transition Script)
  | [] => []
  | step :: steps => step.transitions s ++ transitionsFrom (step.next s) steps

/-- The transitions of a session. -/
def transitions (steps : List Step) : List (Transition Script) :=
  transitionsFrom fresh steps

/-- The result sets that were prepared, in order. -/
def pushed (steps : List Step) : List ResultSet :=
  steps.flatMap Step.pushed

/-- The failures that were declared, in order. -/
def declared (steps : List Step) : List Failure :=
  steps.flatMap Step.declared

/-- The delay that was set last. -/
def lastDelay (steps : List Step) : Span :=
  (steps.filterMap Step.delay?).getLast?.getD ⟨0⟩

/-- The result set that a select took from the queue: it succeeded, and the queue was not empty. -/
def handed? (t : Transition Script) : Option ResultSet :=
  match t.exchange, t.before.queued with
  | .select _ _ (.ok rs), _ :: _ => some rs
  | _, _ => none

/-- The result sets that were taken from the queue, in order. -/
def handed (ts : List (Transition Script)) : List ResultSet :=
  ts.filterMap handed?

/-! ## One statement -/

/-- The failure was declared for a statement with this text. -/
def Concerns (f : Failure) (sql : String) : Prop :=
  f.fragment.toList <:+: sql.toList

/-- Of the failures declared for a statement, this one was declared first. -/
def FirstFor (failures : List Failure) (sql : String) (f : Failure) : Prop :=
  ∃ before after, failures = before ++ f :: after ∧ Concerns f sql
    ∧ ∀ g ∈ before, ¬ Concerns g sql

/-- No failure was declared for a statement. -/
def Spared (failures : List Failure) (sql : String) : Prop :=
  ∀ f ∈ failures, ¬ Concerns f sql

/-- How a statement is answered when these failures were declared and this delay was set. -/
structure Answered (failures : List Failure) (delay : Span) (t : Transition Script) : Prop where
  /-- It is recorded after those that arrived before it. -/
  recorded : t.after.statements = t.before.statements ++ [t.exchange.statement]
  /-- The first failure declared for it is its answer, as an error of the server, however short its limit
  and however long the delay. Nothing is taken from the queue. -/
  failed : ∀ f, FirstFor failures t.exchange.statement.sql f →
    t.exchange.error? = some (.database
        ⟨.server f.number (some "HY000") f.note, none, none, [], none⟩)
      ∧ t.after.queued = t.before.queued
  /-- Any other select is given up when its limit is reached before the delay is over, and then takes
  nothing either. -/
  late : Spared failures t.exchange.statement.sql → ∀ statement limit answer,
    t.exchange = .select statement (some limit) answer → limit.nanos < delay.nanos →
      answer = .error (.timeout limit) ∧ t.after.queued = t.before.queued
  /-- Without a limit, or with the delay over in time, it takes the next result set; if there is none,
  its answer has no rows. -/
  inTime : Spared failures t.exchange.statement.sql → ∀ statement limit answer,
    t.exchange = .select statement limit answer →
    (∀ l, limit = some l → delay.nanos ≤ l.nanos) →
      answer = .ok (t.before.queued.head?.getD ⟨none, [], 0⟩)
        ∧ t.after.queued = t.before.queued.tail
  /-- Other statements succeed, and have nothing to do with the queue. -/
  other : Spared failures t.exchange.statement.sql →
    (∀ statement limit answer, t.exchange ≠ .select statement limit answer) →
      t.exchange.error? = none ∧ t.after.queued = t.before.queued
  /-- A select that succeeds was handed a prepared result set, or there was none and its answer is the
  empty one. -/
  completed : ∀ statement limit rs, t.exchange = .select statement limit (.ok rs) →
    handed? t = some rs ∨ (t.before.queued = [] ∧ rs = ⟨none, [], 0⟩)

theorem concerns_iff {f : Failure} {sql : String} :
    Concerns f sql ↔ Text.occursIn f.fragment.toList sql.toList = true :=
  Text.occursIn_iff.symm

/-- What a script does with a statement for which a failure was declared, and with any other. -/
theorem verdict_of_firstFor {s : Script} {sql : String} {f : Failure}
    (h : FirstFor s.failures sql f) : s.verdict sql = .error (Failure.error f) := by
  obtain ⟨before, after, hfailures, hf, hbefore⟩ := h
  have hfind : s.failureOf? sql = some f := by
    rw [failureOf?, List.find?_eq_some_iff_append]
    refine ⟨concerns_iff.1 hf, before, after, hfailures, fun g hg => ?_⟩
    rw [Bool.not_eq_true', ← Bool.not_eq_true]
    exact fun hg' => hbefore g hg (concerns_iff.2 hg')
  rw [verdict, hfind]

theorem verdict_of_spared {s : Script} {sql : String} (h : Spared s.failures sql) :
    s.verdict sql = .ok () := by
  have hfind : s.failureOf? sql = none := by
    rw [failureOf?, List.find?_eq_none]
    exact fun f hf hocc => h f hf (concerns_iff.2 hocc)
  rw [verdict, hfind]

section

variable {s : Script} {statement : Statement}

theorem select_of_failed {e : Error} (h : s.verdict statement.sql = .error e)
    (limit : Option Span) :
    executor.select statement limit s = (.error e, s.record statement) := by
  simp only [executor, h]

theorem select_of_late (h : s.verdict statement.sql = .ok ()) {limit : Span}
    (hlate : ¬ s.delay ≤ limit) :
    executor.select statement (some limit) s = (.error (.timeout limit), s.record statement) := by
  have hdelay : ¬ (s.record statement).delay ≤ limit := hlate
  simp only [executor, h, answer, Timed.within, if_neg hdelay]

theorem select_in_time (h : s.verdict statement.sql = .ok ()) {limit : Option Span}
    (htime : ∀ l, limit = some l → s.delay ≤ l) :
    executor.select statement limit s
      = (.ok (s.queued.head?.getD ResultSet.empty),
          { s.record statement with queued := s.queued.tail }) := by
  have htake : (s.record statement).take
      = (s.queued.head?.getD ResultSet.empty,
          { s.record statement with queued := s.queued.tail }) := by
    obtain ⟨queued, failures, delay, statements⟩ := s
    cases queued <;> rfl
  cases limit with
  | none => simp only [executor, h, answer, htake]
  | some l =>
    have hdelay : (s.record statement).delay ≤ l := htime l rfl
    simp only [executor, h, answer, Timed.within, if_pos hdelay, htake]

end

/-- What becomes of the script: a statement is recorded, and nothing else happens unless it is a select
that succeeds, which takes the next result set. -/
theorem effect_of_makes {t : Transition Script} (h : executor.Makes t) :
    (t.after = t.before.record t.exchange.statement
        ∧ ∀ statement limit rs, t.exchange ≠ .select statement limit (.ok rs))
      ∨ ∃ statement limit,
        t.exchange = .select statement limit (.ok (t.before.queued.head?.getD ResultSet.empty))
          ∧ t.after = { t.before.record statement with queued := t.before.queued.tail } := by
  cases h with
  | batch sql s => exact Or.inl ⟨rfl, fun _ _ _ h => by cases h⟩
  | change statement s => exact Or.inl ⟨rfl, fun _ _ _ h => by cases h⟩
  | select statement limit s =>
    cases hverdict : s.verdict statement.sql with
    | error e =>
      rw [select_of_failed hverdict]
      exact Or.inl ⟨rfl, fun _ _ _ h => by cases h⟩
    | ok _ =>
      -- no limit at all counts as in time
      by_cases htime : ∀ l, limit = some l → s.delay ≤ l
      · rw [select_in_time hverdict htime]
        exact Or.inr ⟨statement, limit, rfl, rfl⟩
      · obtain ⟨l, htime⟩ := Classical.not_forall.1 htime
        obtain ⟨rfl, hlate⟩ := Classical.not_imp.1 htime
        rw [select_of_late hverdict hlate]
        exact Or.inl ⟨rfl, fun _ _ _ h => by cases h⟩

theorem completed_of_makes {t : Transition Script} (h : executor.Makes t) (statement : Statement)
    (limit : Option Span) (rs : ResultSet) (hrs : t.exchange = .select statement limit (.ok rs)) :
    handed? t = some rs ∨ (t.before.queued = [] ∧ rs = ResultSet.empty) := by
  rcases effect_of_makes h with ⟨-, hnone⟩ | ⟨statement', limit', hexchange, -⟩
  · exact absurd hrs (hnone statement limit rs)
  · obtain ⟨-, -, hanswer⟩ := Exchange.select.inj (hrs.symm.trans hexchange)
    have hrs' : rs = t.before.queued.head?.getD ResultSet.empty := Except.ok.inj hanswer
    rw [handed?, hexchange, hrs']
    cases t.before.queued with
    | nil => exact Or.inr ⟨rfl, rfl⟩
    | cons first rest => exact Or.inl rfl

/-- A statement for which a failure was declared is recorded, and that is all. -/
theorem refused_of_makes {t : Transition Script} (h : executor.Makes t) {e : Error}
    (hverdict : t.before.verdict t.exchange.statement.sql = .error e) :
    t.exchange.error? = some e ∧ t.after = t.before.record t.exchange.statement := by
  cases h with
  | batch sql s => exact ⟨congrArg Exchange.errorOf hverdict, rfl⟩
  | change statement s =>
    exact ⟨congrArg (fun v : Outcome Unit => Exchange.errorOf (v.map fun _ => 0)) hverdict, rfl⟩
  | select statement limit s =>
    have hselect := select_of_failed hverdict limit
    exact ⟨congrArg (fun p : Outcome ResultSet × Script => Exchange.errorOf p.1) hselect,
      congrArg Prod.snd hselect⟩

/-- Any other statement that is not a select succeeds, and leaves the queue alone. -/
theorem accepted_of_makes {t : Transition Script} (h : executor.Makes t)
    (hverdict : t.before.verdict t.exchange.statement.sql = .ok ())
    (hother : ∀ statement limit answer, t.exchange ≠ .select statement limit answer) :
    t.exchange.error? = none ∧ t.after.queued = t.before.queued := by
  cases h with
  | batch sql s => exact ⟨congrArg Exchange.errorOf hverdict, rfl⟩
  | change statement s =>
    exact ⟨congrArg (fun v : Outcome Unit => Exchange.errorOf (v.map fun _ => 0)) hverdict, rfl⟩
  | select statement limit s => exact absurd rfl (hother statement limit _)

theorem select_of_makes {t : Transition Script} (h : executor.Makes t) {statement : Statement}
    {limit : Option Span} {answer : Outcome ResultSet}
    (hselect : t.exchange = .select statement limit answer) :
    executor.select statement limit t.before = (answer, t.after) := by
  cases h with
  | batch sql s => cases hselect
  | change statement s => cases hselect
  | select statement limit s =>
    obtain ⟨rfl, rfl, rfl⟩ := Exchange.select.inj hselect
    rfl

/-- **The step.** The script answers each statement as it should. -/
theorem answered_of_makes {t : Transition Script} (h : executor.Makes t) :
    Answered t.before.failures t.before.delay t where
  recorded := by
    rcases effect_of_makes h with ⟨hafter, -⟩ | ⟨statement, limit, hexchange, hafter⟩
    · rw [hafter]
      rfl
    · rw [hafter, hexchange]
      rfl
  failed := by
    intro f hf
    obtain ⟨herror, hafter⟩ := refused_of_makes h (verdict_of_firstFor hf)
    rw [hafter]
    exact ⟨herror, rfl⟩
  late := by
    intro hspared statement limit answer hexchange hlate
    have hspared' : Spared t.before.failures statement.sql := by rwa [hexchange] at hspared
    have hselect := select_of_makes h hexchange
    rw [select_of_late (verdict_of_spared hspared') (Nat.not_le_of_lt hlate)] at hselect
    obtain ⟨hanswer, hafter⟩ := Prod.mk.inj hselect
    exact ⟨hanswer.symm, (congrArg Script.queued hafter).symm⟩
  inTime := by
    intro hspared statement limit answer hexchange htime
    have hspared' : Spared t.before.failures statement.sql := by rwa [hexchange] at hspared
    have hselect := select_of_makes h hexchange
    rw [select_in_time (verdict_of_spared hspared') htime] at hselect
    obtain ⟨hanswer, hafter⟩ := Prod.mk.inj hselect
    exact ⟨hanswer.symm, (congrArg Script.queued hafter).symm⟩
  other := fun hspared hother => accepted_of_makes h (verdict_of_spared hspared) hother
  completed := completed_of_makes h

/-- A statement moves one result set from the queue into the hands of a select, or none. -/
theorem handed?_of_makes {t : Transition Script} (h : executor.Makes t) :
    (handed? t).toList ++ t.after.queued = t.before.queued := by
  rcases effect_of_makes h with ⟨hafter, hnone⟩ | ⟨statement, limit, hexchange, hafter⟩
  · have hhanded : handed? t = none := by
      rw [handed?]
      split
      · rename_i statement limit rs _ _ hexchange _
        exact absurd hexchange (hnone statement limit rs)
      · rfl
    rw [hhanded, hafter]
    rfl
  · rw [handed?, hexchange, hafter]
    cases t.before.queued <;> rfl

/-- What a script was told stays as it is. -/
theorem told_of_makes {t : Transition Script} (h : executor.Makes t) :
    t.after.failures = t.before.failures ∧ t.after.delay = t.before.delay := by
  rcases effect_of_makes h with ⟨hafter, -⟩ | ⟨statement, limit, -, hafter⟩ <;>
    · rw [hafter]
      exact ⟨rfl, rfl⟩

/-! ## One call -/

/-- What is known of the run of a call that begins with the script `s` and ends with `s'`. -/
structure CallLaw (s : Script) (ts : List (Transition Script)) (s' : Script) : Prop where
  statements : s'.statements = s.statements ++ ts.map fun t => t.exchange.statement
  balance : handed ts ++ s'.queued = s.queued
  failures : s'.failures = s.failures
  delay : s'.delay = s.delay
  answered : ∀ t ∈ ts, Answered s.failures s.delay t

/-- **The run of a call.** -/
theorem call_law {α : Type} (c : Call α) (s : Script) :
    CallLaw s (c.transitions executor s) (c.run executor s).2 := by
  refine Program.run_induction (motive := CallLaw) (fun s => ?_) (fun t ts s' ht ih => ?_) _ s
  · exact ⟨(List.append_nil _).symm, rfl, rfl, rfl, fun t ht => absurd ht List.not_mem_nil⟩
  · -- the rest of the run begins with the script after `t`, which was told the same
    obtain ⟨hfailures, hdelay⟩ := told_of_makes ht
    have hanswered := answered_of_makes ht
    refine ⟨?_, ?_, ih.failures.trans hfailures, ih.delay.trans hdelay, ?_⟩
    · rw [ih.statements, hanswered.recorded, List.map_cons, List.append_assoc,
        List.singleton_append]
    · -- what `t` took is the front of what the call took
      have hhanded : handed (t :: ts) = (handed? t).toList ++ handed ts := by
        rw [handed, List.filterMap_cons]
        cases handed? t <;> rfl
      rw [hhanded, List.append_assoc, ih.balance, handed?_of_makes ht]
    · have hrest := ih.answered
      rw [hfailures, hdelay] at hrest
      exact List.forall_mem_cons.2 ⟨hanswered, hrest⟩

/-! ## One step -/

/-- What is known of one step: what a preparation adds, and what a call leaves. -/
structure StepLaw (s : Script) (step : Step) : Prop where
  statements : (step.next s).statements
    = s.statements ++ (step.transitions s).map fun t => t.exchange.statement
  balance : handed (step.transitions s) ++ (step.next s).queued = s.queued ++ step.pushed
  failures : (step.next s).failures = s.failures ++ step.declared
  delay : (step.next s).delay = step.delay?.getD s.delay

/-- **The step of a session.** -/
theorem step_law (s : Script) (step : Step) : StepLaw s step := by
  cases step with
  | pushRows columns rows =>
    have hqueued : (Step.next s (.pushRows columns rows)).queued
        = s.queued ++ Step.pushed (.pushRows columns rows) := by
      rw [Step.pushed, ← ResultSet.ofRows_eq]
      rfl
    exact ⟨(List.append_nil _).symm, hqueued, (List.append_nil _).symm, rfl⟩
  | pushValue column value =>
    exact ⟨(List.append_nil _).symm, rfl, (List.append_nil _).symm, rfl⟩
  | pushEmpty => exact ⟨(List.append_nil _).symm, rfl, (List.append_nil _).symm, rfl⟩
  | failWhen fragment number note =>
    exact ⟨(List.append_nil _).symm, (List.append_nil _).symm, rfl, rfl⟩
  | delaySelects delay =>
    exact ⟨(List.append_nil _).symm, (List.append_nil _).symm, (List.append_nil _).symm, rfl⟩
  | call c =>
    have hcall := call_law c s
    exact ⟨hcall.statements, hcall.balance.trans (List.append_nil _).symm,
      hcall.failures.trans (List.append_nil _).symm, hcall.delay⟩

/-! ## One step more -/

section

variable (steps : List Step) (step : Step)

theorem after_concat : after (steps ++ [step]) = step.next (after steps) := by
  rw [after, List.foldl_append]
  rfl

theorem transitionsFrom_append (s : Script) (more : List Step) :
    transitionsFrom s (steps ++ more)
      = transitionsFrom s steps ++ transitionsFrom (steps.foldl Step.next s) more := by
  induction steps generalizing s with
  | nil => rfl
  | cons first steps ih =>
    rw [List.cons_append, transitionsFrom, transitionsFrom, ih, List.append_assoc, List.foldl_cons]

theorem transitions_concat :
    transitions (steps ++ [step]) = transitions steps ++ step.transitions (after steps) := by
  rw [transitions, transitionsFrom_append, transitionsFrom, transitionsFrom, List.append_nil]
  rfl

theorem pushed_concat : pushed (steps ++ [step]) = pushed steps ++ step.pushed := by
  rw [pushed, List.flatMap_append, List.flatMap_singleton]
  rfl

theorem declared_concat : declared (steps ++ [step]) = declared steps ++ step.declared := by
  rw [declared, List.flatMap_append, List.flatMap_singleton]
  rfl

theorem lastDelay_concat :
    lastDelay (steps ++ [step]) = step.delay?.getD (lastDelay steps) := by
  rw [lastDelay, List.filterMap_append, List.filterMap_cons, List.filterMap_nil]
  cases step.delay? with
  | none =>
    rw [List.append_nil]
    rfl
  | some delay =>
    rw [List.getLast?_concat]
    rfl

end

/-! ## Whole sessions -/

/-- What a script was told is what the steps say. -/
theorem told_after (steps : List Step) :
    (after steps).failures = declared steps ∧ (after steps).delay = lastDelay steps := by
  induction steps using List.reverseRecOn with
  | nil => exact ⟨rfl, rfl⟩
  | append_singleton steps step ih =>
    have hstep := step_law (after steps) step
    rw [after_concat, declared_concat, lastDelay_concat, hstep.failures, hstep.delay, ih.1, ih.2]
    exact ⟨rfl, rfl⟩

/-- The statements of a session are those that arrived. -/
theorem statements_after (steps : List Step) :
    (after steps).statements = (transitions steps).map fun t => t.exchange.statement := by
  induction steps using List.reverseRecOn with
  | nil => rfl
  | append_singleton steps step ih =>
    rw [after_concat, transitions_concat, (step_law (after steps) step).statements, ih,
      List.map_append]

/-- The prepared result sets are those that were handed out and those that still wait. -/
theorem balance_after (steps : List Step) :
    handed (transitions steps) ++ (after steps).queued = pushed steps := by
  induction steps using List.reverseRecOn with
  | nil => rfl
  | append_singleton steps step ih =>
    have hhanded : handed (transitions steps ++ step.transitions (after steps))
        = handed (transitions steps) ++ handed (step.transitions (after steps)) :=
      List.filterMap_append
    rw [after_concat, transitions_concat, pushed_concat, hhanded, List.append_assoc,
      (step_law (after steps) step).balance, ← List.append_assoc, ih]

/-- Later steps leave the statements of earlier ones alone. -/
theorem statements_prefix (front back : List Step) :
    (after front).statements <+: (after (front ++ back)).statements := by
  rw [statements_after, statements_after, transitions, transitions, transitionsFrom_append,
    List.map_append]
  exact List.prefix_append _ _

/-- Every statement is part of a call, and is answered as the steps before the call say. -/
theorem answered_of_mem_transitions {steps : List Step} {t : Transition Script}
    (h : t ∈ transitions steps) :
    ∃ (front : List Step) (α : Type) (c : Call α) (back : List Step),
      steps = front ++ .call c :: back ∧ t ∈ c.transitions executor (after front)
        ∧ Answered (declared front) (lastDelay front) t := by
  induction steps using List.reverseRecOn with
  | nil => exact absurd h List.not_mem_nil
  | append_singleton steps step ih =>
    rw [transitions_concat, List.mem_append] at h
    rcases h with h | h
    · -- an earlier call: the step is added to what follows it
      obtain ⟨front, α, c, back, hsteps, hmem, hanswered⟩ := ih h
      refine ⟨front, α, c, back ++ [step], ?_, hmem, hanswered⟩
      rw [hsteps, List.append_assoc, List.cons_append]
    · -- only a call has transitions
      cases step with
      | call c =>
        have hanswered := (call_law c (after steps)).answered t h
        rw [(told_after steps).1, (told_after steps).2] at hanswered
        exact ⟨steps, _, c, [], rfl, h, hanswered⟩
      | pushRows => exact absurd h List.not_mem_nil
      | pushValue => exact absurd h List.not_mem_nil
      | pushEmpty => exact absurd h List.not_mem_nil
      | failWhen => exact absurd h List.not_mem_nil
      | delaySelects => exact absurd h List.not_mem_nil

/-- **The law of a session.** Its record has the statements that arrived, in order, and no step takes
one back. The result sets that were handed out, in order, and then those that still wait are the ones
that were prepared. Each statement came from a call, and was answered as the failures and the delay that
were set before this call demand. The selects of the helpers of this library have the limit of three
seconds, whatever was answered before, and so has a look-up on its own. -/
theorem session_law (steps : List Step) :
    (after steps).statements = (transitions steps).map (fun t => t.exchange.statement) ∧
    (∀ front, front <+: steps → (after front).statements <+: (after steps).statements) ∧
    handed (transitions steps) ++ (after steps).queued = pushed steps ∧
    (∀ t ∈ transitions steps,
      ∃ (front : List Step) (α : Type) (c : Call α) (back : List Step),
        steps = front ++ .call c :: back ∧ t ∈ c.transitions executor (after front)
          ∧ Answered (declared front) (lastDelay front) t) ∧
    ∀ (α : Type) (c : Call α), Helper c → ∀ s : Script, ∀ t ∈ c.transitions executor s,
      ∀ statement limit answer, t.exchange = .select statement limit answer →
        limit = some ⟨3000000000⟩ := by
  refine ⟨statements_after steps, fun front hfront => ?_, balance_after steps,
    fun t ht => answered_of_mem_transitions ht, fun α c hc s t ht statement limit answer h => ?_⟩
  · obtain ⟨back, rfl⟩ := hfront
    exact statements_prefix front back
  · have hwithin : t.exchange.Within readTimeout := hc.limited.within executor s t ht
    rw [h] at hwithin
    exact hwithin

/-- A look-up that takes too long leaves its answer to the select that follows. -/
example :
    (transitions [.pushValue "v" (.text "ON"), .delaySelects (Span.seconds 4),
        .call (Call.lookUpText "SELECT 1" []), .call (Call.select "SELECT 2" [] none)]).map
      (fun t => (t.exchange.error?, (handed? t).isSome))
      = [(some (.timeout readTimeout), false), (none, true)] := by
  rfl

end MysqlDesk.Script
