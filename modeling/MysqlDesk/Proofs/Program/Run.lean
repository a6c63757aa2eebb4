/-
Runs of programs: what is sent, what comes back, and what becomes of the executor.

`Program.run` gives the value of a program and the last state of its executor. What lies between are the
transitions of the executor, one for each statement, with the states before and after it. There are two
ways to reason about them, and each is set up here once.

Where something is known of the executor, it is known of each of its transitions. `Program.run_induction`
takes it from there to the whole run of any program.

Where something is known of the call, the call is put together from few parts. `Call.Runs` says what a
call sends and how it ends, for an executor of which nothing is known, and there is one lemma for each
part and one for each way in which a part can be followed by another.
-/
import MysqlDesk.Program

set_option autoImplicit false

namespace MysqlDesk

/-- A statement that was sent, with its answer. -/
inductive Exchange where
  | batch (sql : String) (answer : Outcome Unit)
  | select (statement : Statement) (limit : Option Span) (answer : Outcome ResultSet)
  | change (statement : Statement) (answer : Outcome Nat)

namespace Exchange

/-- What was sent. -/
def statement : Exchange → Statement
  | .batch sql _ => ⟨sql, []⟩
  | .select statement _ _ => statement
  | .change statement _ => statement

/-- The error of an answer. -/
def errorOf {α : Type} : Outcome α → Option Error
  | .ok _ => none
  | .error e => some e

/-- The error that came back, if the statement did not succeed. -/
def error? : Exchange → Option Error
  | .batch _ answer => errorOf answer
  | .select _ _ answer => errorOf answer
  | .change _ answer => errorOf answer

end Exchange

/-- One statement from the side of the executor: the states before and after it. -/
structure Transition (σ : Type) where
  before : σ
  exchange : Exchange
  after : σ

section

variable {α β σ : Type}

/-- The transitions that an executor can make. -/
inductive Executor.Makes (executor : Executor σ) : Transition σ → Prop where
  | batch (sql : String) (s : σ) :
      executor.Makes ⟨s, .batch sql (executor.batch sql s).1, (executor.batch sql s).2⟩
  | select (statement : Statement) (limit : Option Span) (s : σ) :
      executor.Makes ⟨s, .select statement limit (executor.select statement limit s).1,
        (executor.select statement limit s).2⟩
  | change (statement : Statement) (s : σ) :
      executor.Makes ⟨s, .change statement (executor.change statement s).1,
        (executor.change statement s).2⟩

/-! ## Transitions -/

/-- The transitions of an executor while it answers a program. -/
def Program.transitions (executor : Executor σ) (p : Program α) (state : σ) :
    List (Transition σ) :=
  match p with
  | .done _ => []
  | .batch sql next =>
    let (answer, after) := executor.batch sql state
    ⟨state, .batch sql answer, after⟩ :: (next answer).transitions executor after
  | .select statement limit next =>
    let (answer, after) := executor.select statement limit state
    ⟨state, .select statement limit answer, after⟩ :: (next answer).transitions executor after
  | .change statement next =>
    let (answer, after) := executor.change statement state
    ⟨state, .change statement answer, after⟩ :: (next answer).transitions executor after

/-- **Induction along a run.** What holds of no transitions, and of a transition of the executor before
others if it holds of these, holds of every run. -/
theorem Program.run_induction {executor : Executor σ}
    {motive : σ → List (Transition σ) → σ → Prop} (done : ∀ s, motive s [] s)
    (step : ∀ t ts s', executor.Makes t → motive t.after ts s' → motive t.before (t :: ts) s')
    (p : Program α) (s : σ) : motive s (p.transitions executor s) (p.run executor s).2 := by
  induction p generalizing s with
  | done value => exact done s
  | batch sql next ih => exact step _ _ _ (.batch sql s) (ih _ _)
  | select statement limit next ih => exact step _ _ _ (.select statement limit s) (ih _ _)
  | change statement next ih => exact step _ _ _ (.change statement s) (ih _ _)

theorem Program.run_bind (executor : Executor σ) (p : Program α) (f : α → Program β) (s : σ) :
    (p.bind f).run executor s
      = (f (p.run executor s).1).run executor (p.run executor s).2 := by
  induction p generalizing s with
  | done value => rfl
  | batch sql next ih => exact ih _ _
  | select statement limit next ih => exact ih _ _
  | change statement next ih => exact ih _ _

theorem Program.transitions_bind (executor : Executor σ) (p : Program α) (f : α → Program β)
    (s : σ) :
    (p.bind f).transitions executor s
      = p.transitions executor s
        ++ (f (p.run executor s).1).transitions executor (p.run executor s).2 := by
  induction p generalizing s with
  | done value => rfl
  | batch sql next ih => exact congrArg (_ :: ·) (ih _ _)
  | select statement limit next ih => exact congrArg (_ :: ·) (ih _ _)
  | change statement next ih => exact congrArg (_ :: ·) (ih _ _)

/-- A view of the state that each exchange changes in a way of its own is changed by a run in these
ways, one after the other. -/
theorem Program.view_run {executor : Executor σ} (view : σ → β) (update : β → Exchange → β)
    (hstep : ∀ t, executor.Makes t → view t.after = update (view t.before) t.exchange)
    (p : Program α) (s : σ) :
    view (p.run executor s).2
      = ((p.transitions executor s).map Transition.exchange).foldl update (view s) := by
  refine Program.run_induction
    (motive := fun s ts s' => view s' = (ts.map Transition.exchange).foldl update (view s))
    (fun s => rfl) (fun t ts s' ht ih => ?_) p s
  rw [ih, hstep t ht, List.map_cons, List.foldl_cons]

/-! ## Calls -/

namespace Call

/-- The transitions of an executor while it answers a call. -/
def transitions (executor : Executor σ) (call : Call α) (state : σ) : List (Transition σ) :=
  Program.transitions executor (ExceptT.run call) state

/-- What a call sends, with the answers. -/
def exchanges (executor : Executor σ) (call : Call α) (state : σ) : List Exchange :=
  (call.transitions executor state).map Transition.exchange

/-- The call sends these statements, to these answers, and then ends. -/
structure Runs (executor : Executor σ) (call : Call α) (s : σ) (sent : List Exchange)
    (outcome : Outcome α) (s' : σ) : Prop where
  exchanges_eq : call.exchanges executor s = sent
  run_eq : call.run executor s = (outcome, s')

variable {executor : Executor σ} {s s₁ s₂ : σ} {sent sent₁ sent₂ : List Exchange}

theorem runs_ofOutcome (outcome : Outcome α) (s : σ) :
    Runs executor (ofOutcome outcome) s [] outcome s :=
  ⟨rfl, rfl⟩

theorem runs_pure (value : α) (s : σ) : Runs executor (pure value : Call α) s [] (.ok value) s :=
  ⟨rfl, rfl⟩

/-- A template that can be filled is out of the way before anything is sent. -/
theorem statement_bind {template sql : String} {arguments : List String}
    (h : Template.substitute template arguments = .ok sql) (next : String → Call α) :
    statement template arguments >>= next = next sql := by
  rw [statement, h]
  rfl

theorem runs_select (sql : String) (params : List Cell) (limit : Option Span) (s : σ) :
    Runs executor (select sql params limit) s
      [.select ⟨sql, params⟩ limit (executor.select ⟨sql, params⟩ limit s).1]
      (executor.select ⟨sql, params⟩ limit s).1 (executor.select ⟨sql, params⟩ limit s).2 :=
  ⟨rfl, rfl⟩

theorem runs_change (sql : String) (params : List Cell) (s : σ) :
    Runs executor (change sql params) s
      [.change ⟨sql, params⟩ (executor.change ⟨sql, params⟩ s).1]
      (executor.change ⟨sql, params⟩ s).1 (executor.change ⟨sql, params⟩ s).2 :=
  ⟨rfl, rfl⟩

/-! ### One call after the other -/

/-- After a value the second call goes on from the state that the first one left. -/
theorem Runs.bind {call : Call α} {f : α → Call β} {value : α} {outcome : Outcome β}
    (h₁ : Runs executor call s sent₁ (.ok value) s₁)
    (h₂ : Runs executor (f value) s₁ sent₂ outcome s₂) :
    Runs executor (call >>= f) s (sent₁ ++ sent₂) outcome s₂ := by
  have hrun : Program.run executor (ExceptT.run call) s = (.ok value, s₁) := h₁.run_eq
  constructor
  · have htransitions : (call >>= f).transitions executor s
        = call.transitions executor s ++ (f value).transitions executor s₁ := by
      refine (Program.transitions_bind executor (ExceptT.run call) (ExceptT.bindCont f) s).trans ?_
      rw [hrun]
      rfl
    have hsent₁ : (call.transitions executor s).map Transition.exchange = sent₁ :=
      h₁.exchanges_eq
    have hsent₂ : ((f value).transitions executor s₁).map Transition.exchange = sent₂ :=
      h₂.exchanges_eq
    rw [exchanges, htransitions, List.map_append, hsent₁, hsent₂]
  · refine (Program.run_bind executor (ExceptT.run call) (ExceptT.bindCont f) s).trans ?_
    rw [hrun]
    exact h₂.run_eq

/-- After an error the second call sends nothing. -/
theorem Runs.bind_error {call : Call α} (f : α → Call β) {e : Error}
    (h : Runs executor call s sent (.error e) s₁) :
    Runs executor (call >>= f) s sent (.error e) s₁ := by
  have hrun : Program.run executor (ExceptT.run call) s = (.error e, s₁) := h.run_eq
  constructor
  · have htransitions : (call >>= f).transitions executor s = call.transitions executor s := by
      refine (Program.transitions_bind executor (ExceptT.run call) (ExceptT.bindCont f) s).trans ?_
      rw [hrun]
      exact List.append_nil _
    rw [exchanges, htransitions]
    exact h.exchanges_eq
  · refine (Program.run_bind executor (ExceptT.run call) (ExceptT.bindCont f) s).trans ?_
    rw [hrun]
    rfl

/-- A value that is there from the start sends nothing. -/
theorem Runs.pure_bind {f : α → Call β} {value : α} {outcome : Outcome β}
    (h : Runs executor (f value) s sent outcome s₁) :
    Runs executor (pure value >>= f) s sent outcome s₁ :=
  ⟨h.exchanges_eq, h.run_eq⟩

/-- What is made of a value without sending anything is only seen in the end. -/
theorem Runs.bind_ofOutcome {call : Call α} (f : α → Outcome β) {outcome : Outcome α}
    (h : Runs executor call s sent outcome s₁) :
    Runs executor (call >>= fun value => ofOutcome (f value)) s sent (outcome.bind f) s₁ := by
  cases outcome with
  | error e => exact h.bind_error _
  | ok value =>
    have hboth := h.bind (f := fun value => ofOutcome (f value)) (runs_ofOutcome (f value) s₁)
    rw [List.append_nil] at hboth
    exact hboth

/-- A call whose failure is kept for later ends with its outcome as a value. -/
theorem Runs.lift_run {call : Call α} {outcome : Outcome α}
    (h : Runs executor call s sent outcome s₁) :
    Runs executor (ExceptT.lift (ExceptT.run call)) s sent (.ok outcome) s₁ := by
  have hrun : Program.run executor (ExceptT.run call) s = (outcome, s₁) := h.run_eq
  constructor
  · have htransitions : Program.transitions executor
          (ExceptT.run (ExceptT.lift (ExceptT.run call) : Call (Outcome α))) s
        = Program.transitions executor (ExceptT.run call) s :=
      (Program.transitions_bind executor (ExceptT.run call) _ s).trans (List.append_nil _)
    rw [exchanges, transitions, htransitions]
    exact h.exchanges_eq
  · refine (Program.run_bind executor (ExceptT.run call) _ s).trans ?_
    rw [hrun]
    rfl

/-! ### Changes and look-ups -/

/-- A change whose effect on rows does not matter sends that one statement. -/
theorem runs_perform (sql : String) (params : List Cell) (s : σ) :
    Runs executor (perform sql params) s
      [.change ⟨sql, params⟩ (executor.change ⟨sql, params⟩ s).1]
      ((executor.change ⟨sql, params⟩ s).1.bind fun _ => .ok ())
      (executor.change ⟨sql, params⟩ s).2 :=
  (runs_change sql params s).bind_ofOutcome fun _ => .ok ()

/-- The text of the cell that a look-up asks for, if there is one. -/
def foundText : Option Cell → Outcome String
  | some cell => .ok cell.answerText
  | none => .error .noRows

/-- The text that the answer to a look-up has in its first cell. -/
def lookedUp (answer : Outcome ResultSet) : Outcome String :=
  answer.bind fun rs => foundText rs.first?

/-- The single value of a look-up is what its answer has in the first cell. -/
theorem runs_lookUpValue? (sql : String) (params : List Cell) (s : σ) :
    Runs executor (lookUpValue? sql params) s
      [.select ⟨sql, params⟩ (some readTimeout)
        (executor.select ⟨sql, params⟩ (some readTimeout) s).1]
      ((executor.select ⟨sql, params⟩ (some readTimeout) s).1.bind fun rs => .ok rs.first?)
      (executor.select ⟨sql, params⟩ (some readTimeout) s).2 :=
  (runs_select sql params (some readTimeout) s).bind_ofOutcome fun rs => .ok rs.first?

/-- A look-up of a text sends one select, within the time limit of look-ups. -/
theorem runs_lookUpText (sql : String) (params : List Cell) (s : σ) :
    Runs executor (lookUpText sql params) s
      [.select ⟨sql, params⟩ (some readTimeout)
        (executor.select ⟨sql, params⟩ (some readTimeout) s).1]
      (lookedUp (executor.select ⟨sql, params⟩ (some readTimeout) s).1)
      (executor.select ⟨sql, params⟩ (some readTimeout) s).2 := by
  have hcall : lookUpText sql params
      = lookUpValue? sql params >>= fun cell? => ofOutcome (foundText cell?) := by
    refine congrArg (fun f => lookUpValue? sql params >>= f) (funext fun cell? => ?_)
    cases cell? <;> rfl
  have houtcome (answer : Outcome ResultSet) : lookedUp answer
      = (answer.bind fun rs => .ok rs.first?).bind foundText := by
    cases answer <;> rfl
  rw [hcall, houtcome]
  exact (runs_lookUpValue? sql params s).bind_ofOutcome foundText

end Call

end

end MysqlDesk
