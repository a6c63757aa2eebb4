/-
Two runs of one program, with answers that differ in how their texts are delivered.

A program sees of an answer what its continuation makes of it. So two programs are compared as trees: at
each statement they send the same, and for every two answers that are alike they go on to programs that are
compared again (`Program.Alike`). No executor occurs in this. Executors come in once, in `Program.Alike.run`:
two executors that give alike answers, whatever their states are, bring alike programs to the same end, and
receive the same statements on the way.

A helper of this library is put together from few parts, and there is a rule here for each part and for each
way in which one part follows another. A program that only looks at the views that agree is then alike to
itself, and this is all that is shown of it.
-/
import MysqlDesk.Proofs.Delivery.Answer
import MysqlDesk.Proofs.Program.Run

set_option autoImplicit false

namespace MysqlDesk

/-! ## Executors -/

/-- The executors answer alike in states that are related, and come to states that are related. -/
structure Executor.Alike {σ τ : Type} (exact : String → Prop) (A : Executor σ) (B : Executor τ)
    (R : σ → τ → Prop) : Prop where
  batch : ∀ sql s t, R s t → (B.batch sql t).1 = (A.batch sql s).1
    ∧ R (A.batch sql s).2 (B.batch sql t).2
  select : ∀ statement limit s t, R s t →
    Outcome.Alike (ResultSet.Alike exact) (A.select statement limit s).1
        (B.select statement limit t).1
      ∧ R (A.select statement limit s).2 (B.select statement limit t).2
  change : ∀ statement s t, R s t → (B.change statement t).1 = (A.change statement s).1
    ∧ R (A.change statement s).2 (B.change statement t).2

/-- The same was sent, and the answers are alike. -/
inductive Exchange.Alike (exact : String → Prop) : Exchange → Exchange → Prop where
  | batch (sql : String) (answer : Outcome Unit) :
      Alike exact (.batch sql answer) (.batch sql answer)
  | select (statement : Statement) (limit : Option Span) {answer answer' : Outcome ResultSet}
      (h : Outcome.Alike (ResultSet.Alike exact) answer answer') :
      Alike exact (.select statement limit answer) (.select statement limit answer')
  | change (statement : Statement) (answer : Outcome Nat) :
      Alike exact (.change statement answer) (.change statement answer)

theorem Exchange.Alike.statement {exact : String → Prop} {x x' : Exchange}
    (h : Exchange.Alike exact x x') : x.statement = x'.statement := by
  cases h <;> rfl

/-- What was sent is the same, one by one. -/
theorem map_statement_of_alike {exact : String → Prop} {sent sent' : List Exchange}
    (h : List.Forall₂ (Exchange.Alike exact) sent sent') :
    sent.map Exchange.statement = sent'.map Exchange.statement := by
  induction h with
  | nil => rfl
  | cons hx _ ih => rw [List.map_cons, List.map_cons, hx.statement, ih]

/-! ## Programs -/

/-- The programs send the same and, if their answers are alike, go on alike, to values that are related. -/
inductive Program.Alike (exact : String → Prop) {α β : Type} (rel : α → β → Prop) :
    Program α → Program β → Prop where
  | done {a : α} {b : β} (h : rel a b) : Alike exact rel (.done a) (.done b)
  | batch (sql : String) {next : Outcome Unit → Program α} {next' : Outcome Unit → Program β}
      (h : ∀ answer, Alike exact rel (next answer) (next' answer)) :
      Alike exact rel (.batch sql next) (.batch sql next')
  | select (statement : Statement) (limit : Option Span)
      {next : Outcome ResultSet → Program α} {next' : Outcome ResultSet → Program β}
      (h : ∀ answer answer', Outcome.Alike (ResultSet.Alike exact) answer answer' →
        Alike exact rel (next answer) (next' answer')) :
      Alike exact rel (.select statement limit next) (.select statement limit next')
  | change (statement : Statement) {next : Outcome Nat → Program α}
      {next' : Outcome Nat → Program β}
      (h : ∀ answer, Alike exact rel (next answer) (next' answer)) :
      Alike exact rel (.change statement next) (.change statement next')

section

variable {exact : String → Prop} {α β γ δ σ τ : Type}

/-- **Alike programs with alike executors.** The runs end with values that are related, in states that are
related, and all that was sent on the way is the same. The induction is along the two programs at once. -/
theorem Program.Alike.run {A : Executor σ} {B : Executor τ} {R : σ → τ → Prop}
    (hexecutors : Executor.Alike exact A B R) {rel : α → β → Prop} {p : Program α}
    {q : Program β} (h : Program.Alike exact rel p q) {s : σ} {t : τ} (hstates : R s t) :
    rel (p.run A s).1 (q.run B t).1 ∧ R (p.run A s).2 (q.run B t).2
      ∧ List.Forall₂ (Exchange.Alike exact)
          ((p.transitions A s).map Transition.exchange)
          ((q.transitions B t).map Transition.exchange) := by
  induction h generalizing s t with
  | done h => exact ⟨h, hstates, .nil⟩
  | batch sql _ ih =>
    obtain ⟨hanswer, hafter⟩ := hexecutors.batch sql s t hstates
    obtain ⟨hvalue, hend, hsent⟩ := ih (A.batch sql s).1 hafter
    -- the second program goes on from an answer that is the same
    unfold Program.run Program.transitions
    simp only [List.map_cons]
    rw [hanswer]
    exact ⟨hvalue, hend, .cons (.batch sql _) hsent⟩
  | select statement limit _ ih =>
    obtain ⟨hanswer, hafter⟩ := hexecutors.select statement limit s t hstates
    obtain ⟨hvalue, hend, hsent⟩ := ih _ _ hanswer hafter
    exact ⟨hvalue, hend, .cons (.select statement limit hanswer) hsent⟩
  | change statement _ ih =>
    obtain ⟨hanswer, hafter⟩ := hexecutors.change statement s t hstates
    obtain ⟨hvalue, hend, hsent⟩ := ih (A.change statement s).1 hafter
    unfold Program.run Program.transitions
    simp only [List.map_cons]
    rw [hanswer]
    exact ⟨hvalue, hend, .cons (.change statement _) hsent⟩

/-- What follows alike programs may depend on their values, if it is alike for values that are related. -/
theorem Program.Alike.bind {rel : α → β → Prop} {rel' : γ → δ → Prop} {p : Program α}
    {q : Program β} {f : α → Program γ} {g : β → Program δ} (h : Program.Alike exact rel p q)
    (hnext : ∀ a b, rel a b → Program.Alike exact rel' (f a) (g b)) :
    Program.Alike exact rel' (p.bind f) (q.bind g) := by
  induction h with
  | done h => exact hnext _ _ h
  | batch sql _ ih => exact .batch sql ih
  | select statement limit _ ih => exact .select statement limit ih
  | change statement _ ih => exact .change statement ih

/-! ## Calls -/

/-- The calls send the same and, if their answers are alike, end with the same error or with values that
are related. -/
def Call.Alike (exact : String → Prop) (rel : α → β → Prop) (c : Call α) (d : Call β) : Prop :=
  Program.Alike exact (Outcome.Alike rel) (ExceptT.run c) (ExceptT.run d)

namespace Call

variable {rel : α → β → Prop} {rel' : γ → δ → Prop}

theorem alike_ofOutcome {o : Outcome α} {o' : Outcome β} (h : Outcome.Alike rel o o') :
    Alike exact rel (ofOutcome o) (ofOutcome o') :=
  .done h

theorem alike_pure {a : α} {b : β} (h : rel a b) :
    Alike exact rel (pure a : Call α) (pure b : Call β) :=
  .done (.ok h)

/-- The one place where alike answers come in. -/
theorem alike_select (sql : String) (params : List Cell) (limit : Option Span) :
    Alike exact (ResultSet.Alike exact) (select sql params limit) (select sql params limit) :=
  .select ⟨sql, params⟩ limit fun _ _ h => .done h

theorem alike_change (sql : String) (params : List Cell) :
    Alike exact Eq (change sql params) (change sql params) :=
  .change ⟨sql, params⟩ fun answer => .done (.refl answer)

/-- One call after the other. An error ends both sides before the second call. -/
theorem Alike.bind {c : Call α} {d : Call β} {f : α → Call γ} {g : β → Call δ}
    (h : Alike exact rel c d) (hnext : ∀ a b, rel a b → Alike exact rel' (f a) (g b)) :
    Alike exact rel' (c >>= f) (d >>= g) := by
  refine Program.Alike.bind h ?_
  intro o o' houtcome
  cases houtcome with
  | ok hvalue => exact hnext _ _ hvalue
  | error e => exact .done (.error e)

/-- The same value goes on in the same way. -/
theorem Alike.bind_eq {c : Call α} {f : α → Call γ} {g : α → Call δ} (h : Alike exact Eq c c)
    (hnext : ∀ a, Alike exact rel' (f a) (g a)) : Alike exact rel' (c >>= f) (c >>= g) := by
  refine h.bind ?_
  intro a b hab
  rw [hab]
  exact hnext b

/-- A call whose failure is kept for later. -/
theorem Alike.lift_run {c : Call α} {d : Call β} (h : Alike exact rel c d) :
    Alike exact (Outcome.Alike rel) (ExceptT.lift (ExceptT.run c) : Call (Outcome α))
      (ExceptT.lift (ExceptT.run d) : Call (Outcome β)) := by
  refine Program.Alike.bind h ?_
  intro o o' houtcome
  exact .done (.ok houtcome)

/-! ### Changes and look-ups -/

theorem alike_perform (sql : String) (params : List Cell) :
    Alike exact Eq (perform sql params) (perform sql params) :=
  (alike_change sql params).bind_eq fun _ => alike_pure rfl

/-- The cells that a look-up finds have the same text. -/
theorem alike_lookUpValue? (sql : String) (params : List Cell) :
    Alike exact (Option.Rel Cell.SameText) (lookUpValue? sql params) (lookUpValue? sql params) :=
  (alike_select sql params (some readTimeout)).bind fun _ _ h => alike_pure h.first?

/-- A look-up of a text gives the same text. -/
theorem alike_lookUpText (sql : String) (params : List Cell) :
    Alike exact Eq (lookUpText sql params) (lookUpText sql params) := by
  refine (alike_lookUpValue? sql params).bind ?_
  intro found found' h
  cases h with
  | none => exact .done (.error .noRows)
  | some hsame => exact alike_pure hsame.answerText

end Call

end

end MysqlDesk
