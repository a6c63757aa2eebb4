/-
Programs: what is asked of a server, one statement after the other.

The helpers of this library do not know what answers them. Each of them is a program: a statement to
be sent, and for every answer the program that goes on from there. An executor gives the answers. It
may be a real server or a prepared list of answers, it may depend on all that was sent before, and a
law about a program that is proved for every executor holds for all of them.

There are three kinds of statements: a batch, which has no parameters and gives nothing back; a
select, which gives rows; and a change, which gives the number of rows it affected. A select may have
a time limit. Who answers it decides whether the limit was kept.
-/
import MysqlDesk.Error.Basic
import MysqlDesk.ResultSet

set_option autoImplicit false

namespace MysqlDesk

/-- A statement as it is sent. -/
structure Statement where
  sql : String
  params : List Cell
  deriving Inhabited

/-- What comes back for a statement: a value or an error. -/
abbrev Outcome (α : Type) := Except Error α

/-- A program that ends with a value of type `α`. -/
inductive Program (α : Type) where
  | done (value : α)
  | batch (sql : String) (next : Outcome Unit → Program α)
  | select (statement : Statement) (limit : Option Span) (next : Outcome ResultSet → Program α)
  | change (statement : Statement) (next : Outcome Nat → Program α)

namespace Program

/-- The first program, and then the one its value gives. -/
def bind {α β : Type} (p : Program α) (f : α → Program β) : Program β :=
  match p with
  | .done value => f value
  | .batch sql next => .batch sql fun answer => (next answer).bind f
  | .select statement limit next => .select statement limit fun answer => (next answer).bind f
  | .change statement next => .change statement fun answer => (next answer).bind f

instance : Monad Program where
  pure := .done
  bind := bind

instance {α : Type} [Inhabited α] : Inhabited (Program α) := ⟨.done default⟩

end Program

/-- A program that may end with an error. -/
abbrev Call (α : Type) := ExceptT Error Program α

namespace Call

/-- Ends with the given outcome. -/
def ofOutcome {α : Type} (outcome : Outcome α) : Call α :=
  ExceptT.mk (.done outcome)

/-- Sends a batch. -/
def batch (sql : String) : Call Unit :=
  ExceptT.mk (.batch sql .done)

/-- Sends a select. -/
def select (sql : String) (params : List Cell) (limit : Option Span) : Call ResultSet :=
  ExceptT.mk (.select ⟨sql, params⟩ limit .done)

/-- Sends a change. -/
def change (sql : String) (params : List Cell) : Call Nat :=
  ExceptT.mk (.change ⟨sql, params⟩ .done)

end Call

/-! ## Executors -/

/-- Something that answers statements and passes from state to state as it does. -/
structure Executor (σ : Type) where
  batch : String → σ → Outcome Unit × σ
  select : Statement → Option Span → σ → Outcome ResultSet × σ
  change : Statement → σ → Outcome Nat × σ

/-- What a program ends with, and the state of its executor then. -/
def Program.run {α σ : Type} (executor : Executor σ) (p : Program α) (state : σ) : α × σ :=
  match p with
  | .done value => (value, state)
  | .batch sql next =>
    let (answer, state) := executor.batch sql state
    (next answer).run executor state
  | .select statement limit next =>
    let (answer, state) := executor.select statement limit state
    (next answer).run executor state
  | .change statement next =>
    let (answer, state) := executor.change statement state
    (next answer).run executor state

/-- What a call ends with, and the state of its executor then. -/
def Call.run {α σ : Type} (executor : Executor σ) (call : Call α) (state : σ) : Outcome α × σ :=
  Program.run executor (ExceptT.run call) state

/-! ## Time limits -/

/-- An outcome that is there after some time. -/
structure Timed (α : Type) where
  after : Span
  outcome : Outcome α

/-- The outcome, if it is there when the limit is reached. -/
def Timed.within {α : Type} (t : Timed α) (limit : Span) : Outcome α :=
  if t.after ≤ limit then t.outcome else .error (.timeout limit)

/-- The time limit of the look-ups of this library. -/
def readTimeout : Span := Span.seconds 3

namespace Call

/-- A select within the time limit of look-ups. -/
def lookUp (sql : String) (params : List Cell) : Call ResultSet :=
  select sql params (some readTimeout)

/-- The single value that a look-up asks for, if there is one. -/
def lookUpValue? (sql : String) (params : List Cell) : Call (Option Cell) := do
  let rs ← lookUp sql params
  return rs.first?

/-- The text of the single value that a look-up asks for. An answer without rows is an error. -/
def lookUpText (sql : String) (params : List Cell) : Call String := do
  match ← lookUpValue? sql params with
  | some cell => return cell.answerText
  | none => throw .noRows

/-- The statement that a template gives for the values. -/
def statement (template : String) (arguments : List String) : Call String :=
  ofOutcome ((Template.substitute template arguments).mapError .template)

/-- Sends a change whose effect on rows does not matter. -/
def perform (sql : String) (params : List Cell) : Call Unit := do
  let _ ← change sql params
  return ()

end Call

end MysqlDesk
