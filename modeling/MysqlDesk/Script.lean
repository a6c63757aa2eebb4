/-
A scripted executor: prepared answers in the place of a server.

Every statement that arrives is recorded. If its text contains a fragment that was declared to fail,
the failure declared first is its answer, at once. A select takes the next of the prepared result
sets, after the delay that was set; when none is left its answer has no rows. A select whose limit is
reached before the delay is over is given up, and takes nothing.
-/
import MysqlDesk.Program
import MysqlDesk.Text.Cut

set_option autoImplicit false

namespace MysqlDesk

/-- Statements that are to fail, and how. -/
structure Failure where
  fragment : String
  number : UInt16
  note : String
  deriving Inhabited

/-- What a scripted executor was told, and what it was sent. -/
structure Script where
  /-- The result sets of the selects to come. -/
  queued : List ResultSet
  /-- The declared failures, first one first. -/
  failures : List Failure
  /-- How long a select takes. -/
  delay : Span
  /-- The statements that arrived, in order. -/
  statements : List Statement
  deriving Inhabited

namespace Script

/-- No answers prepared and nothing received. -/
def fresh : Script :=
  ⟨[], [], ⟨0⟩, []⟩

/-! ## Preparing answers -/

/-- Prepares the rows of a select. -/
def pushRows (s : Script) (columns : List String) (rows : List (List Cell)) : Script :=
  { s with queued := s.queued ++ [ResultSet.ofRows columns rows] }

/-- Prepares a single value. -/
def pushValue (s : Script) (column : String) (value : Cell) : Script :=
  s.pushRows [column] [[value]]

/-- Prepares an answer without columns and rows. -/
def pushEmpty (s : Script) : Script :=
  s.pushRows [] []

/-- Declares that statements with a fragment fail. -/
def failWhen (s : Script) (fragment : String) (number : UInt16) (note : String) : Script :=
  { s with failures := s.failures ++ [⟨fragment, number, note⟩] }

/-- Sets how long a select takes. -/
def delaySelects (s : Script) (delay : Span) : Script :=
  { s with delay }

/-! ## Answering -/

/-- The failure that was declared first for a statement. -/
def failureOf? (s : Script) (sql : String) : Option Failure :=
  s.failures.find? fun f => Text.occursIn f.fragment.toList sql.toList

/-- The error of a declared failure. -/
def Failure.error (f : Failure) : Error :=
  .database (DatabaseError.ofDriver (.server f.number (some "HY000") f.note))

/-- Records a statement. -/
def record (s : Script) (statement : Statement) : Script :=
  { s with statements := s.statements ++ [statement] }

/-- The outcome of a statement that gives nothing back but, perhaps, its failure. -/
def verdict (s : Script) (sql : String) : Outcome Unit :=
  match s.failureOf? sql with
  | some f => .error (Failure.error f)
  | none => .ok ()

/-- Takes the next prepared result set. -/
def take (s : Script) : ResultSet × Script :=
  match s.queued with
  | [] => (ResultSet.empty, s)
  | rs :: rest => (rs, { s with queued := rest })

/-- Answers a select that does not fail: after the delay, unless the limit is reached first. -/
def answer (s : Script) (limit : Option Span) : Outcome ResultSet × Script :=
  let (rs, after) := s.take
  match limit with
  | none => (.ok rs, after)
  | some limit =>
    match (Timed.mk s.delay (.ok rs) : Timed ResultSet).within limit with
    | .ok rs => (.ok rs, after)
    | .error e => (.error e, s)

/-- The executor that answers from a script. -/
def executor : Executor Script where
  batch sql s := (s.verdict sql, s.record ⟨sql, []⟩)
  select statement limit s :=
    match s.verdict statement.sql with
    | .error e => (.error e, s.record statement)
    | .ok () => (s.record statement).answer limit
  change statement s := ((s.verdict statement.sql).map fun _ => 0, s.record statement)

end Script

end MysqlDesk
