/-
The general log of the server, which records every statement that arrives.

While the log is flushed and its table emptied it is switched off, and afterwards it is switched on
again if it was on before, also when something failed in between. Only a failure of switching it off
ends the call at once, for then nothing was changed yet.
-/
import MysqlDesk.Log.Output

set_option autoImplicit false

namespace MysqlDesk.GeneralLog

/-! ## The switch -/

/-- Switches the log on. -/
def enable : Call Unit :=
  Call.perform "SET GLOBAL general_log = 'ON'" []

/-- Switches the log off. -/
def disable : Call Unit :=
  Call.perform "SET GLOBAL general_log = 'OFF'" []

/-- Whether the log is on. -/
def isEnabled : Call Bool := do
  let value ← Variable.get "general_log"
  return value == "ON"

/-! ## Flushing -/

/-- Flushes the file of the log and then empties its table. -/
def flushAndEmpty : Call Unit := do
  Call.perform "FLUSH GENERAL LOGS" []
  Call.perform "TRUNCATE TABLE mysql.general_log" []

/-- Flushes the log and leaves it switched as it was. The first failure is reported. -/
def flush : Call Unit := do
  let enabled ← isEnabled
  if enabled then disable
  let flushed ← ExceptT.lift (ExceptT.run flushAndEmpty)
  let restored ← ExceptT.lift (ExceptT.run (if enabled then enable else pure ()))
  Call.ofOutcome do
    flushed
    restored

/-! ## Events -/

/-- An event of the log: a statement, when it came and from whom. -/
structure Event where
  time : Moment
  userHost : String
  threadId : Int64
  serverId : Int64
  commandType : String
  argument : String

/-- What the view `view` gives for the column `column` of a row. -/
def field {α : Type} (row : Row) (column : String) (view : Cell → Option α) : Outcome α :=
  match (row.get? column).bind view with
  | some value => .ok value
  | none => .error (.answer (.logRowWithout column))

/-- A column is read through what the view gives for its cell, and nothing else of the row counts. -/
theorem field_of_get? {α : Type} {row row' : Row} {column : String} {view : Cell → Option α}
    (h : (row.get? column).bind view = (row'.get? column).bind view) :
    field row column view = field row' column view := by
  unfold field
  rw [h]

/-- Reads a row. The first column that is missing or of the wrong kind is reported. -/
def Event.ofRow (row : Row) : Outcome Event := do
  let time ← field row "event_time" Cell.moment?
  let userHost ← field row "user_host" Cell.lossyText?
  let threadId ← field row "thread_id" Cell.int?
  let serverId ← field row "server_id" Cell.int?
  let commandType ← field row "command_type" Cell.lossyText?
  let argument ← field row "argument" Cell.lossyText?
  return { time, userHost, threadId, serverId, commandType, argument }

/-- The event as a JSON text whose members are in the order of the columns. -/
def Event.toText (e : Event) : String :=
  let member (name : String) (value : List Char) : String :=
    String.ofList (Json.quote name ++ ':' :: value)
  let number (n : Int64) : List Char := Json.writeNumber (.integer n.toInt)
  let members :=
    [ member "time" (Json.quote e.time.text),
      member "user_host" (Json.quote e.userHost),
      member "thread_id" (number e.threadId),
      member "server_id" (number e.serverId),
      member "command_type" (Json.quote e.commandType),
      member "argument" (Json.quote e.argument) ]
  "\x7b" ++ ",".intercalate members ++ "\x7d"

/-- The largest number of events that one call reads. -/
def hardLimit : Nat := 1000

/-- The number of events to be read: zero and everything beyond the largest number mean that one. -/
def effectiveLimit (limit : Nat) : Nat :=
  if limit = 0 ∨ hardLimit < limit then hardLimit else limit

/-- The pattern to be matched, if any. -/
def pattern? (like : Option String) : Option String :=
  like.filter fun pattern => pattern != ""

/-- The look-up of events. -/
def eventsQuery (like : Option String) (limit : Nat) : String :=
  "SELECT event_time, user_host, thread_id, server_id, command_type, argument "
    ++ "FROM mysql.general_log"
    ++ (if (pattern? like).isSome then " WHERE argument LIKE ?" else "")
    ++ s!" ORDER BY event_time ASC LIMIT {effectiveLimit limit}"

/-- The events whose statement matches the pattern, oldest first. One row that cannot be read makes
the whole call fail. -/
def events (like : Option String) (limit : Nat) : Call (List Event) := do
  let rs ← Call.lookUp (eventsQuery like limit) ((pattern? like).toList.map Cell.text)
  Call.ofOutcome (rs.rows.mapM Event.ofRow)

end MysqlDesk.GeneralLog
