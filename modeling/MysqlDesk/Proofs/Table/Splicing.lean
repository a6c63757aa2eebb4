/-
Names and comments become part of a statement as they are.

The server takes no parameter in the place of a name, so schemas and tables are named within the text of
the statement. Whoever calls may give any text at all, also one with quotes or with the sign of a slot in
it. What has to be known is that no such text makes a template fail and that none is read as a part of the
template.

Both follow from the tokens of the templates, which do not depend on the values: the slots are closed, and
their keys are the keys that are supplied. So each of the calls here is one change from the start, and this
is an equation of programs (`create_eq`, `drop_eq`, `setComment_eq`). What a change does was said once for
all of them.
-/
import MysqlDesk.Proofs.Table.Comment

set_option autoImplicit false

namespace MysqlDesk.Table

open Call (Runs)
open Template (Token tokens opensAt? placeholderKeys suppliedValue? substitute substitute_of_tokens)

/-! ## The templates -/

theorem tokens_create :
    tokens "CREATE SCHEMA $(name)".toList
      = "CREATE SCHEMA ".toList.map .literal ++ [.placeholder "name".toList] := by
  cbv

theorem tokens_drop :
    tokens "DROP SCHEMA $(name)".toList
      = "DROP SCHEMA ".toList.map .literal ++ [.placeholder "name".toList] := by
  cbv

/-- A template that ends with the slot of the name puts the name behind the rest. -/
theorem substitute_name {template front : String}
    (h : tokens template.toList = front.toList.map .literal ++ [.placeholder "name".toList])
    (hclosed : opensAt? 0 (front.toList.map .literal ++ [.placeholder "name".toList]) = none)
    (name : String) : substitute template ["name", name] = .ok (front ++ name) := by
  refine substitute_of_tokens h hclosed (fun key => ?_) ?_
  · simp [suppliedValue?, placeholderKeys, List.filterMap_map]
  · simp [Token.filled, suppliedValue?, List.flatMap_map]

/-! ## The calls as programs -/

theorem create_eq (name : String) :
    Schema.create name = Call.perform ("CREATE SCHEMA " ++ name) [] :=
  Call.statement_bind (substitute_name tokens_create (by decide) name) _

theorem drop_eq (name : String) :
    Schema.drop name = Call.perform ("DROP SCHEMA " ++ name) [] :=
  Call.statement_bind (substitute_name tokens_drop (by decide) name) _

/-! ## What is sent -/

/-- Whoever answers, the call sends one change with this text and without parameters, and ends as it is
answered. It has an error of a template only if this is the answer. -/
structure Splices (call : Call Unit) (sql : String) : Prop where
  sends : ∀ {σ : Type} (executor : Executor σ) (s : σ),
    Runs executor call s [.change ⟨sql, []⟩ (executor.change ⟨sql, []⟩ s).1]
      ((executor.change ⟨sql, []⟩ s).1.bind fun _ => .ok ()) (executor.change ⟨sql, []⟩ s).2
  faultless : ∀ {σ : Type} (executor : Executor σ) (s : σ) (fault : Template.Fault),
    (call.run executor s).1 = .error (.template fault) →
      (executor.change ⟨sql, []⟩ s).1 = .error (.template fault)

theorem splices_perform (sql : String) : Splices (Call.perform sql []) sql where
  sends executor s := Call.runs_perform sql [] s
  faultless executor s fault h := by
    rw [(Call.runs_perform sql [] s).run_eq] at h
    cases hanswer : (executor.change ⟨sql, []⟩ s).1 with
    | error e =>
      rw [hanswer] at h
      exact congrArg Except.error (Except.error.inj h)
    | ok n =>
      rw [hanswer] at h
      cases h

/-- **Any text can be a name or a comment.** Creating and dropping a schema and setting the comment of a
table send exactly one statement each. It has the names as they are, and the comment as its literal. No
text makes one of the templates fail. -/
theorem names_are_spliced (name table comment : String) (schema : Option String) :
    Splices (Schema.create name) ("CREATE SCHEMA " ++ name)
      ∧ Splices (Schema.drop name) ("DROP SCHEMA " ++ name)
      ∧ Splices (setComment table comment schema)
          ("ALTER TABLE " ++ place table schema ++ " COMMENT = " ++ literal comment) := by
  refine ⟨?_, ?_, ?_⟩
  · rw [create_eq]
    exact splices_perform _
  · rw [drop_eq]
    exact splices_perform _
  · rw [setComment_eq]
    exact splices_perform _

/-- Names and a comment with signs of slots, a quote and a backslash in them. -/
example :
    ((setComment "$(comment)" "it's \\ $(table)" (some "$(")).exchanges Script.executor
        Script.fresh).map Exchange.statement
      = [⟨"ALTER TABLE $(.$(comment) COMMENT = 'it''s \\\\ $(table)'", []⟩] := by
  cbv

end MysqlDesk.Table
