/-
A comment comes back as it was set.

Between setting a comment and looking it up stands a server. What it does with the statement is in
`Table.Literal`: the last part of the statement is a literal, and it reads the literal to its end. What it
sends back is the text of the literal, as a text or as bytes (`Carries`). Nothing else is known of it, so
the two calls are taken one by one, each with any executor: the first sends the literal, whatever it is
answered, and the second gives the text, if this is what it is answered.

Comments that hold JSON are comments with the JSON text, and come back if this text is read back.
-/
import MysqlDesk.Proofs.Program.Run
import MysqlDesk.Proofs.Table.Literal
import MysqlDesk.Proofs.Template.Filling
import MysqlDesk.Proofs.Text.Utf8
import MysqlDesk.Script

set_option autoImplicit false

namespace MysqlDesk.Table

open Call (Runs lookedUp)
open Template (Token tokens placeholderKeys suppliedValue? substitute substitute_of_tokens)

/-! ## The statements -/

/-- The name of a table in a statement: before it goes the name of its schema, if one is given that is
not empty. -/
def place (table : String) : Option String → String
  | none => table
  | some schema => if schema = "" then table else schema ++ "." ++ table

/-- The statement that sets a comment, which ends with a literal. -/
def alterSql (table : String) (schema : Option String) (written : String) : String :=
  "ALTER TABLE " ++ place table schema ++ " COMMENT = " ++ written

/-- The look-up of a comment. -/
def commentLookUp (table : String) (schema : Option String) : Statement :=
  match named schema with
  | some name => ⟨commentQuery, [.text table, .text name]⟩
  | none => ⟨currentCommentQuery, [.text table]⟩

theorem tokens_qualified :
    tokens "$(schema).$(table)".toList
      = [.placeholder "schema".toList, .literal '.', .placeholder "table".toList] := by
  cbv

theorem substitute_qualified (schema table : String) :
    substitute "$(schema).$(table)" ["schema", schema, "table", table]
      = .ok (schema ++ "." ++ table) := by
  refine substitute_of_tokens tokens_qualified (by decide) (fun key => ?_) ?_
  · simp [suppliedValue?, placeholderKeys, or_comm]
  · simp [Token.filled, suppliedValue?]

theorem tokens_alter :
    tokens "ALTER TABLE $(table) COMMENT = $(comment)".toList
      = "ALTER TABLE ".toList.map .literal ++ .placeholder "table".toList
        :: (" COMMENT = ".toList.map .literal ++ [.placeholder "comment".toList]) := by
  cbv

/-- The literal is put in last, and nothing in it is taken for a slot or for a quotation of the
template. -/
theorem substitute_alter (place written : String) :
    substitute "ALTER TABLE $(table) COMMENT = $(comment)" ["table", place, "comment", written]
      = .ok ("ALTER TABLE " ++ place ++ " COMMENT = " ++ written) := by
  refine substitute_of_tokens tokens_alter (by decide) (fun key => ?_) ?_
  · simp [suppliedValue?, placeholderKeys, or_comm]
  · simp [Token.filled, suppliedValue?]

/-! ## The calls -/

/-- The answer has a text in its first cell, as a text or as bytes. -/
def Carries (answer : Outcome ResultSet) (text : List Char) : Prop :=
  ∃ rs, answer = .ok rs
    ∧ (rs.first? = some (.text (String.ofList text))
      ∨ rs.first? = some (.blob (Text.Utf8.encode text)))

theorem lookedUp_of_carries {answer : Outcome ResultSet} {text : List Char}
    (h : Carries answer text) : lookedUp answer = .ok (String.ofList text) := by
  obtain ⟨rs, rfl, hfirst⟩ := h
  have hlooked : lookedUp (.ok rs) = Call.foundText rs.first? := rfl
  rw [hlooked]
  rcases hfirst with hfirst | hfirst
  · rw [hfirst]
    rfl
  · have htext : (Cell.blob (Text.Utf8.encode text)).answerText
        = String.ofList (Text.Utf8.decodeLossy (Text.Utf8.encode text)) := rfl
    rw [hfirst, Call.foundText, htext, Text.Utf8.decodeLossy_encode]

/-- The call sends one change, which has no parameters, and ends as it does. -/
def SendsOnly (call : Call Unit) (sql : String) : Prop :=
  ∀ (σ : Type) (executor : Executor σ) (s : σ), ∃ answer s',
    Runs executor call s [.change ⟨sql, []⟩ answer] (answer.bind fun _ => .ok ()) s'

/-- The call sends one look-up, and if the text is in the answer it ends with the value. -/
def ReadsBack {α : Type} (call : Call α) (lookUp : Statement) (text : List Char) (value : α) :
    Prop :=
  ∀ (σ : Type) (executor : Executor σ) (s : σ),
    let answer := (executor.select lookUp (some readTimeout) s).1
    Carries answer text →
      ∃ s', Runs executor call s [.select lookUp (some readTimeout) answer] (.ok value) s'

section

variable {σ : Type} (executor : Executor σ) (s : σ) (table : String) (schema : Option String)

/-- The name of the table is there before anything is sent. -/
theorem target_eq : target table schema = pure (place table schema) := by
  cases schema with
  | none => rfl
  | some name =>
    by_cases hname : name = ""
    · -- an empty name counts as none
      subst hname
      rfl
    · have hnamed : named (some name) = some name := by
        simp [named, hname]
      rw [target, hnamed, place, if_neg hname]
      simp only [Call.statement, substitute_qualified]
      rfl

/-- Setting a comment is one change from the start: both templates are filled, whatever is put in. -/
theorem setComment_eq (comment : String) :
    setComment table comment schema = Call.perform (alterSql table schema (literal comment)) [] := by
  rw [setComment, target_eq]
  exact Call.statement_bind (substitute_alter (place table schema) (literal comment)) _

theorem setComment_sendsOnly (comment : String) :
    SendsOnly (setComment table comment schema) (alterSql table schema (literal comment)) := by
  intro σ executor s
  rw [setComment_eq]
  exact ⟨_, _, Call.runs_perform _ [] s⟩

theorem runs_comment :
    Runs executor (comment table schema) s
      [.select (commentLookUp table schema) (some readTimeout)
        (executor.select (commentLookUp table schema) (some readTimeout) s).1]
      (lookedUp (executor.select (commentLookUp table schema) (some readTimeout) s).1)
      (executor.select (commentLookUp table schema) (some readTimeout) s).2 := by
  rw [comment, commentLookUp]
  cases named schema with
  | none => exact Call.runs_lookUpText _ _ s
  | some name => exact Call.runs_lookUpText _ _ s

theorem comment_readsBack (text : String) :
    ReadsBack (comment table schema) (commentLookUp table schema) text.toList text := by
  intro σ executor s answer hcarries
  have hcomment := runs_comment executor s table schema
  rw [lookedUp_of_carries hcarries, String.ofList_toList] at hcomment
  exact ⟨_, hcomment⟩

/-! ### JSON -/

theorem setCommentJson_sendsOnly (v : Json.Value) :
    SendsOnly (setCommentJson table v schema) (alterSql table schema (literal v.toText)) := by
  intro σ executor s
  obtain ⟨answer, s', hset⟩ := setComment_sendsOnly table schema v.toText σ executor s
  have hvalue : Runs executor
      (Call.ofOutcome ((Json.ToValue.toValue v).mapError fun cause => .json (.unwritable cause)))
      s [] (.ok v) s := Call.runs_ofOutcome _ s
  exact ⟨answer, s', hvalue.bind hset⟩

theorem commentJson_readsBack {v : Json.Value} (hv : Json.Value.ofText? v.toText = .ok v) :
    ReadsBack (commentJson table schema) (commentLookUp table schema) v.toText.toList v := by
  intro σ executor s answer hcarries
  obtain ⟨s', hcomment⟩ := comment_readsBack table schema v.toText σ executor s hcarries
  have hread : Runs executor
      (Call.ofOutcome
        ((Json.Value.ofText? v.toText).mapError fun cause => .json (.unreadable cause)))
      s' [] (.ok v) s' := by
    rw [hv]
    exact Call.runs_ofOutcome _ s'
  exact ⟨s', hcomment.bind hread⟩

end

/-! ## The round trip -/

/-- A literal that stands for the comment where backslashes escape, and for the comment with its
backslashes doubled where they do not. In both modes it ends with its last character. -/
structure StandsFor (escapes : Escapes) (written comment : String) : Prop where
  escaping : readLiteral (.escaping escapes) written.toList = some (comment.toList, [])
  ordinary : readLiteral .ordinary written.toList = some (doubled '\\' comment.toList, [])

theorem literal_standsFor (escapes : Escapes) (comment : String) :
    StandsFor escapes (literal comment) comment := by
  have hread (mode : Backslashes) :
      readLiteral mode (literal comment).toList = some (mode.meant comment.toList, []) := by
    have hend : ([] : List Char).head? ≠ some '\'' := by decide
    have hwhole := readLiteral_literal mode comment hend
    rwa [List.append_nil] at hwhole
  exact ⟨hread (.escaping escapes), hread .ordinary⟩

theorem StandsFor.eq_of_read {escapes : Escapes} {written comment : String} {text : List Char}
    (h : StandsFor escapes written comment)
    (hread : readLiteral (.escaping escapes) written.toList = some (text, [])) :
    text = comment.toList :=
  congrArg Prod.fst (Option.some.inj (hread.symm.trans h.escaping))

/-- **Comments survive, and stay within their literal.** Setting a comment sends one statement, and this
ends with one complete literal that stands for the comment. Whatever text the literal is read as where
backslashes escape, a look-up that has this text in its answer gives the comment back. The same holds of
a JSON value, if the value is read back from its own text. -/
theorem comment_round_trip (escapes : Escapes) (table : String) (schema : Option String) :
    (∀ text : String, ∃ written,
      StandsFor escapes written text
        ∧ SendsOnly (setComment table text schema) (alterSql table schema written)
        ∧ ∀ read, readLiteral (.escaping escapes) written.toList = some (read, []) →
          ReadsBack (comment table schema) (commentLookUp table schema) read text) ∧
    ∀ v : Json.Value, Json.Value.ofText? v.toText = .ok v → ∃ written,
      StandsFor escapes written v.toText
        ∧ SendsOnly (setCommentJson table v schema) (alterSql table schema written)
        ∧ ∀ read, readLiteral (.escaping escapes) written.toList = some (read, []) →
          ReadsBack (commentJson table schema) (commentLookUp table schema) read v := by
  constructor
  · intro text
    have hstands := literal_standsFor escapes text
    refine ⟨literal text, hstands, setComment_sendsOnly table schema text, fun read hread => ?_⟩
    rw [hstands.eq_of_read hread]
    exact comment_readsBack table schema text
  · intro v hv
    have hstands := literal_standsFor escapes v.toText
    refine ⟨literal v.toText, hstands, setCommentJson_sendsOnly table schema v,
      fun read hread => ?_⟩
    rw [hstands.eq_of_read hread]
    exact commentJson_readsBack table schema hv

/-- An object whose text has a quote and backslashes in it, where an escaped character stands for
itself, and a scripted answer that has the bytes of the comment. -/
theorem comment_round_trip_object :
    let escapes : Escapes := ⟨fun c => [c], rfl, rfl⟩
    let v : Json.Value := .object [("it's", .text "\\\"")]
    Json.Value.ofText? v.toText = .ok v ∧
    (∃ written, StandsFor escapes written v.toText) ∧
    ((commentJson "t" (some "s")).run Script.executor
      (Script.fresh.pushValue "c" (.blob (Text.Utf8.encode v.toText.toList)))).1 = .ok v := by
  intro escapes v
  have hv : Json.Value.ofText? (Json.Value.object [("it's", .text "\\\"")]).toText
      = .ok (.object [("it's", .text "\\\"")]) := by
    cbv
  obtain ⟨written, hstands, -, hread⟩ := (comment_round_trip escapes "t" (some "s")).2 v hv
  obtain ⟨s', hruns⟩ := hread _ hstands.escaping Script Script.executor
    (Script.fresh.pushValue "c" (.blob (Text.Utf8.encode v.toText.toList)))
    ⟨_, rfl, Or.inr rfl⟩
  exact ⟨hv, ⟨written, hstands⟩, congrArg Prod.fst hruns.run_eq⟩

end MysqlDesk.Table
