/-
Which object a reworded error names.

Three server errors name an object between single quotes, and their message for a reader names it again.
The name is found in the server's own words: the apostrophes of `can't` and `doesn't` are taken out, and
then the first quotation is sought. Nothing is known of the name but that it has no single quote, so two
things might go wrong. The contractions might be found inside of it, or across its quotes; and the search
might pass it over.

The first never happens. A contraction needs an apostrophe, so it could only stand around one of the two
quotes, and what the server writes before the one and behind the other is no part of a contraction
(`spellOut_said`). The second happens exactly if the name has a line end, because a quotation is sought on
one line only (`untilQuote?_append`). Then the two quotes around the name count as an opening one each: a
schema is not found at all, and for a duplicate entry the words between the value and the key are taken for
its name.
-/
import MysqlDesk.Error.Database
import MysqlDesk.Proofs.Text.Exchange

set_option autoImplicit false

namespace MysqlDesk.DatabaseError

open MysqlDesk.Text

/-! ## The first quotation -/

theorem untilQuote?_of_not_mem {s : List Char} (h : '\'' ∉ s) : untilQuote? s = none := by
  induction s with
  | nil => rfl
  | cons c s ih =>
    have hc : c ≠ '\'' := fun hc => h (hc ▸ List.mem_cons_self)
    rw [untilQuote?, if_neg hc, ih fun hmem => h (List.mem_cons_of_mem _ hmem)]
    split <;> rfl

/-- The text up to the next quote counts if it is on one line. -/
theorem untilQuote?_append {name : List Char} (hname : '\'' ∉ name) (rest : List Char) :
    untilQuote? (name ++ '\'' :: rest) = if '\n' ∈ name then none else some name := by
  induction name with
  | nil => simp [untilQuote?]
  | cons c name ih =>
    -- a line end here or later spoils the quotation
    have hc : c ≠ '\'' := fun hc => hname (hc ▸ List.mem_cons_self)
    rw [List.cons_append, untilQuote?, if_neg hc, ih fun hmem => hname (List.mem_cons_of_mem _ hmem)]
    by_cases hline : c = '\n'
    · simp [hline]
    · rw [if_neg hline]
      by_cases hmem : '\n' ∈ name
      · simp [hmem]
      · simp [hmem, Ne.symm hline]

theorem firstQuoted?_of_not_mem {s : List Char} (h : '\'' ∉ s) : firstQuoted? s = none := by
  induction s with
  | nil => rfl
  | cons c s ih =>
    have hc : c ≠ '\'' := fun hc => h (hc ▸ List.mem_cons_self)
    rw [firstQuoted?, if_neg hc, ih fun hmem => h (List.mem_cons_of_mem _ hmem)]

/-- The first quotation begins at the first quote, or is the first one of what follows it. -/
theorem firstQuoted?_append {before : List Char} (h : '\'' ∉ before) (rest : List Char) :
    firstQuoted? (before ++ '\'' :: rest) = (untilQuote? rest).or (firstQuoted? rest) := by
  induction before with
  | nil =>
    rw [List.nil_append, firstQuoted?, if_pos rfl]
    cases untilQuote? rest <;> rfl
  | cons c before ih =>
    have hc : c ≠ '\'' := fun hc => h (hc ▸ List.mem_cons_self)
    rw [List.cons_append, firstQuoted?, if_neg hc, ih fun hmem => h (List.mem_cons_of_mem _ hmem)]

/-- Of a quotation and what follows it, the name on one line counts; a name with a line end is passed over,
and its second quote opens the next one. -/
theorem firstQuoted?_quotation {before name : List Char} (hbefore : '\'' ∉ before)
    (hname : '\'' ∉ name) (after : List Char) :
    firstQuoted? (before ++ '\'' :: (name ++ '\'' :: after))
      = if '\n' ∈ name then (untilQuote? after).or (firstQuoted? after) else some name := by
  rw [firstQuoted?_append hbefore, untilQuote?_append hname]
  by_cases hline : '\n' ∈ name
  · rw [if_pos hline, if_pos hline, Option.none_or, firstQuoted?_append hname]
  · rw [if_neg hline, if_neg hline, Option.some_or]

/-! ## Errors that name an object -/

/-- An error of the server about an object that it names. -/
inductive Naming where
  /-- The schema to be created is there. -/
  | schemaExists (schema : String)
  /-- The schema to be dropped is not there. -/
  | schemaMissing (schema : String)
  /-- A unique key has the value. -/
  | duplicateEntry (value key : String)

namespace Naming

/-- The number of the error. -/
def number : Naming → UInt16
  | .schemaExists _ => MysqlDesk.schemaExists
  | .schemaMissing _ => MysqlDesk.schemaMissing
  | .duplicateEntry _ _ => MysqlDesk.duplicateEntry

/-- The object that is named. -/
def object : Naming → String
  | .schemaExists schema => schema
  | .schemaMissing schema => schema
  | .duplicateEntry value _ => value

/-- What the server says. -/
def said : Naming → String
  | .schemaExists schema => s!"Can't create database '{schema}'; database exists"
  | .schemaMissing schema => s!"Can't drop database '{schema}'; database doesn't exist"
  | .duplicateEntry value key => s!"Duplicate entry '{value}' for key '{key}'"

/-- What a reader should be told. -/
def reworded : Naming → String
  | .schemaExists schema => s!"schema '{schema}' not available"
  | .schemaMissing schema => s!"schema '{schema}' does not exist"
  | .duplicateEntry value _ => s!"'{value}' not available"

/-- What a reader is told of a name that is passed over. -/
def misworded : Naming → String
  | .schemaExists schema => s!"Cannot create database '{schema}'; database exists"
  | .schemaMissing schema => s!"Cannot drop database '{schema}'; database does not exist"
  | .duplicateEntry _ _ => "' for key ' not available"

end Naming

/-! ## The words of the server, spelled out -/

theorem toList_sentence (lead name tail : String) :
    (lead ++ name ++ tail).toList = lead.toList ++ (name.toList ++ tail.toList) := by
  rw [String.toList_append, String.toList_append, List.append_assoc]

theorem cannot_eq : "an't".toList = "an".toList ++ '\'' :: "t".toList := rfl

theorem doesNot_eq : "oesn't".toList = "oesn".toList ++ '\'' :: "t".toList := rfl

/-- The contraction at the beginning is written out, and the name behind it stays as it is. -/
theorem exchange_cannot {verb name after : List Char} (hverb : '\'' ∉ verb)
    (hname : '\'' ∉ name) (hends : ¬ "an".toList <:+ verb) (hbegins : ¬ "t".toList <+: after) :
    exchange "an't".toList "annot".toList
        ("C".toList ++ "an't".toList ++ (verb ++ '\'' :: (name ++ '\'' :: after)))
      = "C".toList ++ "annot".toList
        ++ (verb ++ '\'' :: (name ++ '\'' :: exchange "an't".toList "annot".toList after)) := by
  have hbefore : '\'' ∉ "C".toList := by decide
  rw [exchange_append_word cannot_eq (by decide) _ hbefore,
    exchange_append_marked_stretch cannot_eq (by decide) _ hverb hname hends hbegins]

/-- What the server says about an object, with the contractions written out: the words before and behind
its quotation. -/
def Naming.around : Naming → List Char × List Char
  | .schemaExists _ => ("Cannot create database ".toList, "; database exists".toList)
  | .schemaMissing _ => ("Cannot drop database ".toList, "; database does not exist".toList)
  | .duplicateEntry _ key =>
    ("Duplicate entry ".toList, " for key ".toList ++ '\'' :: spellOut (key ++ "'").toList)

/-- **Writing the contractions out** leaves the name as it is. -/
theorem spellOut_said (n : Naming) (hname : '\'' ∉ n.object.toList) :
    spellOut n.said.toList
      = n.around.1 ++ '\'' :: (n.object.toList ++ '\'' :: n.around.2) := by
  have hcannot : '\'' ∈ "an't".toList := by decide
  have hdoesNot : '\'' ∈ "oesn't".toList := by decide
  cases n with
  | schemaExists schema =>
    have hschema : '\'' ∉ schema.toList := hname
    have hsaid : (Naming.schemaExists schema).said.toList
        = "C".toList ++ "an't".toList ++ (" create database ".toList
          ++ '\'' :: (schema.toList ++ '\'' :: "; database exists".toList)) :=
      toList_sentence "Can't create database '" schema "'; database exists"
    -- after the first contraction there is none, so the second exchange changes nothing
    rw [spellOut, hsaid, exchange_cannot (by decide) hschema (by decide) (by decide),
      exchange_of_not_mem hcannot _ (by decide), ← List.append_assoc,
      exchange_append_marked_stretch doesNot_eq (by decide) _ (by decide) hschema (by decide)
        (by decide),
      exchange_of_not_mem hdoesNot _ (by decide)]
    rfl
  | schemaMissing schema =>
    have hschema : '\'' ∉ schema.toList := hname
    have hsaid : (Naming.schemaMissing schema).said.toList
        = "C".toList ++ "an't".toList ++ (" drop database ".toList
          ++ '\'' :: (schema.toList ++ '\'' :: "; database doesn't exist".toList)) :=
      toList_sentence "Can't drop database '" schema "'; database doesn't exist"
    -- the second contraction stands behind the name
    have htail : exchange "an't".toList "annot".toList "; database doesn't exist".toList
        = "; database d".toList ++ "oesn't".toList ++ " exist".toList := by decide
    rw [spellOut, hsaid, exchange_cannot (by decide) hschema (by decide) (by decide),
      htail, ← List.append_assoc,
      exchange_append_marked_stretch doesNot_eq (by decide) _ (by decide) hschema (by decide)
        (by decide),
      exchange_append_word doesNot_eq (by decide) _ (by decide),
      exchange_of_not_mem hdoesNot _ (by decide)]
    rfl
  | duplicateEntry value key =>
    have hvalue : '\'' ∉ value.toList := hname
    have hsaid : (Naming.duplicateEntry value key).said.toList
        = "Duplicate entry ".toList ++ '\'' :: (value.toList
          ++ '\'' :: (" for key ".toList ++ '\'' :: (key ++ "'").toList)) := by
      show ("Duplicate entry '" ++ value ++ "' for key '" ++ key ++ "'").toList = _
      rw [toList_sentence, toList_sentence, List.append_assoc, List.append_assoc,
        String.toList_append]
      rfl
    -- of the key nothing is known, so what becomes of it is left as it is written
    have hbegins (rest : List Char) : ¬ "t".toList <+: " for key ".toList ++ '\'' :: rest := by
      intro hstart
      exact absurd (List.cons_prefix_cons.1 hstart).1 (by decide)
    rw [spellOut, hsaid,
      exchange_append_marked_stretch cannot_eq (by decide) _ (by decide) hvalue (by decide)
        (hbegins _),
      exchange_append_mark cannot_eq (by decide) _ (by decide) fun hword =>
        absurd hword.1 (by decide),
      exchange_append_marked_stretch doesNot_eq (by decide) _ (by decide) hvalue (by decide)
        (hbegins _),
      exchange_append_mark doesNot_eq (by decide) _ (by decide) fun hword =>
        absurd hword.1 (by decide)]
    rfl

/-! ## Errors without a message of the caller -/

/-- The errors that are made of an error of the driver, with or without the statement that failed, and then
told any servers. -/
inductive Reports (driver : DriverError) : DatabaseError → Prop where
  | alone : Reports driver (ofDriver driver)
  | query (query : String) (values : List Cell) : Reports driver (withQuery driver query values)
  | host {e : DatabaseError} (host : String) (h : Reports driver e) : Reports driver (e.withHost host)

/-- Such an error speaks for the driver alone. -/
theorem Reports.driver_and_note {driver : DriverError} {e : DatabaseError} (h : Reports driver e) :
    e.driver = driver ∧ e.note = none := by
  induction h with
  | alone => exact ⟨rfl, rfl⟩
  | query query values => exact ⟨rfl, rfl⟩
  | host host h ih => exact ih

/-- The message of a well-known error is worded for the first quotation in the words of the server, spelled
out, or is these words. -/
theorem message_of_reports {number : UInt16} {state : Option String} {note : String}
    {e : DatabaseError} (h : Reports (.server number state note) e)
    (hknown : isWellKnown number = true) :
    e.message = ((firstQuoted? (spellOut note.toList)).bind fun name =>
        namedWording number (String.ofList name)).getD (String.ofList (spellOut note.toList)) := by
  obtain ⟨hdriver, hnote⟩ := h.driver_and_note
  unfold message
  simp only [hdriver, hnote, DriverError.number?, DriverError.note, Option.getD_none, hknown, if_true]
  cases firstQuoted? (spellOut note.toList) <;> rfl

/-! ## What a reader is told -/

theorem Naming.isWellKnown_number (n : Naming) : isWellKnown n.number = true := by
  cases n <;> rfl

theorem Naming.namedWording_object (n : Naming) :
    namedWording n.number n.object = some n.reworded := by
  cases n <;> rfl

theorem Naming.not_mem_before (n : Naming) : '\'' ∉ n.around.1 := by
  cases n with
  | schemaExists schema => exact (by decide : '\'' ∉ "Cannot create database ".toList)
  | schemaMissing schema => exact (by decide : '\'' ∉ "Cannot drop database ".toList)
  | duplicateEntry value key => exact (by decide : '\'' ∉ "Duplicate entry ".toList)

/-- What a name is taken for that is passed over: for nothing, or for what stands between the value and
the key. -/
theorem Naming.passed_over (n : Naming) :
    (((untilQuote? n.around.2).or (firstQuoted? n.around.2)).bind fun name =>
        namedWording n.number (String.ofList name)).getD
          (String.ofList (n.around.1 ++ '\'' :: (n.object.toList ++ '\'' :: n.around.2)))
      = n.misworded := by
  cases n with
  | schemaExists schema =>
    have hnone : '\'' ∉ (Naming.schemaExists schema).around.2 :=
      (by decide : '\'' ∉ "; database exists".toList)
    rw [untilQuote?_of_not_mem hnone, firstQuoted?_of_not_mem hnone, ← String.toList_inj]
    exact String.toList_ofList.trans
      (toList_sentence "Cannot create database '" schema "'; database exists").symm
  | schemaMissing schema =>
    have hnone : '\'' ∉ (Naming.schemaMissing schema).around.2 :=
      (by decide : '\'' ∉ "; database does not exist".toList)
    rw [untilQuote?_of_not_mem hnone, firstQuoted?_of_not_mem hnone, ← String.toList_inj]
    exact String.toList_ofList.trans
      (toList_sentence "Cannot drop database '" schema "'; database does not exist").symm
  | duplicateEntry value key =>
    have hbetween : '\'' ∉ " for key ".toList := by decide
    have hfound : untilQuote? (Naming.duplicateEntry value key).around.2
        = some " for key ".toList :=
      (untilQuote?_append hbetween _).trans (if_neg (by decide))
    rw [hfound]
    rfl

/-- An error that names an object on one line is told as it should be; and a name with a line end is passed
over. -/
theorem message_of_naming (n : Naming) (hname : '\'' ∉ n.object.toList) {state : Option String}
    {e : DatabaseError} (h : Reports (.server n.number state n.said) e) :
    e.message = if '\n' ∈ n.object.toList then n.misworded else n.reworded := by
  rw [message_of_reports h n.isWellKnown_number, spellOut_said n hname,
    firstQuoted?_quotation n.not_mem_before hname]
  by_cases hline : '\n' ∈ n.object.toList
  · rw [if_pos hline, if_pos hline, n.passed_over]
  · rw [if_neg hline, if_neg hline, Option.bind_some, String.ofList_toList, n.namedWording_object]
    rfl

theorem Naming.misworded_ne_reworded (n : Naming) (hline : '\n' ∈ n.object.toList) :
    n.misworded ≠ n.reworded := by
  intro h
  have hlist : n.misworded.toList = n.reworded.toList := congrArg String.toList h
  cases n with
  | schemaExists schema =>
    have hchars := (toList_sentence "Cannot create database '" schema "'; database exists").symm.trans
      (hlist.trans (toList_sentence "schema '" schema "' not available"))
    exact absurd (List.cons.inj hchars).1 (by decide)
  | schemaMissing schema =>
    have hchars := (toList_sentence "Cannot drop database '" schema
      "'; database does not exist").symm.trans
      (hlist.trans (toList_sentence "schema '" schema "' does not exist"))
    exact absurd (List.cons.inj hchars).1 (by decide)
  | duplicateEntry value key =>
    -- the value would have to be what stands between it and its key, which is on one line
    have hbetween : "' for key ' not available".toList
        = '\'' :: (" for key ".toList ++ "' not available".toList) := rfl
    have hchars := hbetween.symm.trans (hlist.trans (toList_sentence "'" value "' not available"))
    have hvalue : " for key ".toList = value.toList :=
      List.append_cancel_right (List.cons.inj hchars).2
    have hmem : '\n' ∈ value.toList := hline
    rw [← hvalue] at hmem
    exact absurd hmem (by decide)

/-- **Which object is named.** Let the server report one of the three well-known errors about an object
without a single quote in its name, and let the error be made of that report, with or without the statement
that failed, and told any server. Then its message names the object exactly if the name is on one line. Of a
name with a line end a reader is told the words of the server about a schema, and of a duplicate entry what
stands between the value and the key. -/
theorem message_names_object (n : Naming) (hname : '\'' ∉ n.object.toList)
    {state : Option String} {e : DatabaseError}
    (h : Reports (.server n.number state n.said) e) :
    (e.message = n.reworded ↔ '\n' ∉ n.object.toList)
      ∧ ('\n' ∈ n.object.toList → e.message = n.misworded) := by
  have hmessage := message_of_naming n hname h
  by_cases hline : '\n' ∈ n.object.toList
  · rw [if_pos hline] at hmessage
    refine ⟨iff_of_false ?_ fun hnone => hnone hline, fun _ => hmessage⟩
    rw [hmessage]
    exact n.misworded_ne_reworded hline
  · rw [if_neg hline] at hmessage
    exact ⟨iff_of_true hmessage hline, fun hmem => absurd hmem hline⟩

/-- A value that ends as the one contraction begins, with a key that has the other one. -/
theorem message_names_object_between :
    (withHost (withQuery (.server 1062 none "Duplicate entry 't can' for key 'doesn't'") "INSERT" [])
      "db:3306").message = "'t can' not available" := by
  have hquote : '\'' ∉ (Naming.duplicateEntry "t can" "doesn't").object.toList :=
    (by decide : '\'' ∉ "t can".toList)
  have hreports : Reports (.server 1062 none "Duplicate entry 't can' for key 'doesn't'")
      (withHost (withQuery (.server 1062 none "Duplicate entry 't can' for key 'doesn't'")
        "INSERT" []) "db:3306") := Reports.host _ (Reports.query _ _)
  exact (message_names_object (.duplicateEntry "t can" "doesn't") hquote hreports).1.2
    (by decide : '\n' ∉ "t can".toList)

/-- A value of two lines is not named. -/
theorem message_of_two_lines :
    '\'' ∉ "a\nb".toList
      ∧ (ofDriver (.server 1062 none "Duplicate entry 'a\nb' for key 'k'")).message
        = "' for key ' not available"
      ∧ "' for key ' not available" ≠ "'a\nb' not available" :=
  ⟨by decide, rfl, by decide⟩

end MysqlDesk.DatabaseError
