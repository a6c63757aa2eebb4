/-
What is set as the destinations of the logs is what is read.

The two sides have little in common. To set the destinations drops what was mentioned before and joins the
names; to read them cuts at the commas, drops what is blank, and disregards the case of letters. So both
are compared with a third thing. A list of destinations that is in force has each of those mentioned once,
in the order of their first mention (`InForce`), and the value of the variable is any text whose entries
spell their names (`Respells`): a server may give it back in other letters, with blanks and with blank
entries.

Reading has a law of its own, for every text: the entries that are not blank are read one by one, and the
first that spells no name is what the error quotes.
-/
import Mathlib.Data.List.Induction
import MysqlDesk.Log.Output
import MysqlDesk.Proofs.Program.Run
import MysqlDesk.Proofs.Text.Blank
import MysqlDesk.Proofs.Text.Cut
import MysqlDesk.Proofs.Traversal
import MysqlDesk.Script

set_option autoImplicit false

namespace MysqlDesk.LogOutput

open Call (Runs lookedUp)
open Text (Blank Solid)

/-! ## Entries -/

/-- The entry is the word, with letters of any case and with blanks around it. -/
inductive Spells (word : List Char) : List Char → Prop where
  | spelled (front core back : List Char) (hfront : Blank front)
      (hcore : core.map Char.toUpper = word.map Char.toUpper) (hback : Blank back) :
      Spells word (front ++ core ++ back)

/-- The entry spells the name of the destination. -/
def Names (entry : List Char) (output : LogOutput) : Prop :=
  Spells output.name.toList entry

theorem ofName?_eq_some_iff {s : List Char} {output : LogOutput} :
    ofName? s = some output ↔ s.map Char.toUpper = output.name.toList := by
  constructor
  · intro h
    have hname := List.find?_some h
    exact beq_iff_eq.1 hname
  · intro h
    rw [ofName?, h]
    cases output <;> rfl

theorem map_toUpper_name (output : LogOutput) :
    output.name.toList.map Char.toUpper = output.name.toList := by
  cases output <;> rfl

theorem solid_of_map_toUpper_eq_name {s : List Char} {output : LogOutput}
    (h : s.map Char.toUpper = output.name.toList) : Solid s := by
  refine Text.solid_of_map_toUpper_eq (h.trans (map_toUpper_name output).symm) ?_
  rw [map_toUpper_name]
  cases output <;> decide

/-- An entry spells a name exactly if the name is left when it is trimmed. -/
theorem names_iff {entry : List Char} {output : LogOutput} :
    Names entry output ↔ ofName? (Text.trim entry) = some output := by
  rw [ofName?_eq_some_iff]
  constructor
  · rintro ⟨front, core, back, hfront, hcore, hback⟩
    rw [map_toUpper_name] at hcore
    rw [Text.trim_append_solid hfront hback (solid_of_map_toUpper_eq_name hcore), hcore]
  · intro h
    obtain ⟨front, back, hfront, hback, hentry⟩ := Text.exists_eq_append_trim entry
    rw [hentry]
    exact .spelled front _ back hfront (h.trans (map_toUpper_name output).symm) hback

theorem ofEntry_eq_ok_iff {entry : List Char} {output : LogOutput} :
    ofEntry entry = .ok output ↔ Names entry output := by
  rw [names_iff, ofEntry]
  cases ofName? (Text.trim entry) <;> simp

/-- What is wrong with an entry that spells no name: it is quoted as it stands. -/
def fault (entry : List Char) : Error :=
  .answer (.unknownLogOutput (String.ofList entry))

theorem message_fault (entry : List Char) :
    (fault entry).message
      = "SQL execution error: " ++ ("unknown log output '" ++ String.ofList entry ++ "'") :=
  rfl

theorem ofEntry_eq_error_iff {entry : List Char} {e : Error} :
    ofEntry entry = .error e ↔ (∀ output, ¬ Names entry output) ∧ e = fault entry := by
  simp only [names_iff, ofEntry, fault]
  cases ofName? (Text.trim entry) <;> simp [eq_comm]

/-- A name is not blank, however it is spelled. -/
theorem Names.not_blank {entry : List Char} {output : LogOutput} (h : Names entry output) :
    ¬ Blank entry := by
  intro hblank
  obtain ⟨front, core, back, hfront, hcore, hback⟩ := h
  rw [map_toUpper_name] at hcore
  have hsolid : Solid core := solid_of_map_toUpper_eq_name hcore
  cases core with
  | nil => cases output <;> cases hcore
  | cons c core =>
    have hc : Text.isBlank c = true := hblank c (by simp)
    rw [hsolid c List.mem_cons_self] at hc
    cases hc

/-! ## Reading a value -/

/-- The entries of a value that are not blank. -/
def entries (value : String) : List (List Char) :=
  (value.toList.splitOn ',').filter fun entry => !decide (Blank entry)

theorem ofValue_eq (value : String) : ofValue value = (entries value).mapM ofEntry := by
  have hblank (entry : List Char) : Text.isBlankText entry = decide (Blank entry) := by
    rw [Bool.eq_iff_iff, Text.isBlankText_iff, decide_eq_true_eq]
  simp only [ofValue, entries, Text.pieces_eq_splitOn, hblank]

/-- How the text of a value is read. -/
structure Reading (value : String) (outcome : Outcome (List LogOutput)) : Prop where
  /-- It is read if every entry spells a name. -/
  readable : (∃ outputs, outcome = .ok outputs)
    ↔ ∀ entry ∈ entries value, ∃ output, Names entry output
  /-- There is one destination for each entry, in order. -/
  ok : ∀ outputs, outcome = .ok outputs
    ↔ List.Forall₂ Names (entries value) outputs
  /-- Otherwise the first entry that spells none is quoted. -/
  error : ∀ e, outcome = .error e ↔ ∃ before entry after,
    entries value = before ++ entry :: after
      ∧ (∀ other ∈ before, ∃ output, Names other output)
      ∧ (∀ output, ¬ Names entry output) ∧ e = fault entry

theorem reading_ofValue (value : String) : Reading value (ofValue value) where
  readable := by
    simp only [ofValue_eq, exists_mapM_eq_ok_iff, ofEntry_eq_ok_iff]
  ok outputs := by
    simp only [ofValue_eq, mapM_eq_ok_iff, ofEntry_eq_ok_iff]
  error e := by
    simp only [ofValue_eq, mapM_eq_error_iff, ofEntry_eq_ok_iff, ofEntry_eq_error_iff]

/-! ## Spelling a value in another way -/

/-- The entries spell the words, one after the other, and the others among them are blank. -/
inductive Spelled : List (List Char) → List (List Char) → Prop where
  | done : Spelled [] []
  | word {word entry : List Char} {words rest : List (List Char)} (hword : Spells word entry)
      (hrest : Spelled words rest) : Spelled (word :: words) (entry :: rest)
  | blank {entry : List Char} {words rest : List (List Char)} (hblank : Blank entry)
      (hrest : Spelled words rest) : Spelled words (entry :: rest)

/-- The value has the entries of the text, with letters of any case, with blanks around them and with
blank entries between them. -/
def Respells (text value : String) : Prop :=
  Spelled (text.toList.splitOn ',') (value.toList.splitOn ',')

/-- If the words are names, the entries that are not blank spell them. -/
theorem forall₂_of_spelled {outputs : List LogOutput} {all : List (List Char)}
    (h : Spelled (outputs.map fun output => output.name.toList) all) :
    List.Forall₂ Names
      (all.filter fun entry => !decide (Blank entry)) outputs := by
  generalize hwords : outputs.map (fun output => output.name.toList) = words at h
  induction h generalizing outputs with
  | done =>
    rw [List.map_eq_nil_iff.1 hwords]
    exact .nil
  | word hword hrest ih =>
    -- a name is not blank, so it is not filtered out
    obtain ⟨output, outputs, rfl, rfl, htail⟩ := List.map_eq_cons_iff.1 hwords
    have hname : Names _ output := hword
    rw [List.filter_cons_of_pos (by simpa using hname.not_blank)]
    exact .cons hname (ih htail)
  | blank hblank hrest ih =>
    rw [List.filter_cons_of_neg (by simpa using hblank)]
    exact ih hwords

/-! ## The destinations in force -/

/-- Each destination once, in the order of the first mentions. -/
structure FirstMentions (outputs kept : List LogOutput) : Prop where
  mem_iff : ∀ output, output ∈ kept ↔ output ∈ outputs
  ordered : kept.Pairwise fun a b => outputs.idxOf a < outputs.idxOf b

/-- What is in force when the destinations are set: no logs at all if this is mentioned. -/
def InForce (outputs kept : List LogOutput) : Prop :=
  if LogOutput.none ∈ outputs then kept = [.none] else FirstMentions outputs kept

theorem pairwise_eraseDups (outputs : List LogOutput) :
    outputs.eraseDups.Pairwise fun a b => outputs.idxOf a < outputs.idxOf b := by
  -- from the end, since a last mention changes no place of a first one
  induction outputs using List.reverseRecOn with
  | nil => exact .nil
  | append_singleton outputs last ih =>
    have hbefore {output : LogOutput} (h : output ∈ outputs) :
        (outputs ++ [last]).idxOf output = outputs.idxOf output := List.idxOf_append_of_mem h
    have hfront : outputs.eraseDups.Pairwise fun a b =>
        (outputs ++ [last]).idxOf a < (outputs ++ [last]).idxOf b := by
      refine ih.imp_of_mem fun ha hb hlt => ?_
      rwa [hbefore (List.mem_eraseDups.1 ha), hbefore (List.mem_eraseDups.1 hb)]
    rw [List.eraseDups_append]
    by_cases hlast : last ∈ outputs
    · have hnone : [last].removeAll outputs = [] := by simp [List.removeAll, hlast]
      rw [hnone]
      simpa using hfront
    · have hone : [last].removeAll outputs = [last] := by simp [List.removeAll, hlast]
      rw [hone, List.pairwise_append]
      refine ⟨hfront, List.pairwise_singleton _ _, fun a ha b hb => ?_⟩
      obtain rfl : b = last := by simpa using hb
      rw [hbefore (List.mem_eraseDups.1 ha), List.idxOf_append_of_notMem hlast]
      exact Nat.lt_add_right _ (List.idxOf_lt_length_of_mem (List.mem_eraseDups.1 ha))

theorem firstMentions_eraseDups (outputs : List LogOutput) :
    FirstMentions outputs outputs.eraseDups :=
  ⟨fun _ => List.mem_eraseDups, pairwise_eraseDups outputs⟩

theorem comma_not_mem_name (output : LogOutput) : ',' ∉ output.name.toList := by
  cases output <;> decide

/-- The names that a list of names with commas between them has as its entries. -/
theorem splitOn_names {kept : List LogOutput} (h : kept ≠ []) :
    (",".intercalate (kept.map name)).toList.splitOn ',' = kept.map fun output => output.name.toList := by
  have hcomma : ",".toList = [','] := rfl
  have hnames : (kept.map name).map String.toList = kept.map fun output => output.name.toList :=
    List.map_map
  rw [String.toList_intercalate, hcomma, hnames]
  refine List.splitOn_intercalate ',' (fun entry hentry => ?_) (by simpa using h)
  obtain ⟨output, -, rfl⟩ := List.mem_map.1 hentry
  exact comma_not_mem_name output

/-- The entries of what is set are the names of what is in force. -/
theorem exists_inForce {outputs : List LogOutput} (h : outputs ≠ []) :
    ∃ kept, InForce outputs kept
      ∧ (value outputs).toList.splitOn ',' = kept.map fun output => output.name.toList := by
  by_cases hnone : LogOutput.none ∈ outputs
  · refine ⟨[.none], ?_, ?_⟩
    · rw [InForce, if_pos hnone]
    · rw [value, if_pos hnone]
      rfl
  · refine ⟨outputs.eraseDups, ?_, ?_⟩
    · rw [InForce, if_neg hnone]
      exact firstMentions_eraseDups outputs
    · rw [value, if_neg hnone]
      refine splitOn_names fun hnil => h ?_
      exact List.eq_nil_iff_forall_not_mem.2 fun output houtput =>
        List.not_mem_nil (hnil ▸ List.mem_eraseDups.2 houtput)

/-! ## The calls -/

/-- The statement that sets the destinations. -/
def setting (text : String) : Statement :=
  ⟨"SET GLOBAL log_output = ?", [.text text]⟩

/-- The look-up of the destinations. -/
def inquiry : Statement :=
  ⟨Variable.query, [.text "log_output"]⟩

section

variable {σ : Type} (executor : Executor σ) (s : σ)

theorem runs_get :
    Runs executor get s
      [.select inquiry (some readTimeout) (executor.select inquiry (some readTimeout) s).1]
      ((lookedUp (executor.select inquiry (some readTimeout) s).1).bind ofValue)
      (executor.select inquiry (some readTimeout) s).2 :=
  (Call.runs_lookUpText Variable.query [.text "log_output"] s).bind_ofOutcome ofValue

theorem runs_set_nil : Runs executor (set []) s [] (.ok ()) s :=
  Call.runs_pure () s

theorem runs_set {outputs : List LogOutput} (h : outputs ≠ []) :
    Runs executor (set outputs) s
      [.change (setting (value outputs)) (executor.change (setting (value outputs)) s).1]
      ((executor.change (setting (value outputs)) s).1.bind fun _ => .ok ())
      (executor.change (setting (value outputs)) s).2 := by
  rw [set, if_neg h]
  exact Call.runs_perform _ _ s

end

/-- A server that has the value for the variable. -/
def Holds {σ : Type} (executor : Executor σ) (s : σ) (value : String) : Prop :=
  lookedUp (executor.select inquiry (some readTimeout) s).1 = .ok value

theorem run_get_of_holds {σ : Type} {executor : Executor σ} {s : σ} {value : String}
    (h : Holds executor s value) : (get.run executor s).1 = ofValue value := by
  rw [(runs_get executor s).run_eq, h]
  rfl

/-- What is set is read again, in whatever letters and with whatever blanks it comes back. -/
theorem ofValue_of_respells {text value : String} {kept : List LogOutput}
    (htext : text.toList.splitOn ',' = kept.map fun output => output.name.toList)
    (h : Respells text value) : ofValue value = .ok kept := by
  rw [Respells, htext] at h
  exact ((reading_ofValue value).ok kept).2 (forall₂_of_spelled h)

/-- **Destinations survive.** Nothing is sent for no destinations. For any others one text is sent, and
whenever the variable is this text, or another spelling of it, what is read are the destinations in force.
And whatever the text of the variable is, it is read as `Reading` says. -/
theorem set_then_get (outputs : List LogOutput) :
    (outputs = [] → ∀ {σ : Type} (executor : Executor σ) (s : σ),
        Runs executor (set outputs) s [] (.ok ()) s)
      ∧ (outputs ≠ [] → ∃ text kept, InForce outputs kept
          ∧ (∀ {σ : Type} (executor : Executor σ) (s : σ),
              Runs executor (set outputs) s
                [.change (setting text) (executor.change (setting text) s).1]
                ((executor.change (setting text) s).1.bind fun _ => .ok ())
                (executor.change (setting text) s).2)
          ∧ ∀ value, Respells text value → ∀ {σ : Type} (executor : Executor σ) (s : σ),
              Holds executor s value → (get.run executor s).1 = .ok kept)
      ∧ ∀ value {σ : Type} (executor : Executor σ) (s : σ), Holds executor s value →
          Reading value (get.run executor s).1 := by
  refine ⟨?_, fun h => ?_, fun value σ executor s hholds => ?_⟩
  · rintro rfl σ executor s
    exact runs_set_nil executor s
  · -- writer and reader meet in the names of what is in force
    obtain ⟨kept, hkept, htext⟩ := exists_inForce h
    refine ⟨value outputs, kept, hkept, fun executor s => runs_set executor s h,
      fun value hvalue σ executor s hholds => ?_⟩
    rw [run_get_of_holds hholds]
    exact ofValue_of_respells htext hvalue
  · rw [run_get_of_holds hholds]
    exact reading_ofValue value

/-- Two destinations, one of them mentioned twice, come back in other letters and with blanks. A text with
another name in it is refused. -/
theorem set_then_get_respelled :
    let outputs : List LogOutput := [.table, .file, .table]
    let server (value : String) : Script := Script.fresh.pushValue "VARIABLE_VALUE" (.text value)
    InForce outputs [.table, .file]
      ∧ (set outputs).exchanges Script.executor Script.fresh = [.change (setting "TABLE,FILE") (.ok 0)]
      ∧ (get.run Script.executor (server " Table,,\tfile ")).1 = .ok [.table, .file]
      ∧ (set []).exchanges Script.executor Script.fresh = []
      ∧ (get.run Script.executor (server "FILE, Syslog ,x")).1 = .error (fault " Syslog ".toList) := by
  intro outputs server
  obtain ⟨-, hset, hget⟩ := set_then_get outputs
  obtain ⟨text, kept, hkept, hruns, hread⟩ := hset (by decide)
  have hsent : (set outputs).exchanges Script.executor Script.fresh
      = [.change (setting "TABLE,FILE") (.ok 0)] := rfl
  have htext : text = "TABLE,FILE" := by
    have hsame := (hruns Script.executor Script.fresh).exchanges_eq.symm.trans hsent
    obtain ⟨hstatement, -⟩ := Exchange.change.inj (List.cons.inj hsame).1
    obtain ⟨-, hparams⟩ := Statement.mk.inj hstatement
    exact Cell.text.inj (List.cons.inj hparams).1
  have hrespells : Respells text " Table,,\tfile " := by
    rw [htext]
    have hentries : " Table,,\tfile ".toList.splitOn ',' = [[' '] ++ "Table".toList ++ [], [],
        ['\t'] ++ "file".toList ++ [' ']] := by decide
    have hwords : "TABLE,FILE".toList.splitOn ',' = ["TABLE".toList, "FILE".toList] := by decide
    rw [Respells, hentries, hwords]
    exact .word (.spelled _ _ _ (by decide) (by decide) (by decide))
      (.blank (by decide) (.word (.spelled _ _ _ (by decide) (by decide) (by decide)) .done))
  have hback := hread _ hrespells Script.executor (server " Table,,\tfile ") rfl
  have hboth : (get.run Script.executor (server " Table,,\tfile ")).1 = .ok [.table, .file] := rfl
  obtain rfl : kept = [.table, .file] := Except.ok.inj (hback.symm.trans hboth)
  have hnothing := (set_then_get []).1 rfl Script.executor Script.fresh
  have hbad := hget "FILE, Syslog ,x" Script.executor (server "FILE, Syslog ,x") rfl
  refine ⟨hkept, hsent, hboth, hnothing.exchanges_eq, (hbad.error _).2 ⟨["FILE".toList],
    " Syslog ".toList, ["x".toList], by decide, ?_, fun output => ?_, rfl⟩⟩
  · exact List.forall_mem_singleton.2 ⟨.file, names_iff.2 (by decide)⟩
  · rw [names_iff]
    cases output <;> decide

end MysqlDesk.LogOutput
