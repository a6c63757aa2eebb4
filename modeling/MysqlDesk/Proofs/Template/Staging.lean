/-
Filling a template in two stages.

Some values of a template may be known before others. In the first stage each key of the second stage is
given its own slot as value, so that the slot is there again afterwards. Two things could go wrong when
the text between the stages is read: a value of the first stage could open a quotation or bring in a slot,
and its characters could be taken together with those around it. `Inert` rules out both by what a value
consists of.

The text between the stages is known by its tokens (`Token.staged`): a slot of the second stage is still
there, and a value of the first stage stands character by character for itself. These tokens are readable
because those of the statement are, so the second stage sees just them. What it makes of them is what both
stages make of the statement at once.
-/
import MysqlDesk.Proofs.Template.Filling
import MysqlDesk.Proofs.Template.Readable

set_option autoImplicit false

namespace MysqlDesk.Template

/-! ## The arguments of two stages -/

/-- The slot of a key, as it is written in a template. -/
def slotText (key : String) : String :=
  "$(" ++ key ++ ")"

theorem toList_slotText (key : List Char) :
    (slotText (String.ofList key)).toList = (Token.placeholder key).source := by
  simp [slotText, Token.source]

/-- The keys of `standIns` are those of `arguments`, and the value of each is its own slot. -/
def StandIns (standIns arguments : List String) : Prop :=
  ∀ key, suppliedValue? standIns key = (suppliedValue? arguments key).map fun _ => slotText key

/-- The arguments with every value exchanged for the slot of its key. -/
def ownSlots : List String → List String
  | key :: _ :: rest => key :: slotText key :: ownSlots rest
  | _ => []

theorem standIns_ownSlots (arguments : List String) : StandIns (ownSlots arguments) arguments := by
  intro k
  fun_induction ownSlots arguments with
  | case1 key value rest ih =>
    rw [suppliedValue?, suppliedValue?, ih, Option.map_or]
    congr 1
    split
    · rename_i hk
      rw [hk, Option.map_some]
    · rfl
  | case2 arguments hshort =>
    rw [suppliedValue?.eq_def arguments]
    split
    · exact (hshort _ _ _ rfl).elim
    · rfl

/-- A value that a second reading takes as it is: it is not empty, no character of it opens a quotation or
begins a slot, and it does not complete the sign of a slot either. -/
structure Inert (value : String) : Prop where
  ne_empty : value ≠ ""
  plain : ∀ c ∈ value.toList, isQuote c = false ∧ c ≠ '$'
  head : value.toList.head? ≠ some '('

instance (value : String) : Decidable (Inert value) :=
  -- the characters of the value are looked through, and not all characters that there are
  haveI : Decidable (∀ c ∈ value.toList, isQuote c = false ∧ c ≠ '$') :=
    List.decidableBAll _ _
  decidable_of_iff
    (value ≠ "" ∧ (∀ c ∈ value.toList, isQuote c = false ∧ c ≠ '$') ∧ value.toList.head? ≠ some '(')
    ⟨fun h => ⟨h.1, h.2.1, h.2.2⟩, fun h => ⟨h.ne_empty, h.plain, h.head⟩⟩

/-- Behind whole pairs, the later arguments count first. -/
theorem suppliedValue?_append {first : List String} (heven : first.length % 2 = 0)
    (second : List String) (k : String) :
    suppliedValue? (first ++ second) k = (suppliedValue? second k).or (suppliedValue? first k) := by
  fun_induction suppliedValue? first k with
  | case1 key value rest k ih =>
    have hrest : rest.length % 2 = 0 := by
      rw [List.length_cons, List.length_cons] at heven
      omega
    rw [List.cons_append, List.cons_append, suppliedValue?, ih hrest, Option.or_assoc]
  | case2 arguments k hshort =>
    -- too short for a pair, and of even length, is empty
    have hnil : arguments = [] := by
      cases arguments with
      | nil => rfl
      | cons key rest =>
        cases rest with
        | nil => cases heven
        | cons value rest => exact (hshort key value rest rfl).elim
    rw [hnil, List.nil_append, Option.or_none]

/-! ## The tokens between the stages -/

/-- What stands for a token between the stages, with the values of either. -/
def Token.staged (now later : String → Option String) : Token → List Token
  | .placeholder key =>
    if (later (String.ofList key)).isSome then [.placeholder key]
    else ((now (String.ofList key)).getD "").toList.map .literal
  | .literal c => [.literal c]
  | .quotation text => [.quotation text]

section Staged

variable (now later : String → Option String)

theorem flatMap_filled_literals (value? : String → Option String) (text : List Char) :
    (text.map Token.literal).flatMap (Token.filled value?) = text := by
  rw [List.flatMap_map]
  exact List.flatMap_singleton' text

/-- Filling what stands between the stages fills the slots of the second stage only. -/
theorem flatMap_filled_staged (value? : String → Option String) (ts : List Token) :
    (ts.flatMap (Token.staged now later)).flatMap (Token.filled value?)
      = ts.flatMap (Token.filled fun k => if (later k).isSome then value? k else now k) := by
  rw [List.flatMap_assoc]
  apply congrArg (List.flatMap · ts)
  funext t
  cases t with
  | literal c => rfl
  | quotation text => exact List.append_nil text
  | placeholder key =>
    rw [Token.staged, Token.filled]
    by_cases hlater : (later (String.ofList key)).isSome = true
    · rw [if_pos hlater, if_pos hlater, List.flatMap_singleton, Token.filled]
    · rw [if_neg hlater, if_neg hlater, flatMap_filled_literals]

/-- A statement is its own filling, with the slot of each key as value. -/
theorem source_eq_filled : Token.source = Token.filled fun k => some (slotText k) := by
  funext t
  cases t with
  | literal c => rfl
  | quotation text => rfl
  | placeholder key => exact (toList_slotText key).symm

/-- The text between the stages is the statement with the values of the first stage, and with their own
slots for the keys of the second one. -/
theorem flatMap_source_staged (ts : List Token) :
    (ts.flatMap (Token.staged now later)).flatMap Token.source
      = ts.flatMap (Token.filled fun k => ((later k).map fun _ => slotText k).or (now k)) := by
  have hvalues : (fun k => if (later k).isSome then some (slotText k) else now k)
      = fun k => ((later k).map fun _ => slotText k).or (now k) := by
    funext k
    cases later k <;> rfl
  rw [source_eq_filled, flatMap_filled_staged, hvalues]

/-- The second stage makes of it what the values of both stages make of the statement. -/
theorem flatMap_filled_later (ts : List Token) :
    (ts.flatMap (Token.staged now later)).flatMap (Token.filled later)
      = ts.flatMap (Token.filled fun k => (later k).or (now k)) := by
  have hvalues : (fun k => if (later k).isSome then later k else now k)
      = fun k => (later k).or (now k) := by
    funext k
    cases later k <;> rfl
  rw [flatMap_filled_staged, hvalues]

theorem placeholderKeys_literals (text : List Char) : placeholderKeys (text.map .literal) = [] := by
  induction text with
  | nil => rfl
  | cons c text ih => exact ih

/-- The slots between the stages are those of the second stage. -/
theorem placeholderKeys_staged (ts : List Token) :
    placeholderKeys (ts.flatMap (Token.staged now later))
      = (placeholderKeys ts).filter fun k => (later k).isSome := by
  induction ts with
  | nil => rfl
  | cons t ts ih =>
    cases t with
    | literal c => exact ih
    | quotation text => exact ih
    | placeholder key =>
      have hkeys : placeholderKeys (.placeholder key :: ts)
          = String.ofList key :: placeholderKeys ts := rfl
      rw [hkeys, List.flatMap_cons, Token.staged, List.filter_cons]
      by_cases hlater : (later (String.ofList key)).isSome = true
      · rw [if_pos hlater, if_pos hlater, ← ih]
        rfl
      · rw [if_neg hlater, if_neg hlater, ← ih]
        unfold placeholderKeys
        rw [List.filterMap_append, ← placeholderKeys, placeholderKeys_literals, List.nil_append]

variable {now later}

/-- Where all slots are those of the second stage, the first one changes nothing. -/
theorem flatMap_staged_eq_self {ts : List Token}
    (hlater : ∀ key ∈ placeholderKeys ts, (later key).isSome = true) :
    ts.flatMap (Token.staged now later) = ts := by
  induction ts with
  | nil => rfl
  | cons t ts ih =>
    rw [List.flatMap_cons]
    cases t with
    | literal c => rw [ih hlater, Token.staged, List.singleton_append]
    | quotation text => rw [ih hlater, Token.staged, List.singleton_append]
    | placeholder key =>
      obtain ⟨hfirst, hrest⟩ := List.forall_mem_cons.1 hlater
      rw [ih hrest, Token.staged, if_pos hfirst, List.singleton_append]

/-- A slot with a value is still there after the first stage, or its value is. -/
theorem staged_placeholder {key : List Char}
    (hkey : ((later (String.ofList key)).or (now (String.ofList key))).isSome = true) :
    Token.staged now later (.placeholder key) = [.placeholder key]
      ∨ ∃ value, now (String.ofList key) = some value
        ∧ Token.staged now later (.placeholder key) = value.toList.map .literal := by
  rw [Token.staged]
  cases hlater : later (String.ofList key) with
  | some value => exact .inl rfl
  | none =>
    rw [hlater, Option.none_or] at hkey
    obtain ⟨value, hvalue⟩ := Option.isSome_iff_exists.1 hkey
    exact .inr ⟨value, hvalue, by rw [hvalue]; rfl⟩

variable (hinert : ∀ key value, now key = some value → Inert value)

include hinert

/-- No value completes the sign of a slot: where a parenthesis stands first, it did so before. -/
theorem head?_staged {ts : List Token}
    (hkeys : ∀ key ∈ placeholderKeys ts, ((later key).or (now key)).isSome = true)
    (h : (ts.flatMap (Token.staged now later)).head? = some (.literal '(')) :
    ts.head? = some (.literal '(') := by
  cases ts with
  | nil => exact h
  | cons t ts =>
    cases t with
    | literal c => exact h
    | quotation text => cases h
    | placeholder key =>
      rw [List.flatMap_cons] at h
      rcases staged_placeholder (hkeys _ List.mem_cons_self) with hstaged | ⟨value, hvalue, hstaged⟩
      · rw [hstaged] at h
        cases h
      · -- the first character is that of the value
        have hvalue := hinert _ value hvalue
        obtain ⟨c, text, htext⟩ : ∃ c text, value.toList = c :: text := by
          apply List.exists_cons_of_ne_nil
          intro hnil
          exact hvalue.ne_empty (String.toList_eq_nil_iff.1 hnil)
        rw [hstaged, htext] at h
        have hc : c = '(' := Token.literal.inj (Option.some.inj h)
        exact absurd (by rw [htext, hc]; rfl) hvalue.head

omit hinert in
theorem readable_literals_append {text : List Char}
    (hplain : ∀ c ∈ text, isQuote c = false ∧ c ≠ '$') {ts : List Token} (h : Readable ts) :
    Readable (text.map .literal ++ ts) := by
  induction text with
  | nil => exact h
  | cons c text ih =>
    obtain ⟨hc, htext⟩ := List.forall_mem_cons.1 hplain
    exact .literal hc.1 (fun hsign => hc.2 hsign.1) (ih htext)

/-- The tokens between the stages are readable if those of the statement are. -/
theorem readable_staged {ts : List Token} (h : Readable ts)
    (hkeys : ∀ key ∈ placeholderKeys ts, ((later key).or (now key)).isSome = true) :
    Readable (ts.flatMap (Token.staged now later)) := by
  induction h with
  | nil => exact .nil
  | literal hplain hsign hts ih =>
    refine .literal hplain ?_ (ih hkeys)
    rintro ⟨hc, hhead⟩
    exact hsign ⟨hc, head?_staged hinert hkeys hhead⟩
  | closed hmark hbody hts ih => exact .closed hmark hbody (ih hkeys)
  | unclosed hmark hbody => exact .unclosed hmark hbody
  | @placeholder key ts hkey hts ih =>
    obtain ⟨hfirst, hrest⟩ := List.forall_mem_cons.1 hkeys
    rw [List.flatMap_cons]
    rcases staged_placeholder hfirst with hstaged | ⟨value, hvalue, hstaged⟩
    · rw [hstaged]
      exact .placeholder hkey (ih hrest)
    · rw [hstaged]
      exact readable_literals_append (hinert _ value hvalue).plain (ih hrest)

end Staged

/-! ## Two stages and one -/

/-- **Two stages do what one does.** Let the values of the first stage be inert, and let a statement be
filled with the values of both stages at once. With their own slots for the keys of the second stage it can
be filled too, and what comes out is filled by the second stage to the same text. If there is no second
stage, it is already that text; if there is no first stage, it is the statement. -/
theorem substitute_staged {statement filled : String} {first second : List String}
    (heven : first.length % 2 = 0)
    (hinert : ∀ key value, suppliedValue? first key = some value → Inert value)
    (hfilled : substitute statement (first ++ second) = .ok filled) :
    StandIns (ownSlots second) second
    ∧ ∀ standIns, StandIns standIns second →
      ∃ between, substitute statement (first ++ standIns) = .ok between
        ∧ substitute between second = .ok filled
        ∧ (second = [] → between = filled)
        ∧ (first = [] → between = statement) := by
  refine ⟨standIns_ownSlots second, fun standIns hstandIns => ?_⟩
  have hboth : suppliedValue? (first ++ second)
      = fun k => (suppliedValue? second k).or (suppliedValue? first k) :=
    funext fun k => suppliedValue?_append heven second k
  have hwith : suppliedValue? (first ++ standIns)
      = fun k => ((suppliedValue? second k).map fun _ => slotText k).or (suppliedValue? first k) :=
    funext fun k => by rw [suppliedValue?_append heven, hstandIns k]
  rw [substitute_filled_iff, hboth] at hfilled
  obtain ⟨hclosed, hkeys, htext⟩ := hfilled
  have hsame : ∀ key, (((suppliedValue? second key).map fun _ => slotText key).or
        (suppliedValue? first key)).isSome = true
      ↔ key ∈ placeholderKeys (tokens statement.toList) := by
    intro key
    rw [← hkeys key, Option.isSome_or, Option.isSome_or, Option.isSome_map]
  -- the tokens between the stages are read back from their text
  have hreadable : Readable ((tokens statement.toList).flatMap
      (Token.staged (suppliedValue? first) (suppliedValue? second))) :=
    readable_staged hinert (readable_tokens hclosed) fun key hkey => (hkeys key).2 hkey
  refine ⟨String.ofList (((tokens statement.toList).flatMap
    (Token.staged (suppliedValue? first) (suppliedValue? second))).flatMap Token.source), ?_, ?_, ?_, ?_⟩
  · -- the stand-ins have the keys of the values for which they stand
    rw [substitute_filled_iff, hwith, String.toList_ofList, flatMap_source_staged]
    exact ⟨hclosed, hsame, rfl⟩
  · -- the slots that are left are those of the second stage, and none of its keys is without one
    rw [substitute_filled_iff, String.toList_ofList, tokens_source hreadable, placeholderKeys_staged,
      flatMap_filled_later]
    refine ⟨slotsClosed_source hreadable, fun key => ?_, htext⟩
    rw [List.mem_filter]
    constructor
    · intro hkey
      refine ⟨(hkeys key).1 ?_, hkey⟩
      rw [Option.isSome_or, hkey, Bool.true_or]
    · exact fun h => h.2
  · rintro rfl
    rw [flatMap_source_staged]
    exact String.toList_inj.1 (String.toList_ofList.trans htext.symm)
  · rintro rfl
    have hlater : ∀ key ∈ placeholderKeys (tokens statement.toList),
        (suppliedValue? second key).isSome = true := by
      intro key hkey
      rw [← (hkeys key).2 hkey]
      exact congrArg Option.isSome Option.or_none.symm
    rw [flatMap_staged_eq_self hlater, flatMap_source_tokens, String.ofList_toList]

/-- A schema is known before a table whose name has a quote and a slot in it. -/
theorem staged_schema_and_table :
    (∀ key value, suppliedValue? ["s", "db(1)"] key = some value → Inert value)
    ∧ substitute "'$(t)' $$(s)$ $(s).$(t)" ["s", "db(1)", "t", "a'$(s)"]
      = .ok "'$(t)' $db(1)$ db(1).a'$(s)"
    ∧ ∃ between, substitute "'$(t)' $$(s)$ $(s).$(t)" ["s", "db(1)", "t", "$(t)"] = .ok between
      ∧ substitute between ["t", "a'$(s)"] = .ok "'$(t)' $db(1)$ db(1).a'$(s)" := by
  have hinert : ∀ key value, suppliedValue? ["s", "db(1)"] key = some value → Inert value := by
    intro key value hvalue
    simp only [suppliedValue?, Option.none_or] at hvalue
    split at hvalue
    · cases hvalue
      decide
    · cases hvalue
  have hfilled : substitute "'$(t)' $$(s)$ $(s).$(t)" (["s", "db(1)"] ++ ["t", "a'$(s)"])
      = .ok "'$(t)' $db(1)$ db(1).a'$(s)" := by
    decide
  obtain ⟨hown, hstaged⟩ := substitute_staged rfl hinert hfilled
  obtain ⟨between, hbetween, hagain, -, -⟩ := hstaged _ hown
  exact ⟨hinert, hfilled, between, hbetween, hagain⟩

/-! An empty value brings together what stands around it. -/

example : substitute "$$(s)(x)" ["s", ""] = .ok "$(x)"
    ∧ substitute "$(x)" [] = .error (.unresolved ["x"]) := by
  decide

end MysqlDesk.Template
