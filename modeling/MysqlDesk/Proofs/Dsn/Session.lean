/-
Editing a data source name again and again.

Whoever keeps a data source name keeps it as text, so each edit of a session reads what the edit before it
wrote. This file follows such a session. Its step is that an edit whose values have no marks takes a name
that is read back to a name that is read back (`Settled.change`), and its run is the fold of the steps
(`session_eq_foldl`): all the reading and writing on the way can be left out.

What the fold gives is then a matter of dictionaries. The database is the one that was named last, and of
the parameters each has the value that it was given last. Only `parseTime` has a default, which each change
of parameters puts in anew: it gives way to a later value, since that is put in over it, and to an earlier
one, since it is put in only where there is none.

A password without a user is read and not written. It is the one field that does not come back, and it is
not in the text either, so `asWritten` drops it and changes no text.
-/
import MysqlDesk.Proofs.Dsn.Edit

set_option autoImplicit false

namespace MysqlDesk.Dsn

/-! ## Sessions -/

/-- One edit of a name that is kept as text. -/
inductive Edit where
  /-- Another database. -/
  | database (name : String)
  /-- Values for some parameters, put in from first to last. -/
  | params (changes : List (String × String))
  /-- No change: the name is read and written again. -/
  | rewrite

/-- The text after an edit. -/
def Edit.apply (s : String) : Edit → Except Fault String
  | .database name => replaceDatabase s name
  | .params changes => setParams s changes
  | .rewrite => canonical s

/-- The text after a session. The first edit that fails ends it. -/
def session (s : String) (edits : List Edit) : Except Fault String :=
  edits.foldlM Edit.apply s

/-- No value of the edit has a mark that would end its field. -/
def Edit.Plain : Edit → Prop
  | .database name => '/' ∉ name.toList ∧ '?' ∉ name.toList
  | .params changes => ∀ change ∈ changes,
      ('=' ∉ change.1.toList ∧ '&' ∉ change.1.toList ∧ '/' ∉ change.1.toList)
        ∧ '&' ∉ change.2.toList ∧ '/' ∉ change.2.toList
  | .rewrite => True

instance (e : Edit) : Decidable e.Plain :=
  match e with
  | .database name => inferInstanceAs (Decidable ('/' ∉ name.toList ∧ '?' ∉ name.toList))
  | .params changes => inferInstanceAs (Decidable (∀ change ∈ changes,
      ('=' ∉ change.1.toList ∧ '&' ∉ change.1.toList ∧ '/' ∉ change.1.toList)
        ∧ '&' ∉ change.2.toList ∧ '/' ∉ change.2.toList))
  | .rewrite => isTrue trivial

/-- The databases that are named in a session. -/
def databases (edits : List Edit) : List String :=
  edits.filterMap fun
    | .database name => some name
    | _ => none

/-- The changes of parameters in a session, one list for each edit. -/
def paramChanges (edits : List Edit) : List (List (String × String)) :=
  edits.filterMap fun
    | .params changes => some changes
    | _ => none

/-! ## Names that are read back -/

/-- The name comes back when it is written and read, a password without a user apart. -/
structure Settled (d : Dsn) : Prop where
  separable : Separable d
  port : d.net = "tcp" → hasPort d.address.toList = true

/-- The name as far as it is written. -/
def asWritten (d : Dsn) : Dsn :=
  { d with password := if d.user = "" then "" else d.password }

theorem text_asWritten (d : Dsn) : d.asWritten.text = d.text := by
  have hlogin : d.asWritten.loginText = d.loginText := by
    unfold loginText asWritten
    by_cases hu : d.user = ""
    · simp only [if_pos hu]
    · simp only [if_neg hu]
  unfold text
  rw [hlogin]
  rfl

theorem parse_text_of_settled {d : Dsn} (h : Settled d) : parse d.text = .ok d.asWritten := by
  have haddress : effectiveAddress d.net d.address = d.address :=
    (effectiveAddress_eq_self_iff h.separable.hasAddress).2 h.port
  rw [parse_text h.separable, haddress]
  rfl

/-- No condition on a name asks for its password. -/
theorem Settled.asWritten {d : Dsn} (h : Settled d) : Settled d.asWritten where
  separable := { h.separable with }
  port := h.port

/-! ## The step -/

/-- The name after an edit. -/
def Edit.change (d : Dsn) : Edit → Dsn
  | .database name => { d with database := name }
  | .params changes => { d with params := mergeParams d.params changes }
  | .rewrite => d

theorem Edit.apply_of_parse {s : String} {d : Dsn} (h : parse s = .ok d) (e : Edit) :
    e.apply s = .ok (e.change d).text := by
  cases e with
  | database name => exact replaceDatabase_of_parse h name
  | params changes => exact setParams_of_parse h changes
  | rewrite =>
    rw [apply, canonical, h]
    rfl

theorem Edit.change_asWritten (d : Dsn) (e : Edit) :
    e.change d.asWritten = (e.change d).asWritten := by
  cases e <;> rfl

/-- Parameters without marks stay without marks when others are put in, and the default has none. -/
theorem Separable.with_params {d : Dsn} (h : Separable d) {changes : List (String × String)}
    (hplain : (Edit.params changes).Plain) :
    Separable { d with params := mergeParams d.params changes } := by
  have hentry : ∀ entry ∈ (mergeParams d.params changes).entries,
      ('=' ∉ entry.1.toList ∧ '&' ∉ entry.1.toList ∧ '/' ∉ entry.1.toList)
        ∧ '&' ∉ entry.2.toList ∧ '/' ∉ entry.2.toList := by
    intro entry hmem
    rcases mem_mergeParams hmem with hchange | hold | rfl
    · exact hplain entry hchange
    · exact ⟨h.keys entry hold, h.values entry hold⟩
    · decide
  exact { h with
    keys := fun entry hmem => (hentry entry hmem).1
    values := fun entry hmem => (hentry entry hmem).2 }

/-- **The step.** An edit without marks keeps a name one that is read back. -/
theorem Settled.change {d : Dsn} (h : Settled d) {e : Edit} (hplain : e.Plain) :
    Settled (e.change d) := by
  cases e with
  | database name => exact ⟨h.separable.with_database hplain, h.port⟩
  | params changes => exact ⟨h.separable.with_params hplain, h.port⟩
  | rewrite => exact h

/-! ## The run -/

theorem session_cons {s t : String} {e : Edit} (h : e.apply s = .ok t) (edits : List Edit) :
    session s (e :: edits) = session t edits := by
  unfold session
  rw [List.foldlM_cons, h]
  rfl

theorem foldl_change_asWritten (edits : List Edit) (d : Dsn) :
    edits.foldl Edit.change d.asWritten = (edits.foldl Edit.change d).asWritten := by
  induction edits generalizing d with
  | nil => rfl
  | cons e edits ih => rw [List.foldl_cons, Edit.change_asWritten, ih, List.foldl_cons]

/-- **The run.** A session of edits without marks writes the name that all of them make of the first one.
The induction is on the edits. Each one reads the text of the last, where a password without a user is
missing, and that makes no difference to any text that comes later. -/
theorem session_eq_foldl {s : String} {d : Dsn} (h : parse s = .ok d) (hsettled : Settled d)
    {edits : List Edit} (hne : edits ≠ []) (hplain : ∀ e ∈ edits, e.Plain) :
    session s edits = .ok (edits.foldl Edit.change d).text := by
  induction edits generalizing s d with
  | nil => exact absurd rfl hne
  | cons e edits ih =>
    obtain ⟨he, hedits⟩ := List.forall_mem_cons.1 hplain
    have hchanged : Settled (e.change d) := hsettled.change he
    rw [session_cons (Edit.apply_of_parse h e), List.foldl_cons]
    by_cases hlast : edits = []
    · rw [hlast]
      rfl
    · have hread : parse (e.change d).text = .ok (e.change d).asWritten :=
        parse_text_of_settled hchanged
      rw [ih hread hchanged.asWritten hlast hedits, foldl_change_asWritten, text_asWritten]

/-! ## What the edits make of a name -/

/-- The edits only touch the database, which is the last one that is named, and the parameters. -/
theorem foldl_change_eq (edits : List Edit) (d : Dsn) :
    edits.foldl Edit.change d = { d with
      database := (databases edits).getLast?.getD d.database
      params := (edits.foldl Edit.change d).params } := by
  induction edits generalizing d with
  | nil => rfl
  | cons e edits ih =>
    refine (ih (e.change d)).trans ?_
    cases e with
    | database name =>
      have hnames : databases (.database name :: edits) = name :: databases edits := rfl
      rw [hnames, List.getLast?_cons]
      rfl
    | params changes => rfl
    | rewrite => rfl

/-- A key has the value that was given last, or that it had at first; and `parseTime` has its default if
there is no such value and some parameters were set. -/
theorem get?_foldl_change (edits : List Edit) (d : Dsn) (key : String) :
    (edits.foldl Edit.change d).params.get? key
      = ((Dictionary.lastValue? key (paramChanges edits).flatten).or (d.params.get? key)).or
          (if key = "parseTime" ∧ paramChanges edits ≠ [] then some "true" else none) := by
  induction edits generalizing d with
  | nil => simp [paramChanges, Dictionary.lastValue?]
  | cons e edits ih =>
    refine (ih (e.change d)).trans ?_
    cases e with
    | database name => rfl
    | params changes =>
      have hchanges : paramChanges (.params changes :: edits) = changes :: paramChanges edits := rfl
      have hgiven : (Edit.change d (.params changes)).params.get? key = _ :=
        get?_mergeParams d.params changes key
      rw [hchanges, List.flatten_cons, Dictionary.lastValue?_append, hgiven]
      by_cases hkey : key = "parseTime"
      · -- the default of this edit stands behind all values, and before that of any later edit
        simp [hkey, Option.or_assoc]
      · simp [hkey, Option.or_assoc]
    | rewrite => rfl

/-- **A session of edits.** Let a text be read as a name whose address has the port that it needs, and let
no value of the edits have a mark. Then no edit fails, and the last text is the first name with the
database that was named last and with all parameters put in one after the other, where `parseTime` has its
default if some were set and none of them, nor the name, gave it a value. How changes of the database stand
between changes of parameters does not matter. -/
theorem session_eq_text {s : String} {d : Dsn} (h : parse s = .ok d)
    (hport : d.net ≠ "tcp" ∨ hasPort d.address.toList = true)
    {edits : List Edit} (hne : edits ≠ []) (hplain : ∀ e ∈ edits, e.Plain) :
    (∀ front, front <+: edits → ∃ t, session s front = .ok t)
    ∧ (∃ params : Dictionary String,
        session s edits = .ok ({ d with
          database := (databases edits).getLast?.getD d.database
          params } : Dsn).text
        ∧ ∀ key, params.get? key
          = ((Dictionary.lastValue? key (paramChanges edits).flatten).or (d.params.get? key)).or
              (if key = "parseTime" ∧ paramChanges edits ≠ [] then some "true" else none))
    ∧ ∀ others, others ≠ [] → (∀ e ∈ others, e.Plain) → databases others = databases edits →
        paramChanges others = paramChanges edits → session s others = session s edits := by
  have hsettled : Settled d := ⟨separable_of_parse h, hport.neg_resolve_left⟩
  refine ⟨?_, ?_, ?_⟩
  · intro front hfront
    by_cases hempty : front = []
    · exact ⟨s, by rw [hempty]; rfl⟩
    · exact ⟨_, session_eq_foldl h hsettled hempty fun e he => hplain e (hfront.subset he)⟩
  · refine ⟨(edits.foldl Edit.change d).params, ?_, get?_foldl_change edits d⟩
    rw [session_eq_foldl h hsettled hne hplain, ← foldl_change_eq]
  · intro others hothers hplain' hdatabases hparams
    have hsame : (others.foldl Edit.change d).params = (edits.foldl Edit.change d).params := by
      apply Dictionary.ext_get?
      intro key
      rw [get?_foldl_change, get?_foldl_change, hparams]
    rw [session_eq_foldl h hsettled hothers hplain', session_eq_foldl h hsettled hne hplain,
      foldl_change_eq others, foldl_change_eq edits, hdatabases, hsame]

/-- A default that is put in and given another value later, with the database changed before or after. -/
theorem session_of_given_default :
    parse "app:pw@tcp(db:3306)/shop?a=1"
        = .ok ⟨"app", "pw", "tcp", "db:3306", "shop", Dictionary.ofPairs [("a", "1")]⟩
      ∧ session "app:pw@tcp(db:3306)/shop?a=1"
          [.params [("b", "2")], .database "archive", .rewrite, .params [("parseTime", "false")]]
        = session "app:pw@tcp(db:3306)/shop?a=1"
          [.params [("b", "2")], .params [("parseTime", "false")], .database "archive"]
      ∧ ∃ params, session "app:pw@tcp(db:3306)/shop?a=1"
            [.params [("b", "2")], .database "archive", .rewrite, .params [("parseTime", "false")]]
          = .ok (Dsn.text ⟨"app", "pw", "tcp", "db:3306", "archive", params⟩)
        ∧ params.get? "parseTime" = some "false" ∧ params.get? "a" = some "1" := by
  have hread : parse "app:pw@tcp(db:3306)/shop?a=1"
      = .ok ⟨"app", "pw", "tcp", "db:3306", "shop", Dictionary.ofPairs [("a", "1")]⟩ := rfl
  have hne : [Edit.params [("b", "2")], .database "archive", .rewrite,
      .params [("parseTime", "false")]] ≠ [] := by simp
  obtain ⟨-, ⟨params, htext, hparams⟩, hother⟩ :=
    session_eq_text hread (Or.inr (by decide)) hne (by decide)
  have hreordered := hother
    [.params [("b", "2")], .params [("parseTime", "false")], .database "archive"]
    (by simp) (by decide) rfl rfl
  have hname : (databases [.params [("b", "2")], .database "archive", .rewrite,
      .params [("parseTime", "false")]]).getLast?.getD "shop" = "archive" := rfl
  rw [hname] at htext
  refine ⟨hread, hreordered.symm, params, htext, ?_, ?_⟩
  · rw [hparams]
    rfl
  · rw [hparams]
    rfl

end MysqlDesk.Dsn
