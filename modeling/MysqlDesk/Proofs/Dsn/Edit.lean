/-
What an edit of a data source name keeps.

An edit reads the text, puts in another database or other parameters, and writes the name again. Nothing
is escaped on the way. What is put in stands behind the slash that the reader seeks from the back, so a
slash in it moves the border between server and database, and the edited text can name another server
and another password (`edited_name_leads_elsewhere`). Two things go wrong without any mark in what is put
in: a password without a user is not written, and an address that opens a bracket and does not close it
gets a port each time it is read.

The main statement, `edit_keeps_connection`, says that there is nothing else. It asks as little as possible
of the new values. A database comes back exactly if it has no slash and no question mark. Parameters
without a slash are read exactly if each of their pieces has an equals sign, and they keep the rest of the
name even where they are read as other parameters than those that were put in.
-/
import MysqlDesk.Dsn.Edit
import MysqlDesk.Proofs.Dsn.RoundTrip

set_option autoImplicit false

namespace MysqlDesk.Dsn

open MysqlDesk.Text

/-! ## The parameters after an edit -/

/-- Of the changes the last one of a key counts, then what was there, then the default. -/
theorem get?_mergeParams (params : Dictionary String) (changes : List (String × String))
    (key : String) :
    (mergeParams params changes).get? key
      = ((Dictionary.lastValue? key changes).or (params.get? key)).or
          (if key = "parseTime" then some "true" else none) := by
  rw [mergeParams, Dictionary.get?_insertIfNew, Dictionary.get?_insertAll]

theorem mem_mergeParams {params : Dictionary String} {changes : List (String × String)}
    {entry : String × String} (h : entry ∈ (mergeParams params changes).entries) :
    entry ∈ changes ∨ entry ∈ params.entries ∨ entry = ("parseTime", "true") := by
  obtain ⟨key, value⟩ := entry
  rw [← Dictionary.get?_eq_some_iff, get?_mergeParams] at h
  rcases Option.or_eq_some_iff.1 h with hgiven | ⟨-, hdefault⟩
  · rcases Option.or_eq_some_iff.1 hgiven with hchange | ⟨-, hold⟩
    · obtain ⟨before, after, rfl, -⟩ := (Dictionary.lastValue?_eq_some_iff _ _ _).1 hchange
      exact Or.inl (by simp)
    · exact Or.inr (Or.inl ((Dictionary.get?_eq_some_iff params key value).1 hold))
  · by_cases hkey : key = "parseTime"
    · rw [if_pos hkey] at hdefault
      rw [hkey, ← Option.some.inj hdefault]
      exact Or.inr (Or.inr rfl)
    · rw [if_neg hkey] at hdefault
      cases hdefault

theorem replaceDatabase_of_parse {s : String} {d : Dsn} (h : parse s = .ok d) (name : String) :
    replaceDatabase s name = .ok ({ d with database := name } : Dsn).text := by
  rw [replaceDatabase, h]
  rfl

theorem setParams_of_parse {s : String} {d : Dsn} (h : parse s = .ok d)
    (changes : List (String × String)) :
    setParams s changes
      = .ok ({ d with params := mergeParams d.params changes } : Dsn).text := by
  rw [setParams, h]
  rfl

/-! ## The connection -/

/-- The names lead to the same host and port, or, off `tcp`, to the same address. -/
def SameTarget (d e : Dsn) : Prop :=
  if d.net = "tcp" then e.hostPort? = d.hostPort? else e.address = d.address

/-- The names connect to the same place as the same user. -/
structure SameConnection (d e : Dsn) : Prop where
  user : e.user = d.user
  password : e.password = d.password
  net : e.net = d.net
  target : SameTarget d e

/-- What is left of the connection of `d` after an edit. A password without a user is lost, and of an
address that still needs a port nothing is said. -/
structure Keeps (d e : Dsn) : Prop where
  user : e.user = d.user
  password : e.password = if d.user = "" then "" else d.password
  net : e.net = d.net
  target : (d.net = "tcp" → hasPort d.address.toList = true) → SameTarget d e

theorem sameTarget_of_address {d e : Dsn} (hnet : e.net = d.net)
    (haddress : e.address = d.address) : SameTarget d e := by
  unfold SameTarget hostPort?
  rw [hnet, haddress]
  split
  · rfl
  · rfl

/-- What is read back of a written name keeps its connection, whatever is read of its database and its
parameters. -/
theorem keeps_read {d : Dsn} (h : Separable d) (database : String) (params : Dictionary String) :
    Keeps d
      { d with
        password := if d.user = "" then "" else d.password
        address := effectiveAddress d.net d.address
        database
        params } where
  user := rfl
  password := rfl
  net := rfl
  target := by
    intro hport
    have haddress : effectiveAddress d.net d.address = d.address :=
      (effectiveAddress_eq_self_iff h.hasAddress).2 hport
    exact sameTarget_of_address rfl haddress

/-! ## Another database -/

theorem Separable.with_database {d : Dsn} (h : Separable d) {name : String}
    (hname : '/' ∉ name.toList ∧ '?' ∉ name.toList) :
    Separable { d with database := name } :=
  { h with database := hname }

/-- A database is read back exactly if it has none of the two marks that end it. -/
theorem exists_parse_with_database_iff {d : Dsn} (h : Separable d) (name : String) :
    (∃ e, parse ({ d with database := name } : Dsn).text = .ok e ∧ e.database = name)
      ↔ '/' ∉ name.toList ∧ '?' ∉ name.toList := by
  constructor
  · rintro ⟨e, he, rfl⟩
    exact (separable_of_parse he).database
  · intro hname
    exact ⟨_, parse_text (h.with_database hname), rfl⟩

theorem keeps_of_parse_with_database {d e : Dsn} (h : Separable d) {name : String}
    (he : parse ({ d with database := name } : Dsn).text = .ok e) (hname : e.database = name) :
    Keeps d e := by
  have hmarks : '/' ∉ name.toList ∧ '?' ∉ name.toList := hname ▸ (separable_of_parse he).database
  have hread := parse_text (h.with_database hmarks)
  rw [he] at hread
  rw [Except.ok.inj hread]
  exact keeps_read h name d.params

/-! ## Other parameters -/

/-- Parameters are read exactly if each of them has an equals sign. -/
theorem exists_readParams_iff (query : List Char) :
    (∃ pairs, readParams query = .ok pairs) ↔ ∀ param ∈ writtenParams query, '=' ∈ param := by
  rw [readParams_eq_mapM]
  constructor
  · rintro ⟨pairs, hpairs⟩
    rcases forall_or_exists_first (fun param => '=' ∈ param) (writtenParams query) with
      hall | ⟨before, param, after, hsplit, hbefore, hbad⟩
    · exact hall
    · rw [hsplit, mapM_readParam_of_bad hbefore hbad] at hpairs
      cases hpairs
  · intro hall
    exact ⟨_, mapM_readParam_of_forall hall⟩

/-- Whether written parameters are read is up to the pieces of each of them. -/
theorem exists_readParams_queryChars_iff (params : Dictionary String) :
    (∃ pairs, readParams (queryChars params) = .ok pairs)
      ↔ ∀ entry ∈ params.entries, ∀ piece ∈ (paramChars entry).splitOn '&', piece ≠ [] → '=' ∈ piece := by
  rw [exists_readParams_iff, writtenParams_queryChars]
  constructor
  · intro h entry hentry piece hpiece hne
    exact h piece (List.mem_flatMap.2 ⟨entry, hentry, mem_writtenParams_iff.2 ⟨hpiece, hne⟩⟩)
  · intro h piece hpiece
    obtain ⟨entry, hentry, hwritten⟩ := List.mem_flatMap.1 hpiece
    obtain ⟨hsplit, hne⟩ := mem_writtenParams_iff.1 hwritten
    exact h entry hentry piece hsplit hne

/-! ## Both edits -/

/-- **An edit keeps the connection.** A new database comes back exactly if it has no slash and no question
mark. New parameters without a slash leave a name exactly if each of their pieces has an equals sign, and
that name has the old database. Whatever comes back in these cases has the user and the network of the name
that was edited, its password if it has a user, and its target if its address has the port that it needs. -/
theorem edit_keeps_connection {s : String} {d : Dsn} (h : parse s = .ok d) :
    (∀ name, ∃ t, replaceDatabase s name = .ok t
      ∧ ((∃ e, parse t = .ok e ∧ e.database = name) ↔ '/' ∉ name.toList ∧ '?' ∉ name.toList)
      ∧ ∀ e, parse t = .ok e → e.database = name → Keeps d e)
    ∧ ∀ changes, ∃ t, setParams s changes = .ok t
      ∧ ((∀ entry ∈ (mergeParams d.params changes).entries,
            '/' ∉ entry.1.toList ∧ '/' ∉ entry.2.toList) →
        ((∃ e, parse t = .ok e) ↔ ∀ entry ∈ (mergeParams d.params changes).entries,
            ∀ piece ∈ (paramChars entry).splitOn '&', piece ≠ [] → '=' ∈ piece)
        ∧ ∀ e, parse t = .ok e → e.database = d.database ∧ Keeps d e) := by
  have hsep : Separable d := separable_of_parse h
  constructor
  · intro name
    refine ⟨_, replaceDatabase_of_parse h name, exists_parse_with_database_iff hsep name, ?_⟩
    intro e he hname
    exact keeps_of_parse_with_database hsep he hname
  · intro changes
    refine ⟨_, setParams_of_parse h changes, fun hslash => ?_⟩
    -- up to the parameters, what is read is what was written
    rw [parse_text_with hsep hslash, ← exists_readParams_queryChars_iff]
    cases readParams (queryChars (mergeParams d.params changes)) with
    | error f =>
      constructor
      · constructor
        · rintro ⟨e, he⟩
          cases he
        · rintro ⟨pairs, hpairs⟩
          cases hpairs
      · intro e he
        cases he
    | ok pairs =>
      refine ⟨⟨fun _ => ⟨pairs, rfl⟩, fun _ => ⟨_, rfl⟩⟩, ?_⟩
      intro e he
      rw [← Except.ok.inj he]
      exact ⟨rfl, keeps_read hsep d.database (Dictionary.ofPairs pairs)⟩

/-- A database without marks, and a parameter that is read as two. -/
theorem edited_name_stays :
    ∃ d, parse "app:pw@tcp(db:3306)/shop" = .ok d
      ∧ (∃ t e, replaceDatabase "app:pw@tcp(db:3306)/shop" "archive" = .ok t ∧ parse t = .ok e
        ∧ e.database = "archive" ∧ Keeps d e)
      ∧ ∃ t e, setParams "app:pw@tcp(db:3306)/shop" [("mode", "a&b=c")] = .ok t ∧ parse t = .ok e
        ∧ e.database = "shop" ∧ Keeps d e := by
  have hread : parse "app:pw@tcp(db:3306)/shop"
      = .ok ⟨"app", "pw", "tcp", "db:3306", "shop", Dictionary.empty⟩ := rfl
  obtain ⟨hdatabase, hparams⟩ := edit_keeps_connection hread
  refine ⟨_, hread, ?_, ?_⟩
  · obtain ⟨t, ht, hback, hkeeps⟩ := hdatabase "archive"
    obtain ⟨e, he, hname⟩ := hback.2 (by decide)
    exact ⟨t, e, ht, he, hname, hkeeps e he hname⟩
  · obtain ⟨t, ht, hedited⟩ := hparams [("mode", "a&b=c")]
    obtain ⟨hback, hkeeps⟩ := hedited (by decide)
    obtain ⟨e, he⟩ := hback.2 (by decide)
    exact ⟨t, e, ht, he, hkeeps e he⟩

/-- A slash in a new database, or in a new parameter, can send the name to another server. -/
theorem edited_name_leads_elsewhere :
    (¬ ∀ s d name, parse s = .ok d → ∃ t e, replaceDatabase s name = .ok t ∧ parse t = .ok e
        ∧ e.database = name ∧ SameConnection d e)
    ∧ ¬ ∀ s d changes, parse s = .ok d → ∃ t e, setParams s changes = .ok t ∧ parse t = .ok e
        ∧ e.database = d.database ∧ SameConnection d e := by
  have hread : parse "app:pw@tcp(db:3306)/shop"
      = .ok ⟨"app", "pw", "tcp", "db:3306", "shop", Dictionary.empty⟩ := rfl
  constructor
  · intro h
    obtain ⟨t, e, ht, he, -, hsame⟩ := h _ _ "x@tcp(evil:3306)/y" hread
    have htext : t = "app:pw@tcp(db:3306)/x@tcp(evil:3306)/y" := (Except.ok.inj ht).symm
    have hevil : (parse t).map hostPort? = .ok (some ("evil", 3306)) := by
      rw [htext]
      rfl
    rw [he] at hevil
    have htarget : some ("evil", 3306) = some ("db", 3306) :=
      (Except.ok.inj hevil).symm.trans hsame.target
    exact absurd htarget (by decide)
  · intro h
    obtain ⟨t, e, ht, he, -, hsame⟩ := h _ _ [("k", "@tcp(evil:3306)/shop?")] hread
    have htext : t = "app:pw@tcp(db:3306)/shop?k=@tcp(evil:3306)/shop?&parseTime=true" :=
      (Except.ok.inj ht).symm
    have hevil : (parse t).map hostPort? = .ok (some ("evil", 3306)) := by
      rw [htext]
      rfl
    rw [he] at hevil
    have htarget : some ("evil", 3306) = some ("db", 3306) :=
      (Except.ok.inj hevil).symm.trans hsame.target
    exact absurd htarget (by decide)

/-! Without any mark in what is put in, a password without a user is lost, and a bracket that is not closed
leads to another host. -/

example : ((replaceDatabase ":pw@tcp(db:3306)/shop" "archive").bind parse).map password
    = .ok "" := by
  decide

example : (parse "app@tcp([db)/shop").map hostPort? = .ok (some ("db", 3306))
    ∧ ((replaceDatabase "app@tcp([db)/shop" "archive").bind parse).map hostPort?
      = .ok (some ("db:3306", 3306)) := by
  decide

end MysqlDesk.Dsn
