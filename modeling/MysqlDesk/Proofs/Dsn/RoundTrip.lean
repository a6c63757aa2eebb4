/-
Which names survive being written and read again.

No field is escaped when a name is written, so a name survives only if none of its fields holds a
separator that the reader would find before the one that was written. `Separable` lists these
separators, field by field. It says nothing of the password: the reader seeks the colon before it from
the front, and the at-sign and the slash behind it from the back, so the password may hold all three.

The proof compares two facts. A separable name is read back with its fields, save that a password
without a user is not written at all and that a port may be put in (`parse_text`). And whatever is
read from any text is separable (`separable_of_parse`), so a name that is not cannot come back.
-/
import MysqlDesk.Proofs.Dsn.Grammar

set_option autoImplicit false

namespace MysqlDesk.Dsn

open MysqlDesk.Text

/-- The place is written in full, and no field holds a separator that the reader would take for its
end. -/
structure Separable (d : Dsn) : Prop where
  user : ':' ∉ d.user.toList
  hasNet : d.net ≠ ""
  net : '(' ∉ d.net.toList ∧ '@' ∉ d.net.toList
  hasAddress : d.address ≠ ""
  address : '@' ∉ d.address.toList
  database : '/' ∉ d.database.toList ∧ '?' ∉ d.database.toList
  keys : ∀ entry ∈ d.params.entries,
    '=' ∉ entry.1.toList ∧ '&' ∉ entry.1.toList ∧ '/' ∉ entry.1.toList
  values : ∀ entry ∈ d.params.entries, '&' ∉ entry.2.toList ∧ '/' ∉ entry.2.toList

/-! ## The written form, part by part -/

/-- The characters of a written parameter. -/
def paramChars (entry : String × String) : List Char :=
  entry.1.toList ++ '=' :: entry.2.toList

theorem not_mem_paramChars {c : Char} {entry : String × String} (hc : c ≠ '=')
    (hkey : c ∉ entry.1.toList) (hvalue : c ∉ entry.2.toList) : c ∉ paramChars entry := by
  rw [paramChars, List.mem_append, List.mem_cons]
  rintro (hmem | hmem | hmem)
  · exact hkey hmem
  · exact hc hmem
  · exact hvalue hmem

theorem toList_text (d : Dsn) :
    d.text.toList = (d.loginText.toList ++ d.placeText.toList)
      ++ '/' :: (d.database.toList ++ d.paramsText.toList) := by
  have hslash : "/".toList = ['/'] := rfl
  rw [text, String.toList_append, String.toList_append, String.toList_append,
    String.toList_append, hslash, List.append_assoc, List.append_assoc]
  rfl

theorem toList_placeText {d : Dsn} (hnet : d.net ≠ "") (haddress : d.address ≠ "") :
    d.placeText.toList = d.net.toList ++ '(' :: (d.address.toList ++ [')']) := by
  have hopen : "(".toList = ['('] := rfl
  have hclose : ")".toList = [')'] := rfl
  rw [placeText, if_neg hnet, if_neg haddress, String.toList_append, String.toList_append,
    String.toList_append, hopen, hclose, List.append_assoc, List.append_assoc]
  rfl

/-- The characters of the parameters behind their question mark. -/
def queryChars (params : Dictionary String) : List Char :=
  ['&'].intercalate (params.entries.map paramChars)

theorem toList_paramsText (d : Dsn) :
    d.paramsText.toList = if d.params.entries = [] then [] else '?' :: queryChars d.params := by
  rw [paramsText, queryChars]
  cases hentries : d.params.entries with
  | nil => rfl
  | cons entry rest =>
    have hchars : String.toList ∘ (fun entry : String × String => entry.1 ++ "=" ++ entry.2)
        = paramChars := by
      funext entry
      show (entry.1 ++ "=" ++ entry.2).toList = paramChars entry
      rw [String.toList_append, String.toList_append, List.append_assoc]
      rfl
    rw [if_neg (List.cons_ne_nil entry rest)]
    show ("?" ++ _).toList = _
    rw [String.toList_append, String.toList_intercalate, List.map_map]
    exact congrArg (fun f => '?' :: ['&'].intercalate (List.map f (entry :: rest))) hchars

/-- A character that is no mark of parameters, and in none of them, is not in their text. -/
theorem not_mem_paramsText {c : Char} (hmark : c ≠ '?' ∧ c ≠ '&' ∧ c ≠ '=') {d : Dsn}
    (h : ∀ entry ∈ d.params.entries, c ∉ entry.1.toList ∧ c ∉ entry.2.toList) :
    c ∉ d.paramsText.toList := by
  rw [toList_paramsText]
  split
  · exact List.not_mem_nil
  · rw [List.mem_cons, not_or]
    refine ⟨hmark.1, not_mem_intercalate hmark.2.1 ?_⟩
    intro piece hpiece
    obtain ⟨entry, hentry, rfl⟩ := List.mem_map.1 hpiece
    exact not_mem_paramChars hmark.2.2 (h entry hentry).1 (h entry hentry).2

/-! ## Reading the parts back -/

/-- Login and place are found again. The last at-sign is the written one, or there is none if there is
no user; and the user ends at the first colon, whatever the password holds. -/
theorem login_sides {d : Dsn} {place : List Char} (huser : ':' ∉ d.user.toList)
    (hplace : '@' ∉ place) :
    afterLast '@' (d.loginText.toList ++ place) = place
      ∧ beforeFirst ':' (beforeLast '@' (d.loginText.toList ++ place)) = d.user.toList
      ∧ afterFirst ':' (beforeLast '@' (d.loginText.toList ++ place))
        = if d.user = "" then [] else d.password.toList := by
  rw [loginText]
  by_cases hu : d.user = ""
  · -- no user: nothing is written, and the text before the place is empty
    obtain ⟨hbefore, hafter⟩ := sides_of_not_mem_last hplace
    rw [if_pos hu, if_pos hu, hu]
    show afterLast '@' place = place ∧ beforeFirst ':' (beforeLast '@' place) = []
      ∧ afterFirst ':' (beforeLast '@' place) = []
    rw [hbefore]
    exact ⟨hafter, rfl, rfl⟩
  · rw [if_neg hu, if_neg hu]
    by_cases hp : d.password = ""
    · have hlogin : (d.user ++ "@").toList ++ place = d.user.toList ++ '@' :: place := by
        rw [String.toList_append, List.append_assoc]
        rfl
      obtain ⟨hbefore, hafter⟩ := sides_append_last hplace d.user.toList
      obtain ⟨hfirst, hrest⟩ := sides_of_not_mem huser
      rw [if_pos hp, hp, hlogin, hbefore]
      exact ⟨hafter, hfirst, hrest⟩
    · have hlogin : (d.user ++ ":" ++ d.password ++ "@").toList ++ place
          = (d.user.toList ++ ':' :: d.password.toList) ++ '@' :: place := by
        rw [String.toList_append, String.toList_append, String.toList_append, List.append_assoc,
          List.append_assoc d.user.toList]
        rfl
      obtain ⟨hbefore, hafter⟩ :=
        sides_append_last hplace (d.user.toList ++ ':' :: d.password.toList)
      rw [if_neg hp, hlogin, hbefore]
      exact ⟨hafter, sides_append huser d.password.toList⟩

/-- Database and parameters are divided at the first question mark, whatever the parameters hold. -/
theorem query_sides {d : Dsn} (h : '?' ∉ d.database.toList) :
    beforeFirst '?' (d.database.toList ++ d.paramsText.toList) = d.database.toList
      ∧ afterFirst '?' (d.database.toList ++ d.paramsText.toList) = queryChars d.params := by
  rw [toList_paramsText]
  by_cases hentries : d.params.entries = []
  · rw [if_pos hentries, List.append_nil, queryChars, hentries]
    exact sides_of_not_mem h
  · rw [if_neg hentries]
    exact sides_append h (queryChars d.params)

/-- What is read of written parameters is what is read of each of them. -/
theorem writtenParams_queryChars (params : Dictionary String) :
    writtenParams (queryChars params)
      = params.entries.flatMap fun entry => writtenParams (paramChars entry) := by
  rw [queryChars]
  induction params.entries with
  | nil => rfl
  | cons entry rest ih =>
    cases rest with
    | nil => rw [List.map_singleton, List.intercalate_singleton, List.flatMap_singleton]
    | cons next more =>
      -- the ampersand between two parameters divides their pieces
      have hsplit (behind : List Char) : (paramChars entry ++ ['&'] ++ behind).splitOn '&'
          = (paramChars entry).splitOn '&' ++ behind.splitOn '&' := by
        rw [List.append_assoc]
        exact List.splitOn_append_cons_self _ _
      rw [List.flatMap_cons, ← ih, List.map_cons, List.map_cons, List.intercalate_cons_cons,
        writtenParams, hsplit, List.filter_append]
      rfl

/-- A parameter without marks of its own is read as it is. -/
theorem writtenParams_paramChars {entry : String × String} (hkey : '&' ∉ entry.1.toList)
    (hvalue : '&' ∉ entry.2.toList) : writtenParams (paramChars entry) = [paramChars entry] := by
  have hne : (paramChars entry).isEmpty = false := by
    rw [paramChars]
    cases entry.1.toList <;> rfl
  rw [writtenParams, List.splitOn_eq_singleton (not_mem_paramChars (by decide) hkey hvalue),
    List.filter_singleton, hne]
  rfl

theorem paramPair_paramChars {entry : String × String} (h : '=' ∉ entry.1.toList) :
    paramPair (paramChars entry) = entry := by
  obtain ⟨hkey, hvalue⟩ := sides_append h entry.2.toList
  rw [paramPair, paramChars, hkey, hvalue, String.ofList_toList, String.ofList_toList]

/-- A separable name in which other parameters were put is read up to these parameters, as long as they
have no slash: what is read of them is then up to their own marks. -/
theorem parse_text_with {d : Dsn} (h : Separable d) {params : Dictionary String}
    (hslash : ∀ entry ∈ params.entries, '/' ∉ entry.1.toList ∧ '/' ∉ entry.2.toList) :
    parse ({ d with params } : Dsn).text
      = (readParams (queryChars params)).map fun pairs => { d with
          password := if d.user = "" then "" else d.password
          address := effectiveAddress d.net d.address
          params := Dictionary.ofPairs pairs } := by
  have hplace : d.placeText.toList = d.net.toList ++ '(' :: (d.address.toList ++ [')']) :=
    toList_placeText h.hasNet h.hasAddress
  have hat : '@' ∉ d.placeText.toList := by
    rw [hplace, List.mem_append, List.mem_cons, List.mem_append, List.mem_singleton]
    rintro (hmem | hmem | hmem | hmem)
    · exact h.net.2 hmem
    · exact absurd hmem (by decide)
    · exact h.address hmem
    · exact absurd hmem (by decide)
  obtain ⟨hafter, huser, hpassword⟩ := login_sides h.user hat
  obtain ⟨hdatabase, hquery⟩ := query_sides (d := { d with params }) h.database.2
  have htarget : '/' ∉ d.database.toList ++ ({ d with params } : Dsn).paramsText.toList := by
    rw [List.mem_append, not_or]
    exact ⟨h.database.1, not_mem_paramsText (by decide) hslash⟩
  -- the server, then the target, then the defaults
  have hserver : ({ d with params } : Dsn).text.toList
      = (d.loginText.toList ++ d.placeText.toList)
        ++ '/' :: (d.database.toList ++ ({ d with params } : Dsn).paramsText.toList) :=
    toList_text { d with params }
  rw [parse_of_slash hserver htarget, hafter, readPlace_of_isPlace (Or.inr ⟨h.net.1, hplace⟩),
    hquery]
  cases readParams (queryChars params) with
  | error f => rfl
  | ok pairs =>
    show normalize (writtenFields _ _ _ pairs) = _
    rw [writtenFields, huser, hpassword, hdatabase]
    simp only [String.ofList_toList]
    have hwritten : String.ofList (if d.user = "" then [] else d.password.toList)
        = if d.user = "" then "" else d.password := by
      by_cases hu : d.user = ""
      · rw [if_pos hu, if_pos hu]
      · rw [if_neg hu, if_neg hu, String.ofList_toList]
    have hnet : effectiveNet d.net = d.net := if_neg h.hasNet
    have hnormal := normalize_of_address
      (d := { d with
        password := if d.user = "" then "" else d.password
        params := Dictionary.ofPairs pairs }) (Or.inl h.hasAddress)
    simp only [hnet] at hnormal
    rw [hwritten]
    exact hnormal

/-- **Reading a written name** gives its fields back, without a password that has no user, and with
the usual port on an address that needs one. -/
theorem parse_text {d : Dsn} (h : Separable d) :
    parse d.text = .ok { d with
      password := if d.user = "" then "" else d.password
      address := effectiveAddress d.net d.address } := by
  -- the parameters are those that were written, so their pairs are the entries
  have hequals : ∀ param ∈ d.params.entries.map paramChars, '=' ∈ param := by
    intro param hparam
    obtain ⟨entry, -, rfl⟩ := List.mem_map.1 hparam
    exact List.mem_append_right _ List.mem_cons_self
  have hpairs : (d.params.entries.map paramChars).map paramPair = d.params.entries := by
    rw [List.map_map]
    exact (List.map_congr_left fun entry hentry =>
      paramPair_paramChars (h.keys entry hentry).1).trans (List.map_id _)
  have hwritten : writtenParams (queryChars d.params) = d.params.entries.map paramChars := by
    rw [writtenParams_queryChars, List.map_eq_flatMap]
    exact List.flatMap_congr fun entry hentry =>
      writtenParams_paramChars (h.keys entry hentry).2.1 (h.values entry hentry).1
  have hread : readParams (queryChars d.params) = .ok d.params.entries := by
    rw [readParams_eq_mapM, hwritten, mapM_readParam_of_forall hequals, hpairs]
  have hslash : ∀ entry ∈ d.params.entries, '/' ∉ entry.1.toList ∧ '/' ∉ entry.2.toList :=
    fun entry hentry => ⟨(h.keys entry hentry).2.2, (h.values entry hentry).2⟩
  have hparse := parse_text_with h hslash
  rw [hread] at hparse
  show parse ({ d with params := d.params } : Dsn).text = _
  rw [hparse]
  simp only [Except.map, Dictionary.ofPairs_entries]

/-! ## What is read is separable -/

theorem mem_of_isPlace {place net address : List Char} (h : IsPlace place net address) :
    '(' ∉ net ∧ (∀ c ∈ net, c ∈ place) ∧ ∀ c ∈ address, c ∈ place := by
  rcases h with ⟨hplace, rfl, rfl⟩ | ⟨hnet, rfl⟩
  · exact ⟨hplace, fun c hc => hc, fun c hc => absurd hc List.not_mem_nil⟩
  · refine ⟨hnet, fun c hc => List.mem_append_left _ hc, fun c hc => ?_⟩
    exact List.mem_append_right _ (List.mem_cons_of_mem _ (List.mem_append_left _ hc))

theorem at_not_mem_withDefaultPort {address : String} (h : '@' ∉ address.toList) :
    '@' ∉ (withDefaultPort address).toList := by
  have hopen : '@' ∉ "[".toList := by decide
  have hclose : '@' ∉ "]:".toList := by decide
  have hcolon : '@' ∉ ":".toList := by decide
  have hnumber : '@' ∉ defaultPort.toList := by decide
  rw [withDefaultPort]
  split
  · simp only [String.toList_append, List.mem_append, not_or]
    exact ⟨⟨⟨hopen, h⟩, hclose⟩, hnumber⟩
  · simp only [String.toList_append, List.mem_append, not_or]
    exact ⟨⟨h, hcolon⟩, hnumber⟩

theorem withDefaultPort_ne (address : String) :
    withDefaultPort address ≠ "" ∧ withDefaultPort address ≠ address := by
  have hlength : address.toList.length < (withDefaultPort address).toList.length := by
    have hnumber : defaultPort.toList.length = 4 := rfl
    rw [withDefaultPort]
    split
    · simp only [String.toList_append, List.length_append, hnumber]
      omega
    · simp only [String.toList_append, List.length_append, hnumber]
      omega
  constructor
  · intro h
    rw [h] at hlength
    exact Nat.not_lt_zero _ hlength
  · intro h
    rw [h] at hlength
    exact Nat.lt_irrefl _ hlength

theorem effectiveNet_spec (net : String) (hopen : '(' ∉ net.toList)
    (hat : '@' ∉ net.toList) : effectiveNet net ≠ ""
      ∧ '(' ∉ (effectiveNet net).toList ∧ '@' ∉ (effectiveNet net).toList := by
  rw [effectiveNet]
  by_cases hnet : net = ""
  · rw [if_pos hnet]
    decide
  · rw [if_neg hnet]
    exact ⟨hnet, hopen, hat⟩

theorem effectiveAddress_spec (net address : String) (hat : '@' ∉ address.toList) :
    effectiveAddress net address ≠ "" ∧ '@' ∉ (effectiveAddress net address).toList := by
  rw [effectiveAddress]
  by_cases haddress : address = ""
  · rw [if_pos haddress]
    split <;> decide
  · rw [if_neg haddress]
    split
    · exact ⟨(withDefaultPort_ne address).1, at_not_mem_withDefaultPort hat⟩
    · exact ⟨haddress, hat⟩

/-- Of an address that is given, only a missing port is put in. -/
theorem effectiveAddress_eq_self_iff {net address : String} (haddress : address ≠ "") :
    effectiveAddress net address = address ↔ (net = "tcp" → hasPort address.toList = true) := by
  rw [effectiveAddress, if_neg haddress]
  constructor
  · intro h hnet
    by_cases hport : hasPort address.toList = false
    · rw [if_pos ⟨hnet, hport⟩] at h
      exact absurd h (withDefaultPort_ne address).2
    · exact Bool.not_eq_false _ ▸ hport
  · intro h
    refine if_neg ?_
    rintro ⟨hnet, hport⟩
    rw [h hnet] at hport
    cases hport

/-- The entries of a name that was read have no separators of parameters. -/
theorem entry_of_writtenParams {target : List Char} {d : Dsn} (htarget : '/' ∉ target)
    (hparams : ∀ key, d.params.get? key
      = Dictionary.lastValue? key ((writtenParams (afterFirst '?' target)).map paramPair))
    {entry : String × String} (hentry : entry ∈ d.params.entries) :
    ('=' ∉ entry.1.toList ∧ '&' ∉ entry.1.toList ∧ '/' ∉ entry.1.toList)
      ∧ '&' ∉ entry.2.toList ∧ '/' ∉ entry.2.toList := by
  have hlast := (Dictionary.get?_eq_some_iff d.params entry.1 entry.2).2 hentry
  rw [hparams] at hlast
  obtain ⟨before, after, hpairs, -⟩ := (Dictionary.lastValue?_eq_some_iff _ _ _).1 hlast
  have hmem : entry ∈ (writtenParams (afterFirst '?' target)).map paramPair := by
    rw [hpairs]
    exact List.mem_append_right _ List.mem_cons_self
  obtain ⟨param, hparam, rfl⟩ := List.mem_map.1 hmem
  obtain ⟨hamp, hsub⟩ := mem_of_mem_splitOn (mem_writtenParams_iff.1 hparam).1
  have hslash : '/' ∉ param := fun hc => htarget (mem_of_mem_afterFirst (hsub _ hc))
  rw [paramPair, String.toList_ofList, String.toList_ofList]
  refine ⟨⟨not_mem_beforeFirst '=' param, ?_, ?_⟩, ?_, ?_⟩
  · exact fun hc => hamp (mem_of_mem_beforeFirst hc)
  · exact fun hc => hslash (mem_of_mem_beforeFirst hc)
  · exact fun hc => hamp (mem_of_mem_afterFirst hc)
  · exact fun hc => hslash (mem_of_mem_afterFirst hc)

/-- **Every name that was read is separable.** -/
theorem separable_of_parse {s : String} {d : Dsn} (h : parse s = .ok d) : Separable d := by
  cases denotes_of_parse h with
  | empty hs hd =>
    rw [hd]
    have hnone : ∀ entry : String × String,
        entry ∉ (Dictionary.empty : Dictionary String).entries := fun _ => List.not_mem_nil
    exact
      { user := by decide
        hasNet := by decide
        net := by decide
        hasAddress := by decide
        address := by decide
        database := by decide
        keys := fun entry hentry => absurd hentry (hnone entry)
        values := fun entry hentry => absurd hentry (hnone entry) }
  | @parts server target net address hs htarget hplace huser hpassword hnet haddress hdatabase
      hparams =>
    -- every field is a part of the text on the right side of its separators
    obtain ⟨hopen, hnetmem, haddressmem⟩ := mem_of_isPlace hplace
    have hat : '@' ∉ afterLast '@' server := not_mem_afterLast '@' server
    have hneteff := effectiveNet_spec (String.ofList net)
      (by rwa [String.toList_ofList])
      (by rw [String.toList_ofList]; exact fun hc => hat (hnetmem _ hc))
    have haddresseff := effectiveAddress_spec d.net (String.ofList address)
      (by rw [String.toList_ofList]; exact fun hc => hat (haddressmem _ hc))
    rw [← hnet] at hneteff
    rw [← haddress] at haddresseff
    exact
      { user := huser ▸ not_mem_beforeFirst ':' _
        hasNet := hneteff.1
        net := hneteff.2
        hasAddress := haddresseff.1
        address := haddresseff.2
        database := by
          rw [hdatabase]
          exact ⟨fun hc => htarget (mem_of_mem_beforeFirst hc), not_mem_beforeFirst '?' target⟩
        keys := fun entry hentry => (entry_of_writtenParams htarget hparams hentry).1
        values := fun entry hentry => (entry_of_writtenParams htarget hparams hentry).2 }

/-! ## Round trips -/

/-- **A name is read back as itself** exactly if it is separable, its password has a user, and its
address has a port if it needs one. -/
theorem parse_text_eq_ok_iff (d : Dsn) :
    parse d.text = .ok d ↔ Separable d
      ∧ (d.user ≠ "" ∨ d.password = "")
      ∧ (d.net = "tcp" → hasPort d.address.toList = true) := by
  constructor
  · -- what comes back was read, so it is separable, and `parse_text` says what came back
    intro h
    have hsep : Separable d := separable_of_parse h
    rw [parse_text hsep] at h
    have hread := Except.ok.inj h
    have hpassword : (if d.user = "" then "" else d.password) = d.password :=
      congrArg Dsn.password hread
    have haddress : effectiveAddress d.net d.address = d.address := congrArg Dsn.address hread
    refine ⟨hsep, ?_, (effectiveAddress_eq_self_iff hsep.hasAddress).1 haddress⟩
    by_cases hu : d.user = ""
    · rw [if_pos hu] at hpassword
      exact Or.inr hpassword.symm
    · exact Or.inl hu
  · rintro ⟨hsep, hlogin, hport⟩
    have hpassword : (if d.user = "" then "" else d.password) = d.password := by
      by_cases hu : d.user = ""
      · rw [if_pos hu, hlogin.resolve_left fun hne => hne hu]
      · rw [if_neg hu]
    rw [parse_text hsep, hpassword, (effectiveAddress_eq_self_iff hsep.hasAddress).2 hport]

end MysqlDesk.Dsn
