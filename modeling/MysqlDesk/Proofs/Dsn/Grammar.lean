/-
The grammar of data source names, and the rule that a faulty one breaks first.

The grammar is given as three statements about a text, none of which mentions the reader. `Accepted` says
which texts are names. `Denotes` says which name an accepted text is. `Refused` says what is wrong with
any other text, in the words of the message; its five rules are listed in the order in which they count,
and each of them asks that those before it are kept.

The proof goes through three lemmas: an accepted text is read as what it denotes, a refused text is
answered with its message, and every text is accepted or refused. That the grammar is unambiguous and
that no text breaks two rules first is then no work of its own, since the reader is a function.
-/
import MysqlDesk.Proofs.Dsn.Reading

set_option autoImplicit false

namespace MysqlDesk.Dsn

open MysqlDesk.Text

/-! ## The grammar -/

/-- The server's place is a network with a usual address, or a network with an address in parentheses,
which may be left empty where there is a usual one. -/
def PlaceAccepted (place : List Char) : Prop :=
  ('(' ∉ place ∧ HasDefault (String.ofList place))
    ∨ ∃ net address, '(' ∉ net ∧ place = net ++ '(' :: (address ++ [')'])
        ∧ (address ≠ [] ∨ HasDefault (String.ofList net))

/-- A text is a name if it is empty, or if it has a slash, an acceptable place between the last at-sign
before the last slash and that slash, and only parameters with an equals sign behind it. -/
def Accepted (s : List Char) : Prop :=
  s = [] ∨ ∃ server target, s = server ++ '/' :: target ∧ '/' ∉ target
    ∧ PlaceAccepted (afterLast '@' server)
    ∧ ∀ param ∈ (afterFirst '?' target).splitOn '&', param ≠ [] → '=' ∈ param

/-- The name that an accepted text denotes. -/
inductive Denotes (s : List Char) (d : Dsn) : Prop where
  /-- The empty text leaves everything out. -/
  | empty (hs : s = []) (hd : d = ⟨"", "", "tcp", "127.0.0.1:3306", "", Dictionary.empty⟩)
  /-- Any other text has its fields between its separators. -/
  | parts {server target net address : List Char}
      (hs : s = server ++ '/' :: target) (htarget : '/' ∉ target)
      (hplace : IsPlace (afterLast '@' server) net address)
      (huser : d.user.toList = beforeFirst ':' (beforeLast '@' server))
      (hpassword : d.password.toList = afterFirst ':' (beforeLast '@' server))
      (hnet : d.net = effectiveNet (String.ofList net))
      (haddress : d.address = effectiveAddress d.net (String.ofList address))
      (hdatabase : d.database.toList = beforeFirst '?' target)
      (hparams : ∀ key, d.params.get? key
        = Dictionary.lastValue? key ((writtenParams (afterFirst '?' target)).map paramPair))

/-- The first rule that a text breaks, by its message. -/
inductive Refused (s : List Char) : String → Prop where
  | missingSlash (hne : s ≠ []) (hslash : '/' ∉ s) :
      Refused s "missing the slash separating the database name"
  | textAfterAddress {server target : List Char}
      (hs : s = server ++ '/' :: target) (htarget : '/' ∉ target)
      (hopen : '(' ∈ afterLast '@' server) (hlast : (afterLast '@' server).getLast? ≠ some ')')
      (hclose : ')' ∈ afterFirst '(' (afterLast '@' server)) :
      Refused s "did you forget to escape a param value?"
  | addressNotClosed {server target : List Char}
      (hs : s = server ++ '/' :: target) (htarget : '/' ∉ target)
      (hopen : '(' ∈ afterLast '@' server) (hlast : (afterLast '@' server).getLast? ≠ some ')')
      (hclose : ')' ∉ afterFirst '(' (afterLast '@' server)) :
      Refused s "network address not terminated (missing closing brace)"
  | badParam {server target param : List Char} {before after : List (List Char)}
      (hs : s = server ++ '/' :: target) (htarget : '/' ∉ target)
      (hplace : '(' ∈ afterLast '@' server → (afterLast '@' server).getLast? = some ')')
      (hparams : writtenParams (afterFirst '?' target) = before ++ param :: after)
      (hbefore : ∀ p ∈ before, '=' ∈ p) (hbad : '=' ∉ param) :
      Refused s ("invalid parameter '" ++ String.ofList param ++ "'")
  | noDefaultAddress {server target net : List Char}
      (hs : s = server ++ '/' :: target) (htarget : '/' ∉ target)
      (hplace : IsPlace (afterLast '@' server) net [])
      (hparams : ∀ param ∈ writtenParams (afterFirst '?' target), '=' ∈ param)
      (hnet : ¬ HasDefault (String.ofList net)) :
      Refused s ("default addr for network '" ++ String.ofList net ++ "' unknown")

/-! ## Accepted texts -/

theorem isPlace_of_placeAccepted {place : List Char} (h : PlaceAccepted place) :
    ∃ net address, IsPlace place net address
      ∧ (address ≠ [] ∨ HasDefault (String.ofList net)) := by
  rcases h with ⟨hopen, hnet⟩ | ⟨net, address, hnet, hplace, hdefault⟩
  · exact ⟨place, [], Or.inl ⟨hopen, rfl, rfl⟩, Or.inr hnet⟩
  · exact ⟨net, address, Or.inr ⟨hnet, hplace⟩, hdefault⟩

theorem ofList_ne_empty {s : List Char} (h : s ≠ []) : String.ofList s ≠ "" := by
  intro hs
  apply h
  have hlist := congrArg String.toList hs
  rw [String.toList_ofList] at hlist
  exact hlist

/-- An accepted text is read as the name that it denotes. -/
theorem parse_of_accepted {s : String} (h : Accepted s.toList) :
    ∃ d, parse s = .ok d ∧ Denotes s.toList d := by
  rcases h with hempty | ⟨server, target, hs, htarget, hplace, hparams⟩
  · -- the empty text has no slash, and is the only such text that is read
    have hnil : s = "" := String.toList_eq_nil_iff.1 hempty
    have hslash : '/' ∉ s.toList := by rw [hempty]; exact List.not_mem_nil
    rw [parse_of_not_mem hslash, if_pos hnil]
    exact ⟨_, rfl, Denotes.empty hempty rfl⟩
  · obtain ⟨net, address, hisplace, hdefault⟩ := isPlace_of_placeAccepted hplace
    have hwritten : ∀ param ∈ writtenParams (afterFirst '?' target), '=' ∈ param := by
      intro param hparam
      obtain ⟨hpiece, hne⟩ := mem_writtenParams_iff.1 hparam
      exact hparams param hpiece hne
    have hcomplete : String.ofList address ≠ "" ∨ HasDefault (String.ofList net) :=
      hdefault.imp_left ofList_ne_empty
    rw [parse_of_slash hs htarget, readPlace_of_isPlace hisplace]
    show ∃ d, (readParams (afterFirst '?' target)).bind _ = Except.ok d ∧ _
    rw [readParams_eq_mapM, mapM_readParam_of_forall hwritten]
    refine ⟨_, normalize_of_address hcomplete, ?_⟩
    exact Denotes.parts hs htarget hisplace String.toList_ofList String.toList_ofList rfl rfl
      String.toList_ofList fun key => Dictionary.get?_ofPairs _ key

/-! ## Refused texts -/

/-- A refused text is answered with its message. -/
theorem parse_of_refused {s : String} {reason : String} (h : Refused s.toList reason) :
    ∃ f, parse s = .error f ∧ f.reason = reason := by
  cases h with
  | missingSlash hne hslash =>
    have hs : s ≠ "" := fun hs => hne (by rw [hs]; rfl)
    refine ⟨.missingSlash, ?_, rfl⟩
    rw [parse_of_not_mem hslash, if_neg hs]
  | textAfterAddress hs htarget hopen hlast hclose =>
    refine ⟨.textAfterAddress, ?_, rfl⟩
    rw [parse_of_slash hs htarget, readPlace_of_unclosed hopen hlast, if_pos hclose]
    rfl
  | addressNotClosed hs htarget hopen hlast hclose =>
    refine ⟨.addressNotClosed, ?_, rfl⟩
    rw [parse_of_slash hs htarget, readPlace_of_unclosed hopen hlast, if_neg hclose]
    rfl
  | badParam hs htarget hplace hparams hbefore hbad =>
    obtain ⟨net, address, hisplace⟩ := exists_isPlace hplace
    refine ⟨.badParam _, ?_, rfl⟩
    rw [parse_of_slash hs htarget, readPlace_of_isPlace hisplace]
    show (readParams _).bind _ = _
    rw [readParams_eq_mapM, hparams, mapM_readParam_of_bad hbefore hbad]
    rfl
  | noDefaultAddress hs htarget hplace hparams hnet =>
    refine ⟨.noDefaultAddress _, ?_, rfl⟩
    rw [parse_of_slash hs htarget, readPlace_of_isPlace hplace]
    show (readParams _).bind _ = _
    rw [readParams_eq_mapM, mapM_readParam_of_forall hparams]
    show normalize (writtenFields _ _ (String.ofList _, "") _) = _
    rw [normalize_of_unknown (d := writtenFields _ _ (String.ofList _, "") _) rfl hnet]
    rfl

/-! ## Every text is one or the other -/

/-- A well formed place is acceptable if it has an address or a network with a usual one. -/
theorem placeAccepted_of_isPlace {place net address : List Char} (h : IsPlace place net address)
    (hdefault : address ≠ [] ∨ HasDefault (String.ofList net)) : PlaceAccepted place := by
  rcases h with ⟨hopen, rfl, rfl⟩ | ⟨hnet, hplace⟩
  · exact Or.inl ⟨hopen, hdefault.resolve_left fun h => h rfl⟩
  · exact Or.inr ⟨net, address, hnet, hplace, hdefault⟩

/-- A text is accepted or breaks a rule. The rules are tried in the order in which they count. -/
theorem accepted_or_refused (s : List Char) : Accepted s ∨ ∃ reason, Refused s reason := by
  by_cases hslash : '/' ∈ s
  · -- the place counts before the parameters, and these before a missing address
    obtain ⟨server, target, hs, htarget⟩ := exists_target hslash
    by_cases hclosed : '(' ∈ afterLast '@' server → (afterLast '@' server).getLast? = some ')'
    · rcases forall_or_exists_first (fun param => '=' ∈ param)
          (writtenParams (afterFirst '?' target)) with
        hparams | ⟨before, param, after, hwritten, hbefore, hbad⟩
      · obtain ⟨net, address, hplace⟩ := exists_isPlace hclosed
        by_cases hdefault : address ≠ [] ∨ HasDefault (String.ofList net)
        · refine Or.inl (Or.inr ⟨server, target, hs, htarget, ?_, ?_⟩)
          · exact placeAccepted_of_isPlace hplace hdefault
          · intro param hparam hne
            exact hparams param (mem_writtenParams_iff.2 ⟨hparam, hne⟩)
        · obtain ⟨haddress, hnet⟩ := not_or.1 hdefault
          have hempty : address = [] := Classical.not_not.1 haddress
          rw [hempty] at hplace
          exact Or.inr ⟨_, Refused.noDefaultAddress hs htarget hplace hparams hnet⟩
      · exact Or.inr ⟨_, Refused.badParam hs htarget hclosed hwritten hbefore hbad⟩
    · obtain ⟨hopen, hlast⟩ := Classical.not_imp.1 hclosed
      by_cases hclose : ')' ∈ afterFirst '(' (afterLast '@' server)
      · exact Or.inr ⟨_, Refused.textAfterAddress hs htarget hopen hlast hclose⟩
      · exact Or.inr ⟨_, Refused.addressNotClosed hs htarget hopen hlast hclose⟩
  · by_cases hs : s = []
    · exact Or.inl (Or.inl hs)
    · exact Or.inr ⟨_, Refused.missingSlash hs hslash⟩

/-! ## The reader follows the grammar -/

theorem denotes_of_parse {s : String} {d : Dsn} (h : parse s = .ok d) : Denotes s.toList d := by
  rcases accepted_or_refused s.toList with hacc | ⟨reason, href⟩
  · obtain ⟨d', hd', hdenotes⟩ := parse_of_accepted hacc
    rw [h] at hd'
    rw [Except.ok.inj hd']
    exact hdenotes
  · obtain ⟨f, hf, -⟩ := parse_of_refused href
    exact absurd h (parse_ne_ok hf d)

/-- **The grammar of data source names.** A text is read exactly if the grammar accepts it, as a name
that it denotes; and it is answered with a message exactly if that is the message of the first rule
that it breaks. -/
theorem parse_grammar (s : String) :
    ((∃ d, parse s = .ok d) ↔ Accepted s.toList)
      ∧ (∀ d, parse s = .ok d → Denotes s.toList d)
      ∧ ∀ reason, (∃ f, parse s = .error f ∧ f.reason = reason) ↔ Refused s.toList reason := by
  refine ⟨?_, fun d => denotes_of_parse, ?_⟩
  · constructor
    · rintro ⟨d, hd⟩
      rcases accepted_or_refused s.toList with hacc | ⟨reason, href⟩
      · exact hacc
      · obtain ⟨f, hf, -⟩ := parse_of_refused href
        exact absurd hd (parse_ne_ok hf d)
    · intro hacc
      obtain ⟨d, hd, -⟩ := parse_of_accepted hacc
      exact ⟨d, hd⟩
  · intro reason
    refine ⟨?_, parse_of_refused⟩
    rintro ⟨f, hf, rfl⟩
    rcases accepted_or_refused s.toList with hacc | ⟨reason, href⟩
    · obtain ⟨d, hd, -⟩ := parse_of_accepted hacc
      exact absurd hd (parse_ne_ok hf d)
    · obtain ⟨f', hf', rfl⟩ := parse_of_refused href
      rw [hf] at hf'
      rw [Except.error.inj hf']
      exact href

end MysqlDesk.Dsn
