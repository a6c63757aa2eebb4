/-
The normal form of a data source name.

Whoever reads a name and writes it again puts in what was left out. One such round need not be the last:
what it puts in is looked at by the next one. The only thing that a second round can change is the port of
a `tcp` address, since every other field comes back as it was written (`parse_text`). So this file goes
through the shapes of addresses.

An address with a port is left alone. One without a port gets the usual one: if it has colons it is put in
brackets, and the port behind the brackets is found again; if it has none, the port behind its only colon
is found again, unless the address begins with a bracket, since then the port is sought behind a closing
one. So a second round changes something exactly for an address that begins with a bracket, has no colon,
and does not end with the other bracket (`hasPort_withDefaultPort_iff`). After the first round such an
address has a colon too, and there is no third shape: two rounds are always enough.
-/
import MysqlDesk.Proofs.Dsn.Session

set_option autoImplicit false

namespace MysqlDesk.Dsn

open MysqlDesk.Text

/-! ## Addresses and their ports -/

/-- The address opens a bracket that it does not close, and has no colon. -/
def BracketOpen (address : List Char) : Prop :=
  address.head? = some '[' ∧ ':' ∉ address ∧ address.getLast? ≠ some ']'

instance (address : List Char) : Decidable (BracketOpen address) :=
  inferInstanceAs (Decidable (_ ∧ _ ∧ _))

theorem hasPort_cons_bracket (rest : List Char) :
    hasPort ('[' :: rest) = occursIn [']', ':'] rest := rfl

theorem hasPort_of_head {address : List Char} (h : address.head? ≠ some '[') :
    hasPort address = (address.count ':' == 1) := by
  unfold hasPort
  split
  · exact absurd rfl h
  · rfl

/-- A port stands behind a colon. -/
theorem colon_mem_of_hasPort {address : List Char} (h : hasPort address = true) :
    ':' ∈ address := by
  by_cases hhead : address.head? = some '['
  · obtain ⟨rest, rfl⟩ := List.head?_eq_some_iff.1 hhead
    rw [hasPort_cons_bracket, occursIn_iff] at h
    exact List.mem_cons_of_mem _ (h.subset (by simp))
  · rw [hasPort_of_head hhead, beq_iff_eq] at h
    apply List.count_pos_iff.1
    omega

/-- With a single colon in a text, a closing bracket stands before it only at the end of what is before
it. -/
theorem bracket_colon_infix_iff {before after : List Char} (hbefore : ':' ∉ before)
    (hafter : ':' ∉ after) :
    [']', ':'] <:+: before ++ ':' :: after ↔ before.getLast? = some ']' := by
  rw [List.getLast?_eq_some_iff]
  constructor
  · rintro ⟨front, back, h⟩
    have hcolon : (front ++ [']']) ++ ':' :: back = before ++ ':' :: after := by
      rw [← h]
      simp
    -- the two colons are the same one, since there is no other
    rcases append_cons_eq_append_cons hcolon with ⟨hfront, -, -⟩ | ⟨m, hm, -⟩ | ⟨m, -, hm⟩
    · exact ⟨front, hfront.symm⟩
    · exact absurd (hm ▸ by simp) hbefore
    · exact absurd (hm ▸ by simp) hafter
  · rintro ⟨front, rfl⟩
    exact ⟨front, after, by simp⟩

/-- The port that is put in is found again, unless the address opens a bracket and does not close it. -/
theorem hasPort_withDefaultPort_iff (address : String) :
    hasPort (withDefaultPort address).toList = false ↔ BracketOpen address.toList := by
  have hnumber : ':' ∉ defaultPort.toList := by decide
  by_cases hcolon : ':' ∈ address.toList
  · -- the colons of the address are inside the brackets
    have htext : (withDefaultPort address).toList
        = '[' :: (address.toList ++ [']', ':'] ++ defaultPort.toList) := by
      rw [withDefaultPort, if_pos hcolon, String.toList_append, String.toList_append,
        String.toList_append]
      rfl
    have hport : hasPort (withDefaultPort address).toList = true := by
      rw [htext, hasPort_cons_bracket, occursIn_iff]
      exact ⟨address.toList, defaultPort.toList, rfl⟩
    rw [hport]
    refine iff_of_false (by decide) ?_
    rintro ⟨-, hnone, -⟩
    exact hnone hcolon
  · have htext : (withDefaultPort address).toList
        = address.toList ++ ':' :: defaultPort.toList := by
      rw [withDefaultPort, if_neg hcolon, String.toList_append, String.toList_append,
        List.append_assoc]
      rfl
    rw [htext, BracketOpen]
    by_cases hhead : address.toList.head? = some '['
    · -- the port is sought behind a closing bracket
      obtain ⟨rest, hrest⟩ := List.head?_eq_some_iff.1 hhead
      have hnone : ':' ∉ rest := fun hmem => hcolon (hrest ▸ List.mem_cons_of_mem _ hmem)
      have hlast : rest.getLast? = some ']' ↔ address.toList.getLast? = some ']' := by
        rw [hrest, List.getLast?_cons]
        cases rest.getLast? <;> simp
      have hfound := bracket_colon_infix_iff hnone hnumber
      rw [← occursIn_iff, ← hasPort_cons_bracket, ← List.cons_append, ← hrest, hlast] at hfound
      rw [← Bool.not_eq_true, hfound]
      exact ⟨fun h => ⟨hhead, hcolon, h⟩, fun h => h.2.2⟩
    · -- the only colon is the new one
      have hfirst : (address.toList ++ ':' :: defaultPort.toList).head? ≠ some '[' := by
        cases hlist : address.toList with
        | nil => simp
        | cons c rest =>
          rw [hlist] at hhead
          exact hhead
      have hcount : (address.toList ++ ':' :: defaultPort.toList).count ':' = 1 := by
        rw [List.count_append, List.count_cons_self, List.count_eq_zero.2 hcolon,
          List.count_eq_zero.2 hnumber]
      rw [hasPort_of_head hfirst, hcount]
      exact iff_of_false (by decide) fun h => hhead h.1

/-! ## The address after one round and after two -/

/-- On `tcp` the address that is meant always has a colon. -/
theorem colon_mem_effectiveAddress (address : String) :
    ':' ∈ (effectiveAddress "tcp" address).toList := by
  unfold effectiveAddress
  by_cases hempty : address = ""
  · rw [if_pos hempty]
    decide
  · rw [if_neg hempty]
    by_cases hport : hasPort address.toList = false
    · rw [if_pos ⟨rfl, hport⟩, withDefaultPort]
      split <;> simp
    · rw [if_neg fun h => hport h.2]
      exact colon_mem_of_hasPort (Bool.not_eq_false _ ▸ hport)

/-- On `tcp` the address that is meant has a port, unless it was written with a bracket left open. -/
theorem hasPort_effectiveAddress_iff (address : String) :
    hasPort (effectiveAddress "tcp" address).toList = false ↔ BracketOpen address.toList := by
  unfold effectiveAddress
  by_cases hempty : address = ""
  · rw [if_pos hempty, hempty]
    decide
  · rw [if_neg hempty]
    by_cases hport : hasPort address.toList = false
    · rw [if_pos ⟨rfl, hport⟩]
      exact hasPort_withDefaultPort_iff address
    · rw [if_neg fun h => hport h.2]
      refine iff_of_false hport ?_
      rintro ⟨-, hnone, -⟩
      exact hnone (colon_mem_of_hasPort (Bool.not_eq_false _ ▸ hport))

/-! ## A round of a whole name -/

/-- The name after a round of writing and reading. -/
def round (d : Dsn) : Dsn :=
  ({ d with address := effectiveAddress d.net d.address } : Dsn).asWritten

theorem parse_text_eq_round {d : Dsn} (h : Separable d) : parse d.text = .ok d.round :=
  parse_text h

/-- Two names that differ in their addresses are written differently. -/
theorem text_with_address_inj {d : Dsn} {address : String} (h : Separable d) (hne : address ≠ "") :
    ({ d with address } : Dsn).text = d.text ↔ address = d.address := by
  constructor
  · intro htext
    have hlist := congrArg String.toList htext
    rw [toList_text, toList_text,
      toList_placeText (d := { d with address }) h.hasNet hne,
      toList_placeText h.hasNet h.hasAddress] at hlist
    -- everything before and behind the address is the same
    have hplace := List.append_cancel_left (List.append_cancel_right hlist)
    have haddress := List.append_cancel_left hplace
    exact String.toList_inj.1 (List.append_cancel_right (List.cons.inj haddress).2)
  · rintro rfl
    rfl

/-- A round leaves the text as it is exactly if the address has the port that it needs. -/
theorem text_round_eq_iff {d : Dsn} (h : Separable d) :
    d.round.text = d.text ↔ (d.net = "tcp" → hasPort d.address.toList = true) := by
  rw [round, text_asWritten,
    text_with_address_inj h (effectiveAddress_spec d.net d.address h.address).1,
    effectiveAddress_eq_self_iff h.hasAddress]

/-! ## What was written between the parentheses -/

/-- The place of the text is a network with an address in parentheses. -/
def HasPlace (s net address : List Char) : Prop :=
  ∃ server target, s = server ++ '/' :: target ∧ '/' ∉ target
    ∧ '(' ∉ net ∧ afterLast '@' server = net ++ '(' :: (address ++ [')'])

/-- The network is `tcp`, or left out, and the address opens a bracket that it does not close. -/
def NeedsSecondRound (s : List Char) : Prop :=
  ∃ net address, HasPlace s net address
    ∧ (net = [] ∨ net = "tcp".toList) ∧ BracketOpen address

theorem isPlace_inj {place net net' address address' : List Char}
    (h : IsPlace place net address) (h' : IsPlace place net' address') :
    net = net' ∧ address = address' := by
  have hread := readPlace_of_isPlace h
  rw [readPlace_of_isPlace h'] at hread
  obtain ⟨hnet, haddress⟩ := Prod.mk.inj (Except.ok.inj hread)
  exact ⟨(String.ofList_injective hnet).symm, (String.ofList_injective haddress).symm⟩

theorem effectiveNet_eq_tcp_iff (net : List Char) :
    effectiveNet (String.ofList net) = "tcp" ↔ net = [] ∨ net = "tcp".toList := by
  unfold effectiveNet
  by_cases hempty : net = []
  · simp [hempty]
  · rw [if_neg (ofList_ne_empty hempty), or_iff_right hempty]
    constructor
    · intro h
      rw [← h, String.toList_ofList]
    · rintro rfl
      exact String.ofList_toList

/-- A name that was read lacks its port exactly if its text left a bracket open. -/
theorem hasPort_of_parse_iff {s : String} {d : Dsn} (h : parse s = .ok d) :
    (d.net = "tcp" → hasPort d.address.toList = true) ↔ ¬ NeedsSecondRound s.toList := by
  cases denotes_of_parse h with
  | empty hs hd =>
    rw [hs, hd]
    refine iff_of_true (fun _ => by decide) ?_
    rintro ⟨net, address, ⟨server, target, htext, -⟩, -⟩
    exact absurd htext (by simp)
  | @parts server target net address hs htarget hplace huser hpassword hnet haddress hdatabase
      hparams =>
    constructor
    · rintro hport ⟨net', address', ⟨server', target', hs', htarget', hnet', hplace'⟩, htcp, hopen⟩
      -- the last slash is in one place, and so is the parenthesis
      have hsame : server' = server := by
        rw [← (sides_append_last htarget' server').1, ← hs', hs,
          (sides_append_last htarget server).1]
      rw [hsame] at hplace'
      obtain ⟨rfl, rfl⟩ := isPlace_inj hplace (Or.inr ⟨hnet', hplace'⟩)
      have htcp' : d.net = "tcp" := hnet.trans ((effectiveNet_eq_tcp_iff _).2 htcp)
      have hfound := hport htcp'
      rw [haddress, htcp', ← Bool.not_eq_false, hasPort_effectiveAddress_iff,
        String.toList_ofList] at hfound
      exact hfound hopen
    · intro hclosed htcp
      rw [haddress, htcp, ← Bool.not_eq_false, hasPort_effectiveAddress_iff,
        String.toList_ofList]
      intro hopen
      apply hclosed
      rcases hplace with ⟨-, -, rfl⟩ | ⟨hparen, hplace⟩
      · exact absurd hopen.1 (by simp)
      · exact ⟨net, address, ⟨server, target, hs, htarget, hparen, hplace⟩,
          (effectiveNet_eq_tcp_iff net).1 (hnet.symm.trans htcp), hopen⟩

/-! ## Rounds -/

/-- A name on `tcp` that was read has an address with a colon. -/
theorem colon_mem_of_parse {s : String} {d : Dsn} (h : parse s = .ok d) (htcp : d.net = "tcp") :
    ':' ∈ d.address.toList := by
  cases denotes_of_parse h with
  | empty hs hd =>
    rw [hd]
    decide
  | parts hs htarget hplace huser hpassword hnet haddress hdatabase hparams =>
    rw [haddress, htcp]
    exact colon_mem_effectiveAddress _

/-- **One round settles a name that was read.** The second reading finds a colon in every address on
`tcp`, and puts in what is needed for the third one to find a port. -/
theorem settled_round {s : String} {d : Dsn} (h : parse s = .ok d) : Settled d.round := by
  refine ⟨separable_of_parse (parse_text_eq_round (separable_of_parse h)), ?_⟩
  intro htcp
  have hnet : d.net = "tcp" := htcp
  have haddress : d.round.address = effectiveAddress "tcp" d.address := by
    rw [← hnet]
    rfl
  rw [haddress, ← Bool.not_eq_false, hasPort_effectiveAddress_iff]
  rintro ⟨-, hnone, -⟩
  exact hnone (colon_mem_of_parse h hnet)

theorem foldl_change_rewrite (rounds : Nat) (d : Dsn) :
    (List.replicate rounds Edit.rewrite).foldl Edit.change d = d := by
  induction rounds with
  | zero => rfl
  | succ rounds ih => exact ih

/-- From the second round on the text stays the same. -/
theorem session_rewrite {s : String} {d : Dsn} (h : parse s = .ok d) (rounds : Nat) :
    session s (List.replicate (rounds + 2) .rewrite) = .ok d.round.text := by
  have hfirst : Edit.apply s .rewrite = .ok d.text := Edit.apply_of_parse h .rewrite
  have hplain : ∀ e ∈ List.replicate (rounds + 1) Edit.rewrite, e.Plain := by
    intro e he
    rw [List.eq_of_mem_replicate he]
    trivial
  have hrest := session_eq_foldl (parse_text_eq_round (separable_of_parse h)) (settled_round h)
    (by simp) hplain
  rw [foldl_change_rewrite] at hrest
  rw [List.replicate_succ, session_cons hfirst, hrest]

/-- **The normal form of a name.** Let a text be read as a name. Then the written form of that name is read
as a name with the same user, network, database and parameters, and with the same password unless it has
no user. What is written of this second name is the normal form: it is read, and written the same way
again, and so is what any later round writes. The second form differs from the first exactly if the text
has, on `tcp` or on no network, an address in its parentheses that begins with a bracket, has no colon and
does not end with the closing bracket. -/
theorem normal_form {s : String} {d : Dsn} (h : parse s = .ok d) :
    ∃ d₁ d₂, parse d.text = .ok d₁ ∧ parse d₁.text = .ok d₂ ∧ d₂.text = d₁.text
      ∧ (d₁.text ≠ d.text ↔ NeedsSecondRound s.toList)
      ∧ (d₁.user = d.user ∧ d₁.net = d.net ∧ d₁.database = d.database ∧ d₁.params = d.params
        ∧ d₁.password = if d.user = "" then "" else d.password)
      ∧ ∀ rounds, session s (List.replicate (rounds + 2) .rewrite) = .ok d₁.text := by
  have hsep : Separable d := separable_of_parse h
  have hsettled : Settled d.round := settled_round h
  -- the third name has the text of the second, so no later round changes anything
  refine ⟨d.round, d.round.asWritten, parse_text_eq_round hsep, parse_text_of_settled hsettled,
    text_asWritten d.round, ?_, ⟨rfl, rfl, rfl, rfl, rfl⟩, session_rewrite h⟩
  rw [ne_eq, text_round_eq_iff hsep, hasPort_of_parse_iff h, Classical.not_not]

/-- An address that is changed by the second round, and no more by the third. -/
theorem normal_form_of_open_bracket :
    parse "app:pw@tcp([db)/shop?a=1"
        = .ok ⟨"app", "pw", "tcp", "[db:3306", "shop", Dictionary.ofPairs [("a", "1")]⟩
      ∧ ∃ d₁ d₂, parse "app:pw@tcp([db:3306)/shop?a=1" = .ok d₁ ∧ parse d₁.text = .ok d₂
        ∧ d₂.text = d₁.text ∧ d₁.text ≠ "app:pw@tcp([db:3306)/shop?a=1" ∧ d₁.password = "pw" := by
  have hread : parse "app:pw@tcp([db)/shop?a=1"
      = .ok ⟨"app", "pw", "tcp", "[db:3306", "shop", Dictionary.ofPairs [("a", "1")]⟩ := rfl
  have htext : Dsn.text ⟨"app", "pw", "tcp", "[db:3306", "shop", Dictionary.ofPairs [("a", "1")]⟩
      = "app:pw@tcp([db:3306)/shop?a=1" := rfl
  obtain ⟨d₁, d₂, hfirst, hsecond, hsame, hround, ⟨-, -, -, -, hpassword⟩, -⟩ := normal_form hread
  rw [htext] at hfirst hround
  refine ⟨hread, d₁, d₂, hfirst, hsecond, hsame, hround.2 ?_, hpassword⟩
  exact ⟨"tcp".toList, "[db".toList,
    ⟨"app:pw@tcp([db)".toList, "shop?a=1".toList, rfl, by decide, by decide, rfl⟩,
    Or.inr rfl, by decide⟩

end MysqlDesk.Dsn
