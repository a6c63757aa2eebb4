/-
What the masked form of an unreadable name says of its password.

The text `user:password@rest` is looked at here for every password at once. The search of
`Proofs.Dsn.Stretch` does not know where the password is. It covers the password as long as no stretch
begins behind the colon of the user or ends inside the password; a text where one does is `Exposed`,
and nothing is said of it. Of all other passwords the masked form tells one thing only: whether there
was something to mask.

The argument is about one text at a time. Where the password is not exposed, the stretches are known
(`stretch_iff_of_not_exposed`): each is the password with what stands behind it up to an at-sign. So the
one that is masked ends at the first of these at-signs, and where this is depends on the rest alone
(`chosen_iff_of_not_exposed`). What is shown then is `Shown`, with a tail that all passwords share.
-/
import MysqlDesk.Proofs.Dsn.Reading
import MysqlDesk.Proofs.Dsn.Stretch

set_option autoImplicit false

namespace MysqlDesk.Dsn

open MysqlDesk.Text

/-- The text with this user and password before the rest. -/
def withLogin (user password rest : String) : String :=
  user ++ ":" ++ password ++ "@" ++ rest

/-- Some stretch begins behind the colon of the user, or ends inside the password. -/
def Exposed (user password rest : String) : Prop :=
  ∃ a b c, Stretch (withLogin user password rest).toList a b c
    ∧ (user.toList.length < a.length ∨ b.length < password.toList.length)

variable {user password rest : String}

theorem toList_withLogin (user password rest : String) :
    (withLogin user password rest).toList
      = user.toList ++ ':' :: (password.toList ++ '@' :: rest.toList) := by
  rw [withLogin, String.toList_append, String.toList_append, String.toList_append,
    String.toList_append, List.append_assoc, List.append_assoc, List.append_assoc]
  rfl

/-! ## The stretches of a text with a login -/

/-- No stretch begins before the colon of the user. -/
theorem begin_of_stretch (huser : ':' ∉ user.toList) {a b c : List Char}
    (h : Stretch (withLogin user password rest).toList a b c) :
    a = user.toList ∨ user.toList.length < a.length := by
  have htext := h.text
  rw [toList_withLogin] at htext
  rcases append_cons_eq_append_cons htext with ⟨ha, -, -⟩ | ⟨m, ha, -⟩ | ⟨m, ha, -⟩
  · exact Or.inl ha.symm
  · refine Or.inr ?_
    rw [ha, List.length_append, List.length_cons]
    omega
  · exact absurd (ha ▸ List.mem_append_right _ List.mem_cons_self) huser

/-- It is the stretch that is masked which exposes a password. -/
theorem exposed_iff_chosen (huser : ':' ∉ user.toList) :
    Exposed user password rest ↔
      ∃ a b c, Chosen (withLogin user password rest).toList a b c
        ∧ (user.toList.length < a.length ∨ b.length < password.toList.length) := by
  constructor
  · rintro ⟨a, b, c, h, hexposed⟩
    obtain ⟨a', b', c', hchosen⟩ := exists_chosen h
    refine ⟨a', b', c', hchosen, ?_⟩
    rcases begin_of_stretch huser hchosen.stretch with rfl | hlater
    · have hlast := hchosen.last a b c h
      rcases begin_of_stretch huser h with rfl | hlt
      · refine hexposed.imp id fun hshort => ?_
        exact Nat.lt_of_le_of_lt (hchosen.shortest b c h) hshort
      · exact absurd hlast (Nat.not_le_of_lt hlt)
    · exact Or.inl hlater
  · rintro ⟨a, b, c, hchosen, hexposed⟩
    exact ⟨a, b, c, hchosen.stretch, hexposed⟩

/-- Where the password is not exposed, every stretch begins at the colon of the user and goes on
at least to the end of the password. -/
theorem stretch_of_not_exposed (huser : ':' ∉ user.toList)
    (hkept : ¬ Exposed user password rest) {a b c : List Char}
    (h : Stretch (withLogin user password rest).toList a b c) :
    a = user.toList ∧ ∃ w, b = password.toList ++ w ∧ '@' :: rest.toList = w ++ '@' :: c := by
  have ha : a = user.toList := by
    refine (begin_of_stretch huser h).resolve_right fun hlt => ?_
    exact hkept ⟨a, b, c, h, Or.inl hlt⟩
  have hend : password.toList.length ≤ b.length := by
    refine Nat.not_lt.1 fun hlt => ?_
    exact hkept ⟨a, b, c, h, Or.inr hlt⟩
  have htext := h.text
  rw [toList_withLogin, ha] at htext
  have hlogin := (List.cons.inj (List.append_cancel_left htext)).2
  refine ⟨ha, ?_⟩
  rcases append_cons_eq_append_cons hlogin with ⟨hb, -, hrest⟩ | ⟨m, hb, hrest⟩ | ⟨m, hb, -⟩
  · exact ⟨[], by rw [hb, List.append_nil], by rw [hrest]; rfl⟩
  · exact ⟨'@' :: m, hb, by rw [hrest]; rfl⟩
  · rw [hb, List.length_append, List.length_cons] at hend
    omega

/-- A password is not exposed if it has no separator of its own and the text behind it has not both. -/
theorem not_exposed (huser : ':' ∉ user.toList)
    (hcolon : ':' ∉ password.toList) (hat : '@' ∉ password.toList)
    (hrest : ':' ∉ rest.toList ∨ '@' ∉ rest.toList) : ¬ Exposed user password rest := by
  rintro ⟨a, b, c, h, hlt⟩
  have htext := h.text
  rw [toList_withLogin] at htext
  rcases append_cons_eq_append_cons htext with ⟨ha, -, hlogin⟩ | ⟨m, -, hlogin⟩ | ⟨m, ha, -⟩
  · -- the stretch begins where it should, so it would have to end at an at-sign of the password
    have hshort : b.length < password.toList.length :=
      hlt.resolve_left (by rw [ha]; exact Nat.lt_irrefl _)
    rcases append_cons_eq_append_cons hlogin with ⟨hb, -, -⟩ | ⟨m, hb, -⟩ | ⟨m, hb, -⟩
    · rw [hb] at hshort
      exact Nat.lt_irrefl _ hshort
    · rw [hb, List.length_append] at hshort
      omega
    · exact hat (hb ▸ List.mem_append_right _ List.mem_cons_self)
  · -- a stretch behind the password has its colon and its at-sign there
    rcases append_cons_eq_append_cons hlogin with ⟨-, hne, -⟩ | ⟨m', -, htail⟩ | ⟨m', hm, -⟩
    · exact absurd hne (by decide)
    · rw [htail] at hrest
      rcases hrest with hrest | hrest
      · exact hrest (List.mem_append_right _ List.mem_cons_self)
      · exact hrest (by simp)
    · exact hcolon (hm ▸ List.mem_append_right _ List.mem_cons_self)
  · exact huser (ha ▸ List.mem_append_right _ List.mem_cons_self)

/-- **The stretches of a text whose password is not exposed.** They begin with the password and end where the
text behind it allows, and there is none if a line ends in the user or the password has a slash. -/
theorem stretch_iff_of_not_exposed (huser : ':' ∉ user.toList)
    (hkept : ¬ Exposed user password rest) {a b c : List Char} :
    Stretch (withLogin user password rest).toList a b c ↔
      a = user.toList ∧ '\n' ∉ user.toList ∧ '/' ∉ password.toList
        ∧ ∃ w, b = password.toList ++ w ∧ Ends ('@' :: rest.toList) w c := by
  constructor
  · intro h
    obtain ⟨rfl, w, rfl, hrest⟩ := stretch_of_not_exposed huser hkept h
    obtain ⟨hpassword, hw⟩ : '/' ∉ password.toList ∧ '/' ∉ w := by
      rw [← not_or, ← List.mem_append]
      exact h.noSlash
    exact ⟨rfl, h.firstLine, hpassword, w, rfl, hrest, hw, h.lastLine⟩
  · rintro ⟨rfl, hline, hslash, w, rfl, hends⟩
    refine ⟨?_, hline, List.not_mem_append hslash hends.noSlash, hends.lastLine⟩
    rw [toList_withLogin, hends.text, List.append_assoc]

/-- The stretch that is masked goes on behind the password to the first at-sign that can end it, and where
this is does not depend on the password. -/
theorem chosen_iff_of_not_exposed (huser : ':' ∉ user.toList)
    (hkept : ¬ Exposed user password rest) {a b c : List Char} :
    Chosen (withLogin user password rest).toList a b c ↔
      a = user.toList ∧ '\n' ∉ user.toList ∧ '/' ∉ password.toList
        ∧ ∃ w, b = password.toList ++ w ∧ FirstEnd ('@' :: rest.toList) w c := by
  have hstretch {a b c : List Char} :=
    stretch_iff_of_not_exposed huser hkept (a := a) (b := b) (c := c)
  constructor
  · intro h
    obtain ⟨rfl, hline, hslash, w, rfl, hends⟩ := hstretch.1 h.stretch
    refine ⟨rfl, hline, hslash, w, rfl, hends, fun w' c' hends' => ?_⟩
    have hle := h.shortest _ c' (hstretch.2 ⟨rfl, hline, hslash, w', rfl, hends'⟩)
    rw [List.length_append, List.length_append] at hle
    exact Nat.le_of_add_le_add_left hle
  · rintro ⟨rfl, hline, hslash, w, rfl, hfirst⟩
    refine ⟨hstretch.2 ⟨rfl, hline, hslash, w, rfl, hfirst.toEnds⟩, fun a' b' c' h => ?_,
      fun b' c' h => ?_⟩
    · rw [(hstretch.1 h).1]
    · obtain ⟨-, -, -, w', rfl, hends'⟩ := hstretch.1 h
      rw [List.length_append, List.length_append]
      exact Nat.add_le_add_left (hfirst.shortest w' c' hends') _

/-- A password is not exposed exactly if the stretch that is masked, if any, covers it. -/
theorem not_exposed_iff_covered (huser : ':' ∉ user.toList) :
    ¬ Exposed user password rest ↔
      ∀ a b c, Chosen (withLogin user password rest).toList a b c →
        a = user.toList ∧ password.toList <+: b := by
  constructor
  · intro hkept a b c h
    obtain ⟨ha, -, -, w, rfl, -⟩ := (chosen_iff_of_not_exposed huser hkept).1 h
    exact ⟨ha, List.prefix_append _ w⟩
  · rw [exposed_iff_chosen huser]
    rintro hcovered ⟨a, b, c, h, hexposed⟩
    obtain ⟨rfl, hpassword⟩ := hcovered a b c h
    rcases hexposed with hlater | hshort
    · exact Nat.lt_irrefl _ hlater
    · exact Nat.not_le_of_lt hshort hpassword.length_le

/-- What holds of the stretch that is masked, if there is one. There is none if a line ends in the user or the
password has a slash, and else it is known up to the place where the text behind ends it. -/
theorem forall_chosen_iff_of_not_exposed (huser : ':' ∉ user.toList)
    (hkept : ¬ Exposed user password rest) (P : List Char → Prop) :
    (∀ a b c, Chosen (withLogin user password rest).toList a b c → P b) ↔
      '\n' ∈ user.toList ∨ '/' ∈ password.toList
        ∨ ∀ w c, FirstEnd ('@' :: rest.toList) w c → P (password.toList ++ w) := by
  have hchosen {a b c : List Char} :=
    chosen_iff_of_not_exposed huser hkept (a := a) (b := b) (c := c)
  constructor
  · intro hall
    by_cases hline : '\n' ∈ user.toList
    · exact Or.inl hline
    by_cases hslash : '/' ∈ password.toList
    · exact Or.inr (Or.inl hslash)
    refine Or.inr (Or.inr fun w c hfirst => ?_)
    exact hall _ _ c (hchosen.2 ⟨rfl, hline, hslash, w, rfl, hfirst⟩)
  · intro h a b c hab
    obtain ⟨-, hline, hslash, w, rfl, hfirst⟩ := hchosen.1 hab
    rcases h with h | h | h
    · exact absurd h hline
    · exact absurd h hslash
    · exact h w c hfirst

/-- Whether there is a stretch is up to the user and the text behind, and to the password only in so far as
it may have a slash. -/
theorem no_stretch_iff_of_not_exposed (huser : ':' ∉ user.toList)
    (hkept : ¬ Exposed user password rest) :
    (∀ a b c, ¬ Stretch (withLogin user password rest).toList a b c) ↔
      '\n' ∈ user.toList ∨ '/' ∈ password.toList ∨ ∀ w c, ¬ Ends ('@' :: rest.toList) w c := by
  have hends : (∀ w c, ¬ Ends ('@' :: rest.toList) w c)
      ↔ ∀ w c, FirstEnd ('@' :: rest.toList) w c → False := by
    refine ⟨fun hnone w c hfirst => hnone w c hfirst.toEnds, fun hnone w c h => ?_⟩
    obtain ⟨w', c', hfirst⟩ := exists_firstEnd h
    exact hnone w' c' hfirst
  rw [forall_not_stretch_iff, hends]
  exact forall_chosen_iff_of_not_exposed huser hkept fun _ => False

/-- What a password that is not exposed can decide: there is nothing to mask if it has a slash, or if
it is the mask up to the at-sign that ends the stretch. The rest is up to the user and the text
behind. -/
theorem blank_iff_of_not_exposed (huser : ':' ∉ user.toList)
    (hkept : ¬ Exposed user password rest) :
    Blank (withLogin user password rest).toList ↔
      '\n' ∈ user.toList ∨ '/' ∈ password.toList
        ∨ ∀ w c, FirstEnd ('@' :: rest.toList) w c → password.toList ++ w = passwordMask.toList :=
  forall_chosen_iff_of_not_exposed huser hkept fun b => b = passwordMask.toList

/-! ## The forms that are shown -/

theorem mask_of_unread {s : String} (h : ∀ d, parse s ≠ .ok d) : mask s = maskUnread s := by
  rw [mask]
  cases hs : parse s with
  | ok d => exact absurd hs (h d)
  | error f => rfl

theorem maskedForm_ne_passwordMask (a c : List Char) :
    String.ofList (maskedForm a c) ≠ passwordMask := by
  -- the mask alone is shorter
  intro h
  have hlength := congrArg (fun s : String => s.toList.length) h
  have hmask : passwordMask.toList.length = 8 := rfl
  simp only [String.toList_ofList, maskedForm, List.length_append, List.length_cons, hmask]
    at hlength
  omega

theorem ofList_maskedForm (user : String) (tail : List Char) :
    String.ofList (maskedForm user.toList tail) = user ++ ":********@" ++ String.ofList tail := by
  apply String.toList_injective
  rw [String.toList_ofList, String.toList_append, String.toList_append, String.toList_ofList,
    String.toList_ofList, List.append_assoc]
  rfl

/-- What is shown of a text with a login whose password is not exposed: the mask alone, or the user, the
mask and then the tail. -/
structure Shown (user password rest : String) (tail : List Char) : Prop where
  /-- Where there is nothing to mask, the mask stands alone. -/
  alone : Blank (withLogin user password rest).toList →
    mask (withLogin user password rest) = "********"
  /-- Else the stretch behind the colon of the user is masked, and the tail is what follows the stretch. -/
  masked : ¬ Blank (withLogin user password rest).toList →
    ∃ b, Chosen (withLogin user password rest).toList user.toList b tail
      ∧ mask (withLogin user password rest) = user ++ ":********@" ++ String.ofList tail
  /-- There is nothing to mask if there is no stretch, or if the stretch is the mask already. -/
  blank : Blank (withLogin user password rest).toList ↔
    (∀ a b c, ¬ Stretch (withLogin user password rest).toList a b c)
      ∨ ∃ a c, Chosen (withLogin user password rest).toList a "********".toList c
  /-- Whether there is a stretch depends on the password only through its having a slash. -/
  slash : (∀ a b c, ¬ Stretch (withLogin user password rest).toList a b c) ↔
    '\n' ∈ user.toList ∨ '/' ∈ password.toList ∨ ∀ w c, ¬ Ends ('@' :: rest.toList) w c
  /-- Of a password without a slash it counts only whether it is the mask, up to the at-sign that ends the
  stretch. -/
  already : Blank (withLogin user password rest).toList ↔
    '\n' ∈ user.toList ∨ '/' ∈ password.toList
      ∨ ∀ w c, FirstEnd ('@' :: rest.toList) w c → password.toList ++ w = "********".toList

/-- **One text.** The tail is what the text behind the password has behind its first end. -/
theorem shown_of_not_exposed (huser : ':' ∉ user.toList)
    (hunread : ∀ d, parse (withLogin user password rest) ≠ .ok d)
    (hkept : ¬ Exposed user password rest) {tail : List Char}
    (htail : ∀ w c, FirstEnd ('@' :: rest.toList) w c → c = tail) :
    Shown user password rest tail where
  alone := by
    intro hblank
    rw [mask_of_unread hunread]
    rcases maskUnread_cases (withLogin user password rest) with ⟨-, hmask⟩ | ⟨hsome, -⟩
    · exact hmask
    · exact absurd hblank hsome
  masked := by
    intro hsome
    rcases maskUnread_cases (withLogin user password rest) with
      ⟨hblank, -⟩ | ⟨-, a, b, c, hchosen, hmask⟩
    · exact absurd hblank hsome
    · obtain ⟨rfl, -, -, w, -, hfirst⟩ := (chosen_iff_of_not_exposed huser hkept).1 hchosen
      obtain rfl := htail w c hfirst
      rw [mask_of_unread hunread, hmask, ofList_maskedForm]
      exact ⟨b, hchosen, rfl⟩
  blank := blank_iff
  slash := no_stretch_iff_of_not_exposed huser hkept
  already := blank_iff_of_not_exposed huser hkept

/-- **Masking does not tell passwords apart.** Two unreadable texts with the same user and the same
rest, in which the password is not exposed, are shown in the same form exactly if there is something to
mask in both or in neither. Where there is nothing to mask the mask stands alone, and where there is both
are the user, the mask and the same tail. A password is not exposed exactly if the stretch that is masked
covers it. -/
theorem mask_eq_mask_iff {password₁ password₂ : String} (huser : ':' ∉ user.toList)
    (hunread₁ : ∀ d, parse (withLogin user password₁ rest) ≠ .ok d)
    (hunread₂ : ∀ d, parse (withLogin user password₂ rest) ≠ .ok d)
    (hkept₁ : ¬ Exposed user password₁ rest) (hkept₂ : ¬ Exposed user password₂ rest) :
    (mask (withLogin user password₁ rest) = mask (withLogin user password₂ rest)
      ↔ (Blank (withLogin user password₁ rest).toList
          ↔ Blank (withLogin user password₂ rest).toList))
    ∧ (∃ tail, Shown user password₁ rest tail ∧ Shown user password₂ rest tail)
    ∧ ∀ password : String, ¬ Exposed user password rest ↔
        ∀ a b c, Chosen (withLogin user password rest).toList a b c →
          a = user.toList ∧ password.toList <+: b := by
  obtain ⟨tail, htail⟩ := exists_tail ('@' :: rest.toList)
  have hshown₁ := shown_of_not_exposed huser hunread₁ hkept₁ htail
  have hshown₂ := shown_of_not_exposed huser hunread₂ hkept₂ htail
  refine ⟨?_, ⟨tail, hshown₁, hshown₂⟩, fun password => not_exposed_iff_covered huser⟩
  -- the mask alone is no form of a text in which something is masked
  have hne : user ++ ":********@" ++ String.ofList tail ≠ "********" := by
    rw [← ofList_maskedForm]
    exact maskedForm_ne_passwordMask _ _
  by_cases hblank₁ : Blank (withLogin user password₁ rest).toList
  · rw [hshown₁.alone hblank₁, iff_true_left hblank₁]
    by_cases hblank₂ : Blank (withLogin user password₂ rest).toList
    · exact iff_of_true (hshown₂.alone hblank₂).symm hblank₂
    · obtain ⟨-, -, hmask₂⟩ := hshown₂.masked hblank₂
      rw [hmask₂]
      exact iff_of_false hne.symm hblank₂
  · obtain ⟨-, -, hmask₁⟩ := hshown₁.masked hblank₁
    rw [hmask₁, iff_false_left hblank₁]
    by_cases hblank₂ : Blank (withLogin user password₂ rest).toList
    · rw [hshown₂.alone hblank₂]
      exact iff_of_false hne (not_not_intro hblank₂)
    · obtain ⟨-, -, hmask₂⟩ := hshown₂.masked hblank₂
      rw [hmask₂]
      exact iff_of_true rfl hblank₂

/-- Three passwords in a text whose address is not closed, none of them exposed. Two are shown alike. The
third has a slash, so there is nothing to mask in it. -/
theorem mask_eq_mask_iff_unclosed :
    (∀ password ∈ ["secret", "hunter2", "se/cret"],
      (∀ d, parse (withLogin "app" password "tcp(db") ≠ .ok d) ∧ ¬ Exposed "app" password "tcp(db")
      ∧ mask (withLogin "app" "secret" "tcp(db") = mask (withLogin "app" "hunter2" "tcp(db")
      ∧ mask (withLogin "app" "secret" "tcp(db") ≠ mask (withLogin "app" "se/cret" "tcp(db")
      ∧ mask (withLogin "app" "se/cret" "tcp(db") = "********" := by
  have hunread₁ : ∀ d, parse (withLogin "app" "secret" "tcp(db") ≠ .ok d :=
    parse_ne_ok (f := .missingSlash) rfl
  have hunread₂ : ∀ d, parse (withLogin "app" "hunter2" "tcp(db") ≠ .ok d :=
    parse_ne_ok (f := .missingSlash) rfl
  have hunread₃ : ∀ d, parse (withLogin "app" "se/cret" "tcp(db") ≠ .ok d :=
    parse_ne_ok (f := .noDefaultAddress "app:se") rfl
  have hkept {password : String} (hcolon : ':' ∉ password.toList) (hat : '@' ∉ password.toList) :
      ¬ Exposed "app" password "tcp(db" :=
    not_exposed (by decide) hcolon hat (.inl (by decide))
  have hkept₁ : ¬ Exposed "app" "secret" "tcp(db" := hkept (by decide) (by decide)
  have hkept₂ : ¬ Exposed "app" "hunter2" "tcp(db" := hkept (by decide) (by decide)
  have hkept₃ : ¬ Exposed "app" "se/cret" "tcp(db" := hkept (by decide) (by decide)
  obtain ⟨halike, ⟨tail, hshown₁, hshown₂⟩, -⟩ :=
    mask_eq_mask_iff (by decide) hunread₁ hunread₂ hkept₁ hkept₂
  obtain ⟨hdiffer, ⟨_, -, hshown₃⟩, -⟩ :=
    mask_eq_mask_iff (by decide) hunread₁ hunread₃ hkept₁ hkept₃
  -- the at-sign behind the password is the first end of the rest, so the stretch is the password alone
  have hfirst : FirstEnd ('@' :: "tcp(db".toList) [] "tcp(db".toList := firstEnd_nil (by decide)
  have hsome {password : String} {tail : List Char} (h : Shown "app" password "tcp(db" tail)
      (hslash : '/' ∉ password.toList) (hmask : password.toList ++ [] ≠ "********".toList) :
      ¬ Blank (withLogin "app" password "tcp(db").toList := by
    rw [h.already]
    rintro (hline | hslash' | hall)
    · exact absurd hline (by decide)
    · exact hslash hslash'
    · exact hmask (hall _ _ hfirst)
  have hsome₁ := hsome hshown₁ (by decide) (by decide)
  have hsome₂ := hsome hshown₂ (by decide) (by decide)
  have hblank₃ : Blank (withLogin "app" "se/cret" "tcp(db").toList :=
    hshown₃.already.2 (.inr (.inl (by decide)))
  refine ⟨?_, halike.2 (iff_of_false hsome₁ hsome₂), fun h => ?_, hshown₃.alone hblank₃⟩
  · exact List.forall_mem_cons.2 ⟨⟨hunread₁, hkept₁⟩, List.forall_mem_cons.2
      ⟨⟨hunread₂, hkept₂⟩, List.forall_mem_singleton.2 ⟨hunread₃, hkept₃⟩⟩⟩
  · exact hsome₁ ((hdiffer.1 h).2 hblank₃)

/-- The two forms can differ: a slash in the password leaves nothing to mask. -/
theorem mask_ne_mask_of_slash :
    ¬ ∀ user password₁ password₂ rest : String,
      user ≠ "" → ':' ∉ user.toList → '@' ∉ user.toList → '/' ∉ user.toList
        → (∀ d, parse (withLogin user password₁ rest) ≠ .ok d)
        → (∀ d, parse (withLogin user password₂ rest) ≠ .ok d)
        → mask (withLogin user password₁ rest) = mask (withLogin user password₂ rest) := by
  intro h
  have hmask := h "app" "secret" "se/cret" "tcp(db" (by decide) (by decide) (by decide)
    (by decide) (parse_ne_ok (f := .missingSlash) rfl)
    (parse_ne_ok (f := .noDefaultAddress "app:se") rfl)
  exact absurd hmask (by decide)

end MysqlDesk.Dsn
