/-
Masking what is masked already.

The form in which a name is shown may come back and be shown again. Whether that leaves it as it is depends
on how it came about. The mask alone is shown as itself. The masked form of a readable name is a name too, with
the mask for its password, and is shown as itself unless its address gets another port (`mask_of_masked_text`).

An unreadable text with something to mask is another matter. Where a stretch was masked before, there is
nothing to mask the second time, and what has nothing to mask is shown as the mask alone; only a line end
inside the first stretch can have kept a later stretch from being seen (`maskUnread_maskedForm`). So the second
masking always changes the form, unless the first has made it a name that is already written as it is shown.
That can happen only where the last slash stands before the stretch, since a stretch before it is part of the
login, which does not make a text readable (`unread_maskedForm`).
-/
import MysqlDesk.Proofs.Dsn.Login
import MysqlDesk.Proofs.Dsn.NormalForm

set_option autoImplicit false

namespace MysqlDesk.Dsn

open MysqlDesk.Text

/-! ## The mask alone, and names -/

theorem mask_passwordMask : mask passwordMask = passwordMask := by
  decide

/-- What can be written of a name does not depend on its password. -/
theorem Separable.with_password {d : Dsn} (h : Separable d) (password : String) :
    Separable { d with password } :=
  ⟨h.user, h.hasNet, h.net, h.hasAddress, h.address, h.database, h.keys, h.values⟩

/-- The masked form of a name is shown as itself, unless the address lacks a port. -/
theorem mask_of_masked_text {d : Dsn} (h : Separable d) (huser : d.user ≠ "")
    (hport : d.net = "tcp" → hasPort d.address.toList = true) :
    mask ({ d with password := passwordMask } : Dsn).text
      = ({ d with password := passwordMask } : Dsn).text := by
  have hmasked : Separable { d with password := passwordMask } := h.with_password passwordMask
  have hread := parse_text_eq_round hmasked
  -- the second reading finds the mask for a password, and masks it again
  have hpassword : ({ (round { d with password := passwordMask }) with password := passwordMask } : Dsn)
      = round { d with password := passwordMask } := by
    simp only [round, asWritten, if_neg huser]
  rw [mask_of_parse hread huser, hpassword]
  exact (text_round_eq_iff hmasked).2 hport

/-! ## The stretches of a masked form -/

variable {s a b c : List Char}

/-- A stretch that begins behind the colon of the mask is one of the text behind the mask. -/
theorem stretch_behind {a' b' c' : List Char} (h : Stretch (maskedForm a c) a' b' c')
    (hlater : a.length < a'.length) :
    ∃ front, a' = a ++ ':' :: (passwordMask.toList ++ '@' :: front) ∧ Stretch c front b' c' := by
  have hcolon : ':' ∉ passwordMask.toList := by decide
  -- the colon is the one before the mask, or behind it, or in `a`; in the mask itself there is none
  rcases append_cons_eq_append_cons h.text with ⟨ha, -, -⟩ | ⟨m, ha, hrest⟩ | ⟨m, ha, -⟩
  · rw [ha] at hlater
    exact absurd hlater (Nat.lt_irrefl _)
  · rcases append_cons_eq_append_cons hrest with ⟨-, hmark, -⟩ | ⟨front, hm, htext⟩ | ⟨m', hmask, -⟩
    · exact absurd hmark (by decide)
    · refine ⟨front, by rw [ha, hm], htext, ?_, h.noSlash, h.lastLine⟩
      intro hline
      exact h.firstLine (by rw [ha, hm]; simp [hline])
    · exact absurd (hmask ▸ by simp) hcolon
  · rw [ha, List.length_append] at hlater
    omega

/-- A stretch of the text behind the mask is one of the whole. -/
theorem stretch_of_behind {front b' c' : List Char} (hline : '\n' ∉ a)
    (h : Stretch c front b' c') :
    Stretch (maskedForm a c) (a ++ ':' :: (passwordMask.toList ++ '@' :: front)) b' c' := by
  have hmask : '\n' ∉ passwordMask.toList := by decide
  refine ⟨?_, ?_, h.noSlash, h.lastLine⟩
  · rw [maskedForm, h.text]
    simp
  · simp [hline, hmask, h.firstLine]

theorem chosen_behind {front b' c' : List Char} (hline : '\n' ∉ a) (h : Chosen c front b' c') :
    Chosen (maskedForm a c) (a ++ ':' :: (passwordMask.toList ++ '@' :: front)) b' c' := by
  refine ⟨stretch_of_behind hline h.stretch, ?_, ?_⟩
  · -- a stretch that begins no later than the mask begins before this one
    intro a₁ b₁ c₁ h₁
    by_cases hlater : a.length < a₁.length
    · obtain ⟨front₁, rfl, hbehind⟩ := stretch_behind h₁ hlater
      have hlast := h.last front₁ b₁ c₁ hbehind
      simp only [List.length_append, List.length_cons]
      omega
    · rw [List.length_append]
      omega
  · intro b₁ c₁ h₁
    obtain ⟨front₁, hfront, hbehind⟩ := stretch_behind h₁ (by simp)
    have hsame : front = front₁ := by simpa using hfront
    exact h.shortest b₁ c₁ (hsame ▸ hbehind)

/-- If there is no stretch behind the mask, the mask is the stretch that is masked. -/
theorem chosen_mask (hline : '\n' ∉ a) (hlast : '\n' ∉ c) (hnone : ∀ a' b' c', ¬ Stretch c a' b' c') :
    Chosen (maskedForm a c) a passwordMask.toList c := by
  have hat : '@' ∉ passwordMask.toList := by decide
  refine ⟨⟨rfl, hline, by decide, hlast⟩, ?_, ?_⟩
  · intro a' b' c' h
    refine Nat.not_lt.1 fun hlater => ?_
    obtain ⟨front, -, hbehind⟩ := stretch_behind h hlater
    exact hnone front b' c' hbehind
  · -- the at-sign behind the mask is the first one
    intro b' c' h
    have htext := (List.cons.inj (List.append_cancel_left h.text)).2
    rcases append_cons_eq_append_cons htext with ⟨hb, -, -⟩ | ⟨m, hb, -⟩ | ⟨m, hmask, -⟩
    · rw [hb]
    · rw [hb, List.length_append]
      omega
    · exact absurd (hmask ▸ by simp) hat

/-! ## Masking an unreadable form again -/

/-- The form of a text with a masked stretch is shown as the mask alone, or with the next stretch masked
too. -/
theorem maskUnread_maskedForm (hline : '\n' ∉ a) (hlast : '\n' ∉ c) :
    (Blank c ∧ maskUnread (String.ofList (maskedForm a c)) = passwordMask)
      ∨ ∃ a' b' c', Chosen c a' b' c' ∧ b' ≠ passwordMask.toList
        ∧ maskUnread (String.ofList (maskedForm a c))
          = String.ofList (maskedForm a (maskedForm a' c')) := by
  by_cases hnone : ∀ a' b' c', ¬ Stretch c a' b' c'
  · have hchosen : Chosen (String.ofList (maskedForm a c)).toList a passwordMask.toList c := by
      rw [String.toList_ofList]
      exact chosen_mask hline hlast hnone
    refine Or.inl ⟨fun a' b' c' h => absurd h.stretch (hnone a' b' c'), ?_⟩
    rw [maskUnread_of_chosen hchosen, if_pos rfl]
  · obtain ⟨a₀, b₀, c₀, h₀⟩ : ∃ a' b' c', Stretch c a' b' c' := by
      simpa using hnone
    obtain ⟨a', b', c', hbehind⟩ := exists_chosen h₀
    have hchosen : Chosen (String.ofList (maskedForm a c)).toList
        (a ++ ':' :: (passwordMask.toList ++ '@' :: a')) b' c' := by
      rw [String.toList_ofList]
      exact chosen_behind hline hbehind
    rw [maskUnread_of_chosen hchosen]
    by_cases hb : b' = passwordMask.toList
    · exact Or.inl ⟨(blank_iff_of_chosen hbehind).2 hb, if_pos hb⟩
    · refine Or.inr ⟨a', b', c', hbehind, hb, ?_⟩
      rw [if_neg hb, maskedForm, maskedForm, maskedForm, List.append_assoc, List.cons_append,
        List.append_assoc, List.cons_append]

/-- Behind the stretch that is masked there is no other, unless a line end hides it. -/
theorem line_end_of_chosen_behind (h : Chosen s a b c) {a' b' c' : List Char}
    (hbehind : Stretch c a' b' c') : '\n' ∈ b := by
  refine Decidable.byContradiction fun hb => ?_
  -- without a line end, the later stretch would have been chosen
  have hlater : Stretch s (a ++ ':' :: (b ++ '@' :: a')) b' c' := by
    refine ⟨?_, ?_, hbehind.noSlash, hbehind.lastLine⟩
    · rw [h.stretch.text, hbehind.text]
      simp
    · simp [h.stretch.firstLine, hb, hbehind.firstLine]
  have hle := h.last _ _ _ hlater
  rw [List.length_append, List.length_cons] at hle
  omega

/-- Only the mask alone is left as it is by masking an unreadable text. -/
theorem maskUnread_ne_self {t : String} (h : t ≠ passwordMask) : maskUnread t ≠ t := by
  rcases maskUnread_cases t with ⟨-, hmask⟩ | ⟨hsome, a, b, c, hchosen, hmask⟩
  · rw [hmask]
    exact h.symm
  · intro hself
    rw [hmask] at hself
    have htext : a ++ ':' :: (b ++ '@' :: c) = maskedForm a c := by
      rw [← hchosen.stretch.text, ← hself, String.toList_ofList]
    -- then the stretch would be the mask already
    have hb : b = passwordMask.toList :=
      List.append_cancel_right (List.cons.inj (List.append_cancel_left htext)).2
    exact hsome ((blank_iff_of_chosen hchosen).2 hb)

/-! ## Whether the form can be read -/

/-- What stands before an at-sign with a slash behind it is part of the login, so another text in its
place does not make a name of what is none. -/
theorem unread_of_other_front {t t' : String} {front front' rest : List Char}
    (ht : t.toList = front ++ '@' :: rest) (ht' : t'.toList = front' ++ '@' :: rest)
    (hslash : '/' ∈ rest) (hunread : ∀ d, parse t ≠ .ok d) (e : Dsn) : parse t' ≠ .ok e := by
  obtain ⟨server, target, rfl, htarget⟩ := exists_target hslash
  -- the login ends at the last at-sign, which may be a later one
  obtain ⟨login, place, hserver, hplace⟩ : ∃ login place,
      '@' :: server = login ++ '@' :: place ∧ '@' ∉ place := by
    cases hcut : cutLast? '@' ('@' :: server) with
    | none => exact absurd List.mem_cons_self (cutLast?_eq_none.1 hcut)
    | some sides => exact ⟨sides.1, sides.2, cutLast?_eq_some hcut⟩
  have hlogin : ∀ before : List Char, before ++ '@' :: (server ++ '/' :: target)
      = (before ++ login) ++ '@' :: (place ++ '/' :: target) := by
    intro before
    rw [← List.cons_append, hserver]
    simp
  have hrest : (String.ofList (place ++ '/' :: target)).toList = place ++ '/' :: target :=
    String.toList_ofList
  have hread := parse_login (ht.trans (hlogin front)) hrest hplace htarget
  have hread' := parse_login (ht'.trans (hlogin front')) hrest hplace htarget
  cases hshort : parse (String.ofList (place ++ '/' :: target)) with
  | error f =>
    rw [hread', hshort]
    exact fun h => by cases h
  | ok d =>
    rw [hshort] at hread
    exact absurd hread (hunread _)

/-- Masking a stretch does not make a text readable, unless the last slash stands before it. -/
theorem unread_maskedForm {t : String} (hunread : ∀ d, parse t ≠ .ok d)
    (h : Stretch t.toList a b c) (hslash : '/' ∈ c ∨ '/' ∉ a) (e : Dsn) :
    parse (String.ofList (maskedForm a c)) ≠ .ok e := by
  by_cases hc : '/' ∈ c
  · have htext : t.toList = (a ++ ':' :: b) ++ '@' :: c := by
      rw [h.text, List.append_assoc, List.cons_append]
    have hform : (String.ofList (maskedForm a c)).toList
        = (a ++ ':' :: passwordMask.toList) ++ '@' :: c := by
      rw [String.toList_ofList, maskedForm, List.append_assoc, List.cons_append]
    exact unread_of_other_front htext hform hc hunread e
  · -- there is no slash at all
    have ha : '/' ∉ a := hslash.resolve_left hc
    have hmask : '/' ∉ passwordMask.toList := by decide
    have hnone : '/' ∉ (String.ofList (maskedForm a c)).toList := by
      rw [String.toList_ofList, maskedForm]
      simp [ha, hc, hmask]
    have hne : String.ofList (maskedForm a c) ≠ "" := ofList_ne_empty (by simp [maskedForm])
    rw [parse_of_not_mem hnone, if_neg hne]
    exact fun hread => by cases hread

/-! ## Masking twice -/

/-- The text is no name, and its part `b` is masked, which is not the mask already. -/
structure Covers (s : String) (a b c : List Char) : Prop where
  unread : ∀ d, parse s ≠ .ok d
  chosen : Chosen s.toList a b c
  ne_mask : b ≠ passwordMask.toList

/-- The text is a name with a user, written as it is shown. -/
def ShownAsWritten (s : String) : Prop :=
  ∃ d, parse s = .ok d ∧ d.user ≠ "" ∧ ({ d with password := passwordMask } : Dsn).text = s

/-- Something is masked wherever there is something to mask. -/
theorem exists_covers {s : String} (hunread : ∀ d, parse s ≠ .ok d) (hsome : ¬ Blank s.toList) :
    ∃ a b c, Covers s a b c := by
  obtain ⟨hblank, -⟩ | ⟨-, a, b, c, hchosen, -⟩ := maskUnread_cases s
  · exact absurd hblank hsome
  · exact ⟨a, b, c, hunread, hchosen, fun hb => hsome ((blank_iff_of_chosen hchosen).2 hb)⟩

theorem Covers.mask_eq {s : String} (h : Covers s a b c) : mask s = String.ofList (maskedForm a c) := by
  rw [mask_of_unread h.unread, maskUnread_of_chosen h.chosen, if_neg h.ne_mask]

theorem mask_of_blank {s : String} (hunread : ∀ d, parse s ≠ .ok d) (hblank : Blank s.toList) :
    mask s = passwordMask := by
  rw [mask_of_unread hunread]
  obtain ⟨-, hmask⟩ | ⟨hsome, -⟩ := maskUnread_cases s
  · exact hmask
  · exact absurd hblank hsome

theorem mask_mask_of_parse {s : String} {d : Dsn} (h : parse s = .ok d)
    (hsettled : d.user = "" ∨ ¬ NeedsSecondRound s.toList) : mask (mask s) = mask s := by
  by_cases huser : d.user = ""
  · have hmask : mask s = passwordMask := by
      rw [mask, h]
      exact if_pos huser
    rw [hmask, mask_passwordMask]
  · -- the text of the name says whether its address has a port
    have hport := (hasPort_of_parse_iff h).2 (hsettled.resolve_left huser)
    rw [mask_of_parse h huser]
    exact mask_of_masked_text (separable_of_parse h) huser hport

/-- What is not the mask alone is left as it is only if it is a name that is written as it is shown. -/
theorem mask_eq_self_iff {t : String} (hne : t ≠ passwordMask) : mask t = t ↔ ShownAsWritten t := by
  constructor
  · intro hself
    cases hread : parse t with
    | error f =>
      rw [mask_of_unread (parse_ne_ok hread)] at hself
      exact absurd hself (maskUnread_ne_self hne)
    | ok d =>
      by_cases huser : d.user = ""
      · rw [mask, hread] at hself
        exact absurd ((if_pos huser).symm.trans hself).symm hne
      · rw [mask_of_parse hread huser] at hself
        exact ⟨d, hread, huser, hself⟩
  · rintro ⟨d, hread, huser, htext⟩
    rw [mask_of_parse hread huser, htext]

/-- **Masking twice.** Masking the form of a name again leaves it as it is if the name has no user, or
if its text has no bracketed address that needs a second round; so does masking the form of an unreadable
text without anything to mask. An unreadable text `a:b@c` of which `b` is masked is shown with the mask for `b`.
That form is left as it is exactly if it is a name that is written as it is shown, and it is no name unless
the last slash stands before the stretch. While it is none, it is shown as the mask alone if there is nothing to
mask in `c`, and else with the stretch of `c` masked too, which only a line end in `b` had kept from being
masked first. -/
theorem mask_mask (s : String) :
    (∀ d, parse s = .ok d → d.user = "" ∨ ¬ NeedsSecondRound s.toList → mask (mask s) = mask s)
    ∧ ((∀ d, parse s ≠ .ok d) → Blank s.toList → mask (mask s) = mask s)
    ∧ ∀ a b c, Covers s a b c →
      mask s = String.ofList (maskedForm a c)
      ∧ (mask (mask s) = mask s ↔ ShownAsWritten (mask s))
      ∧ ('/' ∈ c ∨ '/' ∉ a → ∀ e, parse (mask s) ≠ .ok e)
      ∧ ((∀ e, parse (mask s) ≠ .ok e) →
        (Blank c ∧ mask (mask s) = passwordMask)
        ∨ ∃ a' b' c', Chosen c a' b' c' ∧ b' ≠ passwordMask.toList ∧ '\n' ∈ b
          ∧ mask (mask s) = String.ofList (maskedForm a (maskedForm a' c'))) := by
  refine ⟨fun d hread hsettled => mask_mask_of_parse hread hsettled, ?_, ?_⟩
  · intro hunread hblank
    rw [mask_of_blank hunread hblank, mask_passwordMask]
  · intro a b c h
    have hform : mask s = String.ofList (maskedForm a c) := h.mask_eq
    have hne : mask s ≠ passwordMask := by
      rw [hform]
      exact maskedForm_ne_passwordMask a c
    refine ⟨hform, mask_eq_self_iff hne, ?_, ?_⟩
    · intro hslash
      rw [hform]
      exact unread_maskedForm h.unread h.chosen.stretch hslash
    · intro hunread
      rw [mask_of_unread hunread, hform]
      rcases maskUnread_maskedForm h.chosen.stretch.firstLine h.chosen.stretch.lastLine with
        hblank | ⟨a', b', c', hbehind, hb, hmask⟩
      · exact Or.inl hblank
      · exact Or.inr ⟨a', b', c', hbehind, hb, line_end_of_chosen_behind h.chosen hbehind.stretch, hmask⟩

/-- A name whose address is put in brackets, and a text whose address is not closed. -/
theorem mask_mask_unclosed :
    mask (mask "app:pw@tcp(fe80::1)/shop") = mask "app:pw@tcp(fe80::1)/shop"
      ∧ ∃ a b c, Covers "app:secret@tcp(db" a b c
        ∧ mask "app:secret@tcp(db" = String.ofList (maskedForm a c)
        ∧ ¬ ShownAsWritten (mask "app:secret@tcp(db") := by
  have hread : parse "app:pw@tcp(fe80::1)/shop"
      = .ok ⟨"app", "pw", "tcp", "[fe80::1]:3306", "shop", Dictionary.empty⟩ := rfl
  have hsettled : ¬ NeedsSecondRound "app:pw@tcp(fe80::1)/shop".toList :=
    (hasPort_of_parse_iff hread).1 fun _ => by decide
  have hunread : ∀ d, parse "app:secret@tcp(db" ≠ .ok d := parse_ne_ok (f := .missingSlash) rfl
  have hsome : ¬ Blank "app:secret@tcp(db".toList := by
    intro hblank
    exact absurd (mask_of_blank hunread hblank) (by decide)
  obtain ⟨a, b, c, hcovers⟩ := exists_covers hunread hsome
  obtain ⟨hform, hself, -, -⟩ := (mask_mask "app:secret@tcp(db").2.2 a b c hcovers
  refine ⟨(mask_mask "app:pw@tcp(fe80::1)/shop").1 _ hread (Or.inr hsettled), a, b, c, hcovers, hform, ?_⟩
  intro hshown
  exact absurd (hself.2 hshown) (by decide)

/-- The second masking can change the form: a stretch that is masked already leaves nothing to mask. -/
theorem mask_mask_ne : ¬ ∀ s, mask (mask s) = mask s := by
  intro h
  have htwice : mask (mask "app:secret@tcp(db") = mask "app:secret@tcp(db" := h "app:secret@tcp(db"
  have hfirst : mask "app:secret@tcp(db" = "app:********@tcp(db" := by decide
  have hsecond : mask "app:********@tcp(db" = "********" := by decide
  rw [hfirst, hsecond] at htwice
  exact absurd htwice (by decide)

end MysqlDesk.Dsn
