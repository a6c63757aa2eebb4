/-
Putting a statement template together from parts.

Parts that can be filled can also be put together first and filled then, as long as reading the whole comes to
the seam between two tokens. Two things could carry a token over the seam: a quotation without its second
mark takes in what follows, and a `$` at the end becomes the sign of a slot with a `(` at the beginning.
Where neither happens, the tokens of the whole are those of the parts, one behind the other
(`tokens_append`). This needs no look at the characters: the tokens of each part are readable, tokens on both
sides of such a seam are readable together, and readable tokens are the tokens of their own text.

The arguments are put together too. A key of both parts must have the same value in both, since each slot
of the whole is filled from the same list.
-/
import MysqlDesk.Proofs.Template.Staging

set_option autoImplicit false

namespace MysqlDesk.Template

/-! ## The seam -/

/-- The token is a quotation without its second mark. -/
def Token.Unclosed : Token → Prop
  | .quotation (mark :: body) => mark ∉ body
  | _ => False

/-- Reading the text ends inside a quotation. -/
def EndsQuoted (s : List Char) : Prop :=
  ∃ t, (tokens s).getLast? = some t ∧ t.Unclosed

/-- The sign of a slot stands across the seam of two texts. -/
def SignAcross (s t : List Char) : Prop :=
  s.getLast? = some '$' ∧ t.head? = some '('

/-- The last token of a text has its last character. -/
theorem getLast?_of_tokens_literal {s : List Char} {c : Char}
    (h : (tokens s).getLast? = some (.literal c)) : s.getLast? = some c := by
  obtain ⟨front, hfront⟩ := List.getLast?_eq_some_iff.1 h
  rw [← flatMap_source_tokens s, hfront, List.flatMap_append, List.flatMap_singleton, Token.source]
  exact List.getLast?_concat

/-- Readable tokens on both sides of a seam are readable together, if none is carried over it. -/
theorem Readable.append {ts us : List Token} (hts : Readable ts) (hus : Readable us)
    (hunclosed : ∀ t, ts.getLast? = some t → ¬ t.Unclosed)
    (hsign : ¬ (ts.getLast? = some (.literal '$') ∧ us.head? = some (.literal '('))) :
    Readable (ts ++ us) := by
  -- the last token of what is left is the last token of all, as long as something is left
  have hlast {t last : Token} {rest : List Token} (h : rest.getLast? = some last) :
      (t :: rest).getLast? = some last := by
    rw [List.getLast?_cons, h, Option.getD_some]
  induction hts with
  | nil => exact hus
  | @literal c ts hplain hinside hts ih =>
    refine .literal hplain ?_ (ih (fun t ht => hunclosed t (hlast ht)) fun h => hsign ⟨hlast h.1, h.2⟩)
    rintro ⟨rfl, hhead⟩
    cases ts with
    | nil => exact hsign ⟨rfl, hhead⟩
    | cons t ts => exact hinside ⟨rfl, hhead⟩
  | closed hmark hbody hts ih =>
    exact .closed hmark hbody
      (ih (fun t ht => hunclosed t (hlast ht)) fun h => hsign ⟨hlast h.1, h.2⟩)
  | unclosed hmark hbody => exact absurd hbody (hunclosed _ rfl)
  | placeholder hkey hts ih =>
    exact .placeholder hkey
      (ih (fun t ht => hunclosed t (hlast ht)) fun h => hsign ⟨hlast h.1, h.2⟩)

section Seam

variable {s t : List Char} (hs : SlotsClosed s) (ht : SlotsClosed t)
  (hquoted : ¬ EndsQuoted s) (hsign : ¬ SignAcross s t)

include hs ht hquoted hsign

theorem readable_tokens_append : Readable (tokens s ++ tokens t) := by
  refine (readable_tokens hs).append (readable_tokens ht) ?_ ?_
  · intro last hlast hunclosed
    exact hquoted ⟨last, hlast, hunclosed⟩
  · rintro ⟨hlast, hhead⟩
    exact hsign ⟨getLast?_of_tokens_literal hlast, (head?_tokens_eq_paren_iff t).1 hhead⟩

/-- Behind a whole token the reading begins anew. -/
theorem tokens_append : tokens (s ++ t) = tokens s ++ tokens t := by
  have hread := tokens_source (readable_tokens_append hs ht hquoted hsign)
  rwa [List.flatMap_append, flatMap_source_tokens, flatMap_source_tokens] at hread

theorem slotsClosed_append : SlotsClosed (s ++ t) := by
  have hclosed := slotsClosed_source (readable_tokens_append hs ht hquoted hsign)
  rwa [List.flatMap_append, flatMap_source_tokens, flatMap_source_tokens] at hclosed

end Seam

/-! ## The arguments of both parts -/

theorem placeholderKeys_append (ts us : List Token) :
    placeholderKeys (ts ++ us) = placeholderKeys ts ++ placeholderKeys us :=
  List.filterMap_append

/-- A token is filled alike by values that agree on its key. -/
theorem flatMap_filled_congr {value? value?' : String → Option String} {ts : List Token}
    (h : ∀ key ∈ placeholderKeys ts, value? key = value?' key) :
    ts.flatMap (Token.filled value?) = ts.flatMap (Token.filled value?') := by
  induction ts with
  | nil => rfl
  | cons t ts ih =>
    rw [List.flatMap_cons, List.flatMap_cons]
    cases t with
    | literal c => rw [ih h, Token.filled, Token.filled]
    | quotation text => rw [ih h, Token.filled, Token.filled]
    | placeholder key =>
      obtain ⟨hfirst, hrest⟩ := List.forall_mem_cons.1 h
      rw [ih hrest, Token.filled, Token.filled, hfirst]

/-- The arguments give no key two values. -/
def Agree (arguments₁ arguments₂ : List String) : Prop :=
  ∀ key value₁ value₂, suppliedValue? arguments₁ key = some value₁ →
    suppliedValue? arguments₂ key = some value₂ → value₁ = value₂

/-- A key of the first arguments keeps its value when others that agree are put behind. -/
theorem or_eq_first_of_agree {arguments₁ arguments₂ : List String}
    (h : Agree arguments₁ arguments₂) {key : String}
    (hkey : (suppliedValue? arguments₁ key).isSome = true) :
    (suppliedValue? arguments₂ key).or (suppliedValue? arguments₁ key)
      = suppliedValue? arguments₁ key := by
  obtain ⟨value₁, hvalue₁⟩ := Option.isSome_iff_exists.1 hkey
  cases hvalue₂ : suppliedValue? arguments₂ key with
  | none => rfl
  | some value₂ =>
    rw [hvalue₁, h key value₁ value₂ hvalue₁ hvalue₂]
    rfl

/-- A key of the arguments behind has its value from there. -/
theorem or_eq_second {arguments₂ : List String} {key : String}
    (hkey : (suppliedValue? arguments₂ key).isSome = true) (arguments₁ : List String) :
    (suppliedValue? arguments₂ key).or (suppliedValue? arguments₁ key)
      = suppliedValue? arguments₂ key := by
  obtain ⟨value, hvalue⟩ := Option.isSome_iff_exists.1 hkey
  rw [hvalue]
  rfl

/-! ## The whole -/

/-- **A template can be filled in parts.** Let two statements be filled, with arguments that agree on the
keys they share. If reading the first one does not end inside a quotation, and no sign of a slot stands across
the seam, then the two statements in one are filled with the arguments of both, and the text is that of the
first followed by that of the second. -/
theorem substitute_append {first second filled₁ filled₂ : String}
    {arguments₁ arguments₂ : List String} (heven : arguments₁.length % 2 = 0)
    (hagree : Agree arguments₁ arguments₂)
    (hfirst : substitute first arguments₁ = .ok filled₁)
    (hsecond : substitute second arguments₂ = .ok filled₂)
    (hquoted : ¬ EndsQuoted first.toList) (hsign : ¬ SignAcross first.toList second.toList) :
    substitute (first ++ second) (arguments₁ ++ arguments₂) = .ok (filled₁ ++ filled₂) := by
  obtain ⟨hclosed₁, hkeys₁, htext₁⟩ := (substitute_filled_iff _ _ _).1 hfirst
  obtain ⟨hclosed₂, hkeys₂, htext₂⟩ := (substitute_filled_iff _ _ _).1 hsecond
  have hvalues : suppliedValue? (arguments₁ ++ arguments₂)
      = fun k => (suppliedValue? arguments₂ k).or (suppliedValue? arguments₁ k) :=
    funext fun k => suppliedValue?_append heven arguments₂ k
  rw [substitute_filled_iff, hvalues, String.toList_append,
    tokens_append hclosed₁ hclosed₂ hquoted hsign, placeholderKeys_append]
  refine ⟨slotsClosed_append hclosed₁ hclosed₂ hquoted hsign, fun key => ?_, ?_⟩
  · rw [Option.isSome_or, Bool.or_eq_true, hkeys₁, hkeys₂, List.mem_append, or_comm]
  · -- each part has the text that it has alone, since the values of its keys are the same
    rw [String.toList_append, htext₁, htext₂, List.flatMap_append]
    congr 1
    · exact flatMap_filled_congr fun key hkey =>
        (or_eq_first_of_agree hagree ((hkeys₁ key).2 hkey)).symm
    · exact flatMap_filled_congr fun key hkey =>
        (or_eq_second ((hkeys₂ key).2 hkey) arguments₁).symm

/-- A part that ends with a `$`, before a part that begins with a slot of the same key and leaves a quotation
open. -/
theorem substitute_append_query :
    (Agree ["s", "db", "t", "it's"] ["s", "db"]
      ∧ substitute "'$(x)' $(s).$(t) $" ["s", "db", "t", "it's"] = .ok "'$(x)' db.it's $"
      ∧ substitute "$(s)(1) \"$(t)" ["s", "db"] = .ok "db(1) \"$(t)"
      ∧ ¬ EndsQuoted "'$(x)' $(s).$(t) $".toList
      ∧ ¬ SignAcross "'$(x)' $(s).$(t) $".toList "$(s)(1) \"$(t)".toList)
    ∧ substitute "'$(x)' $(s).$(t) $$(s)(1) \"$(t)" ["s", "db", "t", "it's", "s", "db"]
      = .ok "'$(x)' db.it's $db(1) \"$(t)" := by
  have hagree : Agree ["s", "db", "t", "it's"] ["s", "db"] := by
    intro key value₁ value₂ h₁ h₂
    by_cases hs : key = "s"
    · subst hs
      exact Option.some.inj (h₁.symm.trans h₂)
    · simp [suppliedValue?, hs] at h₂
  have htokens : tokens "'$(x)' $(s).$(t) $".toList
      = [.quotation "'$(x)'".toList, .literal ' ', .placeholder ['s'], .literal '.',
        .placeholder ['t'], .literal ' ', .literal '$'] := by
    cbv
  have hquoted : ¬ EndsQuoted "'$(x)' $(s).$(t) $".toList := by
    rintro ⟨t, ht, hunclosed⟩
    rw [htokens] at ht
    cases ht
    exact hunclosed
  have hsign : ¬ SignAcross "'$(x)' $(s).$(t) $".toList "$(s)(1) \"$(t)".toList := by
    rintro ⟨-, hhead⟩
    exact absurd hhead (by decide)
  have hfirst : substitute "'$(x)' $(s).$(t) $" ["s", "db", "t", "it's"] = .ok "'$(x)' db.it's $" := by
    decide
  have hsecond : substitute "$(s)(1) \"$(t)" ["s", "db"] = .ok "db(1) \"$(t)" := by
    decide
  exact ⟨⟨hagree, hfirst, hsecond, hquoted, hsign⟩,
    substitute_append (by decide) hagree hfirst hsecond hquoted hsign⟩

end MysqlDesk.Template
