/-
Which tokens can be read back.

Tokens written one behind the other do not always read as the same tokens: a `$` and a `(` that stand for
themselves become the sign of a slot, a quotation without its second mark takes in all that follows, and a
key with a closing parenthesis ends too early. `Readable` has no other condition than these, each at the
token where it matters, so it is built up from the last token to the first. Tokens that satisfy it are read
back (`tokens_source`), and they are exactly the tokens of the statements whose slots are closed
(`readable_iff`).

A text that is put together from tokens can so be read again without a look at its characters.
-/
import MysqlDesk.Proofs.Template.Token
import MysqlDesk.Proofs.Text.Cut

set_option autoImplicit false

namespace MysqlDesk.Template

open MysqlDesk.Text (cutFirst?_append cutFirst?_eq_some cutFirst?_eq_none)

/-- Tokens that are read back when they are written one behind the other. -/
inductive Readable : List Token → Prop where
  | nil : Readable []
  | literal {c : Char} {ts : List Token} (hplain : isQuote c = false)
      (hsign : ¬ (c = '$' ∧ ts.head? = some (.literal '('))) (hts : Readable ts) :
      Readable (.literal c :: ts)
  | closed {mark : Char} {body : List Char} {ts : List Token} (hmark : isQuote mark = true)
      (hbody : mark ∉ body) (hts : Readable ts) :
      Readable (.quotation (mark :: (body ++ [mark])) :: ts)
  | unclosed {mark : Char} {body : List Char} (hmark : isQuote mark = true) (hbody : mark ∉ body) :
      Readable [.quotation (mark :: body)]
  | placeholder {key : List Char} {ts : List Token} (hkey : ')' ∉ key) (hts : Readable ts) :
      Readable (.placeholder key :: ts)

/-! ## One token is read -/

theorem tokens_closed {mark : Char} {body : List Char} (hmark : isQuote mark = true)
    (hbody : mark ∉ body) (rest : List Char) :
    tokens (mark :: (body ++ mark :: rest)) = .quotation (mark :: (body ++ [mark])) :: tokens rest := by
  rw [tokens_of_quote hmark, cutFirst?_append hbody]

theorem tokens_unclosed {mark : Char} {body : List Char} (hmark : isQuote mark = true)
    (hbody : mark ∉ body) : tokens (mark :: body) = [.quotation (mark :: body)] := by
  rw [tokens_of_quote hmark, cutFirst?_eq_none.2 hbody]

theorem tokens_placeholder {key : List Char} (hkey : ')' ∉ key) (rest : List Char) :
    tokens ('$' :: '(' :: (key ++ ')' :: rest)) = .placeholder key :: tokens rest := by
  have hslot : leadingSlot? ('$' :: '(' :: (key ++ ')' :: rest)) = some (key, rest) :=
    cutFirst?_append hkey rest
  rw [tokens_of_plain rfl, hslot]

theorem leadingSlot?_eq_none {c : Char} {rest : List Char}
    (h : ¬ (c = '$' ∧ rest.head? = some '(')) : leadingSlot? (c :: rest) = none := by
  unfold leadingSlot?
  split
  · rename_i tail heq
    obtain ⟨rfl, rfl⟩ := List.cons.inj heq
    exact absurd ⟨rfl, rfl⟩ h
  · rfl

/-! ## All tokens are read -/

/-- Readable tokens are the tokens of their text. -/
theorem tokens_source {ts : List Token} (h : Readable ts) : tokens (ts.flatMap Token.source) = ts := by
  induction h with
  | nil => rw [List.flatMap_nil, tokens]
  | @literal c ts hplain hsign hts ih =>
    -- the sign of a slot would show in the tokens behind it, which are already read back
    have hhead : ¬ (c = '$' ∧ (ts.flatMap Token.source).head? = some '(') := by
      rw [← head?_tokens_eq_paren_iff, ih]
      exact hsign
    rw [List.flatMap_cons, Token.source, List.singleton_append,
      tokens_literal hplain (leadingSlot?_eq_none hhead), ih]
  | @closed mark body ts hmark hbody hts ih =>
    have htext : (mark :: (body ++ [mark])) ++ ts.flatMap Token.source
        = mark :: (body ++ mark :: ts.flatMap Token.source) := by
      simp
    rw [List.flatMap_cons, Token.source, htext, tokens_closed hmark hbody, ih]
  | @unclosed mark body hmark hbody =>
    rw [List.flatMap_singleton, Token.source, tokens_unclosed hmark hbody]
  | @placeholder key ts hkey hts ih =>
    have htext : '$' :: '(' :: (key ++ [')']) ++ ts.flatMap Token.source
        = '$' :: '(' :: (key ++ ')' :: ts.flatMap Token.source) := by
      simp
    rw [List.flatMap_cons, Token.source, htext, tokens_placeholder hkey, ih]

/-- No sign of a slot is left over in readable tokens. -/
theorem opensAt?_of_readable {ts : List Token} (h : Readable ts) (passed : Nat) :
    opensAt? passed ts = none := by
  induction h generalizing passed with
  | nil => rfl
  | @literal c ts hplain hsign hts ih =>
    rw [opensAt?, if_neg fun hopen => hsign ⟨Token.literal.inj hopen.1, hopen.2⟩, ih]
  | closed hmark hbody hts ih => rw [opensAt?, if_neg (by simp), ih]
  | unclosed hmark hbody => rfl
  | placeholder hkey hts ih => rw [opensAt?, if_neg (by simp), ih]

theorem slotsClosed_source {ts : List Token} (h : Readable ts) :
    SlotsClosed (ts.flatMap Token.source) := by
  rw [slotsClosed_iff, tokens_source h, ← opensAt?_eq_none_iff 0]
  exact opensAt?_of_readable h 0

theorem readable_tokens {s : List Char} (h : SlotsClosed s) : Readable (tokens s) := by
  rw [slotsClosed_iff, ← opensAt?_eq_none_iff 0] at h
  -- only that no sign is left over is carried along, from whatever byte it is counted
  generalize 0 = passed at h
  fun_induction tokens s generalizing passed with
  | case1 => exact .nil
  | case2 c rest hq body after hcut ih =>
    rw [opensAt?, if_neg (by simp)] at h
    exact .closed hq (cutFirst?_eq_some hcut).2 (ih _ h)
  | case3 c rest hq hcut => exact .unclosed hq (cutFirst?_eq_none.1 hcut)
  | case4 c rest hq key after hslot ih =>
    rw [opensAt?, if_neg (by simp)] at h
    exact .placeholder (eq_of_leadingSlot? hslot).2 (ih _ h)
  | case5 c rest hq hslot ih =>
    rw [opensAt?] at h
    split at h
    · cases h
    · rename_i hsign
      refine .literal (Bool.eq_false_iff.2 hq) ?_ (ih _ h)
      rintro ⟨rfl, hhead⟩
      exact hsign ⟨rfl, hhead⟩

/-- **Readable tokens** are the tokens of the statements whose slots are closed. -/
theorem readable_iff (ts : List Token) :
    Readable ts ↔ ∃ s, SlotsClosed s ∧ tokens s = ts := by
  constructor
  · intro h
    exact ⟨ts.flatMap Token.source, slotsClosed_source h, tokens_source h⟩
  · rintro ⟨s, hclosed, rfl⟩
    exact readable_tokens hclosed

end MysqlDesk.Template
