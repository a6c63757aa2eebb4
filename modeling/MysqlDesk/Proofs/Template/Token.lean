/-
The tokens of a statement template.

The reader of `Template.Piece` is a machine that takes one character at a time. This file has the
grammar that the machine is to follow, written without any mode: a statement is cut into tokens from
left to right, and each cut looks ahead for the character that ends the token. A quotation runs to the
next occurrence of its mark, or to the end; a slot runs to the next closing parenthesis; whatever else
there is stands for itself. A slot that is never closed is no token, so its two characters are left as
literals, and that is how it shows: `opensAt?` finds the first such pair and counts the bytes before it.

The main statement is `piecesFrom_plain_eq`: in plain text the machine finds the pieces of the tokens,
or fails at the place where a slot is left open. It is proved along the tokens, with one lemma for each
of the two modes in which the machine is under way inside a token.
-/
import MysqlDesk.Template.Piece
import MysqlDesk.Text.Cut

set_option autoImplicit false

namespace MysqlDesk.Template

open MysqlDesk.Text (cutFirst? cutFirst?_eq_some cutFirst?_eq_none)
open MysqlDesk.Text.Utf8 (size size_append)

/-! ## The grammar -/

/-- A part of a statement as it is written. -/
inductive Token where
  /-- A character that stands for itself. -/
  | literal (c : Char)
  /-- A quotation with its marks. -/
  | quotation (text : List Char)
  /-- A slot, by its key. -/
  | placeholder (key : List Char)
  deriving DecidableEq

/-- The key of the slot that the text begins with, and what follows the slot. -/
def leadingSlot? : List Char → Option (List Char × List Char)
  | '$' :: '(' :: rest => cutFirst? ')' rest
  | _ => none

theorem length_after_cutFirst? {sep : Char} {s before after : List Char}
    (h : cutFirst? sep s = some (before, after)) : after.length < s.length := by
  have hs : s = before ++ sep :: after := (cutFirst?_eq_some h).1
  rw [hs, List.length_append, List.length_cons]
  omega

theorem eq_of_leadingSlot? {s key after : List Char} (h : leadingSlot? s = some (key, after)) :
    s = '$' :: '(' :: (key ++ ')' :: after) ∧ ')' ∉ key := by
  unfold leadingSlot? at h
  split at h
  · obtain ⟨hs, hkey⟩ := cutFirst?_eq_some h
    exact ⟨by rw [hs], hkey⟩
  · cases h

theorem length_after_leadingSlot? {s key after : List Char}
    (h : leadingSlot? s = some (key, after)) : after.length < s.length := by
  rw [(eq_of_leadingSlot? h).1]
  simp only [List.length_cons, List.length_append]
  omega

/-- The tokens of a statement. -/
def tokens : List Char → List Token
  | [] => []
  | c :: rest =>
    if isQuote c then
      match _h : cutFirst? c rest with
      | some (body, after) => .quotation (c :: (body ++ [c])) :: tokens after
      | none => [.quotation (c :: rest)]
    else
      match _h : leadingSlot? (c :: rest) with
      | some (key, after) => .placeholder key :: tokens after
      | none => .literal c :: tokens rest
termination_by s => s.length
decreasing_by
  · have := length_after_cutFirst? _h
    simp only [List.length_cons]
    omega
  · exact length_after_leadingSlot? _h
  · simp only [List.length_cons]
    omega

/-- The text of a token. -/
def Token.source : Token → List Char
  | .literal c => [c]
  | .quotation text => text
  | .placeholder key => '$' :: '(' :: (key ++ [')'])

/-- The pieces of a token: a quotation is read character by character. -/
def Token.pieces : Token → List Piece
  | .literal c => [.verbatim c]
  | .quotation text => text.map .verbatim
  | .placeholder key => [.slot (String.ofList key)]

/-- The keys of the slots, in the order of the statement. -/
def placeholderKeys (ts : List Token) : List String :=
  ts.filterMap fun
    | .placeholder key => some (String.ofList key)
    | _ => none

/-- How many bytes stand before the first slot that is never closed, that is, before the first `$`
and `(` that are both left as literals. `passed` bytes stand before the tokens. -/
def opensAt? : Nat → List Token → Option Nat
  | _, [] => none
  | passed, t :: rest =>
    if t = .literal '$' ∧ rest.head? = some (.literal '(') then some passed
    else opensAt? (passed + size t.source) rest

/-- Every slot outside a quotation is closed: wherever the reading comes to the sign of a slot, behind
whole quotations and whole slots, a closing parenthesis follows. -/
def SlotsClosed (s : List Char) : Prop :=
  ∀ ts rest, tokens s = ts ++ tokens ('$' :: '(' :: rest) → ')' ∈ rest

/-- Nothing of a statement is lost or doubled in its tokens. -/
theorem flatMap_source_tokens (s : List Char) : (tokens s).flatMap Token.source = s := by
  fun_induction tokens s with
  | case1 => rfl
  | case2 c rest hq body after h ih =>
    rw [List.flatMap_cons, ih, Token.source, (cutFirst?_eq_some h).1]
    simp
  | case3 c rest hq h => simp [Token.source]
  | case4 c rest hq key after h ih =>
    rw [List.flatMap_cons, ih, Token.source, (eq_of_leadingSlot? h).1]
    simp
  | case5 c rest hq h ih =>
    rw [List.flatMap_cons, ih]
    rfl

theorem head?_tokens_eq_paren_iff (s : List Char) :
    (tokens s).head? = some (.literal '(') ↔ s.head? = some '(' := by
  fun_cases tokens s with
  | case1 => simp
  | case2 c rest hq body after h =>
    have hc : c ≠ '(' := by rintro rfl; exact absurd hq (by decide)
    simp [hc]
  | case3 c rest hq h =>
    have hc : c ≠ '(' := by rintro rfl; exact absurd hq (by decide)
    simp [hc]
  | case4 c rest hq key after h =>
    have hc : c = '$' := (List.cons.inj (eq_of_leadingSlot? h).1).1
    simp [hc]
  | case5 c rest hq h => simp

/-- Behind some of the tokens stand the tokens of what is left of the statement. -/
theorem exists_rest_of_tokens_eq_append {s : List Char} {ts us : List Token}
    (h : tokens s = ts ++ us) : ∃ rest, us = tokens rest := by
  -- each case takes the first token off both sides; the front must not be empty for that
  cases ts with
  | nil => exact ⟨s, h.symm⟩
  | cons t ts =>
    fun_induction tokens s generalizing t ts with
    | case1 => cases h
    | case2 c rest hq body after hcut ih =>
      have htail : tokens after = ts ++ us := (List.cons.inj h).2
      cases ts with
      | nil => exact ⟨after, htail.symm⟩
      | cons t' ts => exact ih t' ts htail
    | case3 c rest hq hcut =>
      have htail : [] = ts ++ us := (List.cons.inj h).2
      exact ⟨[], by rw [(List.append_eq_nil_iff.1 htail.symm).2, tokens]⟩
    | case4 c rest hq key after hslot ih =>
      have htail : tokens after = ts ++ us := (List.cons.inj h).2
      cases ts with
      | nil => exact ⟨after, htail.symm⟩
      | cons t' ts => exact ih t' ts htail
    | case5 c rest hq hslot ih =>
      have htail : tokens rest = ts ++ us := (List.cons.inj h).2
      cases ts with
      | nil => exact ⟨rest, htail.symm⟩
      | cons t' ts => exact ih t' ts htail

theorem eq_cons_of_tokens_literal {s : List Char} {c : Char} {ts : List Token}
    (h : tokens s = .literal c :: ts) :
    ∃ rest, s = c :: rest ∧ tokens rest = ts ∧ leadingSlot? (c :: rest) = none := by
  revert h
  fun_cases tokens s with
  | case1 => intro h; cases h
  | case2 d rest hq body after hcut => intro h; cases h
  | case3 d rest hq hcut => intro h; cases h
  | case4 d rest hq key after hslot => intro h; cases h
  | case5 d rest hq hslot =>
    intro h
    obtain ⟨hd, hts⟩ := List.cons.inj h
    rw [← Token.literal.inj hd]
    exact ⟨rest, rfl, hts, hslot⟩

/-- A quote character begins a quotation. -/
theorem tokens_of_quote {c : Char} (hq : isQuote c = true) (rest : List Char) :
    tokens (c :: rest) = match cutFirst? c rest with
      | some (body, after) => .quotation (c :: (body ++ [c])) :: tokens after
      | none => [.quotation (c :: rest)] := by
  rw [tokens, if_pos hq]
  split
  · rename_i hcut
    rw [hcut]
  · rename_i hcut
    rw [hcut]

/-- Any other character begins a slot, or stands for itself. -/
theorem tokens_of_plain {c : Char} (hq : isQuote c = false) (rest : List Char) :
    tokens (c :: rest) = match leadingSlot? (c :: rest) with
      | some (key, after) => .placeholder key :: tokens after
      | none => .literal c :: tokens rest := by
  rw [tokens, if_neg (by rw [hq]; exact Bool.false_ne_true)]
  split
  · rename_i hslot
    rw [hslot]
  · rename_i hslot
    rw [hslot]

theorem tokens_literal {c : Char} {rest : List Char} (hq : isQuote c = false)
    (hslot : leadingSlot? (c :: rest) = none) :
    tokens (c :: rest) = .literal c :: tokens rest := by
  rw [tokens_of_plain hq, hslot]

/-- The reading comes to the sign of a slot that is never closed where the sign is left as two
literals. -/
theorem exists_open_iff {s : List Char} {ts : List Token} :
    (∃ rest, tokens s = ts ++ tokens ('$' :: '(' :: rest) ∧ ')' ∉ rest)
      ↔ ∃ us, tokens s = ts ++ .literal '$' :: .literal '(' :: us := by
  constructor
  · -- a slot that is not closed leaves its two characters as literals
    rintro ⟨rest, hread, hopen⟩
    have hdollar : tokens ('$' :: '(' :: rest) = .literal '$' :: tokens ('(' :: rest) :=
      tokens_literal rfl (cutFirst?_eq_none.2 hopen)
    have hparen : tokens ('(' :: rest) = .literal '(' :: tokens rest := tokens_literal rfl rfl
    exact ⟨tokens rest, by rw [hread, hdollar, hparen]⟩
  · -- the two literals stand where the reading came to the sign of a slot
    rintro ⟨us, hsplit⟩
    obtain ⟨rest, hrest⟩ := exists_rest_of_tokens_eq_append hsplit
    obtain ⟨rest', rfl, hrest', hslot⟩ := eq_cons_of_tokens_literal hrest.symm
    obtain ⟨tail, rfl, -, -⟩ := eq_cons_of_tokens_literal hrest'
    exact ⟨tail, by rw [hsplit, hrest], cutFirst?_eq_none.1 hslot⟩

/-- **The slots are closed** when no `$` that stands for itself has a `(` that stands for itself right
after it. -/
theorem slotsClosed_iff (s : List Char) :
    SlotsClosed s ↔ ¬ [Token.literal '$', Token.literal '('] <:+: tokens s := by
  constructor
  · rintro hread ⟨ts, us, hinfix⟩
    have hsplit : tokens s = ts ++ .literal '$' :: .literal '(' :: us := by
      rw [← hinfix]
      simp
    obtain ⟨rest, hrest, hopen⟩ := exists_open_iff.2 ⟨us, hsplit⟩
    exact hopen (hread ts rest hrest)
  · intro hclosed ts rest hread
    refine Decidable.not_not.1 fun hopen => hclosed ?_
    obtain ⟨us, hsplit⟩ := exists_open_iff.1 ⟨rest, hread, hopen⟩
    exact ⟨ts, us, by rw [hsplit]; simp⟩

/-! ## What the tokens say the machine finds -/

/-- The pieces of the tokens, or the first slot that is left open. -/
def piecesOf (passed : Nat) (ts : List Token) : Except Unclosed (List Piece) :=
  match opensAt? passed ts with
  | some position => .error ⟨position⟩
  | none => .ok (ts.flatMap Token.pieces)

/-- A token that does not leave a slot open puts its pieces in front. -/
theorem piecesOf_cons {passed : Nat} {t : Token} {ts : List Token}
    (h : ¬ (t = .literal '$' ∧ ts.head? = some (.literal '('))) :
    piecesOf passed (t :: ts) = (piecesOf (passed + size t.source) ts).map (t.pieces ++ ·) := by
  rw [piecesOf, opensAt?, if_neg h, piecesOf]
  cases opensAt? (passed + size t.source) ts <;> rfl

theorem piecesOf_quotation (passed : Nat) (text : List Char) (ts : List Token) :
    piecesOf passed (.quotation text :: ts)
      = (piecesOf (passed + size text) ts).map (text.map Piece.verbatim ++ ·) :=
  piecesOf_cons (by simp)

theorem piecesOf_placeholder (passed : Nat) (key : List Char) (ts : List Token) :
    piecesOf passed (.placeholder key :: ts)
      = (piecesOf (passed + size (Token.placeholder key).source) ts).map
          (Piece.slot (String.ofList key) :: ·) :=
  piecesOf_cons (by simp)

/-- The slots are all closed when none is found open. -/
theorem opensAt?_eq_none_iff (passed : Nat) (ts : List Token) :
    opensAt? passed ts = none ↔ ¬ [Token.literal '$', Token.literal '('] <:+: ts := by
  induction ts generalizing passed with
  | nil => simp [opensAt?]
  | cons t rest ih =>
    have hfront : [Token.literal '$', Token.literal '('] <+: t :: rest
        ↔ t = .literal '$' ∧ rest.head? = some (.literal '(') := by
      rw [List.cons_prefix_cons, eq_comm]
      cases rest with
      | nil => simp
      | cons u rest => simp [List.cons_prefix_cons, eq_comm]
    rw [opensAt?, List.infix_cons_iff, hfront, not_or]
    by_cases hopen : t = .literal '$' ∧ rest.head? = some (.literal '(')
    · rw [if_pos hopen]
      exact ⟨fun h => (Option.some_ne_none _ h).elim, fun h => absurd hopen h.1⟩
    · rw [if_neg hopen, ih]
      exact ⟨fun h => ⟨hopen, h⟩, fun h => h.2⟩

/-! ## The machine inside a token -/

theorem map_map_pieces (r : Except Unclosed (List Piece)) (f g : List Piece → List Piece) :
    (r.map f).map g = r.map fun ps => g (f ps) := by
  cases r <;> rfl

theorem piecesFrom_plain_cons {passed : Nat} {c : Char} {rest : List Char}
    (h : ¬ (c = '$' ∧ rest.head? = some '(')) :
    piecesFrom .plain passed (c :: rest)
      = (piecesFrom (if isQuote c then .quoted c else .plain) (passed + c.utf8Size) rest).map
          (.verbatim c :: ·) := by
  rw [piecesFrom]
  intro tail hc htail
  exact h ⟨hc, by rw [htail]; rfl⟩

/-- Inside a quotation that is closed, the machine takes every character as it is until the mark. -/
theorem piecesFrom_quoted_closed (mark : Char) (body after : List Char) (hmark : mark ∉ body)
    (passed : Nat) :
    piecesFrom (.quoted mark) passed (body ++ mark :: after)
      = (piecesFrom .plain (passed + size (body ++ [mark])) after).map
          ((body ++ [mark]).map Piece.verbatim ++ ·) := by
  induction body generalizing passed with
  | nil =>
    rw [List.nil_append, piecesFrom, if_pos rfl]
    rfl
  | cons c body ih =>
    have hne : c ≠ mark := fun hc => hmark (hc ▸ List.mem_cons_self)
    have hbody : mark ∉ body := fun hm => hmark (List.mem_cons_of_mem _ hm)
    -- the sizes add up in the order in which the machine counts them
    rw [List.cons_append, piecesFrom, if_neg hne, ih hbody, map_map_pieces, List.cons_append, size,
      ← Nat.add_assoc]
    rfl

theorem piecesFrom_quoted_open (mark : Char) (rest : List Char) (hmark : mark ∉ rest)
    (passed : Nat) :
    piecesFrom (.quoted mark) passed rest = .ok (rest.map Piece.verbatim) := by
  induction rest generalizing passed with
  | nil => rfl
  | cons c rest ih =>
    have hne : c ≠ mark := fun hc => hmark (hc ▸ List.mem_cons_self)
    have hrest : mark ∉ rest := fun hm => hmark (List.mem_cons_of_mem _ hm)
    rw [piecesFrom, if_neg hne, ih hrest]
    rfl

/-- Inside a slot that is closed, the machine gathers the key. -/
theorem piecesFrom_key_closed (opened : Nat) (key after : List Char) (hkey : ')' ∉ key)
    (seen : List Char) (passed : Nat) :
    piecesFrom (.key opened seen) passed (key ++ ')' :: after)
      = (piecesFrom .plain (passed + size (key ++ [')'])) after).map
          (.slot (String.ofList (seen.reverse ++ key)) :: ·) := by
  induction key generalizing seen passed with
  | nil =>
    rw [List.nil_append, piecesFrom, if_pos rfl, List.append_nil]
    rfl
  | cons c key ih =>
    have hne : c ≠ ')' := fun hc => hkey (hc ▸ List.mem_cons_self)
    have hrest : ')' ∉ key := fun hm => hkey (List.mem_cons_of_mem _ hm)
    rw [List.cons_append, piecesFrom, if_neg hne, ih hrest, List.cons_append, size,
      ← Nat.add_assoc, List.reverse_cons, List.append_assoc]
    rfl

/-- Inside a slot that is never closed, the machine fails at the place where the slot began. -/
theorem piecesFrom_key_open (opened : Nat) (rest : List Char) (hrest : ')' ∉ rest)
    (seen : List Char) (passed : Nat) :
    piecesFrom (.key opened seen) passed rest = .error ⟨opened⟩ := by
  induction rest generalizing seen passed with
  | nil => rfl
  | cons c rest ih =>
    have hne : c ≠ ')' := fun hc => hrest (hc ▸ List.mem_cons_self)
    have hmem : ')' ∉ rest := fun hm => hrest (List.mem_cons_of_mem _ hm)
    rw [piecesFrom, if_neg hne, ih hmem]

/-! ## The machine follows the grammar -/

/-- **The machine and the tokens.** In plain text the machine finds the pieces of the tokens, or fails
where the first open slot begins. The induction is on the tokens, so each step of it is one token and
the machine is in plain text before and after it. -/
theorem piecesFrom_plain_eq (s : List Char) (passed : Nat) :
    piecesFrom .plain passed s = piecesOf passed (tokens s) := by
  fun_induction tokens s generalizing passed with
  | case1 => rfl
  | case2 c rest hq body after h ih =>
    -- the mark switches the machine to the quotation, which brings it back to plain text
    obtain ⟨hrest, hbody⟩ := cutFirst?_eq_some h
    have hc : c ≠ '$' := by rintro rfl; exact absurd hq (by decide)
    rw [piecesFrom_plain_cons (fun hs => hc hs.1), if_pos hq, hrest,
      piecesFrom_quoted_closed c body after hbody, ih, map_map_pieces, piecesOf_quotation, size,
      ← Nat.add_assoc]
    rfl
  | case3 c rest hq h =>
    -- the quotation takes all that is left, and no token comes after it
    have hrest : c ∉ rest := cutFirst?_eq_none.1 h
    have hc : c ≠ '$' := by rintro rfl; exact absurd hq (by decide)
    rw [piecesFrom_plain_cons (fun hs => hc hs.1), if_pos hq, piecesFrom_quoted_open c rest hrest,
      piecesOf_quotation]
    simp [piecesOf, opensAt?, Except.map]
  | case4 c rest hq key after h ih =>
    -- the two characters of the sign are passed at once, then the key is gathered
    obtain ⟨hs, hkey⟩ := eq_of_leadingSlot? h
    rw [hs, piecesFrom, piecesFrom_key_closed passed key after hkey, ih, piecesOf_placeholder]
    have hsize : size (Token.placeholder key).source = 2 + size (key ++ [')']) := by
      rw [Token.source, size, size, ← Nat.add_assoc]
      rfl
    rw [hsize, ← Nat.add_assoc]
    rfl
  | case5 c rest hq h ih =>
    by_cases hopen : c = '$' ∧ rest.head? = some '('
    · -- an open slot: the machine fails in the key, and the tokens show two literals
      obtain ⟨rfl, hhead⟩ := hopen
      obtain ⟨tail, rfl⟩ : ∃ tail, rest = '(' :: tail := by
        cases rest with
        | nil => cases hhead
        | cons d tail => exact ⟨tail, by rw [Option.some.inj hhead]⟩
      have htail : ')' ∉ tail := cutFirst?_eq_none.1 h
      have hnext : (tokens ('(' :: tail)).head? = some (.literal '(') :=
        (head?_tokens_eq_paren_iff _).2 rfl
      rw [piecesFrom, piecesFrom_key_open passed tail htail, piecesOf, opensAt?,
        if_pos ⟨rfl, hnext⟩]
    · -- a literal, unless it and the next token leave a slot open
      have hnext : ¬ (Token.literal c = .literal '$'
          ∧ (tokens rest).head? = some (.literal '(')) := by
        rintro ⟨hc, hhead⟩
        exact hopen ⟨Token.literal.inj hc, (head?_tokens_eq_paren_iff rest).1 hhead⟩
      rw [piecesFrom_plain_cons hopen, if_neg hq, ih, piecesOf_cons hnext]
      rfl

end MysqlDesk.Template
