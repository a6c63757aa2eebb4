/-
The loop with places takes only what can be taken, and fills a template as its characters do.

Every turn takes the loop further and keeps what was copied behind it (`Orderly.next`), so there are no more
turns than bytes. What the loop does from one token of the statement to the next is known from the
characters of the token: only the bytes of marks turn it, and the byte of an ASCII character occurs in a text
only where the character does.

The main lemma, `pieces?_scan`, goes along the tokens. Between two tokens the cursor stands in plain text,
with a run of characters behind it that was read and not copied yet. Each place that the loop remembers is the
size of some of the characters, so what it takes can be taken, and what it will find are the run and the
pieces of the tokens that are left.
-/
import MysqlDesk.Proofs.Template.Slice
import MysqlDesk.Proofs.Template.Tally

set_option autoImplicit false

namespace MysqlDesk.Template

open MysqlDesk.Text (cutFirst? cutFirst?_eq_some cutFirst?_eq_none)
open MysqlDesk.Text.Utf8
open Octets (octet octet_eq_octet_iff isQuote_octet ne_octet head?_encode_eq_octet_iff
  utf8Size_of_ascii Stretch Part)

namespace Cursor

/-! ## The loop goes on -/

/-- What was copied is behind the place, and the place is within the bytes. -/
structure Orderly (bytes : List UInt8) (c : Cursor) : Prop where
  copied_le : c.copied ≤ c.place
  place_le : c.place ≤ bytes.length

/-- The cursor behind the next turn, unless the loop is over. -/
def next? (bytes : List UInt8) (c : Cursor) : Option Cursor :=
  (turn? bytes c).bind Turn.next?

/-- The cursor behind so many turns, unless the loop is over by then. -/
def after? (bytes : List UInt8) : Nat → Cursor → Option Cursor
  | 0, c => some c
  | n + 1, c => (next? bytes c).bind (after? bytes n)

/-- The step: a turn keeps the order and takes the loop further. -/
theorem Orderly.next {bytes : List UInt8} {c next : Cursor} (hc : Orderly bytes c)
    (h : next? bytes c = some next) : Orderly bytes next ∧ c.place < next.place := by
  obtain ⟨t, ht, hnext⟩ := Option.bind_eq_some_iff.1 h
  obtain ⟨hlt, hle⟩ := place_lt_of_turn? ht hnext
  refine ⟨⟨?_, hle⟩, hlt⟩
  obtain ⟨-, ⟨mark, rfl⟩ | ⟨after, -, -, rfl⟩ | rfl⟩ := turn?_cases ht
  · obtain rfl := Option.some.inj hnext
    exact Nat.le_succ_of_le hc.copied_le
  · obtain rfl := Option.some.inj hnext
    exact Nat.le_refl _
  · cases hnext

/-- The run: so do any number of turns, each of which takes the loop one byte further or more. -/
theorem Orderly.after {bytes : List UInt8} {n : Nat} {c later : Cursor} (hc : Orderly bytes c)
    (h : after? bytes n c = some later) : Orderly bytes later ∧ c.place + n ≤ later.place := by
  induction n generalizing c with
  | zero =>
    obtain rfl := Option.some.inj h
    exact ⟨hc, Nat.le_refl _⟩
  | succ n ih =>
    obtain ⟨next, hnext, hlater⟩ := Option.bind_eq_some_iff.1 h
    obtain ⟨horderly, hlt⟩ := hc.next hnext
    obtain ⟨hlast, hle⟩ := ih horderly hlater
    exact ⟨hlast, by omega⟩

theorem orderly_start (bytes : List UInt8) : Orderly bytes start :=
  ⟨Nat.le_refl 0, Nat.zero_le _⟩

/-- There are no more turns than bytes. -/
theorem after?_start_eq_none {bytes : List UInt8} {n : Nat} (h : bytes.length < n) :
    after? bytes n start = none := by
  cases hlater : after? bytes n start with
  | none => rfl
  | some later =>
    obtain ⟨horderly, hle⟩ := (orderly_start bytes).after hlater
    have hin : later.place ≤ bytes.length := horderly.place_le
    have hzero : start.place = 0 := rfl
    omega

/-! ## What a turn finds -/

theorem scan_eq (bytes : List UInt8) (c : Cursor) :
    scan bytes c = match turn? bytes c with
      | none => ⟨[.copied ⟨c.copied, bytes.length⟩], none⟩
      | some (.on next) => scan bytes next
      | some (.filled text key next) =>
        { scan bytes next with parts := .copied text :: .slot key :: (scan bytes next).parts }
      | some (.unclosed slot) => ⟨[], some slot⟩ := by
  rw [scan]
  split <;> rename_i h <;> rw [h]

/-- A key ends before the last byte. -/
theorem lt_of_mem_parts {bytes : List UInt8} {c : Cursor} {key : Stretch}
    (h : .slot key ∈ (scan bytes c).parts) : key.after < bytes.length := by
  fun_induction scan bytes c with
  | case1 c hturn => simp at h
  | case2 c next hturn ih => exact ih h
  | case3 c text key' next hturn found ih =>
    obtain ⟨-, ⟨mark, ht⟩ | ⟨after, -, hafter, ht⟩ | ht⟩ := turn?_cases hturn
    · cases ht
    · cases ht
      simp only [List.mem_cons, reduceCtorEq, false_or, Part.slot.injEq] at h
      rcases h with rfl | h
      · exact hafter
      · exact ih h
    · cases ht
  | case4 c slot hturn => simp at h

/-! ## The loop on the bytes of a text -/

section Steps

variable {bytes rest : List UInt8} {place : Nat}

theorem turn?_of_drop {c : Cursor} {b : UInt8} (hdrop : bytes.drop c.place = b :: rest) :
    turn? bytes c = some (turn bytes c b) := by
  have hbyte : bytes[c.place]? = some b := by
    rw [← Nat.add_zero c.place, ← List.getElem?_drop, hdrop]
    rfl
  rw [turn?, hbyte, Option.map_some]

theorem drop_of_drop {bs : List UInt8} (hdrop : bytes.drop place = bs ++ rest) :
    bytes.drop (place + bs.length) = rest := by
  rw [← List.drop_drop, hdrop, List.drop_left]

theorem drop_succ_of_drop {b : UInt8} (hdrop : bytes.drop place = b :: rest) :
    bytes.drop (place + 1) = rest := by
  rw [← List.drop_drop, hdrop]
  rfl

theorem opensSlot_of_drop {b : UInt8} (hdrop : bytes.drop place = b :: rest) :
    opensSlot bytes place = (b == 0x24 && rest.head? == some 0x28) := by
  have hfirst : bytes[place]? = some b := by
    rw [← Nat.add_zero place, ← List.getElem?_drop, hdrop]
    rfl
  have hsecond : bytes[place + 1]? = rest.head? := by
    rw [← List.getElem?_drop, hdrop, List.head?_eq_getElem?]
    rfl
  rw [opensSlot, hfirst, hsecond]
  rfl

/-- A byte that opens or closes a quotation is passed over. -/
theorem scan_of_switch {mark mark' : Option UInt8} {b : UInt8} (copied : Nat)
    (hdrop : bytes.drop place = b :: rest) (hswitch : switch? mark b = some mark') :
    scan bytes ⟨mark, copied, place⟩ = scan bytes ⟨mark', copied, place + 1⟩ := by
  have hturn : turn? bytes ⟨mark, copied, place⟩ = some (.on ⟨mark', copied, place + 1⟩) := by
    rw [turn?_of_drop hdrop, turn, hswitch]
  rw [scan_eq, hturn]

/-- So is any other byte, unless a slot begins there. -/
theorem scan_of_no_slot {mark : Option UInt8} {b : UInt8} (copied : Nat)
    (hdrop : bytes.drop place = b :: rest) (hswitch : switch? mark b = none)
    (hno : ¬ (mark = none ∧ opensSlot bytes place = true)) :
    scan bytes ⟨mark, copied, place⟩ = scan bytes ⟨mark, copied, place + 1⟩ := by
  have hturn : turn? bytes ⟨mark, copied, place⟩ = some (.on ⟨mark, copied, place + 1⟩) := by
    rw [turn?_of_drop hdrop, turn, hswitch]
    exact congrArg some (if_neg hno)
  rw [scan_eq, hturn]

/-- The loop passes over the byte, whatever follows it. -/
def Passes (mark : Option UInt8) (b : UInt8) : Prop :=
  switch? mark b = none ∧ (mark = none → b ≠ 0x24)

theorem scan_pass {mark : Option UInt8} {copied : Nat} {bs : List UInt8}
    (hpass : ∀ b ∈ bs, Passes mark b) (hdrop : bytes.drop place = bs ++ rest) :
    scan bytes ⟨mark, copied, place⟩ = scan bytes ⟨mark, copied, place + bs.length⟩ := by
  induction bs generalizing place with
  | nil => rfl
  | cons b bs ih =>
    obtain ⟨⟨hswitch, hdollar⟩, hbs⟩ := List.forall_mem_cons.1 hpass
    -- in plain text the byte is no dollar sign, and in a quotation no slot begins
    have hno : ¬ (mark = none ∧ opensSlot bytes place = true) := by
      rintro ⟨hmark, hopens⟩
      rw [opensSlot_of_drop hdrop, Bool.and_eq_true, beq_iff_eq] at hopens
      exact hdollar hmark hopens.1
    rw [scan_of_no_slot copied hdrop hswitch hno, List.length_cons, Nat.add_comm bs.length,
      ← Nat.add_assoc]
    exact ih hbs (drop_succ_of_drop hdrop)

/-- The byte of an ASCII character occurs in the bytes of a text only where the character does. -/
theorem octet_not_mem_encode {d : Char} (hd : d.toNat < 0x80) {s : List Char} (h : d ∉ s) :
    octet d ∉ encode s := by
  intro hmem
  obtain ⟨c, hc, hbyte⟩ := List.mem_flatMap.1 hmem
  by_cases hascii : c.toNat < 0x80
  · rw [encodeChar_of_ascii hascii, List.mem_singleton] at hbyte
    have heq : d = c := (octet_eq_octet_iff hd hascii).1 hbyte
    exact h (heq ▸ hc)
  · exact ne_octet (le_of_mem_encodeChar hascii hbyte) hd rfl

theorem encode_cons_of_ascii {c : Char} (hc : c.toNat < 0x80) (s : List Char) :
    encode (c :: s) = octet c :: encode s := by
  rw [encode_cons, encodeChar_of_ascii hc]
  rfl

/-- A character that begins neither a quotation nor a slot is passed over. -/
theorem scan_literal {c : Char} {s : List Char} (hquote : Template.isQuote c = false)
    (hopen : ¬ (c = '$' ∧ s.head? = some '(')) (copied : Nat)
    (hdrop : bytes.drop place = encode (c :: s)) :
    scan bytes ⟨none, copied, place⟩ = scan bytes ⟨none, copied, place + c.utf8Size⟩ := by
  by_cases hc : c.toNat < 0x80
  · -- one byte, which may be a dollar sign without a parenthesis
    rw [encode_cons_of_ascii hc] at hdrop
    have hswitch : switch? none (octet c) = none := by
      rw [switch?, isQuote_octet hc, hquote]
      rfl
    have hno : ¬ ((none : Option UInt8) = none ∧ opensSlot bytes place = true) := by
      rintro ⟨-, hopens⟩
      rw [opensSlot_of_drop hdrop, Bool.and_eq_true, beq_iff_eq, beq_iff_eq] at hopens
      exact hopen ⟨(octet_eq_octet_iff (d := '$') hc (by decide)).1 hopens.1,
        (head?_encode_eq_octet_iff (d := '(') (by decide) s).1 hopens.2⟩
    rw [scan_of_no_slot copied hdrop hswitch hno, utf8Size_of_ascii hc]
  · -- several bytes, none of them a mark
    have hpass : ∀ b ∈ String.utf8EncodeChar c, Passes none b := by
      intro b hb
      have hhigh : 0x80 ≤ b.toNat := le_of_mem_encodeChar hc hb
      refine ⟨?_, fun _ => ne_octet (c := '$') hhigh (by decide)⟩
      rw [switch?, Octets.isQuote_eq_false hhigh]
      rfl
    rw [← String.length_utf8EncodeChar c]
    exact scan_pass hpass hdrop

/-- A mark opens a quotation. -/
theorem scan_opening {q : Char} (hquote : Template.isQuote q = true) (copied : Nat)
    (hdrop : bytes.drop place = octet q :: rest) :
    scan bytes ⟨none, copied, place⟩ = scan bytes ⟨some (octet q), copied, place + 1⟩ := by
  have hq : q.toNat < 0x80 := Octets.toNat_lt_of_isQuote hquote
  have hswitch : switch? none (octet q) = some (some (octet q)) := by
    rw [switch?, isQuote_octet hq, hquote]
    rfl
  exact scan_of_switch copied hdrop hswitch

/-- Up to the next such mark, a quotation is passed over. -/
theorem scan_body {q : Char} (hquote : Template.isQuote q = true) {body : List Char} (hbody : q ∉ body)
    (copied : Nat) (hdrop : bytes.drop place = encode body ++ rest) :
    scan bytes ⟨some (octet q), copied, place⟩
      = scan bytes ⟨some (octet q), copied, place + size body⟩ := by
  have hq : q.toNat < 0x80 := Octets.toNat_lt_of_isQuote hquote
  have hpass : ∀ b ∈ encode body, Passes (some (octet q)) b := by
    intro b hb
    have hne : b ≠ octet q := by
      rintro rfl
      exact octet_not_mem_encode hq hbody hb
    exact ⟨if_neg hne, fun h => absurd h (Option.some_ne_none _)⟩
  rw [← length_encode]
  exact scan_pass hpass hdrop

/-- The mark closes the quotation. -/
theorem scan_closing {q : UInt8} (copied : Nat) (hdrop : bytes.drop place = q :: rest) :
    scan bytes ⟨some q, copied, place⟩ = scan bytes ⟨none, copied, place + 1⟩ := by
  have hswitch : switch? (some q) q = some none := if_pos rfl
  exact scan_of_switch copied hdrop hswitch

theorem findIdx?_parenthesis {s : List Char} (h : ')' ∉ s) :
    (encode s).findIdx? (· == 0x29) = none := by
  rw [List.findIdx?_eq_none_iff]
  intro b hb
  rw [beq_eq_false_iff_ne]
  rintro rfl
  exact octet_not_mem_encode (d := ')') (by decide) h hb

theorem keyEnd?_of_closed {key : List Char} (hkey : ')' ∉ key)
    (hdrop : bytes.drop place = encode key ++ octet ')' :: rest) :
    keyEnd? bytes place = some (place + size key) := by
  have hmark : (octet ')' == 0x29) = true := by decide
  rw [keyEnd?, hdrop, List.findIdx?_append, findIdx?_parenthesis hkey, Option.none_or,
    List.findIdx?_cons, if_pos hmark, Option.map_some, Option.map_some, Nat.zero_add, length_encode]

theorem keyEnd?_of_open {tail : List Char} (htail : ')' ∉ tail)
    (hdrop : bytes.drop place = encode tail) : keyEnd? bytes place = none := by
  rw [keyEnd?, hdrop, findIdx?_parenthesis htail, Option.map_none]

theorem scan_end {mark : Option UInt8} {copied : Nat} (h : bytes.length ≤ place) :
    scan bytes ⟨mark, copied, place⟩ = ⟨[.copied ⟨copied, bytes.length⟩], none⟩ := by
  have hturn : turn? bytes ⟨mark, copied, place⟩ = none := by
    rw [turn?, List.getElem?_eq_none h, Option.map_none]
  rw [scan_eq, hturn]

/-- A quotation that is closed is passed over, from mark to mark. -/
theorem scan_quotation {q : Char} (hquote : Template.isQuote q = true) {body after : List Char}
    (hbody : q ∉ body) (copied : Nat)
    (hdrop : bytes.drop place = encode (q :: (body ++ q :: after))) :
    scan bytes ⟨none, copied, place⟩
      = scan bytes ⟨none, copied, place + size (q :: (body ++ [q]))⟩ := by
  have hq : q.toNat < 0x80 := Octets.toNat_lt_of_isQuote hquote
  rw [encode_cons_of_ascii hq, encode_append, encode_cons_of_ascii hq] at hdrop
  have hinside : bytes.drop (place + 1) = encode body ++ octet q :: encode after :=
    drop_succ_of_drop hdrop
  -- the body has as many bytes as its characters have together
  have hclosing : bytes.drop (place + 1 + size body) = octet q :: encode after := by
    rw [← length_encode]
    exact drop_of_drop hinside
  have hplace : place + size (q :: (body ++ [q])) = place + 1 + size body + 1 := by
    rw [size, size_append, size, size, utf8Size_of_ascii hq]
    omega
  rw [scan_opening hquote copied hdrop, scan_body hquote hbody copied hinside,
    scan_closing copied hclosing, hplace]

/-- A quotation that is not closed runs to the end. -/
theorem scan_open_quotation {q : Char} (hquote : Template.isQuote q = true) {body : List Char}
    (hbody : q ∉ body) (copied : Nat) (hdrop : bytes.drop place = encode (q :: body)) :
    scan bytes ⟨none, copied, place⟩ = ⟨[.copied ⟨copied, bytes.length⟩], none⟩ := by
  have hq : q.toNat < 0x80 := Octets.toNat_lt_of_isQuote hquote
  rw [encode_cons_of_ascii hq] at hdrop
  have hinside : bytes.drop (place + 1) = encode body ++ [] := by
    rw [List.append_nil]
    exact drop_succ_of_drop hdrop
  have hend : bytes.length ≤ place + 1 + size body := by
    rw [← List.drop_eq_nil_iff, ← length_encode]
    exact drop_of_drop hinside
  rw [scan_opening hquote copied hdrop, scan_body hquote hbody copied hinside, scan_end hend]

/-- Where a slot begins, the turn depends on the end of its key. -/
theorem turn?_slot {s : List Char} (copied : Nat)
    (hdrop : bytes.drop place = encode ('$' :: '(' :: s)) :
    bytes.drop (place + 2) = encode s
      ∧ turn? bytes ⟨none, copied, place⟩ = some (match keyEnd? bytes (place + 2) with
        | none => .unclosed ⟨place⟩
        | some after => .filled ⟨copied, place⟩ ⟨place + 2, after⟩ ⟨none, after + 1, after + 1⟩) := by
  rw [encode_cons_of_ascii (by decide), encode_cons_of_ascii (by decide)] at hdrop
  have hopens : opensSlot bytes place = true := by
    rw [opensSlot_of_drop hdrop]
    rfl
  have hswitch : switch? none (octet '$') = none := rfl
  refine ⟨drop_succ_of_drop (drop_succ_of_drop hdrop), ?_⟩
  rw [turn?_of_drop hdrop, turn, hswitch]
  exact congrArg some (if_pos ⟨rfl, hopens⟩)

/-- A slot that is closed is taken with the text before it. -/
theorem scan_slot {key after : List Char} (hkey : ')' ∉ key) (copied : Nat)
    (hdrop : bytes.drop place = encode ('$' :: '(' :: (key ++ ')' :: after))) :
    scan bytes ⟨none, copied, place⟩
      = { scan bytes ⟨none, place + 2 + size key + 1, place + 2 + size key + 1⟩ with
          parts := .copied ⟨copied, place⟩ :: .slot ⟨place + 2, place + 2 + size key⟩
            :: (scan bytes ⟨none, place + 2 + size key + 1, place + 2 + size key + 1⟩).parts } := by
  obtain ⟨hinside, hturn⟩ := turn?_slot copied hdrop
  rw [encode_append, encode_cons_of_ascii (by decide)] at hinside
  rw [keyEnd?_of_closed hkey hinside] at hturn
  rw [scan_eq, hturn]

/-- A slot that is not closed ends the loop. -/
theorem scan_open_slot {tail : List Char} (htail : ')' ∉ tail) (copied : Nat)
    (hdrop : bytes.drop place = encode ('$' :: '(' :: tail)) :
    scan bytes ⟨none, copied, place⟩ = ⟨[], some ⟨place⟩⟩ := by
  obtain ⟨hinside, hturn⟩ := turn?_slot copied hdrop
  rw [keyEnd?_of_open htail hinside] at hturn
  rw [scan_eq, hturn]

end Steps

end Cursor

/-! ## What is taken -/

theorem taken?_copied {all before mid after : List Char} {place : Nat}
    (hall : all = before ++ (mid ++ after)) (hplace : place = size (before ++ mid)) :
    taken? (encode all) (.copied ⟨size before, place⟩) = some (mid.map .verbatim) := by
  rw [hall, hplace, taken?, slice?_eq]
  rfl

theorem taken?_slot {all before key after : List Char} {first place : Nat}
    (hall : all = before ++ (key ++ after)) (hfirst : first = size before)
    (hplace : place = size (before ++ key)) :
    taken? (encode all) (.slot ⟨first, place⟩) = some [.slot (String.ofList key)] := by
  rw [hall, hfirst, hplace, taken?, slice?_eq]
  rfl

/-- What is taken first comes first among the pieces. -/
theorem pieces?_cons {bytes : List UInt8} {part : Part} {front : List Piece}
    (h : taken? bytes part = some front) (parts : List Part) (unclosed? : Option Unclosed) :
    Found.pieces? bytes ⟨part :: parts, unclosed?⟩
      = (Found.pieces? bytes ⟨parts, unclosed?⟩).map (·.map (front ++ ·)) := by
  rw [Found.pieces?, Found.pieces?, List.mapM_cons, h]
  cases parts.mapM (taken? bytes) with
  | none => rfl
  | some taken => cases unclosed? <;> rfl

theorem exists_of_mapM_eq_some {α β : Type} {f : α → Option β} {xs : List α} {ys : List β}
    (h : xs.mapM f = some ys) {x : α} (hx : x ∈ xs) : ∃ y, f x = some y := by
  induction xs generalizing ys with
  | nil => cases hx
  | cons x' xs ih =>
    rw [List.mapM_cons] at h
    obtain ⟨y, hy, hrest⟩ := Option.bind_eq_some_iff.1 h
    obtain ⟨ys', hys, -⟩ := Option.bind_eq_some_iff.1 hrest
    rcases List.mem_cons.1 hx with rfl | hmem
    · exact ⟨y, hy⟩
    · exact ih hys hmem

/-- If the pieces are not missing, every slice can be taken. -/
theorem sliceable_of_pieces? {s : List Char} {found : Found} {r : Except Unclosed (List Piece)}
    (h : found.pieces? (encode s) = some r) {stretch : Stretch}
    (hmem : .copied stretch ∈ found.parts ∨ .slot stretch ∈ found.parts) : Sliceable s stretch := by
  obtain ⟨taken, htaken, -⟩ := Option.map_eq_some_iff.1 h
  rcases hmem with hmem | hmem
  · obtain ⟨front, hfront⟩ := exists_of_mapM_eq_some htaken hmem
    obtain ⟨text, htext, -⟩ := Option.map_eq_some_iff.1 hfront
    exact sliceable_of_slice? htext
  · obtain ⟨front, hfront⟩ := exists_of_mapM_eq_some htaken hmem
    obtain ⟨key, hkey, -⟩ := Option.map_eq_some_iff.1 hfront
    exact sliceable_of_slice? hkey

/-! ## The loop follows the tokens -/

/-- The end of the statement: the run is taken, and nothing comes after it. -/
theorem pieces?_end {all done run : List Char} (hall : all = done ++ run) :
    Found.pieces? (encode all) ⟨[.copied ⟨size done, (encode all).length⟩], none⟩
      = some (.ok (run.map Piece.verbatim)) := by
  have hall' : all = done ++ (run ++ []) := by rw [hall, List.append_nil]
  have hlength : (encode all).length = size (done ++ run) := by rw [hall, length_encode]
  rw [pieces?_cons (taken?_copied hall' hlength)]
  show some (Except.ok (run.map Piece.verbatim ++ [])) = _
  rw [List.append_nil]

theorem drop_of_run {all done run s : List Char} (hall : all = done ++ (run ++ s)) :
    (encode all).drop (size (done ++ run)) = encode s := by
  rw [hall, ← List.append_assoc, drop_size_encode]

/-- A token that stands for itself joins the run. -/
theorem piecesOf_joined {t : Token} {ts : List Token} (done run : List Char)
    (hopen : ¬ (t = .literal '$' ∧ ts.head? = some (.literal '(')))
    (hpieces : t.pieces = t.source.map Piece.verbatim) :
    (piecesOf (size (done ++ run)) (t :: ts)).map (run.map Piece.verbatim ++ ·)
      = (piecesOf (size (done ++ (run ++ t.source))) ts).map
          ((run ++ t.source).map Piece.verbatim ++ ·) := by
  have hsize : size (done ++ run) + size t.source = size (done ++ (run ++ t.source)) := by
    rw [← List.append_assoc, size_append (done ++ run)]
  rw [piecesOf_cons hopen, map_map_pieces, hsize, hpieces, List.map_append]
  simp only [List.append_assoc]

/-- **The loop and the tokens.** Where the cursor stands in plain text behind a run of characters that were
not yet copied, every slice that the loop will take can be taken, and it will find the run and the pieces of
the tokens that follow, or the first slot that is left open. -/
theorem pieces?_scan (all s : List Char) {done run : List Char} (hall : all = done ++ (run ++ s)) :
    (Cursor.scan (encode all) ⟨none, size done, size (done ++ run)⟩).pieces? (encode all)
      = some ((piecesOf (size (done ++ run)) (tokens s)).map (run.map Piece.verbatim ++ ·)) := by
  have hdrop : (encode all).drop (size (done ++ run)) = encode s := drop_of_run hall
  fun_induction tokens s generalizing done run with
  | case1 =>
    have hend : all = done ++ run := by rw [hall, List.append_nil]
    rw [Cursor.scan_end (List.drop_eq_nil_iff.1 hdrop), pieces?_end hend]
    show _ = some (Except.ok (run.map Piece.verbatim ++ []))
    rw [List.append_nil]
  | case2 c rest hq body after h ih =>
    -- the marks and what is between them join the run
    obtain ⟨rfl, hbody⟩ := cutFirst?_eq_some h
    have hnext : all = done ++ ((run ++ c :: (body ++ [c])) ++ after) := by
      rw [hall]
      simp
    have hplace : size (done ++ run) + size (c :: (body ++ [c]))
        = size (done ++ (run ++ c :: (body ++ [c]))) := by
      rw [← List.append_assoc, size_append (done ++ run)]
    rw [Cursor.scan_quotation hq hbody _ hdrop, hplace, piecesOf_joined done run (by simp) rfl]
    exact ih hnext (drop_of_run hnext)
  | case3 c rest hq h =>
    -- the quotation runs to the end, and so does the run
    have hbody : c ∉ rest := cutFirst?_eq_none.1 h
    rw [Cursor.scan_open_quotation hq hbody _ hdrop, pieces?_end hall,
      piecesOf_joined done run (by simp) rfl]
    show _ = some (Except.ok (_ ++ []))
    rw [List.append_nil]
    rfl
  | case4 c rest hq key after h ih =>
    -- the run and the key are taken, and a new run begins behind the slot
    obtain ⟨hs, hkey⟩ := eq_of_leadingSlot? h
    rw [hs] at hall hdrop
    have hinside : all = (done ++ run ++ ['$', '(']) ++ (key ++ ')' :: after) := by
      rw [hall]
      simp
    have hnext : all = (done ++ run ++ (Token.placeholder key).source) ++ ([] ++ after) := by
      rw [hall]
      simp [Token.source]
    have hfirst : size (done ++ run) + 2 = size (done ++ run ++ ['$', '(']) := by
      rw [size_append (done ++ run)]
      rfl
    have hafter : size (done ++ run) + 2 + size key = size (done ++ run ++ ['$', '('] ++ key) := by
      rw [hfirst, size_append _ key]
    have hplace : size (done ++ run) + 2 + size key + 1
        = size (done ++ run ++ (Token.placeholder key).source) := by
      rw [size_append _ (Token.source _), Token.source, size, size, size_append key]
      show _ = size (done ++ run) + (1 + (1 + (size key + 1)))
      omega
    have hrun := ih hnext (drop_of_run hnext)
    rw [List.append_nil] at hrun
    rw [Cursor.scan_slot hkey _ hdrop, hplace, pieces?_cons (taken?_copied hall rfl),
      pieces?_cons (taken?_slot hinside hfirst hafter), hrun, piecesOf_placeholder,
      size_append (done ++ run)]
    cases piecesOf (size (done ++ run) + size (Token.placeholder key).source) (tokens after) <;> rfl
  | case5 c rest hq h ih =>
    by_cases hopen : c = '$' ∧ rest.head? = some '('
    · -- the slot is never closed: the loop fails at its first byte
      obtain ⟨rfl, hhead⟩ := hopen
      obtain ⟨tail, rfl⟩ := List.head?_eq_some_iff.1 hhead
      have htail : ')' ∉ tail := cutFirst?_eq_none.1 h
      have hnext : (tokens ('(' :: tail)).head? = some (.literal '(') :=
        (head?_tokens_eq_paren_iff _).2 rfl
      rw [Cursor.scan_open_slot htail _ hdrop, piecesOf, opensAt?, if_pos ⟨rfl, hnext⟩]
      rfl
    · -- one more character joins the run
      have hnext : all = done ++ ((run ++ [c]) ++ rest) := by
        rw [hall]
        simp
      have hplace : size (done ++ run) + c.utf8Size = size (done ++ (run ++ [c])) := by
        rw [← List.append_assoc, Octets.size_append_singleton]
      have hliteral : ¬ (Token.literal c = .literal '$'
          ∧ (tokens rest).head? = some (.literal '(')) := by
        rintro ⟨hc, hhead⟩
        exact hopen ⟨Token.literal.inj hc, (head?_tokens_eq_paren_iff rest).1 hhead⟩
      rw [Cursor.scan_literal (Bool.eq_false_iff.2 hq) hopen _ hdrop, hplace,
        piecesOf_joined done run hliteral rfl]
      exact ih hnext (drop_of_run hnext)

/-- What the loop finds in a statement are its pieces. -/
theorem pieces?_scan_start (s : List Char) :
    (Cursor.scan (encode s) Cursor.start).pieces? (encode s) = some (piecesFrom .plain 0 s) := by
  have hscan := pieces?_scan s s (show s = [] ++ ([] ++ s) from rfl)
  rw [piecesFrom_plain_eq]
  refine hscan.trans (congrArg some ?_)
  show (piecesOf 0 (tokens s)).map id = _
  cases piecesOf 0 (tokens s) <;> rfl

theorem Cursor.substitute?_eq (statement : String) (arguments : List String) :
    Cursor.substitute? statement arguments = some (substitute statement arguments) := by
  rw [Cursor.substitute?, pieces?_scan_start, substitute, pieces, Option.map_some]
  cases piecesFrom .plain 0 statement.toList with
  | error slot => rfl
  | ok ps => exact congrArg some (fillByCount_eq _ ps)

/-- **Filling by places.** The loop ends: after so many turns the cursor is at least so many bytes on, what
was copied is behind it, and it is within the statement. Every slice that is taken lies within the
statement, a key even before its last byte, and is cut between characters. And the statement that is
filled so, or the fault with its place, is the one that the characters give. -/
theorem cursor_fills_as_characters (statement : String) (arguments : List String) :
    let bytes := encode statement.toList
    (∀ n c, Cursor.after? bytes n Cursor.start = some c →
      n ≤ c.place ∧ c.copied ≤ c.place ∧ c.place ≤ bytes.length)
    ∧ (∀ n, bytes.length < n → Cursor.after? bytes n Cursor.start = none)
    ∧ (∀ text, .copied text ∈ (Cursor.scan bytes Cursor.start).parts →
      Sliceable statement.toList text)
    ∧ (∀ key, .slot key ∈ (Cursor.scan bytes Cursor.start).parts →
      Sliceable statement.toList key ∧ key.after < bytes.length)
    ∧ Cursor.substitute? statement arguments = some (substitute statement arguments)
    ∧ Cursor.substitute? statement arguments = Octets.substitute? statement arguments := by
  intro bytes
  have hpieces : (Cursor.scan bytes Cursor.start).pieces? bytes = some _ :=
    pieces?_scan_start statement.toList
  have hfilled := Cursor.substitute?_eq statement arguments
  refine ⟨?_, ?_, ?_, ?_, hfilled, ?_⟩
  · intro n c hc
    obtain ⟨horderly, hle⟩ := (Cursor.orderly_start bytes).after hc
    rw [Cursor.start, Nat.zero_add] at hle
    exact ⟨hle, horderly.copied_le, horderly.place_le⟩
  · intro n hn
    exact Cursor.after?_start_eq_none hn
  · intro text hmem
    exact sliceable_of_pieces? hpieces (.inl hmem)
  · intro key hmem
    exact ⟨sliceable_of_pieces? hpieces (.inr hmem), Cursor.lt_of_mem_parts hmem⟩
  · rw [hfilled, Octets.substitute?_eq]

end MysqlDesk.Template
