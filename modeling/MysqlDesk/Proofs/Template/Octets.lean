/-
Filling a template from its bytes is filling it from its characters.

The machine of `Template.Octets` runs over bytes and remembers places; the machine of `Template.Piece`
runs over characters and remembers what it saw. This file holds the two side by side. The invariant,
`Tracks`, says for each mode how the places that the bytes machine remembers cut the statement: the
bytes since the last stretch are a run of characters already read, and an open slot stands right
before the characters of its key. It is kept by every step of the character machine, because

* a byte that looks like a mark is one (the bytes of all other characters are `0x80` or above), so
  both machines turn at the same places, and
* a place between two characters cuts the bytes of a statement where it cuts the statement, so every
  stretch has the text that the character machine saw.

The conclusion, `substitute?_eq`, says both that no stretch is ever without a text and that the filling
is the same.
-/
import MysqlDesk.Proofs.Template.Token
import MysqlDesk.Proofs.Text.Utf8
import MysqlDesk.Template.Octets

set_option autoImplicit false

namespace MysqlDesk.Template.Octets

open MysqlDesk.Text.Utf8

/-! ## Marks as bytes -/

/-- The byte of an ASCII character. -/
def octet (c : Char) : UInt8 := UInt8.ofNat c.toNat

theorem toNat_octet {c : Char} (h : c.toNat < 0x80) : (octet c).toNat = c.toNat :=
  toNat_ofNat_of_lt_256 (by omega)

theorem octet_eq_octet_iff {c d : Char} (hc : c.toNat < 0x80) (hd : d.toNat < 0x80) :
    octet c = octet d ↔ c = d := by
  constructor
  · intro h
    have hnat : c.toNat = d.toNat := by rw [← toNat_octet hc, ← toNat_octet hd, h]
    rw [← Char.ofNat_toNat c, ← Char.ofNat_toNat d, hnat]
  · rintro rfl
    rfl

theorem octet_beq_octet {c d : Char} (hc : c.toNat < 0x80) (hd : d.toNat < 0x80) :
    (octet c == octet d) = (c == d) := by
  rw [Bool.eq_iff_iff, beq_iff_eq, beq_iff_eq]
  exact octet_eq_octet_iff hc hd

theorem toNat_lt_of_isQuote {c : Char} (h : Template.isQuote c = true) : c.toNat < 0x80 := by
  simp only [Template.isQuote, Bool.or_eq_true, beq_iff_eq] at h
  rcases h with (rfl | rfl) | rfl <;> decide

theorem isQuote_octet {c : Char} (h : c.toNat < 0x80) :
    isQuote (octet c) = Template.isQuote c := by
  have h1 : (octet c == 0x27) = (c == '\'') := octet_beq_octet (d := '\'') h (by decide)
  have h2 : (octet c == 0x22) = (c == '"') := octet_beq_octet (d := '"') h (by decide)
  have h3 : (octet c == 0x60) = (c == '\x60') := octet_beq_octet (d := '\x60') h (by decide)
  rw [isQuote, Template.isQuote, h1, h2, h3]

theorem ne_octet {b : UInt8} (hb : 0x80 ≤ b.toNat) {c : Char} (hc : c.toNat < 0x80) :
    b ≠ octet c := by
  rintro rfl
  rw [toNat_octet hc] at hb
  omega

theorem isQuote_eq_false {b : UInt8} (hb : 0x80 ≤ b.toNat) : isQuote b = false := by
  have h1 : b ≠ 0x27 := ne_octet (c := '\'') hb (by decide)
  have h2 : b ≠ 0x22 := ne_octet (c := '"') hb (by decide)
  have h3 : b ≠ 0x60 := ne_octet (c := '\x60') hb (by decide)
  simp [isQuote, h1, h2, h3]

/-- A statement begins with an ASCII character when its bytes begin with its byte. -/
theorem head?_encode_eq_octet_iff {d : Char} (hd : d.toNat < 0x80) (s : List Char) :
    (encode s).head? = some (octet d) ↔ s.head? = some d := by
  cases s with
  | nil => simp [encode]
  | cons c rest =>
    rw [encode_cons, List.head?_cons, Option.some.injEq]
    by_cases hc : c.toNat < 0x80
    · rw [encodeChar_of_ascii hc, List.cons_append, List.head?_cons, Option.some.injEq]
      exact octet_eq_octet_iff hc hd
    · -- the first byte is above ASCII, so both sides are false
      obtain ⟨b, bs, hbs⟩ : ∃ b bs, String.utf8EncodeChar c = b :: bs :=
        List.exists_cons_of_ne_nil String.utf8EncodeChar_ne_nil
      have hb : 0x80 ≤ b.toNat := le_of_mem_encodeChar hc (hbs ▸ List.mem_cons_self)
      have hcd : c ≠ d := by rintro rfl; exact hc hd
      rw [hbs, List.cons_append, List.head?_cons, Option.some.injEq]
      exact ⟨fun h => absurd h (ne_octet hb hd), fun h => absurd h hcd⟩

/-! ## Steps of the byte machine -/

/-- The modes that only an ASCII byte can end. -/
def EndsInAscii : Mode → Prop
  | .plain => True
  | .quoted mark => mark.toNat < 0x80
  | .opening _ => False
  | .key _ => True

theorem partsFrom_high {mode : Mode} (hmode : EndsInAscii mode) {b : UInt8}
    (hb : 0x80 ≤ b.toNat) (start place : Nat) (rest : List UInt8) :
    partsFrom mode start place (b :: rest) = partsFrom mode start (place + 1) rest := by
  cases mode with
  | plain =>
    have hmark : b ≠ 0x24 := ne_octet (c := '$') hb (by decide)
    rw [partsFrom, isQuote_eq_false hb, if_neg (by simp), if_neg fun h => hmark h.1]
  | quoted mark =>
    have hmark : b ≠ mark := by
      rintro rfl
      exact absurd hmode (Nat.not_lt.2 hb)
    rw [partsFrom, if_neg hmark]
  | opening opened => exact hmode.elim
  | key opened =>
    have hmark : b ≠ 0x29 := ne_octet (c := ')') hb (by decide)
    rw [partsFrom, if_neg hmark]

/-- In such a mode a character that is no ASCII character is passed over byte by byte. -/
theorem partsFrom_skip {mode : Mode} (hmode : EndsInAscii mode) {bs : List UInt8}
    (h : ∀ b ∈ bs, 0x80 ≤ b.toNat) (start place : Nat) (rest : List UInt8) :
    partsFrom mode start place (bs ++ rest) = partsFrom mode start (place + bs.length) rest := by
  induction bs generalizing place with
  | nil => rfl
  | cons b bs ih =>
    obtain ⟨hb, hbs⟩ := List.forall_mem_cons.1 h
    rw [List.cons_append, partsFrom_high hmode hb, ih hbs, List.length_cons, Nat.add_assoc,
      Nat.add_comm 1]

theorem utf8Size_of_ascii {c : Char} (h : c.toNat < 0x80) : c.utf8Size = 1 := by
  rw [← String.length_utf8EncodeChar, encodeChar_of_ascii h]
  rfl

/-- One character of plain text that opens no slot. -/
theorem partsFrom_plain_char {c : Char} {s : List Char}
    (h : ¬ (c = '$' ∧ s.head? = some '(')) (start place : Nat) :
    partsFrom .plain start place (encode (c :: s))
      = partsFrom (if Template.isQuote c then .quoted (octet c) else .plain) start
          (place + c.utf8Size) (encode s) := by
  rw [encode_cons]
  -- an ASCII character is one step, any other is passed over
  by_cases hc : c.toNat < 0x80
  · have hopen : ¬ (octet c = 0x24 ∧ (encode s).head? = some 0x28) := by
      rintro ⟨hdollar, hparen⟩
      exact h ⟨(octet_eq_octet_iff (d := '$') hc (by decide)).1 hdollar,
        (head?_encode_eq_octet_iff (d := '(') (by decide) s).1 hparen⟩
    rw [encodeChar_of_ascii hc, List.cons_append, List.nil_append, partsFrom,
      utf8Size_of_ascii hc, ← octet, isQuote_octet hc]
    by_cases hq : Template.isQuote c = true
    · rw [if_pos hq, if_pos hq]
    · rw [if_neg hq, if_neg hq, if_neg hopen]
  · have hq : ¬ Template.isQuote c = true := fun hq => hc (toNat_lt_of_isQuote hq)
    have hmode : EndsInAscii .plain := trivial
    rw [if_neg hq, partsFrom_skip hmode (fun b hb => le_of_mem_encodeChar hc hb),
      String.length_utf8EncodeChar]

/-- One character of a quotation. -/
theorem partsFrom_quoted_char {mark : Char} (hmark : Template.isQuote mark = true) (c : Char)
    (s : List Char) (start place : Nat) :
    partsFrom (.quoted (octet mark)) start place (encode (c :: s))
      = partsFrom (if c = mark then .plain else .quoted (octet mark)) start (place + c.utf8Size)
          (encode s) := by
  have hascii : mark.toNat < 0x80 := toNat_lt_of_isQuote hmark
  rw [encode_cons]
  by_cases hc : c.toNat < 0x80
  · rw [encodeChar_of_ascii hc, List.cons_append, List.nil_append, partsFrom,
      utf8Size_of_ascii hc, ← octet]
    by_cases hcm : c = mark
    · rw [if_pos hcm, if_pos (by rw [hcm])]
    · rw [if_neg hcm, if_neg (fun h => hcm ((octet_eq_octet_iff hc hascii).1 h))]
  · have hcm : c ≠ mark := by rintro rfl; exact hc hascii
    have hmode : EndsInAscii (.quoted (octet mark)) := by
      rw [EndsInAscii, toNat_octet hascii]
      exact hascii
    rw [if_neg hcm, partsFrom_skip hmode (fun b hb => le_of_mem_encodeChar hc hb),
      String.length_utf8EncodeChar]

/-- One character of a key. -/
theorem partsFrom_key_char {c : Char} (h : c ≠ ')') (s : List Char) (opened start place : Nat) :
    partsFrom (.key opened) start place (encode (c :: s))
      = partsFrom (.key opened) start (place + c.utf8Size) (encode s) := by
  rw [encode_cons]
  by_cases hc : c.toNat < 0x80
  · have hne : ¬ octet c = 0x29 := fun hp =>
      h ((octet_eq_octet_iff (d := ')') hc (by decide)).1 hp)
    rw [encodeChar_of_ascii hc, List.cons_append, List.nil_append, partsFrom,
      utf8Size_of_ascii hc, ← octet, if_neg hne]
  · have hmode : EndsInAscii (.key opened) := trivial
    rw [partsFrom_skip hmode (fun b hb => le_of_mem_encodeChar hc hb),
      String.length_utf8EncodeChar]

/-- The two characters that open a slot. -/
theorem partsFrom_plain_open (s : List Char) (start place : Nat) :
    partsFrom .plain start place (encode ('$' :: '(' :: s))
      = (partsFrom (.key place) start (place + 2) (encode s)).map (.copied ⟨start, place⟩ :: ·) := by
  have hbytes : encode ('$' :: '(' :: s) = 0x24 :: 0x28 :: encode s := rfl
  rw [hbytes, partsFrom, if_neg (by decide), if_pos ⟨rfl, rfl⟩, partsFrom]

/-- The character that closes a slot. -/
theorem partsFrom_key_close (s : List Char) (opened start place : Nat) :
    partsFrom (.key opened) start place (encode (')' :: s))
      = (partsFrom .plain (place + 1) (place + 1) (encode s)).map
          (.slot ⟨opened + 2, place⟩ :: ·) := by
  have hbytes : encode (')' :: s) = 0x29 :: encode s := rfl
  rw [hbytes, partsFrom, if_pos rfl]

/-! ## Stretches between characters -/

/-- A stretch between two characters has the text that stands there. -/
theorem text?_slice (before mid after : List Char) :
    (Stretch.mk (size before) (size (before ++ mid))).text? (encode (before ++ (mid ++ after)))
      = some mid := by
  have hbefore : (encode before).length = size before := length_encode before
  have hmid : (encode mid).length = size mid := length_encode mid
  have hcut : (encode (before ++ (mid ++ after))).drop (size before) = encode mid ++ encode after := by
    rw [encode_append, encode_append, ← hbefore, List.drop_left]
  have hin : size before ≤ size (before ++ mid)
      ∧ size (before ++ mid) ≤ (encode (before ++ (mid ++ after))).length := by
    rw [length_encode, size_append, size_append, size_append]
    omega
  rw [Stretch.text?, if_pos hin, hcut, size_append, Nat.add_sub_cancel_left, ← hmid,
    List.take_left, decode?_encode]

theorem pieces?_copied {all before mid after : List Char} {place : Nat}
    (hall : all = before ++ (mid ++ after)) (hplace : place = size (before ++ mid)) :
    Part.pieces? (encode all) (.copied ⟨size before, place⟩) = some (mid.map .verbatim) := by
  rw [hall, hplace, Part.pieces?, text?_slice]
  rfl

theorem pieces?_slot {all before key after : List Char} {first place : Nat}
    (hall : all = before ++ (key ++ after)) (hfirst : first = size before)
    (hplace : place = size (before ++ key)) :
    Part.pieces? (encode all) (.slot ⟨first, place⟩) = some [.slot (String.ofList key)] := by
  rw [hall, hfirst, hplace, Part.pieces?, text?_slice]
  rfl

/-! ## The two machines side by side -/

/-- The pieces of the parts that were found, if every stretch of them has a text. -/
def readParts (bytes : List UInt8) (r : Except Unclosed (List Part)) :
    Except Unclosed (Option (List Piece)) :=
  r.map fun ps => (ps.mapM (Part.pieces? bytes)).map List.flatten

theorem readParts_cons {bytes : List UInt8} {part : Part} {front : List Piece}
    (h : part.pieces? bytes = some front) (r : Except Unclosed (List Part)) :
    readParts bytes (r.map (part :: ·)) = (readParts bytes r).map (·.map (front ++ ·)) := by
  cases r with
  | error u => rfl
  | ok ps =>
    have hflat : ((part :: ps).mapM (Part.pieces? bytes)).map List.flatten
        = ((ps.mapM (Part.pieces? bytes)).map List.flatten).map (front ++ ·) := by
      rw [List.mapM_cons, h]
      cases ps.mapM (Part.pieces? bytes) <;> rfl
    simp only [readParts, Except.map, hflat]

/-- **The invariant.** The byte machine, at the place before the rest `s` of the statement `all`, will
find the pieces that the character machine finds, behind the `run` that it has not yet cut off. In a key
it will find them as they are, since the run before the slot was cut off when the slot began. -/
def Tracks (all : List Char) : Template.Mode → Nat → List Char → Prop
  | .plain, passed, s => ∀ done run, all = done ++ (run ++ s) → passed = size (done ++ run) →
      readParts (encode all) (partsFrom .plain (size done) passed (encode s))
        = (piecesFrom .plain passed s).map fun ps => some (run.map Piece.verbatim ++ ps)
  | .quoted mark, passed, s => Template.isQuote mark = true →
      ∀ done run, all = done ++ (run ++ s) → passed = size (done ++ run) →
      readParts (encode all) (partsFrom (.quoted (octet mark)) (size done) passed (encode s))
        = (piecesFrom (.quoted mark) passed s).map fun ps => some (run.map Piece.verbatim ++ ps)
  | .key opened seen, passed, s => ∀ start before, all = before ++ (seen.reverse ++ s) →
      opened + 2 = size before → passed = size (before ++ seen.reverse) →
      readParts (encode all) (partsFrom (.key opened) start passed (encode s))
        = (piecesFrom (.key opened seen) passed s).map some

theorem size_append_singleton (s : List Char) (c : Char) :
    size (s ++ [c]) = size s + c.utf8Size := by
  rw [size_append, size, size, Nat.add_zero]

/-- A character that is read goes to the end of the run. -/
theorem run_append {all done run rest : List Char} {c : Char} {passed : Nat}
    (hall : all = done ++ (run ++ c :: rest)) (hpassed : passed = size (done ++ run)) :
    all = done ++ ((run ++ [c]) ++ rest)
      ∧ passed + c.utf8Size = size (done ++ (run ++ [c])) := by
  constructor
  · rw [hall, List.append_assoc run]
    rfl
  · rw [← List.append_assoc, size_append_singleton, hpassed]

/-- Every step of the character machine keeps the invariant. -/
theorem tracks (all : List Char) (mode : Template.Mode) (passed : Nat) (s : List Char) :
    Tracks all mode passed s := by
  induction mode, passed, s using piecesFrom.induct with
  | case1 opened seen passed =>
    -- an open slot at the end: both machines fail where it began
    intro start before hall hopened hpassed
    rfl
  | case2 passed =>
    -- the end of plain text, or of an open quotation: the run is the last stretch
    intro done run hall hpassed
    have hbytes : partsFrom .plain (size done) passed (encode [])
        = (.ok [] : Except Unclosed (List Part)).map (.copied ⟨size done, passed⟩ :: ·) := rfl
    rw [hbytes, readParts_cons (pieces?_copied hall hpassed)]
    rfl
  | case3 mark passed =>
    intro hmark done run hall hpassed
    have hbytes : partsFrom (.quoted (octet mark)) (size done) passed (encode [])
        = (.ok [] : Except Unclosed (List Part)).map (.copied ⟨size done, passed⟩ :: ·) := rfl
    rw [hbytes, readParts_cons (pieces?_copied hall hpassed)]
    rfl
  | case4 passed rest ih =>
    -- the run before the slot is cut off here, and the key begins behind the two marks
    intro done run hall hpassed
    have hkey : all = (done ++ (run ++ ['$', '('])) ++ (([] : List Char).reverse ++ rest) := by
      rw [hall]
      simp
    have hsize : size (done ++ (run ++ ['$', '('])) = passed + 2 := by
      rw [← List.append_assoc, size_append, hpassed]
      rfl
    rw [partsFrom_plain_open, readParts_cons (pieces?_copied hall hpassed),
      ih (size done) (done ++ (run ++ ['$', '('])) hkey hsize.symm (by rw [← hsize]; simp),
      piecesFrom]
    cases piecesFrom (.key passed []) (passed + 2) rest <;> rfl
  | case5 passed c rest hopen mode ih =>
    -- nothing is cut off in plain text; a quote character only changes the mode
    intro done run hall hpassed
    have hno : ¬ (c = '$' ∧ rest.head? = some '(') := by
      rintro ⟨hc, hhead⟩
      cases rest with
      | nil => cases hhead
      | cons d tail => exact hopen tail hc (by rw [Option.some.inj hhead])
    obtain ⟨hall', hpassed'⟩ := run_append hall hpassed
    rw [partsFrom_plain_char hno, piecesFrom_plain_cons hno]
    by_cases hq : Template.isQuote c = true
    · have hmode : mode = .quoted c := if_pos hq
      rw [hmode] at ih
      rw [if_pos hq, if_pos hq, ih hq done (run ++ [c]) hall' hpassed', List.map_append]
      cases piecesFrom (.quoted c) (passed + c.utf8Size) rest <;> simp [Except.map]
    · have hmode : mode = .plain := if_neg hq
      rw [hmode] at ih
      rw [if_neg hq, if_neg hq, ih done (run ++ [c]) hall' hpassed', List.map_append]
      cases piecesFrom .plain (passed + c.utf8Size) rest <;> simp [Except.map]
  | case6 mark passed c rest mode ih =>
    -- nor in a quotation, whose closing mark is part of the run
    intro hmark done run hall hpassed
    obtain ⟨hall', hpassed'⟩ := run_append hall hpassed
    rw [partsFrom_quoted_char hmark, piecesFrom]
    by_cases hc : c = mark
    · have hmode : mode = .plain := if_pos hc
      rw [hmode] at ih
      rw [if_pos hc, if_pos hc, ih done (run ++ [c]) hall' hpassed', List.map_append]
      cases piecesFrom .plain (passed + c.utf8Size) rest <;> simp [Except.map]
    · have hmode : mode = .quoted mark := if_neg hc
      rw [hmode] at ih
      rw [if_neg hc, if_neg hc, ih hmark done (run ++ [c]) hall' hpassed', List.map_append]
      cases piecesFrom (.quoted mark) (passed + c.utf8Size) rest <;> simp [Except.map]
  | case7 opened seen passed rest ih =>
    -- the key is cut off here, and the next run begins behind the parenthesis
    intro start before hall hopened hpassed
    have hdone : all = (before ++ (seen.reverse ++ [')'])) ++ ([] ++ rest) := by
      rw [hall]
      simp
    have hsize : size (before ++ (seen.reverse ++ [')'])) = passed + 1 := by
      rw [← List.append_assoc, size_append_singleton, hpassed]
      rfl
    have hrun := ih (before ++ (seen.reverse ++ [')'])) [] hdone (by rw [List.append_nil, hsize])
    rw [hsize] at hrun
    rw [partsFrom_key_close, readParts_cons (pieces?_slot hall hopened hpassed), hrun, piecesFrom, if_pos rfl]
    cases piecesFrom .plain (passed + 1) rest <;> rfl
  | case8 opened seen passed c rest hc ih =>
    -- one more character of the key
    intro start before hall hopened hpassed
    have hall' : all = before ++ ((c :: seen).reverse ++ rest) := by
      rw [hall]
      simp
    have hpassed' : passed + c.utf8Size = size (before ++ (c :: seen).reverse) := by
      rw [List.reverse_cons, ← List.append_assoc, size_append_singleton, hpassed]
    rw [partsFrom_key_char hc, piecesFrom, if_neg hc]
    exact ih start before hall' hopened hpassed'

/-- The parts of a statement's bytes are its pieces. -/
theorem readParts_parts (s : List Char) :
    readParts (encode s) (parts (encode s)) = (piecesFrom .plain 0 s).map some := by
  have h := tracks s .plain 0 s [] [] rfl rfl
  rw [parts]
  exact h

/-- **Filling from bytes is filling from characters**: every stretch has a text, and the fillings, or
the faults with their places, are the same. -/
theorem substitute?_eq (statement : String) (arguments : List String) :
    substitute? statement arguments = some (substitute statement arguments) := by
  have h := readParts_parts statement.toList
  rw [substitute?, substitute, Template.pieces]
  -- both machines fail or neither does; the mixed cases contradict `h`
  cases hparts : parts (encode statement.toList) with
  | error u =>
    rw [hparts] at h
    cases hpieces : piecesFrom .plain 0 statement.toList with
    | error v =>
      rw [hpieces] at h
      have huv : u = v := Except.error.inj h
      rw [huv]
    | ok ps =>
      rw [hpieces] at h
      cases h
  | ok found =>
    rw [hparts] at h
    cases hpieces : piecesFrom .plain 0 statement.toList with
    | error v =>
      rw [hpieces] at h
      cases h
    | ok ps =>
      rw [hpieces] at h
      have hread : (found.mapM (Part.pieces? (encode statement.toList))).map List.flatten
          = some ps := Except.ok.inj h
      obtain ⟨texts, htexts, hps⟩ := Option.map_eq_some_iff.1 hread
      simp only [htexts, Option.map_some, hps]

end MysqlDesk.Template.Octets
