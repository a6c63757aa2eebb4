/-
Decoding what was encoded.

The decoder of `Text.Utf8` takes one byte at a time and knows the encoder only through the bounds that
`start` sets for the second byte of a sequence. This file has the fact that the two fit: the bytes of a
character bring the decoder from between two characters to between two characters and yield that
character (`piecesFrom_encodeChar`), for each of the four lengths of a sequence. Everything else about
encoded text follows from it by an induction on the text.

The other half is about single bytes. An ASCII character is its one byte, and every byte of any other
character is `0x80` or above, so a byte that looks like an ASCII mark is one.
-/
import MysqlDesk.Text.Utf8

set_option autoImplicit false

namespace MysqlDesk.Text.Utf8

/-! ## First bytes -/

theorem start_of_one {b : UInt8} (h : b.toNat < 0x80) : start b = .single (Char.ofNat b.toNat) := by
  have hb : b < 0x80 := UInt8.lt_iff_toNat_lt.2 h
  rw [start, if_pos hb]

theorem start_of_two {b : UInt8} (hlow : 0xC2 ≤ b.toNat) (hhigh : b.toNat < 0xE0) :
    start b = .sequence ⟨0, 0x80, 0xBF, b.toNat - 0xC0⟩ := by
  have h1 : ¬ b < 0x80 := by rw [UInt8.lt_iff_toNat_lt]; simp; omega
  have h2 : ¬ b < 0xC2 := by rw [UInt8.lt_iff_toNat_lt]; simp; omega
  have h3 : b < 0xE0 := by rw [UInt8.lt_iff_toNat_lt]; simp; omega
  rw [start, if_neg h1, if_neg h2, if_pos h3]

theorem start_of_three {b : UInt8} (hlow : 0xE0 ≤ b.toNat) (hhigh : b.toNat < 0xF0) :
    start b = .sequence ⟨1, if b = 0xE0 then 0xA0 else 0x80, if b = 0xED then 0x9F else 0xBF,
      b.toNat - 0xE0⟩ := by
  have h1 : ¬ b < 0x80 := by rw [UInt8.lt_iff_toNat_lt]; simp; omega
  have h2 : ¬ b < 0xC2 := by rw [UInt8.lt_iff_toNat_lt]; simp; omega
  have h3 : ¬ b < 0xE0 := by rw [UInt8.lt_iff_toNat_lt]; simp; omega
  have h4 : b < 0xF0 := by rw [UInt8.lt_iff_toNat_lt]; simp; omega
  rw [start, if_neg h1, if_neg h2, if_neg h3, if_pos h4]

theorem start_of_four {b : UInt8} (hlow : 0xF0 ≤ b.toNat) (hhigh : b.toNat < 0xF5) :
    start b = .sequence ⟨2, if b = 0xF0 then 0x90 else 0x80, if b = 0xF4 then 0x8F else 0xBF,
      b.toNat - 0xF0⟩ := by
  have h1 : ¬ b < 0x80 := by rw [UInt8.lt_iff_toNat_lt]; simp; omega
  have h2 : ¬ b < 0xC2 := by rw [UInt8.lt_iff_toNat_lt]; simp; omega
  have h3 : ¬ b < 0xE0 := by rw [UInt8.lt_iff_toNat_lt]; simp; omega
  have h4 : ¬ b < 0xF0 := by rw [UInt8.lt_iff_toNat_lt]; simp; omega
  have h5 : b < 0xF5 := by rw [UInt8.lt_iff_toNat_lt]; simp; omega
  rw [start, if_neg h1, if_neg h2, if_neg h3, if_neg h4, if_pos h5]

/-! ## Sequences -/

theorem piecesFrom_none_single {b : UInt8} {c : Char} (h : start b = .single c)
    (rest : List UInt8) : piecesFrom none (b :: rest) = some c :: piecesFrom none rest := by
  rw [piecesFrom, advance, begin, h]
  rfl

theorem piecesFrom_none_sequence {b : UInt8} {p : Pending} (h : start b = .sequence p)
    (rest : List UInt8) : piecesFrom none (b :: rest) = piecesFrom (some p) rest := by
  rw [piecesFrom, advance, begin, h]
  rfl

/-- The last byte of a sequence completes its character. -/
theorem piecesFrom_last {low high b : UInt8} (value : Nat) (hlow : low.toNat ≤ b.toNat)
    (hhigh : b.toNat ≤ high.toNat) (rest : List UInt8) :
    piecesFrom (some ⟨0, low, high, value⟩) (b :: rest)
      = some (Char.ofNat (value * 64 + (b.toNat - 0x80))) :: piecesFrom none rest := by
  have hb : low ≤ b ∧ b ≤ high := ⟨UInt8.le_iff_toNat_le.2 hlow, UInt8.le_iff_toNat_le.2 hhigh⟩
  rw [piecesFrom, advance, if_pos hb]
  rfl

/-- Any other byte of a sequence adds its six bits. -/
theorem piecesFrom_next {low high b : UInt8} (need value : Nat) (hlow : low.toNat ≤ b.toNat)
    (hhigh : b.toNat ≤ high.toNat) (rest : List UInt8) :
    piecesFrom (some ⟨need + 1, low, high, value⟩) (b :: rest)
      = piecesFrom (some ⟨need, 0x80, 0xBF, value * 64 + (b.toNat - 0x80)⟩) rest := by
  have hb : low ≤ b ∧ b ≤ high := ⟨UInt8.le_iff_toNat_le.2 hlow, UInt8.le_iff_toNat_le.2 hhigh⟩
  rw [piecesFrom, advance, if_pos hb]
  rfl

/-! ## Characters -/

theorem toNat_ofNat_of_lt_256 {n : Nat} (h : n < 256) : (UInt8.ofNat n).toNat = n := by
  rw [UInt8.toNat_ofNat', Nat.mod_eq_of_lt h]

theorem toNat_continuation (v : Nat) :
    (UInt8.ofNat (v % 0x40 + 0x80)).toNat = v % 0x40 + 0x80 :=
  toNat_ofNat_of_lt_256 (by omega)

/-- The code points that are no characters. -/
theorem not_surrogate (c : Char) : c.toNat < 0xD800 ∨ 0xDFFF < c.toNat ∧ c.toNat < 0x110000 :=
  c.valid

theorem piecesFrom_one {v : Nat} (hhigh : v ≤ 0x7f) (rest : List UInt8) :
    piecesFrom none (UInt8.ofNat v :: rest) = some (Char.ofNat v) :: piecesFrom none rest := by
  have hb : (UInt8.ofNat v).toNat = v := toNat_ofNat_of_lt_256 (by omega)
  rw [piecesFrom_none_single (start_of_one (by omega)), hb]

theorem piecesFrom_two {v : Nat} (hlow : 0x7f < v) (hhigh : v ≤ 0x7ff) (rest : List UInt8) :
    piecesFrom none
        (UInt8.ofNat (v / 64 % 0x20 + 0xc0) :: UInt8.ofNat (v % 0x40 + 0x80) :: rest)
      = some (Char.ofNat v) :: piecesFrom none rest := by
  have hb1 : (UInt8.ofNat (v / 64 % 0x20 + 0xc0)).toNat = v / 64 + 0xc0 := by
    rw [toNat_ofNat_of_lt_256 (by omega)]
    omega
  have hb2 := toNat_continuation v
  rw [piecesFrom_none_sequence (start_of_two (by omega) (by omega)),
    piecesFrom_last _ (by rw [hb2]; simp) (by rw [hb2]; simp; omega), hb1, hb2]
  have hv : (v / 64 + 0xc0 - 0xC0) * 64 + (v % 0x40 + 0x80 - 0x80) = v := by omega
  rw [hv]

theorem piecesFrom_three {v : Nat} (hlow : 0x7ff < v) (hhigh : v ≤ 0xffff)
    (hvalid : v < 0xD800 ∨ 0xDFFF < v) (rest : List UInt8) :
    piecesFrom none
        (UInt8.ofNat (v / 4096 % 0x10 + 0xe0) :: UInt8.ofNat (v / 64 % 0x40 + 0x80)
          :: UInt8.ofNat (v % 0x40 + 0x80) :: rest)
      = some (Char.ofNat v) :: piecesFrom none rest := by
  have hb1 : (UInt8.ofNat (v / 4096 % 0x10 + 0xe0)).toNat = v / 4096 + 0xe0 := by
    rw [toNat_ofNat_of_lt_256 (by omega)]
    omega
  have hb2 := toNat_continuation (v / 64)
  have hb3 := toNat_continuation v
  rw [piecesFrom_none_sequence (start_of_three (by omega) (by omega)), piecesFrom_next,
    piecesFrom_last _ (by rw [hb3]; simp) (by rw [hb3]; simp; omega), hb1, hb2, hb3]
  · have hv : ((v / 4096 + 0xe0 - 0xE0) * 64 + (v / 64 % 0x40 + 0x80 - 0x80)) * 64
        + (v % 0x40 + 0x80 - 0x80) = v := by omega
    rw [hv]
  · -- an overlong form would have a smaller second byte
    rw [hb2]
    by_cases he0 : UInt8.ofNat (v / 4096 % 0x10 + 0xe0) = 0xE0
    · have hv : v / 4096 + 0xe0 = 0xE0 := by rw [← hb1, he0]; rfl
      rw [if_pos he0]
      simp
      omega
    · rw [if_neg he0]
      simp
  · -- a surrogate would have a larger second byte
    rw [hb2]
    by_cases hed : UInt8.ofNat (v / 4096 % 0x10 + 0xe0) = 0xED
    · have hv : v / 4096 + 0xe0 = 0xED := by rw [← hb1, hed]; rfl
      rw [if_pos hed]
      simp
      omega
    · rw [if_neg hed]
      simp
      omega

theorem piecesFrom_four {v : Nat} (hlow : 0xffff < v) (hhigh : v < 0x110000)
    (rest : List UInt8) :
    piecesFrom none
        (UInt8.ofNat (v / 262144 % 0x08 + 0xf0) :: UInt8.ofNat (v / 4096 % 0x40 + 0x80)
          :: UInt8.ofNat (v / 64 % 0x40 + 0x80) :: UInt8.ofNat (v % 0x40 + 0x80) :: rest)
      = some (Char.ofNat v) :: piecesFrom none rest := by
  have hb1 : (UInt8.ofNat (v / 262144 % 0x08 + 0xf0)).toNat = v / 262144 + 0xf0 := by
    rw [toNat_ofNat_of_lt_256 (by omega)]
    omega
  have hb2 := toNat_continuation (v / 4096)
  have hb3 := toNat_continuation (v / 64)
  have hb4 := toNat_continuation v
  rw [piecesFrom_none_sequence (start_of_four (by omega) (by omega)), piecesFrom_next,
    piecesFrom_next _ _ (by rw [hb3]; simp) (by rw [hb3]; simp; omega),
    piecesFrom_last _ (by rw [hb4]; simp) (by rw [hb4]; simp; omega), hb1, hb2, hb3, hb4]
  · have hv : (((v / 262144 + 0xf0 - 0xF0) * 64 + (v / 4096 % 0x40 + 0x80 - 0x80)) * 64
        + (v / 64 % 0x40 + 0x80 - 0x80)) * 64 + (v % 0x40 + 0x80 - 0x80) = v := by omega
    rw [hv]
  · -- again, an overlong form would have a smaller second byte
    rw [hb2]
    by_cases hf0 : UInt8.ofNat (v / 262144 % 0x08 + 0xf0) = 0xF0
    · have hv : v / 262144 + 0xf0 = 0xF0 := by rw [← hb1, hf0]; rfl
      rw [if_pos hf0]
      simp
      omega
    · rw [if_neg hf0]
      simp
  · -- a number above all code points would have a larger one
    rw [hb2]
    by_cases hf4 : UInt8.ofNat (v / 262144 % 0x08 + 0xf0) = 0xF4
    · have hv : v / 262144 + 0xf0 = 0xF4 := by rw [← hb1, hf4]; rfl
      rw [if_pos hf4]
      simp
      omega
    · rw [if_neg hf4]
      simp
      omega

/-- **Decoding undoes encoding**, one character at a time. The cases are the lengths of the sequence;
the bounds of the second byte are met because a character is neither too small for its length nor a
surrogate. -/
theorem piecesFrom_encodeChar (c : Char) (rest : List UInt8) :
    piecesFrom none (String.utf8EncodeChar c ++ rest) = some c :: piecesFrom none rest := by
  have hvalid := not_surrogate c
  have hback : Char.ofNat c.toNat = c := Char.ofNat_toNat c
  have hval : c.val.toNat = c.toNat := rfl
  unfold String.utf8EncodeChar
  simp only [hval]
  generalize c.toNat = v at hvalid hback
  by_cases h1 : v ≤ 0x7f
  · rw [if_pos h1, ← hback]
    exact piecesFrom_one h1 rest
  by_cases h2 : v ≤ 0x7ff
  · rw [if_neg h1, if_pos h2, ← hback]
    exact piecesFrom_two (by omega) h2 rest
  by_cases h3 : v ≤ 0xffff
  · rw [if_neg h1, if_neg h2, if_pos h3, ← hback]
    exact piecesFrom_three (by omega) h3 (by omega) rest
  · rw [if_neg h1, if_neg h2, if_neg h3, ← hback]
    exact piecesFrom_four (by omega) (by omega) rest

/-! ## Texts -/

@[simp] theorem encode_cons (c : Char) (s : List Char) :
    encode (c :: s) = String.utf8EncodeChar c ++ encode s := rfl

theorem pieces_encode (s : List Char) : pieces (encode s) = s.map some := by
  rw [pieces]
  induction s with
  | nil => rfl
  | cons c s ih => rw [encode_cons, piecesFrom_encodeChar, ih, List.map_cons]

/-- A text is read back from its bytes. -/
theorem decode?_encode (s : List Char) : decode? (encode s) = some s := by
  rw [decode?, pieces_encode]
  induction s with
  | nil => rfl
  | cons c s ih => rw [List.map_cons, List.mapM_cons, ih]; rfl

/-- In the bytes of a text nothing is broken. -/
theorem decodeLossy_encode (s : List Char) : decodeLossy (encode s) = s := by
  rw [decodeLossy, pieces_encode, List.map_map]
  exact List.map_id s

/-! ## Single bytes -/

/-- An ASCII character is its one byte. -/
theorem encodeChar_of_ascii {c : Char} (h : c.toNat < 0x80) :
    String.utf8EncodeChar c = [UInt8.ofNat c.toNat] := by
  have hval : c.val.toNat ≤ 0x7f := Nat.le_of_lt_succ h
  unfold String.utf8EncodeChar
  simp only [if_pos hval]
  rfl

/-- Every byte of any other character is above the ASCII ones. -/
theorem le_of_mem_encodeChar {c : Char} (h : ¬ c.toNat < 0x80) {b : UInt8}
    (hb : b ∈ String.utf8EncodeChar c) : 0x80 ≤ b.toNat := by
  have hval : ¬ c.val.toNat ≤ 0x7f := fun hle => h (Nat.lt_succ_of_le hle)
  unfold String.utf8EncodeChar at hb
  simp only [if_neg hval] at hb
  split at hb
  · simp only [List.mem_cons, List.not_mem_nil, or_false] at hb
    rcases hb with rfl | rfl <;> rw [toNat_ofNat_of_lt_256 (by omega)] <;> omega
  split at hb
  · simp only [List.mem_cons, List.not_mem_nil, or_false] at hb
    rcases hb with rfl | rfl | rfl <;> rw [toNat_ofNat_of_lt_256 (by omega)] <;> omega
  · simp only [List.mem_cons, List.not_mem_nil, or_false] at hb
    rcases hb with rfl | rfl | rfl | rfl <;> rw [toNat_ofNat_of_lt_256 (by omega)] <;> omega

end MysqlDesk.Text.Utf8
