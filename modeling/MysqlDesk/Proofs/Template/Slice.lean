/-
Slices of a text from its bytes.

All bytes of a character but the first are marked as its continuation, and no first byte is. So the byte at a
place tells whether the place is inside a character (`isBoundary_encode_iff`). A slice that begins and ends
where the check allows has a text, the one that stands there (`slice?_eq`), and no other slice can be taken
(`sliceable_of_slice?`).
-/
import MysqlDesk.Proofs.Template.Octets
import MysqlDesk.Template.Cursor

set_option autoImplicit false

namespace MysqlDesk.Template

open MysqlDesk.Text.Utf8
open Octets (text?_slice Stretch)

/-! ## Between two characters -/

theorem isContinuation_ofNat {n : Nat} (h : n < 256) :
    isContinuation (UInt8.ofNat n) = true ↔ 0x80 ≤ n ∧ n < 0xC0 := by
  rw [isContinuation, toNat_ofNat_of_lt_256 h, Bool.and_eq_true, decide_eq_true_iff,
    decide_eq_true_iff]

theorem isContinuation_low (v : Nat) : isContinuation (UInt8.ofNat (v % 0x40 + 0x80)) = true :=
  (isContinuation_ofNat (by omega)).2 (by omega)

/-- A first byte is below those that continue a character, or above them. -/
theorem not_isContinuation {n : Nat} (h : n < 0x80 ∨ 0xC0 ≤ n ∧ n < 256) :
    isContinuation (UInt8.ofNat n) = false := by
  rw [← Bool.not_eq_true, isContinuation_ofNat (by omega)]
  omega

/-- Of the bytes of a character, all but the first continue it. -/
theorem isContinuation_encodeChar (c : Char) :
    ∃ b bs, String.utf8EncodeChar c = b :: bs ∧ isContinuation b = false
      ∧ ∀ b' ∈ bs, isContinuation b' = true := by
  unfold String.utf8EncodeChar
  generalize c.val.toNat = v
  -- the cases are the lengths of the sequence, and each length has its own range of first bytes
  by_cases h1 : v ≤ 0x7f
  · exact ⟨_, [], if_pos h1, not_isContinuation (by omega), by simp⟩
  by_cases h2 : v ≤ 0x7ff
  · refine ⟨_, _, by rw [if_neg h1, if_pos h2], not_isContinuation (by omega), ?_⟩
    simp only [List.forall_mem_cons, isContinuation_low]
    simp
  by_cases h3 : v ≤ 0xffff
  · refine ⟨_, _, by rw [if_neg h1, if_neg h2, if_pos h3], not_isContinuation (by omega), ?_⟩
    simp only [List.forall_mem_cons, isContinuation_low]
    simp
  · refine ⟨_, _, by rw [if_neg h1, if_neg h2, if_neg h3], not_isContinuation (by omega), ?_⟩
    simp only [List.forall_mem_cons, isContinuation_low]
    simp

theorem drop_size_encode (before after : List Char) :
    (encode (before ++ after)).drop (size before) = encode after := by
  rw [encode_append, ← length_encode, List.drop_left]

theorem isBoundary_zero (bytes : List UInt8) : isBoundary bytes 0 = true :=
  if_pos rfl

theorem isBoundary_of_byte {bytes : List UInt8} {place : Nat} (hne : place ≠ 0) {b : UInt8}
    (hbyte : bytes[place]? = some b) : isBoundary bytes place = !isContinuation b := by
  rw [isBoundary, if_neg hne, hbyte]

theorem isBoundary_of_end {bytes : List UInt8} {place : Nat} (hne : place ≠ 0)
    (hend : bytes[place]? = none) : isBoundary bytes place = (place == bytes.length) := by
  rw [isBoundary, if_neg hne, hend]

/-- Behind a whole character, the boundaries are those of what is left. -/
theorem isBoundary_encode_add (c : Char) (s : List Char) {place : Nat} (h : place ≠ 0) :
    isBoundary (encode (c :: s)) (c.utf8Size + place) = isBoundary (encode s) place := by
  have hbyte : (encode (c :: s))[c.utf8Size + place]? = (encode s)[place]? := by
    rw [encode_cons, ← String.length_utf8EncodeChar c,
      List.getElem?_append_right (Nat.le_add_right _ _), Nat.add_sub_cancel_left]
  have hlength : (encode (c :: s)).length = c.utf8Size + (encode s).length := by
    rw [encode_cons, List.length_append, String.length_utf8EncodeChar]
  have hpast : c.utf8Size + place ≠ 0 := by omega
  -- behind the last byte the two places are compared with the two lengths
  cases hrest : (encode s)[place]? with
  | none =>
    rw [isBoundary_of_end h hrest, isBoundary_of_end hpast (hbyte.trans hrest), hlength,
      Bool.eq_iff_iff, beq_iff_eq, beq_iff_eq]
    omega
  | some b => rw [isBoundary_of_byte h hrest, isBoundary_of_byte hpast (hbyte.trans hrest)]

theorem isBoundary_size (before after : List Char) :
    isBoundary (encode (before ++ after)) (size before) = true := by
  by_cases hzero : size before = 0
  · rw [hzero, isBoundary_zero]
  · have hbyte : (encode (before ++ after))[size before]? = (encode after)[0]? := by
      rw [← drop_size_encode before after, List.getElem?_drop, Nat.add_zero]
    cases after with
    | nil =>
      rw [isBoundary_of_end hzero hbyte, List.append_nil, length_encode]
      exact beq_self_eq_true _
    | cons c after =>
      obtain ⟨b, bs, hbytes, hfirst, -⟩ := isContinuation_encodeChar c
      rw [encode_cons, hbytes] at hbyte
      rw [isBoundary_of_byte hzero hbyte, hfirst]
      rfl

/-- Inside a character there is no boundary. -/
theorem le_of_isBoundary {c : Char} {s : List Char} {place : Nat}
    (h : isBoundary (encode (c :: s)) place = true) (hne : place ≠ 0) : c.utf8Size ≤ place := by
  obtain ⟨b, bs, hbytes, -, hrest⟩ := isContinuation_encodeChar c
  obtain ⟨k, rfl⟩ := Nat.exists_eq_succ_of_ne_zero hne
  have hsize : c.utf8Size = bs.length + 1 := by
    rw [← String.length_utf8EncodeChar c, hbytes, List.length_cons]
  refine Nat.not_lt.1 fun hlt => ?_
  have hk : k < bs.length := by omega
  -- the byte there is one of those that continue the character
  have hbyte : (encode (c :: s))[k + 1]? = some bs[k] := by
    rw [encode_cons, hbytes, List.cons_append, List.getElem?_cons_succ,
      List.getElem?_append_left hk, List.getElem?_eq_getElem hk]
  rw [isBoundary_of_byte hne hbyte, hrest _ (List.getElem_mem hk)] at h
  cases h

/-- The place is not inside a character: some of the characters are before it, the others behind. -/
def IsBetween (s : List Char) (place : Nat) : Prop :=
  ∃ before after, s = before ++ after ∧ place = size before

/-- **Boundaries.** A place in the bytes of a text is a boundary exactly if it is not inside a
character. -/
theorem isBoundary_encode_iff {s : List Char} {place : Nat} :
    isBoundary (encode s) place = true ↔ IsBetween s place := by
  constructor
  · intro h
    induction s generalizing place with
    | nil =>
      refine ⟨[], [], rfl, Decidable.byContradiction fun hne => ?_⟩
      rw [isBoundary_of_end hne rfl] at h
      exact hne (beq_iff_eq.1 h)
    | cons c s ih =>
      by_cases hzero : place = 0
      · exact ⟨[], c :: s, rfl, hzero⟩
      obtain ⟨rest, rfl⟩ := Nat.exists_eq_add_of_le (le_of_isBoundary h hzero)
      by_cases hrest : rest = 0
      · exact ⟨[c], s, rfl, by rw [hrest]; rfl⟩
      · rw [isBoundary_encode_add c s hrest] at h
        obtain ⟨before, after, rfl, hsize⟩ := ih h
        exact ⟨c :: before, after, rfl, by rw [hsize]; rfl⟩
  · rintro ⟨before, after, rfl, rfl⟩
    exact isBoundary_size before after

/-! ## Slices -/

theorem slice?_eq (before mid after : List Char) :
    slice? (encode (before ++ (mid ++ after))) ⟨size before, size (before ++ mid)⟩ = some mid := by
  have hfirst : isBoundary (encode (before ++ (mid ++ after))) (size before) = true :=
    isBoundary_size before (mid ++ after)
  have hafter : isBoundary (encode (before ++ (mid ++ after))) (size (before ++ mid)) = true := by
    rw [← List.append_assoc]
    exact isBoundary_size (before ++ mid) after
  have hle : size before ≤ size (before ++ mid) := by
    rw [size_append]
    exact Nat.le_add_right _ _
  rw [slice?, if_pos ⟨hle, hfirst, hafter⟩, text?_slice]

/-- The stretch lies within the text, and neither of its ends is inside a character. -/
structure Sliceable (s : List Char) (stretch : Stretch) : Prop where
  first_le : stretch.first ≤ stretch.after
  after_le : stretch.after ≤ size s
  first_between : IsBetween s stretch.first
  after_between : IsBetween s stretch.after

/-- What can be taken from the bytes of a text is such a stretch. -/
theorem sliceable_of_slice? {s text : List Char} {stretch : Stretch}
    (h : slice? (encode s) stretch = some text) : Sliceable s stretch := by
  by_cases hs : stretch.first ≤ stretch.after ∧ isBoundary (encode s) stretch.first
      ∧ isBoundary (encode s) stretch.after
  · have hafter : IsBetween s stretch.after := isBoundary_encode_iff.1 hs.2.2
    refine ⟨hs.1, ?_, isBoundary_encode_iff.1 hs.2.1, hafter⟩
    obtain ⟨before, rest, rfl, hsize⟩ := hafter
    rw [hsize, size_append]
    exact Nat.le_add_right _ _
  · rw [slice?, if_neg hs] at h
    cases h

end MysqlDesk.Template
