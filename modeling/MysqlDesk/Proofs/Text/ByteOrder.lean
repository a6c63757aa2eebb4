/-
The order of texts is the order of their bytes.

Lists of keys are sorted by their characters here, and a reader of bytes sees them sorted by bytes. That
these are one order is how UTF-8 was made: a greater character has a longer sequence, and then a greater
first byte, or a sequence of the same length in which the first byte that differs is greater. The bytes of
a sequence after the first hold six bits each, the high ones first, so they are compared from the back by
one lemma for each number of them.
-/
import MysqlDesk.Proofs.Text.Utf8

set_option autoImplicit false

namespace MysqlDesk.Text.Utf8

/-! ## Sequences -/

/-- Bytes are compared as the numbers that they are made of, and before what follows them. -/
theorem cons_ofNat_lt_cons {m n : Nat} (hm : m < 256) (hn : n < 256) {s t : List UInt8}
    (h : m < n ∨ m = n ∧ s < t) : UInt8.ofNat m :: s < UInt8.ofNat n :: t := by
  rw [List.cons_lt_cons_iff]
  rcases h with hlt | ⟨rfl, hrest⟩
  · left
    rw [UInt8.lt_iff_toNat_lt, toNat_ofNat_of_lt_256 hm, toNat_ofNat_of_lt_256 hn]
    exact hlt
  · exact Or.inr ⟨rfl, hrest⟩

theorem first_lt {m n : Nat} (hlt : m < n) (hn : n < 256) (s t : List UInt8) :
    UInt8.ofNat m :: s < UInt8.ofNat n :: t :=
  cons_ofNat_lt_cons (by omega) hn (Or.inl hlt)

section LastBytes

variable {v w : Nat} {s t : List UInt8}

theorem last_lt (h : v % 0x40 < w % 0x40) :
    UInt8.ofNat (v % 0x40 + 0x80) :: s < UInt8.ofNat (w % 0x40 + 0x80) :: t :=
  first_lt (by omega) (by omega) s t

theorem last_two_lt (h : v % 0x1000 < w % 0x1000) :
    UInt8.ofNat (v / 64 % 0x40 + 0x80) :: UInt8.ofNat (v % 0x40 + 0x80) :: s
      < UInt8.ofNat (w / 64 % 0x40 + 0x80) :: UInt8.ofNat (w % 0x40 + 0x80) :: t := by
  apply cons_ofNat_lt_cons (by omega) (by omega)
  by_cases hfirst : v / 64 % 0x40 = w / 64 % 0x40
  · exact Or.inr ⟨by omega, last_lt (by omega)⟩
  · exact Or.inl (by omega)

theorem last_three_lt (h : v % 0x40000 < w % 0x40000) :
    UInt8.ofNat (v / 4096 % 0x40 + 0x80) :: UInt8.ofNat (v / 64 % 0x40 + 0x80)
        :: UInt8.ofNat (v % 0x40 + 0x80) :: s
      < UInt8.ofNat (w / 4096 % 0x40 + 0x80) :: UInt8.ofNat (w / 64 % 0x40 + 0x80)
        :: UInt8.ofNat (w % 0x40 + 0x80) :: t := by
  apply cons_ofNat_lt_cons (by omega) (by omega)
  by_cases hfirst : v / 4096 % 0x40 = w / 4096 % 0x40
  · exact Or.inr ⟨by omega, last_two_lt (by omega)⟩
  · exact Or.inl (by omega)

end LastBytes

/-- **Bytes keep the order of characters.** The sequence of a greater character is longer, and then its
first byte is greater, or it is as long, and then the first byte that differs is greater. -/
theorem encodeChar_append_lt {c d : Char} (h : c < d) (s t : List UInt8) :
    String.utf8EncodeChar c ++ s < String.utf8EncodeChar d ++ t := by
  have hlt : c.val.toNat < d.val.toNat := h
  have hbound : d.val.toNat < 0x110000 := by
    have hvalid := not_surrogate d
    have hval : d.val.toNat = d.toNat := rfl
    omega
  unfold String.utf8EncodeChar
  generalize c.val.toNat = v at hlt ⊢
  generalize d.val.toNat = w at hlt hbound ⊢
  by_cases hw1 : w ≤ 0x7f
  · rw [if_pos hw1, if_pos (by omega)]
    exact first_lt hlt (by omega) s t
  rw [if_neg hw1]
  by_cases hv1 : v ≤ 0x7f
  · -- one byte against several: the first byte decides
    rw [if_pos hv1]
    split
    · exact first_lt (by omega) (by omega) _ _
    split
    · exact first_lt (by omega) (by omega) _ _
    · exact first_lt (by omega) (by omega) _ _
  rw [if_neg hv1]
  by_cases hw2 : w ≤ 0x7ff
  · rw [if_pos hw2, if_pos (by omega)]
    apply cons_ofNat_lt_cons (by omega) (by omega)
    by_cases hfirst : v / 64 = w / 64
    · exact Or.inr ⟨by omega, last_lt (by omega)⟩
    · exact Or.inl (by omega)
  rw [if_neg hw2]
  by_cases hv2 : v ≤ 0x7ff
  · rw [if_pos hv2]
    split
    · exact first_lt (by omega) (by omega) _ _
    · exact first_lt (by omega) (by omega) _ _
  rw [if_neg hv2]
  by_cases hw3 : w ≤ 0xffff
  · rw [if_pos hw3, if_pos (by omega)]
    apply cons_ofNat_lt_cons (by omega) (by omega)
    by_cases hfirst : v / 4096 = w / 4096
    · exact Or.inr ⟨by omega, last_two_lt (by omega)⟩
    · exact Or.inl (by omega)
  rw [if_neg hw3]
  by_cases hv3 : v ≤ 0xffff
  · rw [if_pos hv3]
    exact first_lt (by omega) (by omega) _ _
  · rw [if_neg hv3]
    apply cons_ofNat_lt_cons (by omega) (by omega)
    by_cases hfirst : v / 262144 = w / 262144
    · exact Or.inr ⟨by omega, last_three_lt (by omega)⟩
    · exact Or.inl (by omega)

/-! ## Texts -/

theorem encode_lt_of_lt {s t : List Char} (h : s < t) : encode s < encode t := by
  induction s generalizing t with
  | nil =>
    cases t with
    | nil => exact absurd h (List.lt_irrefl [])
    | cons d t =>
      rw [encode_cons]
      obtain ⟨b, bs, hbs⟩ := List.exists_cons_of_ne_nil (String.utf8EncodeChar_ne_nil (c := d))
      rw [hbs]
      exact List.nil_lt_cons _ _
  | cons c s ih =>
    cases t with
    | nil => exact absurd h (List.not_lt_nil _)
    | cons d t =>
      rw [encode_cons, encode_cons]
      rcases List.cons_lt_cons_iff.1 h with hlt | ⟨rfl, hrest⟩
      · exact encodeChar_append_lt hlt _ _
      · exact List.append_left_lt (ih hrest)

/-- **Texts are ordered as their bytes are.** -/
theorem encode_lt_encode_iff (s t : List Char) : encode s < encode t ↔ s < t := by
  constructor
  · intro h
    rcases Std.lt_trichotomy s t with hlt | rfl | hgt
    · exact hlt
    · exact absurd h (List.lt_irrefl _)
    · exact absurd h (List.lt_asymm (encode_lt_of_lt hgt))
  · exact encode_lt_of_lt

end MysqlDesk.Text.Utf8
