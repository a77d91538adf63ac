import Mathlib
import StoneLink.Bytes

/-!
# Bit fields as sums

The wire formats pack several small fields into one word with shifts and `|||`. When the fields
occupy disjoint bits, the `|||` of two of them is their sum, and the field extractions with `>>>`
and `&&&` are division and remainder by powers of two. Proofs about packed words therefore move to
`Nat` through `toNat`, turn every `|||` of disjoint fields into `+`, and finish with `omega`.

The second half states the byte views of `Bytes` in that form: reading a word back from its bytes
gives the word, whatever follows the bytes.
-/

namespace StoneLink.Bits

/-- A multiple of `2 ^ k` and a number below `2 ^ k` share no bit. -/
theorem or_eq_add_of_dvd {a b k : Nat} (ha : 2 ^ k ∣ a) (hb : b < 2 ^ k) :
    a ||| b = a + b := by
  obtain ⟨c, rfl⟩ := ha
  exact (Nat.two_pow_add_eq_or_of_lt hb c).symm

/-- The same with the low field on the left, as the little-endian readers write it. -/
theorem or_eq_add_of_lt {a b k : Nat} (ha : a < 2 ^ k) (hb : 2 ^ k ∣ b) :
    a ||| b = a + b := by
  rw [Nat.or_comm, or_eq_add_of_dvd hb ha, Nat.add_comm]

/-- Masking with `2 ^ k - 1` keeps the low `k` bits; stated for a written-out mask. -/
theorem and_mask_eq_mod {m : Nat} (k : Nat) (x : Nat) (h : m + 1 = 2 ^ k) : x &&& m = x % 2 ^ k := by
  rw [show m = 2 ^ k - 1 by omega, Nat.and_two_pow_sub_one_eq_mod]

/-- Masking with one bit keeps that bit of the number. -/
theorem and_two_pow_eq (x i : Nat) : x &&& 2 ^ i = 2 ^ i * (x / 2 ^ i % 2) := by
  apply Nat.eq_of_testBit_eq
  intro j
  rw [Nat.testBit_and, Nat.testBit_two_pow]
  rcases Nat.mod_two_eq_zero_or_one (x / 2 ^ i) with h | h
  · rw [h, Nat.mul_zero, Nat.zero_testBit]
    by_cases hij : i = j
    · subst hij
      simp [Nat.testBit_eq_decide_div_mod_eq, h]
    · simp [hij]
  · rw [h, Nat.mul_one, Nat.testBit_two_pow]
    by_cases hij : i = j
    · subst hij
      simp [Nat.testBit_eq_decide_div_mod_eq, h]
    · simp [hij]

/-- A one-bit mask of a 16-bit word is set exactly when that bit of the word is. -/
theorem and_bit_ne_zero {m : UInt16} (k : Nat) (hm : m.toNat = 2 ^ k) (v : UInt16) :
    (v &&& m != 0) = decide (v.toNat / 2 ^ k % 2 = 1) := by
  rw [Bool.eq_iff_iff, bne_iff_ne, decide_eq_true_iff, ne_eq, ← UInt16.toNat_inj,
    UInt16.toNat_and, hm, and_two_pow_eq, UInt16.toNat_zero]
  have := Nat.two_pow_pos k
  rcases Nat.mod_two_eq_zero_or_one (v.toNat / 2 ^ k) with h | h <;> simp [h]

/-- A field of at most eight bits, shifted down and masked out of a word and read as a byte: the
word's bits from the shift on, `k` of them. -/
theorem toNat_toUInt8_field {m : UInt16} (k : Nat) (hm : m.toNat + 1 = 2 ^ k) (hk : k ≤ 8)
    (v s : UInt16) :
    ((v >>> s) &&& m).toUInt8.toNat = v.toNat / 2 ^ (s.toNat % 16) % 2 ^ k := by
  have hlt : v.toNat / 2 ^ (s.toNat % 16) % 2 ^ k < 256 :=
    Nat.lt_of_lt_of_le (Nat.mod_lt _ (Nat.two_pow_pos k)) (Nat.pow_le_pow_right (by decide) hk)
  rw [UInt16.toNat_toUInt8, UInt16.toNat_and, UInt16.toNat_shiftRight, Nat.shiftRight_eq_div_pow,
    and_mask_eq_mod k _ hm, Nat.mod_eq_of_lt hlt]

end StoneLink.Bits

namespace StoneLink.Bytes

open Bits

/-- A 16-bit word read back from its two bytes. -/
@[simp] theorem toUInt16_ofUInt16_append (w : UInt16) (rest : Bytes) :
    toUInt16 (ofUInt16 w ++ rest) = w := by
  apply UInt16.toNat_inj.mp
  simp only [toUInt16, ofUInt16, List.cons_append, List.getD_cons_zero, List.getD_cons_succ,
    UInt16.toNat_or, UInt16.toNat_shiftLeft, Nat.shiftLeft_eq, UInt8.toNat_toUInt16,
    UInt16.toNat_toUInt8, UInt16.toNat_shiftRight, Nat.shiftRight_eq_div_pow]
  have := w.toNat_lt
  simp only [UInt16.reduceToNat, Nat.reduceMod, Nat.reducePow] at *
  rw [or_eq_add_of_lt (k := 8) (by omega) (by omega)]
  omega

/-- A 32-bit word read back from its four bytes. -/
@[simp] theorem toUInt32_ofUInt32_append (w : UInt32) (rest : Bytes) :
    toUInt32 (ofUInt32 w ++ rest) = w := by
  apply UInt32.toNat_inj.mp
  simp only [toUInt32, ofUInt32, List.cons_append, List.getD_cons_zero, List.getD_cons_succ,
    UInt32.toNat_or, UInt32.toNat_shiftLeft, Nat.shiftLeft_eq, UInt8.toNat_toUInt32,
    UInt32.toNat_toUInt8, UInt32.toNat_shiftRight, Nat.shiftRight_eq_div_pow]
  have := w.toNat_lt
  simp only [UInt32.reduceToNat, Nat.reduceMod, Nat.reducePow] at *
  -- the bytes are added from the low end, each below the next one's place
  rw [or_eq_add_of_lt (a := w.toNat % 256) (k := 8) (by omega) (by omega),
    or_eq_add_of_lt (a := _ + _) (k := 16) (by omega) (by omega),
    or_eq_add_of_lt (a := _ + _ + _) (k := 24) (by omega) (by omega)]
  omega

end StoneLink.Bytes
