import StoneLink.Proofs.Cipher

/-!
# AES decryption undoes encryption

Under a sixteen-byte key, decrypting the encryption of a sixteen-byte block gives the block
back (`decryptBlock_encryptBlock`). Each step of a round has its inverse:

* the inverse substitution table undoes the substitution table, checked over the 256 bytes;
* shifting the rows right undoes shifting them left, a permutation of the sixteen places;
* the inverse column mixing undoes the column mixing. Multiplication in GF(2⁸) respects `^^^` in
  the byte it multiplies (`mul_xor`), so each output byte of the two mixings in turn is a sum of
  four maps of one input byte each. A map of bytes that respects `^^^` is fixed by its values at
  the eight one-bit bytes (`eq_of_xor_hom`), and there the four maps are checked to be the
  identity and zero;
* adding a round key twice adds nothing.

The round keys and every intermediate state are sixteen bytes long, and decryption runs the
rounds backwards, so each decryption round undoes one encryption round.
-/

namespace StoneLink.Cipher.Aes

open Bytes

/-- A statement about every byte follows from its instances at the numbers below 256. -/
theorem forall_uint8 {P : UInt8 → Prop} (h : ∀ n, n < 256 → P n.toUInt8) (b : UInt8) : P b := by
  have hb := h b.toNat b.toNat_lt
  rwa [Nat.toUInt8_eq, UInt8.ofNat_toNat] at hb

/-! ## Substitution -/

/-- The inverse table undoes the table, checked in one pass over the table. -/
theorem sboxInv_sbox_table :
    sbox.toList.zipIdx.all (fun p => sboxInv.toList.getD p.1.toNat 0 == p.2.toUInt8) = true := by
  decide +kernel

theorem length_sbox : sbox.toList.length = 256 := by decide +kernel

theorem sub_mem_zipIdx (b : UInt8) : (sub b, b.toNat) ∈ sbox.toList.zipIdx := by
  rw [List.mem_zipIdx_iff_getElem?, Array.getElem?_toList, sub]
  have hb : b.toNat < sbox.size := by
    rw [← Array.length_toList, length_sbox]
    exact b.toNat_lt
  rw [Array.getElem?_eq_getElem hb, Option.getD_some]

theorem subInv_sub (b : UInt8) : subInv (sub b) = b := by
  have hb := List.all_eq_true.mp sboxInv_sbox_table _ (sub_mem_zipIdx b)
  simp only [beq_iff_eq] at hb
  rw [subInv, ← Array.getElem?_toList, ← List.getD_eq_getElem?_getD, hb, Nat.toUInt8_eq,
    UInt8.ofNat_toNat]

theorem map_subInv_map_sub (s : Bytes) : (s.map sub).map subInv = s := by
  simp [List.map_map, Function.comp_def, subInv_sub]

/-! ## Row shifts -/

theorem length_shiftRowsInv (s : Bytes) : (shiftRowsInv s).length = 16 := by
  simp [shiftRowsInv]

theorem shiftRowsInv_shiftRows {s : Bytes} (hs : s.length = 16) :
    shiftRowsInv (shiftRows s) = s := by
  apply List.ext_getElem (by simp [shiftRowsInv, hs])
  intro i h1 h2
  have hi : i < 16 := hs ▸ h2
  simp only [shiftRowsInv, shiftRows, List.getElem_map, List.getElem_range]
  rw [List.getD_eq_getElem?_getD, List.getElem?_map, List.getElem?_range (by omega)]
  simp only [Option.map_some, Option.getD_some]
  rw [List.getD_eq_getElem?_getD, List.getElem?_eq_getElem (by omega), Option.getD_some]
  -- shifting row `r` right by `r` puts back what shifting it left moved
  congr 1
  interval_cases i <;> rfl

/-! ## Multiplication respects `^^^` in the multiplied byte -/

theorem and_one_cases (b : UInt8) : b &&& 1 = 0 ∨ b &&& 1 = 1 :=
  forall_uint8 (P := fun b => b &&& 1 = 0 ∨ b &&& 1 = 1) (by decide +kernel) b

theorem xor_and_one (b c : UInt8) : (b ^^^ c) &&& 1 = (b &&& 1) ^^^ (c &&& 1) := by
  apply UInt8.toNat_inj.mp
  simp only [UInt8.toNat_and, UInt8.toNat_xor, UInt8.reduceToNat, Nat.and_xor_distrib_right]

/-- The multiplication loop adds the multiples of `a` for the bits of `b`; the bits of `b ^^^ c`
are those of `b` added to those of `c`, so the loop for `b ^^^ c` is the two loops added. -/
theorem go_xor (n : Nat) (a b c acc acc' : UInt8) :
    mul.go n a (b ^^^ c) (acc ^^^ acc') = mul.go n a b acc ^^^ mul.go n a c acc' := by
  induction n generalizing a b c acc acc' with
  | zero => rfl
  | succ n ih =>
    simp only [mul.go, UInt8.shiftRight_xor, xor_and_one]
    rcases and_one_cases b with hb | hb <;> rcases and_one_cases c with hc | hc <;>
      simp only [hb, hc, UInt8.xor_self, UInt8.xor_zero, UInt8.zero_xor, if_true,
        show (1 : UInt8) ≠ 0 by decide, if_false]
    · exact ih _ _ _ _ _
    · rw [show acc ^^^ acc' ^^^ a = acc ^^^ (acc' ^^^ a) by ac_rfl]
      exact ih _ _ _ _ _
    · rw [show acc ^^^ acc' ^^^ a = acc ^^^ a ^^^ acc' by ac_rfl]
      exact ih _ _ _ _ _
    · rw [show acc ^^^ acc' = acc ^^^ a ^^^ (acc' ^^^ a) by
        rw [show acc ^^^ a ^^^ (acc' ^^^ a) = acc ^^^ acc' ^^^ (a ^^^ a) by ac_rfl,
          UInt8.xor_self, UInt8.xor_zero]]
      exact ih _ _ _ _ _

@[simp] theorem mul_xor (a b c : UInt8) : mul a (b ^^^ c) = mul a b ^^^ mul a c := by
  have h := go_xor 8 a b c 0 0
  rw [UInt8.xor_zero] at h
  exact h

@[simp] theorem mul_zero (a : UInt8) : mul a 0 = 0 := by
  have h := mul_xor a 0 0
  rw [UInt8.xor_self, UInt8.xor_self] at h
  exact h

/-! ## A map that respects `^^^` is fixed by the one-bit bytes -/

/-- The bits of a byte, each as a byte of its own. -/
def bitsOf (b : UInt8) : List UInt8 :=
  [b &&& 1, b &&& 2, b &&& 4, b &&& 8, b &&& 16, b &&& 32, b &&& 64, b &&& 128]

/-- The bytes with one bit set. -/
def oneBits : List UInt8 := [1, 2, 4, 8, 16, 32, 64, 128]

theorem foldr_bitsOf (b : UInt8) : (bitsOf b).foldr (· ^^^ ·) 0 = b :=
  forall_uint8 (P := fun b => (bitsOf b).foldr (· ^^^ ·) 0 = b) (by decide +kernel) b

theorem bitsOf_table (n : Nat) (hn : n < 256) :
    (bitsOf n.toUInt8).all (fun x => x == 0 || oneBits.contains x) = true := by
  revert n
  decide +kernel

theorem mem_bitsOf (b : UInt8) : ∀ x ∈ bitsOf b, x = 0 ∨ x ∈ oneBits := by
  intro x hx
  have hb := forall_uint8
    (P := fun b => (bitsOf b).all (fun x => x == 0 || oneBits.contains x) = true) bitsOf_table b
  simpa using List.all_eq_true.mp hb x hx

section XorHom

variable {f g : UInt8 → UInt8}

theorem map_zero_of_xor_hom (hf : ∀ x y, f (x ^^^ y) = f x ^^^ f y) : f 0 = 0 := by
  -- `f 0 = f (0 ^^^ 0) = f 0 ^^^ f 0 = 0`
  have h := hf 0 0
  simp only [UInt8.xor_self] at h
  exact h

theorem map_foldr_xor (hf : ∀ x y, f (x ^^^ y) = f x ^^^ f y) (l : List UInt8) :
    f (l.foldr (· ^^^ ·) 0) = (l.map f).foldr (· ^^^ ·) 0 := by
  induction l with
  | nil => exact map_zero_of_xor_hom hf
  | cons x l ih => simp only [List.foldr_cons, List.map_cons, hf, ih]

/-- Two maps of bytes that respect `^^^` and agree on the one-bit bytes are equal. -/
theorem eq_of_xor_hom (hf : ∀ x y, f (x ^^^ y) = f x ^^^ f y)
    (hg : ∀ x y, g (x ^^^ y) = g x ^^^ g y) (h : ∀ x ∈ oneBits, f x = g x) (b : UInt8) :
    f b = g b := by
  rw [← foldr_bitsOf b, map_foldr_xor hf, map_foldr_xor hg]
  congr 1
  apply List.map_congr_left
  intro x hx
  rcases mem_bitsOf b x hx with rfl | hx
  · rw [map_zero_of_xor_hom hf, map_zero_of_xor_hom hg]
  · exact h x hx

end XorHom

/-! ## Column mixing -/

/-- A byte through one column of the mixing matrix, `c`, and back through the rows of the
inverse matrix, added up. -/
def through (c0 c1 c2 c3 : UInt8) (a : UInt8) : UInt8 :=
  mul 14 (mul c0 a) ^^^ mul 11 (mul c1 a) ^^^ mul 13 (mul c2 a) ^^^ mul 9 (mul c3 a)

theorem through_xor (c0 c1 c2 c3 a b : UInt8) :
    through c0 c1 c2 c3 (a ^^^ b) = through c0 c1 c2 c3 a ^^^ through c0 c1 c2 c3 b := by
  simp only [through, mul_xor]
  ac_rfl

/-- The inverse matrix times the mixing matrix is the identity: a byte comes back on its own
place and adds nothing to the others. -/
theorem through_diagonal (a : UInt8) : through 2 1 1 3 a = a :=
  eq_of_xor_hom (g := id) (through_xor 2 1 1 3) (fun _ _ => rfl) (by decide +kernel) a

theorem through_off_diagonal (a : UInt8) :
    through 3 2 1 1 a = 0 ∧ through 1 3 2 1 a = 0 ∧ through 1 1 3 2 a = 0 := by
  have hzero : ∀ x y : UInt8, (0 : UInt8) = 0 ^^^ 0 := fun _ _ => UInt8.xor_self.symm
  exact ⟨eq_of_xor_hom (g := fun _ => 0) (through_xor 3 2 1 1) hzero (by decide +kernel) a,
    eq_of_xor_hom (g := fun _ => 0) (through_xor 1 3 2 1) hzero (by decide +kernel) a,
    eq_of_xor_hom (g := fun _ => 0) (through_xor 1 1 3 2) hzero (by decide +kernel) a⟩

theorem mixColumn_inv (a0 a1 a2 a3 : UInt8) :
    mixColumn 14 11 13 9 (mixColumn 2 3 1 1 [a0, a1, a2, a3]) = [a0, a1, a2, a3] := by
  -- output byte `k` gathers input byte `j` through the column `j - k` of the product
  have hcol : mixColumn 14 11 13 9 (mixColumn 2 3 1 1 [a0, a1, a2, a3]) =
      [through 2 1 1 3 a0 ^^^ through 3 2 1 1 a1 ^^^ through 1 3 2 1 a2 ^^^ through 1 1 3 2 a3,
       through 1 1 3 2 a0 ^^^ through 2 1 1 3 a1 ^^^ through 3 2 1 1 a2 ^^^ through 1 3 2 1 a3,
       through 1 3 2 1 a0 ^^^ through 1 1 3 2 a1 ^^^ through 2 1 1 3 a2 ^^^ through 3 2 1 1 a3,
       through 3 2 1 1 a0 ^^^ through 1 3 2 1 a1 ^^^ through 1 1 3 2 a2 ^^^ through 2 1 1 3 a3] := by
    simp only [mixColumn, through, mul_xor, List.cons.injEq, and_true]
    refine ⟨?_, ?_, ?_, ?_⟩ <;> ac_rfl
  rw [hcol]
  simp only [through_diagonal, through_off_diagonal, UInt8.xor_zero, UInt8.zero_xor]

theorem length_mixColumn (m0 m1 m2 m3 : UInt8) {c : Bytes} (hc : c.length = 4) :
    (mixColumn m0 m1 m2 m3 c).length = 4 := by
  match c, hc with
  | [_, _, _, _], _ => rfl

theorem mixColumn_inv_of_length {c : Bytes} (hc : c.length = 4) :
    mixColumn 14 11 13 9 (mixColumn 2 3 1 1 c) = c := by
  match c, hc with
  | [a0, a1, a2, a3], _ => exact mixColumn_inv a0 a1 a2 a3

/-- The columns of four columns put one after the other are those columns. -/
theorem columns_append {c0 c1 c2 c3 : Bytes} (h0 : c0.length = 4) (h1 : c1.length = 4)
    (h2 : c2.length = 4) (h3 : c3.length = 4) :
    columns (c0 ++ c1 ++ c2 ++ c3) = [c0, c1, c2, c3] := by
  simp [columns, List.drop_append, List.drop_eq_nil_of_le, List.take_of_length_le, h0, h1, h2, h3]

theorem columns_length {s : Bytes} (hs : s.length = 16) :
    ∀ c ∈ columns s, c.length = 4 := by
  simp [columns, hs]

/-- A state of sixteen bytes is its four columns one after the other. -/
theorem flatten_columns {s : Bytes} (hs : s.length = 16) :
    s.take 4 ++ (s.drop 4).take 4 ++ (s.drop 8).take 4 ++ (s.drop 12).take 4 = s := by
  apply List.ext_getElem (by simp [hs])
  intro i h1 h2
  simp only [List.getElem_append, List.length_append, List.length_take, List.length_drop,
    List.getElem_take, List.getElem_drop, hs]
  split_ifs <;> congr 1 <;> omega

theorem length_mixColumns {s : Bytes} (hs : s.length = 16) : (mixColumns s).length = 16 := by
  simp [mixColumns, columns, List.flatMap_cons, length_mixColumn, hs]

theorem mixColumnsInv_mixColumns {s : Bytes} (hs : s.length = 16) :
    mixColumnsInv (mixColumns s) = s := by
  have hc := columns_length hs
  simp only [columns, List.mem_cons, List.not_mem_nil, or_false, forall_eq_or_imp,
    forall_eq] at hc
  obtain ⟨h0, h1, h2, h3⟩ := hc
  have hm : mixColumns s = mixColumn 2 3 1 1 (s.take 4) ++ mixColumn 2 3 1 1 ((s.drop 4).take 4) ++
      mixColumn 2 3 1 1 ((s.drop 8).take 4) ++ mixColumn 2 3 1 1 ((s.drop 12).take 4) := by
    simp [mixColumns, columns, List.append_assoc]
  rw [mixColumnsInv, hm, columns_append (length_mixColumn _ _ _ _ h0) (length_mixColumn _ _ _ _ h1)
    (length_mixColumn _ _ _ _ h2) (length_mixColumn _ _ _ _ h3)]
  simp only [List.flatMap_cons, List.flatMap_nil, List.append_nil, mixColumn_inv_of_length h0,
    mixColumn_inv_of_length h1, mixColumn_inv_of_length h2, mixColumn_inv_of_length h3]
  simpa only [List.append_assoc] using flatten_columns hs

/-! ## Rounds -/

/-- The substitution and row shift of a round. -/
def substShift (s : Bytes) : Bytes := shiftRows (s.map sub)

/-- Their inverse. -/
def substShiftInv (t : Bytes) : Bytes := (shiftRowsInv t).map subInv

theorem length_substShift (s : Bytes) : (substShift s).length = 16 := length_shiftRows _

theorem substShiftInv_substShift {s : Bytes} (hs : s.length = 16) :
    substShiftInv (substShift s) = s := by
  rw [substShiftInv, substShift, shiftRowsInv_shiftRows (by simp [hs]), map_subInv_map_sub]

/-- Round `r` of encryption, numbered from zero; it adds round key `r + 1`. -/
def encRound (ks : List Bytes) (s : Bytes) (r : Nat) : Bytes :=
  xor (mixColumns (substShift s)) (ks.getD (r + 1) [])

/-- Step `r` of decryption, which undoes encryption round `8 - r`. -/
def decRound (ks : List Bytes) (t : Bytes) (r : Nat) : Bytes :=
  mixColumnsInv (xor (substShiftInv t) (ks.getD (9 - r) []))

theorem encryptBlock_eq (key block : Bytes) :
    encryptBlock key block =
      xor (substShift ((List.range 9).foldl (encRound (roundKeys key))
        (xor block ((roundKeys key).getD 0 [])))) ((roundKeys key).getD 10 []) := rfl

theorem decryptBlock_eq (key block : Bytes) :
    decryptBlock key block =
      xor (substShiftInv ((List.range 9).foldl (decRound (roundKeys key))
        (xor block ((roundKeys key).getD 10 [])))) ((roundKeys key).getD 0 []) := rfl

section Rounds

variable {key : Bytes} (hk : key.length = 16)
include hk

theorem length_encRound {s : Bytes} {r : Nat} (hr : r < 9) :
    (encRound (roundKeys key) s r).length = 16 := by
  simp only [encRound, length_xor, length_mixColumns (length_substShift s),
    length_roundKey hk (show r + 1 ≤ 10 by omega), Nat.min_self]

/-- Decryption step `8 - r` undoes encryption round `r`, seen through the substitution and
row shift that start the next round. -/
theorem decRound_encRound (s : Bytes) {r : Nat} (hr : r < 9) :
    decRound (roundKeys key) (substShift (encRound (roundKeys key) s r)) (8 - r) =
      substShift s := by
  have hkey : 9 - (8 - r) = r + 1 := by omega
  have hlen := length_roundKey hk (show r + 1 ≤ 10 by omega)
  rw [decRound, substShiftInv_substShift (length_encRound hk hr), hkey, encRound,
    xor_xor_cancel (by rw [length_mixColumns (length_substShift s), hlen]),
    mixColumnsInv_mixColumns (length_substShift s)]

end Rounds

/-- The decryption steps are the encryption rounds counted backwards. -/
theorem range_nine_eq_reverse : List.range 9 = ((List.range 9).map fun r => 8 - r).reverse := by
  decide

/-- **AES decryption undoes encryption** under a sixteen-byte key, on sixteen-byte blocks. -/
theorem decryptBlock_encryptBlock {key block : Bytes} (hk : key.length = 16)
    (hb : block.length = 16) : decryptBlock key (encryptBlock key block) = block := by
  have hk0 := length_roundKey hk (show 0 ≤ 10 by omega)
  have hk10 := length_roundKey hk (show 10 ≤ 10 by omega)
  have hstart : (xor block ((roundKeys key).getD 0 [])).length = 16 := by
    rw [length_xor, hb, hk0, Nat.min_self]
  -- the rounds of decryption undo those of encryption, seen after substitution and row shift
  have hcancel := foldl_reverse_cancel_through (f := encRound (roundKeys key))
    (g := decRound (roundKeys key)) (σ := fun r => 8 - r) (φ := substShift)
    (fun s r hr => decRound_encRound hk s (List.mem_range.mp hr)) (xor block ((roundKeys key).getD 0 []))
  rw [← range_nine_eq_reverse] at hcancel
  rw [decryptBlock_eq, encryptBlock_eq, xor_xor_cancel (by rw [length_substShift, hk10]), hcancel,
    substShiftInv_substShift hstart, xor_xor_cancel (by rw [hb, hk0])]

end StoneLink.Cipher.Aes
