import StoneLink.Cipher.Rc5
import StoneLink.Cipher.Ctr
import StoneLink.Cipher.Aes
import StoneLink.Proofs.Bits

/-!
# The ciphers undo themselves

Three facts the protocol relies on. RC5 decryption and encryption invert each other under any
subkeys: each round is undone by the matching round of the other direction, because a rotation
right undoes the rotation left by the same amount, and the two directions run the rounds in
reverse order of each other. Counter mode applied twice with the same block function and
initial block gives the text back, as soon as the block function fills whole sixteen-byte
blocks; and the first bytes of its output depend only on the first bytes of its input. AES fills
whole blocks under a sixteen-byte key.
-/

namespace StoneLink.Cipher

/-- Folding steps that each undo one step of a fold, as seen through `φ`, over the reversed
list, undoes the fold as seen through `φ`. -/
theorem foldl_reverse_cancel_through {α β γ : Type} {f : α → β → α} {g : γ → β → γ}
    {σ : β → β} {φ : α → γ} {l : List β} (h : ∀ x, ∀ i ∈ l, g (φ (f x i)) (σ i) = φ x)
    (x : α) : (l.map σ).reverse.foldl g (φ (l.foldl f x)) = φ x := by
  induction l generalizing x with
  | nil => rfl
  | cons i l ih =>
      simp only [List.map_cons, List.reverse_cons, List.foldl_append, List.foldl_cons,
        List.foldl_nil]
      rw [ih (fun y j hj => h y j (List.mem_cons_of_mem i hj)), h x i List.mem_cons_self]

end StoneLink.Cipher

namespace StoneLink.Cipher.Rc5

open Bits

theorem mask_lt (n : UInt16) : n.toNat &&& 15 < 16 :=
  Nat.lt_of_le_of_lt Nat.and_le_right (by decide)

theorem rotl_toBitVec (x n : UInt16) :
    (rotl x n).toBitVec = x.toBitVec.rotateLeft (n &&& 15).toNat := by
  have hn := mask_lt n
  rw [BitVec.rotateLeft_def]
  simp [rotl]
  generalize n.toNat &&& 15 = m at hn ⊢
  -- the word shift reduces its amount modulo 16, which only matters for a zero rotation
  rcases Nat.eq_zero_or_pos m with rfl | h
  · simp [BitVec.ushiftRight_eq_zero]
  · rw [show (65536 - m) % 16 = 16 - m % 16 by omega]

theorem rotr_toBitVec (x n : UInt16) :
    (rotr x n).toBitVec = x.toBitVec.rotateRight (n &&& 15).toNat := by
  have hn := mask_lt n
  rw [BitVec.rotateRight_def]
  simp [rotr]
  generalize n.toNat &&& 15 = m at hn ⊢
  rcases Nat.eq_zero_or_pos m with rfl | h
  · simp [BitVec.shiftLeft_eq_zero]
  · rw [show (65536 - m) % 16 = 16 - m % 16 by omega]

theorem rotateRight_rotateLeft {w : Nat} (x : BitVec w) (r : Nat) :
    (x.rotateLeft r).rotateRight r = x := by
  ext i hi
  simp only [BitVec.getElem_rotateRight, BitVec.getElem_rotateLeft]
  split <;> split <;> (congr 1; omega)

theorem rotateLeft_rotateRight {w : Nat} (x : BitVec w) (r : Nat) :
    (x.rotateRight r).rotateLeft r = x := by
  ext i hi
  simp only [BitVec.getElem_rotateRight, BitVec.getElem_rotateLeft]
  split <;> split <;> (congr 1; omega)

@[simp] theorem rotr_rotl (x n : UInt16) : rotr (rotl x n) n = x := by
  apply UInt16.toBitVec_inj.mp
  rw [rotr_toBitVec, rotl_toBitVec, rotateRight_rotateLeft]

@[simp] theorem rotl_rotr (x n : UInt16) : rotl (rotr x n) n = x := by
  apply UInt16.toBitVec_inj.mp
  rw [rotl_toBitVec, rotr_toBitVec, rotateLeft_rotateRight]

/-- Round `r` of encryption, numbered from zero; it uses the subkeys `2(r + 1)` and `2(r + 1) + 1`. -/
def encRound (s : List UInt16) (w : UInt16 × UInt16) (r : Nat) : UInt16 × UInt16 :=
  let a := rotl (w.1 ^^^ w.2) w.2 + s.getD (2 * (r + 1)) 0
  (a, rotl (w.2 ^^^ a) a + s.getD (2 * (r + 1) + 1) 0)

/-- Step `k` of decryption, which undoes round `rounds - k` counted from one. -/
def decRound (s : List UInt16) (w : UInt16 × UInt16) (k : Nat) : UInt16 × UInt16 :=
  let r := rounds - k
  let b := rotr (w.2 - s.getD (2 * r + 1) 0) w.1 ^^^ w.1
  (rotr (w.1 - s.getD (2 * r) 0) b ^^^ b, b)

theorem encryptBlock_eq (s : List UInt16) (w : UInt16 × UInt16) :
    encryptBlock s w =
      (List.range rounds).foldl (encRound s) (w.1 + s.getD 0 0, w.2 + s.getD 1 0) := rfl

theorem decryptBlock_eq (s : List UInt16) (w : UInt16 × UInt16) :
    decryptBlock s w =
      let x := (List.range rounds).foldl (decRound s) w
      (x.1 - s.getD 0 0, x.2 - s.getD 1 0) := rfl

/-- Decryption step `rounds - 1 - r` undoes encryption round `r`. -/
theorem decRound_encRound (s : List UInt16) (w : UInt16 × UInt16) {r : Nat} (hr : r < rounds) :
    decRound s (encRound s w r) (rounds - 1 - r) = w := by
  obtain ⟨a, b⟩ := w
  have hk : rounds - (rounds - 1 - r) = r + 1 := by unfold rounds at *; omega
  simp only [decRound, encRound, hk, UInt16.add_sub_cancel, rotr_rotl, UInt16.xor_assoc,
    UInt16.xor_self, UInt16.xor_zero]

/-- Folding steps that each undo one step of a fold, over the reversed list, undoes the fold. -/
theorem foldl_reverse_cancel {α β : Type} {f g : α → β → α} {σ : β → β} {l : List β}
    (h : ∀ x, ∀ i ∈ l, g (f x i) (σ i) = x) (x : α) :
    (l.map σ).reverse.foldl g (l.foldl f x) = x :=
  foldl_reverse_cancel_through (φ := id) h x

/-- The decryption steps are the encryption rounds counted backwards. -/
theorem range_rounds_eq_reverse :
    List.range rounds = ((List.range rounds).map fun r => rounds - 1 - r).reverse := by
  decide

/-- Decryption inverts encryption, under any list of subkeys. -/
theorem decryptBlock_encryptBlock (s : List UInt16) (w : UInt16 × UInt16) :
    decryptBlock s (encryptBlock s w) = w := by
  have hcancel := foldl_reverse_cancel (f := encRound s) (g := decRound s)
    (fun x r hr => decRound_encRound s x (List.mem_range.mp hr)) (w.1 + s.getD 0 0, w.2 + s.getD 1 0)
  rw [← range_rounds_eq_reverse] at hcancel
  rw [decryptBlock_eq, encryptBlock_eq, hcancel]
  simp

@[simp] theorem split_join (w : UInt16 × UInt16) : split (join w) = w := by
  obtain ⟨a, b⟩ := w
  have ha := a.toNat_lt
  have hb := b.toNat_lt
  have hjoin : (join (a, b)).toNat = a.toNat + b.toNat * 65536 := by
    simp only [join, UInt32.toNat_or, UInt32.toNat_shiftLeft, UInt16.toNat_toUInt32,
      Nat.shiftLeft_eq, UInt32.reduceToNat, Nat.reduceMod, Nat.reducePow]
    rw [or_eq_add_of_lt (k := 16) (by omega) (by omega)]
    omega
  simp only [split, Prod.mk.injEq]
  constructor
  · apply UInt16.toNat_inj.mp
    rw [UInt32.toNat_toUInt16, hjoin]
    omega
  · apply UInt16.toNat_inj.mp
    rw [UInt32.toNat_toUInt16, UInt32.toNat_shiftRight, hjoin]
    simp only [UInt32.reduceToNat, Nat.reduceMod, Nat.shiftRight_eq_div_pow, Nat.reducePow]
    omega

@[simp] theorem join_split (v : UInt32) : join (split v) = v := by
  have hv := v.toNat_lt
  apply UInt32.toNat_inj.mp
  simp only [join, split, UInt32.toNat_or, UInt32.toNat_shiftLeft, UInt16.toNat_toUInt32,
    UInt32.toNat_toUInt16, UInt32.toNat_shiftRight, Nat.shiftLeft_eq, Nat.shiftRight_eq_div_pow,
    UInt32.reduceToNat, Nat.reduceMod, Nat.reducePow]
  rw [or_eq_add_of_lt (k := 16) (by omega) (by omega)]
  omega

/-- Decryption inverts encryption on 32-bit values. -/
theorem decryptWord_encryptWord (s : List UInt16) (v : UInt32) :
    decryptWord s (encryptWord s v) = v := by
  simp [decryptWord, encryptWord, decryptBlock_encryptBlock]

/-- Encryption round `rounds - 1 - k` undoes decryption step `k`. -/
theorem encRound_decRound (s : List UInt16) (w : UInt16 × UInt16) {k : Nat} (hk : k < rounds) :
    encRound s (decRound s w k) (rounds - 1 - k) = w := by
  obtain ⟨a, b⟩ := w
  have hr : rounds - 1 - k + 1 = rounds - k := by unfold rounds at *; omega
  simp only [encRound, decRound, hr, UInt16.sub_add_cancel, rotl_rotr, UInt16.xor_assoc,
    UInt16.xor_self, UInt16.xor_zero]

/-- Encryption inverts decryption, under any list of subkeys. -/
theorem encryptBlock_decryptBlock (s : List UInt16) (w : UInt16 × UInt16) :
    encryptBlock s (decryptBlock s w) = w := by
  have hcancel := foldl_reverse_cancel (f := decRound s) (g := encRound s)
    (fun x k hk => encRound_decRound s x (List.mem_range.mp hk)) w
  rw [← range_rounds_eq_reverse] at hcancel
  rw [encryptBlock_eq, decryptBlock_eq]
  simpa only [UInt16.sub_add_cancel] using hcancel

/-- Encryption inverts decryption on 32-bit values. -/
theorem encryptWord_decryptWord (s : List UInt16) (v : UInt32) :
    encryptWord s (decryptWord s v) = v := by
  simp [decryptWord, encryptWord, encryptBlock_decryptBlock]

/-- **RC5 under an expanded key is a bijection inverted by its decryption.** For the subkeys of
every key, decryption undoes encryption and encryption undoes decryption, on blocks of two words
and on the 32-bit values whose low word comes first. -/
theorem subkeys_cipher_inverse (key : Bytes) :
    let s := expand key
    (∀ w, decryptBlock s (encryptBlock s w) = w) ∧ (∀ w, encryptBlock s (decryptBlock s w) = w) ∧
      (∀ v, decryptWord s (encryptWord s v) = v) ∧ (∀ v, encryptWord s (decryptWord s v) = v) :=
  ⟨decryptBlock_encryptBlock _, encryptBlock_decryptBlock _, decryptWord_encryptWord _,
    encryptWord_decryptWord _⟩

end StoneLink.Cipher.Rc5

namespace StoneLink.Bytes

theorem xor_xor_cancel {t k : Bytes} (h : t.length ≤ k.length) : xor (xor t k) k = t := by
  induction t generalizing k with
  | nil => rfl
  | cons a t ih =>
      cases k with
      | nil => simp at h
      | cons b k =>
          simp only [List.length_cons, Nat.add_le_add_iff_right] at h
          simp only [xor, List.zipWith_cons_cons, UInt8.xor_assoc, UInt8.xor_self, UInt8.xor_zero]
          exact congrArg (a :: ·) (ih h)

/-- Bytes of the key past the end of the text are never used. -/
theorem xor_take_right {t : Bytes} (k : Bytes) {n : Nat} (h : t.length ≤ n) :
    xor t (k.take n) = xor t k := by
  induction t generalizing k n with
  | nil => rfl
  | cons a t ih =>
      cases k with
      | nil => simp [xor]
      | cons b k =>
          obtain ⟨n, rfl⟩ : ∃ m, n = m + 1 := ⟨n - 1, by simp at h; omega⟩
          simp only [List.length_cons, Nat.add_le_add_iff_right] at h
          simp only [xor, List.take_succ_cons, List.zipWith_cons_cons]
          exact congrArg (_ :: ·) (ih k h)

theorem take_xor (t k : Bytes) (m : Nat) : (xor t k).take m = xor (t.take m) k := by
  rw [xor, List.take_zipWith, ← xor, xor_take_right k (by simp only [List.length_take]; omega)]

end StoneLink.Bytes

namespace StoneLink.Cipher.Ctr

open Bytes

section
variable {block : Bytes → Bytes}

theorem length_keystream (hblock : ∀ b, (block b).length = 16) (iv : Bytes) (n : Nat) :
    (keystream block iv n).length = 16 * n := by
  simp [keystream, List.length_flatMap, hblock, List.map_const', Nat.mul_comm]

/-- A shorter keystream is the front of a longer one. -/
theorem take_keystream (hblock : ∀ b, (block b).length = 16) (iv : Bytes) {n N : Nat}
    (h : n ≤ N) : (keystream block iv N).take (16 * n) = keystream block iv n := by
  obtain ⟨m, rfl⟩ := Nat.exists_eq_add_of_le h
  rw [keystream, List.range_add, List.flatMap_append, ← keystream,
    List.take_left' (length_keystream hblock iv n)]

theorem length_apply (hblock : ∀ b, (block b).length = 16) (iv t : Bytes) :
    (apply block iv t).length = t.length := by
  simp only [apply, length_xor, length_keystream hblock]
  omega

/-- Counter mode is its own inverse. -/
theorem apply_apply (hblock : ∀ b, (block b).length = 16) (iv t : Bytes) :
    apply block iv (apply block iv t) = t := by
  rw [apply, length_apply hblock, apply, xor_xor_cancel]
  rw [length_keystream hblock]
  omega

/-- The first `m` bytes of the output depend on the first `m` bytes of the text only. -/
theorem take_apply (hblock : ∀ b, (block b).length = 16) (iv t : Bytes) (m : Nat) :
    (apply block iv t).take m = apply block iv (t.take m) := by
  have hn : (min m t.length + 15) / 16 ≤ (t.length + 15) / 16 := by omega
  rw [apply, take_xor, apply, List.length_take,
    ← take_keystream hblock iv hn, xor_take_right _ (by simp; omega)]

end

end StoneLink.Cipher.Ctr

namespace StoneLink.Cipher.Aes

theorem length_nextRoundKey {k : Bytes} (hk : k.length = 16) (r : Nat) :
    (nextRoundKey k r).length = 16 := by
  simp [nextRoundKey, columns, hk]

theorem length_foldl_nextRoundKey {k : Bytes} (hk : k.length = 16) (l : List Nat) :
    (l.foldl (fun k r => nextRoundKey k (r + 1)) k).length = 16 := by
  induction l generalizing k with
  | nil => exact hk
  | cons r l ih => exact ih (length_nextRoundKey hk _)

theorem length_shiftRows (s : Bytes) : (shiftRows s).length = 16 := by
  simp [shiftRows]

/-- Every round key of a sixteen-byte key is sixteen bytes. -/
theorem length_roundKey {key : Bytes} (hk : key.length = 16) {i : Nat} (hi : i ≤ 10) :
    ((roundKeys key).getD i []).length = 16 := by
  rw [roundKeys, List.getD_eq_getElem?_getD, List.getElem?_scanl]
  split
  · rw [Option.getD_some]
    exact length_foldl_nextRoundKey hk _
  · simp at *
    omega

/-- Under a sixteen-byte key every block comes out sixteen bytes long. -/
theorem length_encryptBlock {key : Bytes} (hk : key.length = 16) (b : Bytes) :
    (encryptBlock key b).length = 16 := by
  simp only [encryptBlock, Bytes.length_xor, length_shiftRows, length_roundKey hk (le_refl 10),
    Nat.min_self]

end StoneLink.Cipher.Aes
