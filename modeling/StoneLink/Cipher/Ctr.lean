import StoneLink.Bytes

/-!
# Counter mode

Counter mode turns a block function into a stream cipher. The counter starts at the initial
block and counts up as a 128-bit number, high byte first, wrapping after the last value. Block
`i` of the keystream is the block function applied to counter `i`, and a text is combined with
the keystream byte by byte. Combining twice with the same keystream gives the text back, so the
one operation both encrypts and decrypts.

The block function is a parameter: nothing here depends on which cipher fills the blocks.
-/

namespace StoneLink.Cipher.Ctr

/-- The counter block `i` steps after `iv`. -/
def counter (iv : Bytes) (i : Nat) : Bytes :=
  Bytes.ofNatBE 16 ((Bytes.toNatBE iv + i) % Nat.pow 2 128)

/-- The first `n` blocks of the keystream of `block` from `iv`. -/
def keystream (block : Bytes → Bytes) (iv : Bytes) (n : Nat) : Bytes :=
  (List.range n).flatMap fun i => block (counter iv i)

/-- A text combined with the keystream of `block` from `iv`. -/
def apply (block : Bytes → Bytes) (iv text : Bytes) : Bytes :=
  Bytes.xor text (keystream block iv ((text.length + 15) / 16))

end StoneLink.Cipher.Ctr
