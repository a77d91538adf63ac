import StoneLink.Bytes

/-!
# RC5-16/12/16

RC5 with 16-bit words, twelve rounds and a sixteen-byte key. It protects the four-byte background
payload of a broadcast: one block is exactly two words.

The key schedule fills 26 subkeys from the constants `P = 0xB7E1` and `Q = 0x9E37`, then mixes
them with the eight little-endian key words in 78 steps. A round combines the two words with
exclusive or, a data-dependent rotation and a subkey; decryption undoes the rounds in reverse.
Rotation amounts are taken modulo 16.
-/

namespace StoneLink.Cipher.Rc5

/-- The number of rounds. -/
def rounds : Nat := 12

/-- The number of subkeys, two per round and two for the whitening. -/
def subkeyCount : Nat := 2 * (rounds + 1)

/-- The first subkey before mixing. -/
def p16 : UInt16 := 0xB7E1

/-- The step between subkeys before mixing. -/
def q16 : UInt16 := 0x9E37

/-- Rotation of a word to the left by `n` modulo 16. -/
def rotl (x n : UInt16) : UInt16 :=
  let n := n &&& 15
  (x <<< n) ||| (x >>> (16 - n))

/-- Rotation of a word to the right by `n` modulo 16. -/
def rotr (x n : UInt16) : UInt16 :=
  let n := n &&& 15
  (x >>> n) ||| (x <<< (16 - n))

/-- The state of the key schedule: subkeys, key words and the two running words. -/
structure Mixing where
  /-- The subkeys. -/
  s : List UInt16
  /-- The key words. -/
  l : List UInt16
  /-- The last subkey written. -/
  a : UInt16
  /-- The last key word written. -/
  b : UInt16

/-- Step `k` of the key schedule. -/
def mixStep (m : Mixing) (k : Nat) : Mixing :=
  let i := k % subkeyCount
  let j := k % 8
  let a := rotl (m.s.getD i 0 + m.a + m.b) 3
  let b := rotl (m.l.getD j 0 + a + m.b) (a + m.b)
  ⟨m.s.set i a, m.l.set j b, a, b⟩

/-- The 26 subkeys of a sixteen-byte key. -/
def expand (key : Bytes) : List UInt16 :=
  let l := (List.range 8).map fun i => Bytes.toUInt16 (key.drop (2 * i))
  let s := (List.range subkeyCount).map fun i => p16 + q16 * i.toUInt16
  ((List.range (3 * subkeyCount)).foldl mixStep ⟨s, l, 0, 0⟩).s

/-- Encrypts the two words of a block. -/
def encryptBlock (s : List UInt16) (w : UInt16 × UInt16) : UInt16 × UInt16 :=
  (List.range rounds).foldl
    (fun (a, b) r =>
      let a := rotl (a ^^^ b) b + s.getD (2 * (r + 1)) 0
      (a, rotl (b ^^^ a) a + s.getD (2 * (r + 1) + 1) 0))
    (w.1 + s.getD 0 0, w.2 + s.getD 1 0)

/-- Decrypts the two words of a block. -/
def decryptBlock (s : List UInt16) (w : UInt16 × UInt16) : UInt16 × UInt16 :=
  let (a, b) := (List.range rounds).foldl
    (fun (a, b) k =>
      let r := rounds - k
      let b := rotr (b - s.getD (2 * r + 1) 0) a ^^^ a
      (rotr (a - s.getD (2 * r) 0) b ^^^ b, b))
    w
  (a - s.getD 0 0, b - s.getD 1 0)

/-- The two words of a 32-bit value, low word first. -/
def split (v : UInt32) : UInt16 × UInt16 := (v.toUInt16, (v >>> 16).toUInt16)

/-- The 32-bit value of two words, low word first. -/
def join (w : UInt16 × UInt16) : UInt32 := w.1.toUInt32 ||| (w.2.toUInt32 <<< 16)

/-- Encrypts a 32-bit value as one block. -/
def encryptWord (s : List UInt16) (v : UInt32) : UInt32 := join (encryptBlock s (split v))

/-- Decrypts a 32-bit value as one block. -/
def decryptWord (s : List UInt16) (v : UInt32) : UInt32 := join (decryptBlock s (split v))

end StoneLink.Cipher.Rc5
