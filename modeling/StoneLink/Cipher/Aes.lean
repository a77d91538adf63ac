import StoneLink.Bytes

/-!
# AES-128

The block cipher of FIPS 197 with a 128-bit key. The state is the sixteen bytes of a block,
column by column, so byte `r + 4c` sits in row `r` of column `c`. Ten rounds of substitution,
row shifts, column mixing and round-key addition encrypt; the inverse steps in the reverse order
decrypt.

The substitution tables are those of the standard (FIPS 197, figures 7 and 14): a byte's inverse
in GF(2⁸) followed by an affine map, and the inverse of that.
-/

namespace StoneLink.Cipher.Aes

/-- Multiplication by `x` in GF(2⁸) modulo x⁸ + x⁴ + x³ + x + 1. -/
def xtime (b : UInt8) : UInt8 := (b <<< 1) ^^^ (if b &&& 0x80 = 0 then 0 else 0x1b)

/-- Multiplication in GF(2⁸), by doubling one factor for each bit of the other. -/
def mul (a b : UInt8) : UInt8 := go 8 a b 0
where
  /-- Adds `a · 2^i` for each set bit `i` of `b`, for `n` bits. -/
  go : Nat → UInt8 → UInt8 → UInt8 → UInt8
    | 0, _, _, acc => acc
    | n + 1, a, b, acc => go n (xtime a) (b >>> 1) (if b &&& 1 = 0 then acc else acc ^^^ a)

/-- The substitution table. -/
def sbox : Array UInt8 := #[
    0x63, 0x7c, 0x77, 0x7b, 0xf2, 0x6b, 0x6f, 0xc5, 0x30, 0x01, 0x67, 0x2b, 0xfe, 0xd7, 0xab, 0x76,
    0xca, 0x82, 0xc9, 0x7d, 0xfa, 0x59, 0x47, 0xf0, 0xad, 0xd4, 0xa2, 0xaf, 0x9c, 0xa4, 0x72, 0xc0,
    0xb7, 0xfd, 0x93, 0x26, 0x36, 0x3f, 0xf7, 0xcc, 0x34, 0xa5, 0xe5, 0xf1, 0x71, 0xd8, 0x31, 0x15,
    0x04, 0xc7, 0x23, 0xc3, 0x18, 0x96, 0x05, 0x9a, 0x07, 0x12, 0x80, 0xe2, 0xeb, 0x27, 0xb2, 0x75,
    0x09, 0x83, 0x2c, 0x1a, 0x1b, 0x6e, 0x5a, 0xa0, 0x52, 0x3b, 0xd6, 0xb3, 0x29, 0xe3, 0x2f, 0x84,
    0x53, 0xd1, 0x00, 0xed, 0x20, 0xfc, 0xb1, 0x5b, 0x6a, 0xcb, 0xbe, 0x39, 0x4a, 0x4c, 0x58, 0xcf,
    0xd0, 0xef, 0xaa, 0xfb, 0x43, 0x4d, 0x33, 0x85, 0x45, 0xf9, 0x02, 0x7f, 0x50, 0x3c, 0x9f, 0xa8,
    0x51, 0xa3, 0x40, 0x8f, 0x92, 0x9d, 0x38, 0xf5, 0xbc, 0xb6, 0xda, 0x21, 0x10, 0xff, 0xf3, 0xd2,
    0xcd, 0x0c, 0x13, 0xec, 0x5f, 0x97, 0x44, 0x17, 0xc4, 0xa7, 0x7e, 0x3d, 0x64, 0x5d, 0x19, 0x73,
    0x60, 0x81, 0x4f, 0xdc, 0x22, 0x2a, 0x90, 0x88, 0x46, 0xee, 0xb8, 0x14, 0xde, 0x5e, 0x0b, 0xdb,
    0xe0, 0x32, 0x3a, 0x0a, 0x49, 0x06, 0x24, 0x5c, 0xc2, 0xd3, 0xac, 0x62, 0x91, 0x95, 0xe4, 0x79,
    0xe7, 0xc8, 0x37, 0x6d, 0x8d, 0xd5, 0x4e, 0xa9, 0x6c, 0x56, 0xf4, 0xea, 0x65, 0x7a, 0xae, 0x08,
    0xba, 0x78, 0x25, 0x2e, 0x1c, 0xa6, 0xb4, 0xc6, 0xe8, 0xdd, 0x74, 0x1f, 0x4b, 0xbd, 0x8b, 0x8a,
    0x70, 0x3e, 0xb5, 0x66, 0x48, 0x03, 0xf6, 0x0e, 0x61, 0x35, 0x57, 0xb9, 0x86, 0xc1, 0x1d, 0x9e,
    0xe1, 0xf8, 0x98, 0x11, 0x69, 0xd9, 0x8e, 0x94, 0x9b, 0x1e, 0x87, 0xe9, 0xce, 0x55, 0x28, 0xdf,
    0x8c, 0xa1, 0x89, 0x0d, 0xbf, 0xe6, 0x42, 0x68, 0x41, 0x99, 0x2d, 0x0f, 0xb0, 0x54, 0xbb, 0x16]

/-- The inverse substitution table. -/
def sboxInv : Array UInt8 := #[
    0x52, 0x09, 0x6a, 0xd5, 0x30, 0x36, 0xa5, 0x38, 0xbf, 0x40, 0xa3, 0x9e, 0x81, 0xf3, 0xd7, 0xfb,
    0x7c, 0xe3, 0x39, 0x82, 0x9b, 0x2f, 0xff, 0x87, 0x34, 0x8e, 0x43, 0x44, 0xc4, 0xde, 0xe9, 0xcb,
    0x54, 0x7b, 0x94, 0x32, 0xa6, 0xc2, 0x23, 0x3d, 0xee, 0x4c, 0x95, 0x0b, 0x42, 0xfa, 0xc3, 0x4e,
    0x08, 0x2e, 0xa1, 0x66, 0x28, 0xd9, 0x24, 0xb2, 0x76, 0x5b, 0xa2, 0x49, 0x6d, 0x8b, 0xd1, 0x25,
    0x72, 0xf8, 0xf6, 0x64, 0x86, 0x68, 0x98, 0x16, 0xd4, 0xa4, 0x5c, 0xcc, 0x5d, 0x65, 0xb6, 0x92,
    0x6c, 0x70, 0x48, 0x50, 0xfd, 0xed, 0xb9, 0xda, 0x5e, 0x15, 0x46, 0x57, 0xa7, 0x8d, 0x9d, 0x84,
    0x90, 0xd8, 0xab, 0x00, 0x8c, 0xbc, 0xd3, 0x0a, 0xf7, 0xe4, 0x58, 0x05, 0xb8, 0xb3, 0x45, 0x06,
    0xd0, 0x2c, 0x1e, 0x8f, 0xca, 0x3f, 0x0f, 0x02, 0xc1, 0xaf, 0xbd, 0x03, 0x01, 0x13, 0x8a, 0x6b,
    0x3a, 0x91, 0x11, 0x41, 0x4f, 0x67, 0xdc, 0xea, 0x97, 0xf2, 0xcf, 0xce, 0xf0, 0xb4, 0xe6, 0x73,
    0x96, 0xac, 0x74, 0x22, 0xe7, 0xad, 0x35, 0x85, 0xe2, 0xf9, 0x37, 0xe8, 0x1c, 0x75, 0xdf, 0x6e,
    0x47, 0xf1, 0x1a, 0x71, 0x1d, 0x29, 0xc5, 0x89, 0x6f, 0xb7, 0x62, 0x0e, 0xaa, 0x18, 0xbe, 0x1b,
    0xfc, 0x56, 0x3e, 0x4b, 0xc6, 0xd2, 0x79, 0x20, 0x9a, 0xdb, 0xc0, 0xfe, 0x78, 0xcd, 0x5a, 0xf4,
    0x1f, 0xdd, 0xa8, 0x33, 0x88, 0x07, 0xc7, 0x31, 0xb1, 0x12, 0x10, 0x59, 0x27, 0x80, 0xec, 0x5f,
    0x60, 0x51, 0x7f, 0xa9, 0x19, 0xb5, 0x4a, 0x0d, 0x2d, 0xe5, 0x7a, 0x9f, 0x93, 0xc9, 0x9c, 0xef,
    0xa0, 0xe0, 0x3b, 0x4d, 0xae, 0x2a, 0xf5, 0xb0, 0xc8, 0xeb, 0xbb, 0x3c, 0x83, 0x53, 0x99, 0x61,
    0x17, 0x2b, 0x04, 0x7e, 0xba, 0x77, 0xd6, 0x26, 0xe1, 0x69, 0x14, 0x63, 0x55, 0x21, 0x0c, 0x7d]

/-- The substitution of one byte. -/
def sub (b : UInt8) : UInt8 := sbox[b.toNat]?.getD 0

/-- The inverse substitution of one byte. -/
def subInv (b : UInt8) : UInt8 := sboxInv[b.toNat]?.getD 0

/-- The round constants, for rounds 1 to 10. -/
def rcon (round : Nat) : UInt8 :=
  [0x01, 0x02, 0x04, 0x08, 0x10, 0x20, 0x40, 0x80, 0x1b, 0x36].getD (round - 1) 0

/-- The four columns of a state. -/
def columns (s : Bytes) : List Bytes :=
  [s.take 4, (s.drop 4).take 4, (s.drop 8).take 4, (s.drop 12).take 4]

/-- The round key that follows `k` in round `round`. -/
def nextRoundKey (k : Bytes) (round : Nat) : Bytes :=
  match columns k with
  | [w0, w1, w2, w3] =>
    let t := Bytes.xor ((w3.drop 1 ++ w3.take 1).map sub) [rcon round, 0, 0, 0]
    let n0 := Bytes.xor w0 t
    let n1 := Bytes.xor w1 n0
    let n2 := Bytes.xor w2 n1
    n0 ++ n1 ++ n2 ++ Bytes.xor w3 n2
  | _ => k

/-- The eleven round keys of a key, the key itself first. -/
def roundKeys (key : Bytes) : List Bytes :=
  (List.range 10).scanl (fun k r => nextRoundKey k (r + 1)) key

/-- Row `r` moves `r` columns to the left. -/
def shiftRows (s : Bytes) : Bytes :=
  (List.range 16).map fun i => s.getD (i % 4 + 4 * ((i / 4 + i % 4) % 4)) 0

/-- Row `r` moves `r` columns to the right. -/
def shiftRowsInv (s : Bytes) : Bytes :=
  (List.range 16).map fun i => s.getD (i % 4 + 4 * ((i / 4 + 4 - i % 4) % 4)) 0

/-- One column times the matrix with first row `m0 m1 m2 m3`, each row the last turned right. -/
def mixColumn (m0 m1 m2 m3 : UInt8) : Bytes → Bytes
  | [a0, a1, a2, a3] =>
    [mul m0 a0 ^^^ mul m1 a1 ^^^ mul m2 a2 ^^^ mul m3 a3,
     mul m3 a0 ^^^ mul m0 a1 ^^^ mul m1 a2 ^^^ mul m2 a3,
     mul m2 a0 ^^^ mul m3 a1 ^^^ mul m0 a2 ^^^ mul m1 a3,
     mul m1 a0 ^^^ mul m2 a1 ^^^ mul m3 a2 ^^^ mul m0 a3]
  | other => other

/-- The column mixing of a round. -/
def mixColumns (s : Bytes) : Bytes := (columns s).flatMap (mixColumn 2 3 1 1)

/-- The inverse of `mixColumns`. -/
def mixColumnsInv (s : Bytes) : Bytes := (columns s).flatMap (mixColumn 14 11 13 9)

/-- Encrypts one sixteen-byte block under a sixteen-byte key. -/
def encryptBlock (key block : Bytes) : Bytes :=
  let ks := roundKeys key
  let middle := (List.range 9).foldl
    (fun s r => Bytes.xor (mixColumns (shiftRows (s.map sub))) (ks.getD (r + 1) []))
    (Bytes.xor block (ks.getD 0 []))
  Bytes.xor (shiftRows (middle.map sub)) (ks.getD 10 [])

/-- Decrypts one sixteen-byte block under a sixteen-byte key. -/
def decryptBlock (key block : Bytes) : Bytes :=
  let ks := roundKeys key
  let middle := (List.range 9).foldl
    (fun s r => mixColumnsInv (Bytes.xor ((shiftRowsInv s).map subInv) (ks.getD (9 - r) [])))
    (Bytes.xor block (ks.getD 10 []))
  Bytes.xor ((shiftRowsInv middle).map subInv) (ks.getD 0 [])

end StoneLink.Cipher.Aes
