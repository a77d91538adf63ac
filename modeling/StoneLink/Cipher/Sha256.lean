import StoneLink.Bytes

/-!
# SHA-256, HMAC and HKDF

The hash of FIPS 180-4, the keyed hash HMAC of RFC 2104 over it, and the key derivation HKDF of
RFC 5869. A message is padded with a one bit, zeros and its length in bits to a whole number of
64-byte blocks; each block extends the eight-word state through 64 rounds.

Sphere keys are derived with HKDF: the secret is first condensed into a pseudorandom key under
a salt (all zeros when none is given), then expanded into as many bytes as needed, block `i` being
the HMAC of block `i - 1`, the context text and the counter `i`.
-/

namespace StoneLink.Cipher.Sha256

/-- The round constants. -/
def roundConstants : List UInt32 :=
  [0x428a2f98, 0x71374491, 0xb5c0fbcf, 0xe9b5dba5, 0x3956c25b, 0x59f111f1, 0x923f82a4, 0xab1c5ed5,
   0xd807aa98, 0x12835b01, 0x243185be, 0x550c7dc3, 0x72be5d74, 0x80deb1fe, 0x9bdc06a7, 0xc19bf174,
   0xe49b69c1, 0xefbe4786, 0x0fc19dc6, 0x240ca1cc, 0x2de92c6f, 0x4a7484aa, 0x5cb0a9dc, 0x76f988da,
   0x983e5152, 0xa831c66d, 0xb00327c8, 0xbf597fc7, 0xc6e00bf3, 0xd5a79147, 0x06ca6351, 0x14292967,
   0x27b70a85, 0x2e1b2138, 0x4d2c6dfc, 0x53380d13, 0x650a7354, 0x766a0abb, 0x81c2c92e, 0x92722c85,
   0xa2bfe8a1, 0xa81a664b, 0xc24b8b70, 0xc76c51a3, 0xd192e819, 0xd6990624, 0xf40e3585, 0x106aa070,
   0x19a4c116, 0x1e376c08, 0x2748774c, 0x34b0bcb5, 0x391c0cb3, 0x4ed8aa4a, 0x5b9cca4f, 0x682e6ff3,
   0x748f82ee, 0x78a5636f, 0x84c87814, 0x8cc70208, 0x90befffa, 0xa4506ceb, 0xbef9a3f7, 0xc67178f2]

/-- The state before the first block. -/
def initialState : List UInt32 :=
  [0x6a09e667, 0xbb67ae85, 0x3c6ef372, 0xa54ff53a, 0x510e527f, 0x9b05688c, 0x1f83d9ab, 0x5be0cd19]

/-- Rotation of a word to the right. -/
def rotr (x : UInt32) (n : UInt32) : UInt32 := (x >>> n) ||| (x <<< (32 - n))

/-- The schedule function of the word fifteen back. -/
def sigma0 (x : UInt32) : UInt32 := rotr x 7 ^^^ rotr x 18 ^^^ (x >>> 3)

/-- The schedule function of the word two back. -/
def sigma1 (x : UInt32) : UInt32 := rotr x 17 ^^^ rotr x 19 ^^^ (x >>> 10)

/-- The round function of the first working word. -/
def bigSigma0 (x : UInt32) : UInt32 := rotr x 2 ^^^ rotr x 13 ^^^ rotr x 22

/-- The round function of the fifth working word. -/
def bigSigma1 (x : UInt32) : UInt32 := rotr x 6 ^^^ rotr x 11 ^^^ rotr x 25

/-- The word of four bytes, high byte first. -/
def wordBE (b : Bytes) : UInt32 :=
  ((b.getD 0 0).toUInt32 <<< 24) ||| ((b.getD 1 0).toUInt32 <<< 16) |||
    ((b.getD 2 0).toUInt32 <<< 8) ||| (b.getD 3 0).toUInt32

/-- The four bytes of a word, high byte first. -/
def bytesBE (w : UInt32) : Bytes :=
  [(w >>> 24).toUInt8, (w >>> 16).toUInt8, (w >>> 8).toUInt8, w.toUInt8]

/-- The schedule extended by `n` more words, each from the words 16, 15, 7 and 2 back. -/
def extend : Nat → List UInt32 → List UInt32
  | 0, w => w
  | n + 1, w =>
    let t := w.length
    extend n (w ++ [w.getD (t - 16) 0 + sigma0 (w.getD (t - 15) 0) + w.getD (t - 7) 0 +
      sigma1 (w.getD (t - 2) 0)])

/-- The 64 schedule words of a block. -/
def schedule (block : Bytes) : List UInt32 :=
  extend 48 ((List.range 16).map fun i => wordBE (block.drop (4 * i)))

/-- One round on the working words with a round constant and a schedule word. -/
def round (v : List UInt32) (k w : UInt32) : List UInt32 :=
  match v with
  | [a, b, c, d, e, f, g, h] =>
    let t1 := h + bigSigma1 e + ((e &&& f) ^^^ (~~~e &&& g)) + k + w
    let t2 := bigSigma0 a + ((a &&& b) ^^^ (a &&& c) ^^^ (b &&& c))
    [t1 + t2, a, b, c, d + t1, e, f, g]
  | other => other

/-- The state after one 64-byte block. -/
def compress (state : List UInt32) (block : Bytes) : List UInt32 :=
  let v := (List.zip roundConstants (schedule block)).foldl (fun v (k, w) => round v k w) state
  List.zipWith (· + ·) state v

/-- The message with its padding: a one bit, zeros, and the length in bits. -/
def pad (msg : Bytes) : Bytes :=
  let zeros := (119 - msg.length % 64) % 64
  msg ++ [0x80] ++ List.replicate zeros 0 ++ Bytes.ofNatBE 8 (8 * msg.length)

/-- The 64-byte blocks of a padded message. -/
def blocks : Nat → Bytes → List Bytes
  | 0, _ => []
  | n + 1, b => if b.isEmpty then [] else b.take 64 :: blocks n (b.drop 64)

/-- The 32-byte hash of a message. -/
def hash (msg : Bytes) : Bytes :=
  let p := pad msg
  ((blocks (p.length / 64) p).foldl compress initialState).flatMap bytesBE

/-- The keyed hash of a message. -/
def hmac (key msg : Bytes) : Bytes :=
  let k := Bytes.padTo 64 (if key.length > 64 then hash key else key)
  let inner := hash (k.map (· ^^^ 0x36) ++ msg)
  hash (k.map (· ^^^ 0x5c) ++ inner)

/-- Blocks `i + 1` to `i + n` of the HKDF output, each chained on the one before. -/
def expandBlocks (prk info : Bytes) : Nat → Nat → Bytes → Bytes
  | 0, _, _ => []
  | n + 1, i, prev =>
    let t := hmac prk (prev ++ info ++ [(i + 1).toUInt8])
    t ++ expandBlocks prk info n (i + 1) t

/-- The first `length` bytes that HKDF derives from a secret, a salt and a context text; an
empty salt stands for 32 zero bytes. -/
def hkdf (secret salt info : Bytes) (length : Nat) : Bytes :=
  let prk := hmac (if salt.isEmpty then List.replicate 32 0 else salt) secret
  (expandBlocks prk info ((length + 31) / 32) 0 []).take length

end StoneLink.Cipher.Sha256
