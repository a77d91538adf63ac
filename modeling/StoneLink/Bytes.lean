/-!
# Byte strings

A byte string is a list of bytes, first byte first. This module holds the word views the
protocol uses (16- and 32-bit words, low byte first, and numbers of any width, high byte first),
zero padding to a fixed width, and the byte-wise exclusive or of two strings.

The readers treat missing bytes as zero, so every reader is total; callers that must reject
short input check the length first.
-/

namespace StoneLink

/-- A byte string, first byte first. -/
abbrev Bytes := List UInt8

namespace Bytes

/-- The two bytes of a 16-bit word, low byte first. -/
def ofUInt16 (w : UInt16) : Bytes := [w.toUInt8, (w >>> 8).toUInt8]

/-- The four bytes of a 32-bit word, low byte first. -/
def ofUInt32 (w : UInt32) : Bytes :=
  [w.toUInt8, (w >>> 8).toUInt8, (w >>> 16).toUInt8, (w >>> 24).toUInt8]

/-- The 16-bit word of the first two bytes, low byte first; a missing byte counts as zero. -/
def toUInt16 (b : Bytes) : UInt16 :=
  (b.getD 0 0).toUInt16 ||| ((b.getD 1 0).toUInt16 <<< 8)

/-- The 32-bit word of the first four bytes, low byte first; a missing byte counts as zero. -/
def toUInt32 (b : Bytes) : UInt32 :=
  (b.getD 0 0).toUInt32 ||| ((b.getD 1 0).toUInt32 <<< 8) |||
    ((b.getD 2 0).toUInt32 <<< 16) ||| ((b.getD 3 0).toUInt32 <<< 24)

/-- The number a byte string stands for, high byte first. -/
def toNatBE (b : Bytes) : Nat := b.foldl (fun acc x => acc * 256 + x.toNat) 0

/-- The last `n` base-256 digits of `v`, high byte first. -/
def ofNatBE : Nat → Nat → Bytes
  | 0, _ => []
  | n + 1, v => ofNatBE n (v / 256) ++ [(v % 256).toUInt8]

/-- The string followed by zero bytes up to length `n`; a longer string is kept whole. -/
def padTo (n : Nat) (b : Bytes) : Bytes := b ++ List.replicate (n - b.length) 0

/-- The byte-wise exclusive or; the result is as long as the shorter string. -/
def xor (a b : Bytes) : Bytes := List.zipWith (· ^^^ ·) a b

@[simp] theorem length_ofUInt16 (w : UInt16) : (ofUInt16 w).length = 2 := rfl

@[simp] theorem length_ofUInt32 (w : UInt32) : (ofUInt32 w).length = 4 := rfl

@[simp] theorem length_ofNatBE (n v : Nat) : (ofNatBE n v).length = n := by
  induction n generalizing v with
  | zero => rfl
  | succ n ih => simp [ofNatBE, ih]

@[simp] theorem length_padTo (n : Nat) (b : Bytes) : (padTo n b).length = max n b.length := by
  simp only [padTo, List.length_append, List.length_replicate]
  omega

@[simp] theorem length_xor (a b : Bytes) : (xor a b).length = min a.length b.length := by
  simp [xor]

end Bytes

end StoneLink
