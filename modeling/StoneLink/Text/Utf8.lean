/-!
# Reading UTF-8 bytes

Bytes that are not well-formed UTF-8 still read as text: each byte that does not start a
well-formed encoding stands for the replacement character U+FFFD, and reading goes on with the
next byte. A well-formed encoding is the shortest one of a scalar value: no surrogates, nothing
above U+10FFFF.
-/

namespace StoneLink.Text.Utf8

/-- Whether a byte continues an encoding. -/
def isContinuation (b : UInt8) : Bool := b &&& 0xC0 = 0x80

/-- The character and length of the well-formed encoding at the front of the bytes, if any. -/
def decodeOne : List UInt8 → Option (Char × Nat)
  | [] => none
  | b0 :: rest =>
    let n0 := b0.toNat
    if n0 < 0x80 then some (Char.ofNat n0, 1)
    else
      let cont (k : Nat) : Option Nat :=
        match rest.drop k with
        | b :: _ => if isContinuation b then some (b.toNat &&& 0x3F) else none
        | [] => none
      if 0xC2 ≤ n0 && n0 ≤ 0xDF then
        (cont 0).map fun c1 => (Char.ofNat ((n0 &&& 0x1F) * 64 + c1), 2)
      else if 0xE0 ≤ n0 && n0 ≤ 0xEF then
        match cont 0, cont 1 with
        | some c1, some c2 =>
          let v := (n0 &&& 0x0F) * 4096 + c1 * 64 + c2
          if v < 0x800 || (0xD800 ≤ v && v ≤ 0xDFFF) then none else some (Char.ofNat v, 3)
        | _, _ => none
      else if 0xF0 ≤ n0 && n0 ≤ 0xF4 then
        match cont 0, cont 1, cont 2 with
        | some c1, some c2, some c3 =>
          let v := (n0 &&& 0x07) * 262144 + c1 * 4096 + c2 * 64 + c3
          if v < 0x10000 || v > 0x10FFFF then none else some (Char.ofNat v, 4)
        | _, _, _ => none
      else none

/-- The text of some bytes, with U+FFFD for each byte that starts no well-formed encoding. -/
def decodeLossy (bytes : List UInt8) : String :=
  go bytes.length bytes ""
where
  /-- Reads at most `fuel` characters. -/
  go : Nat → List UInt8 → String → String
    | 0, _, acc => acc
    | _, [], acc => acc
    | fuel + 1, b :: rest, acc =>
      match decodeOne (b :: rest) with
      | some (c, n) => go fuel ((b :: rest).drop n) (acc.push c)
      | none => go fuel rest (acc.push '\uFFFD')

end StoneLink.Text.Utf8
