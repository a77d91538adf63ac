import StoneLink.Bytes

/-!
# Hexadecimal text

Bytes are written as two lowercase digits each, high half first. Reading accepts digits of either
case and works on the UTF-8 bytes of the text, two at a time from the left. The first byte that is
not a digit is reported, as `U+00XX` with the character when it is printable; a text of odd
length whose digits are all valid is reported as such.
-/

namespace StoneLink

namespace Hex

/-- The lowercase digit of a value below sixteen. -/
def digit (v : Nat) : Char :=
  if v < 10 then Char.ofNat (48 + v) else Char.ofNat (87 + v)

/-- The two digits of one byte, high half first. -/
def pair (b : UInt8) : List Char := [digit (b.toNat / 16), digit (b.toNat % 16)]

/-- A byte string as lowercase hexadecimal text. -/
def encode (b : Bytes) : String := String.ofList (b.flatMap pair)

/-- The value of one digit byte, of either case. -/
def value? (c : UInt8) : Option UInt8 :=
  if 48 ≤ c ∧ c ≤ 57 then some (c - 48)
  else if 97 ≤ c ∧ c ≤ 102 then some (c - 87)
  else if 65 ≤ c ∧ c ≤ 70 then some (c - 55)
  else none

/-- Why a text is not hexadecimal. -/
inductive Problem where
  /-- A byte that is not a digit. -/
  | invalidByte (b : UInt8)
  /-- An odd number of digits. -/
  | oddLength
  deriving DecidableEq, Repr

/-- Whether a character below U+0100 is printable: the ASCII graphic characters and space, and
the Latin-1 letters and signs from U+00A1 on, less the soft hyphen U+00AD. -/
def latinPrintable (n : Nat) : Bool :=
  (32 ≤ n && n ≤ 126) || (161 ≤ n && n ≤ 255 && n != 173)

/-- The four uppercase digits of a code point below U+10000. -/
def upper4 (n : Nat) : String :=
  String.ofList ((Bytes.ofNatBE 2 n).flatMap pair |>.map Char.toUpper)

/-- The text of a problem. -/
def Problem.message : Problem → String
  | .invalidByte b =>
    let shown := if latinPrintable b.toNat then " '" ++ (Char.ofNat b.toNat).toString ++ "'" else ""
    "encoding/hex: invalid byte: U+" ++ upper4 b.toNat ++ shown
  | .oddLength => "encoding/hex: odd length hex string"

/-- Reads digit pairs from the left. -/
def decodeBytes : List UInt8 → Except Problem Bytes
  | [] => .ok []
  | [c] => match value? c with
    | some _ => .error .oddLength
    | none => .error (.invalidByte c)
  | a :: b :: rest =>
    match value? a, value? b with
    | none, _ => .error (.invalidByte a)
    | some _, none => .error (.invalidByte b)
    | some x, some y => (decodeBytes rest).map ((x * 16 + y) :: ·)

/-- Reads hexadecimal text. -/
def decode (s : String) : Except Problem Bytes := decodeBytes s.toUTF8.toList

end Hex

end StoneLink
