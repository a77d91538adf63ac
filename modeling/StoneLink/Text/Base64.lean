/-!
# Base64

The standard alphabet `A-Z a-z 0-9 + /` with `=` padding. Reading skips carriage returns and
line feeds; every group of four characters gives three bytes, and the last group may end in
`==` or `=` for one or two bytes. Anything else, or characters after the padding, is not
base64.
-/

namespace StoneLink.Text.Base64

/-- The value of a character of the alphabet. -/
def value? (c : Char) : Option Nat :=
  if 'A' ≤ c && c ≤ 'Z' then some (c.toNat - 'A'.toNat)
  else if 'a' ≤ c && c ≤ 'z' then some (c.toNat - 'a'.toNat + 26)
  else if '0' ≤ c && c ≤ '9' then some (c.toNat - '0'.toNat + 52)
  else if c = '+' then some 62
  else if c = '/' then some 63
  else none

/-- The bytes of groups of four characters. -/
def groups : Nat → List Char → Option (List UInt8)
  | 0, _ => none
  | _, [] => some []
  | fuel + 1, a :: b :: c :: d :: rest => do
    let va ← value? a
    let vb ← value? b
    if c = '=' then
      if d = '=' && rest.isEmpty then some [(va * 4 + vb / 16).toUInt8] else none
    else
      let vc ← value? c
      if d = '=' then
        if rest.isEmpty then
          some [(va * 4 + vb / 16).toUInt8, ((vb % 16) * 16 + vc / 4).toUInt8]
        else none
      else
        let vd ← value? d
        let tail ← groups fuel rest
        some ([(va * 4 + vb / 16).toUInt8, ((vb % 16) * 16 + vc / 4).toUInt8,
          ((vc % 4) * 64 + vd).toUInt8] ++ tail)
  | _, _ => none

/-- The bytes a base64 text stands for, if it is one. -/
def decode? (s : String) : Option (List UInt8) :=
  let cs := s.toList.filter fun c => c ≠ '\r' && c ≠ '\n'
  groups (cs.length + 1) cs

end StoneLink.Text.Base64
