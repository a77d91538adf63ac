import StoneLink.Text.Hex
import StoneLink.Text.Printable

/-!
# Quoted text

A quoted literal is the text between double quotes with a backslash before every quote and
backslash, printable characters as they are, the seven control characters that have letters
(`\a \b \f \n \r \t \v`) by their letters, other characters below U+0020 and U+007F as `\xNN`,
and the remaining unprintable characters as `\uNNNN` or `\UNNNNNNNN`, all digits lowercase.

Which characters are printable is the table of `StoneLink.Text.isPrintable`.
-/

namespace StoneLink

namespace Quote

/-- The lowercase digits of the last `n` hexadecimal places of a number. -/
def hexDigits (n v : Nat) : List Char :=
  (List.range n).reverse.map fun i => Hex.digit (v / Nat.pow 16 i % 16)

/-- The written form of one character inside a quoted literal. -/
def escape (c : Char) : List Char :=
  if c = '"' ∨ c = '\\' then ['\\', c]
  else if Text.isPrintable c then [c]
  else if c.toNat = 7 then ['\\', 'a']
  else if c.toNat = 8 then ['\\', 'b']
  else if c.toNat = 12 then ['\\', 'f']
  else if c = '\n' then ['\\', 'n']
  else if c = '\r' then ['\\', 'r']
  else if c = '\t' then ['\\', 't']
  else if c.toNat = 11 then ['\\', 'v']
  else if c.toNat < 32 ∨ c.toNat = 127 then '\\' :: 'x' :: hexDigits 2 c.toNat
  else if c.toNat < 0x10000 then '\\' :: 'u' :: hexDigits 4 c.toNat
  else '\\' :: 'U' :: hexDigits 8 c.toNat

end Quote

/-- A text as a double-quoted literal. -/
def quote (s : String) : String :=
  String.ofList ('"' :: (s.toList.flatMap Quote.escape ++ ['"']))

end StoneLink
