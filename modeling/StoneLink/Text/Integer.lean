/-!
# Integers in text

An unsigned integer is written in a base from 2 to 36 with digits `0-9` and letters of either
case. With base 0 the text chooses: a leading `0b`, `0o` or `0x` (either case, and at least one
character after it) means base 2, 8 or 16, another leading `0` means base 8, anything else base
10; in that mode underscores may separate digits. A signed integer may start with `+` or `-`.

Reading fails in one of two ways: the text is not a number (`malformed`), or it is one that does
not fit the width (`range`). The first digit that overflows decides for `range`, even if the
text goes wrong later.
-/

namespace StoneLink.Text.Integer

/-- Why a text is not an integer of the wanted width. -/
inductive Failure
  /-- The text is not a number. -/
  | malformed
  /-- The number does not fit. -/
  | range
  deriving DecidableEq, Repr, Inhabited

/-- The words a failure is reported with. -/
def Failure.message : Failure → String
  | .malformed => "invalid syntax"
  | .range => "value out of range"

/-- The value of a digit or letter as a digit, or 36 and more for anything else. -/
def digitValue (c : Char) : Nat :=
  if c.isDigit then c.toNat - '0'.toNat
  else if c.isLower then c.toNat - 'a'.toNat + 10
  else if c.isUpper then c.toNat - 'A'.toNat + 10
  else 36

/-- Whether the underscores of a base-0 number each stand between two digits. -/
def underscoresFit (s : List Char) : Bool :=
  let s := match s with
    | '+' :: rest => rest
    | '-' :: rest => rest
    | rest => rest
  let (hex, start, s) := match s with
    | '0' :: c :: rest =>
      if c.toLower = 'b' || c.toLower = 'o' || c.toLower = 'x' then (c.toLower == 'x', '0', rest)
      else (false, '^', s)
    | _ => (false, '^', s)
  let last := s.foldl (fun (saw : Option Char) c =>
    saw.bind fun saw =>
      if c.isDigit || (hex && c.toLower ≥ 'a' && c.toLower ≤ 'f') then some '0'
      else if c = '_' then (if saw = '0' then some '_' else none)
      else if saw = '_' then none
      else some '!') (some start)
  last.isSome && last ≠ some '_'

/-- The base a base-0 text names and the digits after its prefix. -/
def choosePrefix (s : List Char) : Nat × List Char :=
  match s with
  | '0' :: c :: d :: rest =>
    if c.toLower = 'b' then (2, d :: rest)
    else if c.toLower = 'o' then (8, d :: rest)
    else if c.toLower = 'x' then (16, d :: rest)
    else (8, c :: d :: rest)
  | '0' :: rest => (8, rest)
  | _ => (10, s)

/-- Reads digits in a base, below `limit`; underscores are skipped when `underscores` is set. -/
def readDigits (base limit : Nat) (underscores : Bool) : List Char → Nat → Except Failure Nat
  | [], n => .ok n
  | c :: rest, n =>
    if underscores && c = '_' then readDigits base limit underscores rest n
    else
      let d := digitValue c
      if d ≥ base then .error .malformed
      else
        let n := n * base + d
        if n ≥ limit then .error .range else readDigits base limit underscores rest n

/-- Reads an unsigned integer below `2 ^ bits` in a base, 0 letting the text choose. -/
def parseNat (s : String) (base bits : Nat) : Except Failure Nat :=
  let cs := s.toList
  if cs.isEmpty then .error .malformed
  else
    let (b, digits) := if base = 0 then choosePrefix cs else (base, cs)
    match readDigits b (Nat.pow 2 bits) (base = 0) digits 0 with
    | .error e => .error e
    | .ok n =>
      if base = 0 && cs.contains '_' && !underscoresFit cs then .error .malformed else .ok n

/-- Reads a signed integer from `-2 ^ (bits - 1)` to `2 ^ (bits - 1) - 1` in a base, 0 letting
the text choose. -/
def parseInt (s : String) (base bits : Nat) : Except Failure Int :=
  let (neg, rest) := match s.toList with
    | '+' :: rest => (false, rest)
    | '-' :: rest => (true, rest)
    | rest => (false, rest)
  let cutoff := Nat.pow 2 (bits - 1)
  match parseNat (String.ofList rest) base bits with
  | .error .malformed => .error .malformed
  | .error .range => .error .range
  | .ok n =>
    if !neg && n ≥ cutoff then .error .range
    else if neg && n > cutoff then .error .range
    else .ok (if neg then -(n : Int) else n)

end StoneLink.Text.Integer
