import StoneLink.Text.Integer
import StoneLink.Yaml.Timestamp

/-!
# What a scalar means

A plain scalar's text decides its type. The first character narrows the search: a sign or
digit may start a number or a date, one of `yYnNtTfFoO~` a word from the table of booleans and
nulls, a point a float, and the empty text is null; anything else is a string.

* The words are `true`, `false` and `null` in three spellings each, `~`, and the float words
  `.nan`, `.inf`, `+.inf`, `-.inf` in three spellings each.
* A date is `YYYY-M-D`, optionally followed by a time `h:m:s` with an optional fraction, after
  a `T` or `t` with a zone `Z` or `±hh:mm`, or after spaces with no zone (see `Timestamp`).
* A number has its underscores removed and is tried as a signed 64-bit integer (base chosen by
  its prefix), then as an unsigned one, then as a decimal float that does not overflow, and last
  as `0b` or `0o` digits that may carry a sign after the prefix.

An explicit standard tag asks for one type; a text of another type is an error, except that an
integer is a fine float. Tags are written short: `tag:yaml.org,2002:int` is `!!int`.
-/

namespace StoneLink.Yaml

/-- The prefix of the standard tags. -/
def Tag.standardPrefix : String := "tag:yaml.org,2002:"

/-- The short form of a tag: standard tags as `!!name`, others as they are. -/
def Tag.short (tag : String) : String :=
  if tag.startsWith Tag.standardPrefix then "!!" ++ (tag.drop Tag.standardPrefix.length).toString
  else tag

/-- The tag of null. -/
def Tag.null : String := "!!null"
/-- The tag of booleans. -/
def Tag.bool : String := "!!bool"
/-- The tag of strings. -/
def Tag.str : String := "!!str"
/-- The tag of integers. -/
def Tag.int : String := "!!int"
/-- The tag of floats. -/
def Tag.float : String := "!!float"
/-- The tag of dates and times. -/
def Tag.timestamp : String := "!!timestamp"
/-- The tag of sequences. -/
def Tag.seq : String := "!!seq"
/-- The tag of mappings. -/
def Tag.map : String := "!!map"
/-- The tag of base64 data. -/
def Tag.binary : String := "!!binary"
/-- The tag of the merge key `<<`. -/
def Tag.merge : String := "!!merge"

/-- What a scalar means. -/
inductive Scalar where
  /-- Nothing. -/
  | null
  /-- A truth value. -/
  | bool (b : Bool)
  /-- An integer from `-2^63` to `2^63 - 1`. -/
  | int (i : Int)
  /-- An integer from `2^63` to `2^64 - 1`. -/
  | uint (n : Nat)
  /-- A float. -/
  | float (f : Float)
  /-- A date or a date and a time. -/
  | timestamp (t : Timestamp)
  /-- A string. -/
  | str (s : String)
  /-- Bytes written as base64 data. -/
  | data (bytes : List UInt8)
  deriving Inhabited

namespace Scalar

/-- The words with a fixed meaning. -/
def words : List (String × String × Scalar) :=
  [("true", Tag.bool, .bool true), ("True", Tag.bool, .bool true), ("TRUE", Tag.bool, .bool true),
   ("false", Tag.bool, .bool false), ("False", Tag.bool, .bool false),
   ("FALSE", Tag.bool, .bool false),
   ("", Tag.null, .null), ("~", Tag.null, .null), ("null", Tag.null, .null),
   ("Null", Tag.null, .null), ("NULL", Tag.null, .null),
   (".nan", Tag.float, .float (0.0 / 0.0)), (".NaN", Tag.float, .float (0.0 / 0.0)),
   (".NAN", Tag.float, .float (0.0 / 0.0)),
   (".inf", Tag.float, .float (1.0 / 0.0)), (".Inf", Tag.float, .float (1.0 / 0.0)),
   (".INF", Tag.float, .float (1.0 / 0.0)),
   ("+.inf", Tag.float, .float (1.0 / 0.0)), ("+.Inf", Tag.float, .float (1.0 / 0.0)),
   ("+.INF", Tag.float, .float (1.0 / 0.0)),
   ("-.inf", Tag.float, .float (-1.0 / 0.0)), ("-.Inf", Tag.float, .float (-1.0 / 0.0)),
   ("-.INF", Tag.float, .float (-1.0 / 0.0)),
   ("<<", Tag.merge, .str "<<")]

/-- How the first character narrows the search. -/
inductive Hint
  /-- A sign: number or date. -/
  | sign
  /-- A digit: number or date. -/
  | digit
  /-- A letter or `~` that may start a word of the table. -/
  | word
  /-- A point: a float. -/
  | point
  /-- Only a string. -/
  | none
  deriving DecidableEq

/-- The hint of a text. -/
def hint (s : String) : Hint :=
  match s.toList with
  | [] => .word
  | c :: _ =>
    if c = '+' || c = '-' then .sign
    else if c.isDigit then .digit
    else if "yYnNtTfFoO~".contains c then .word
    else if c = '.' then .point
    else .none

/-! ## Numbers -/

/-- Reads digits, at least one. -/
def digits (s : List Char) : Option (List Char × List Char) :=
  let ds := s.takeWhile Char.isDigit
  if ds.isEmpty then none else some (ds, s.drop ds.length)

/-- The parts of a decimal float `[-+]?(\.d+|d+(\.d*)?)([eE][-+]?d+)?`: whether it is negative,
its digits, the number of them after the point, and the exponent. -/
def decimalParts (s : String) : Option (Bool × List Char × Nat × Int) := do
  let (neg, s) := match s.toList with
    | '+' :: rest => (false, rest)
    | '-' :: rest => (true, rest)
    | rest => (false, rest)
  let (whole, s) ← match s with
    | '.' :: _ => some ([], s)
    | _ => digits s
  let (frac, s) ← match s with
    | '.' :: rest =>
      let f := rest.takeWhile Char.isDigit
      if whole.isEmpty && f.isEmpty then none else some (f, rest.drop f.length)
    | _ => some ([], s)
  let exp : Option Int := match s with
    | [] => some 0
    | e :: rest =>
      if e = 'e' || e = 'E' then
        let (eneg, rest) := match rest with
          | '+' :: r => (false, r)
          | '-' :: r => (true, r)
          | r => (false, r)
        if !rest.isEmpty && rest.all Char.isDigit then
          let v : Int := rest.foldl (fun n c => 10 * n + (c.toNat - 48)) 0
          some (if eneg then -v else v)
        else none
      else none
  let e ← exp
  some (neg, whole ++ frac, frac.length, e)

/-- The nearest float to `±digits × 10^(exp - places)`, or nothing when it overflows. -/
def decimalValue (neg : Bool) (ds : List Char) (places : Nat) (exp : Int) : Option Float :=
  let m := ds.foldl (fun n c => 10 * n + (c.toNat - 48)) 0
  let e := exp - places
  let size : Int := (toString m).length
  let magnitude : Option Float :=
    if m = 0 then some 0
    else if size + e > 310 then none
    else if size + e < -330 then some 0
    else if e ≥ 0 then some (Float.ofScientific m false e.toNat)
    else some (Float.ofScientific m true (-e).toNat)
  magnitude.bind fun f =>
    if f.isInf then none else some (if neg then -f else f)

/-- The float a decimal text of the form above means, unless it overflows. -/
def decimalFloat? (s : String) : Option Float := do
  let (neg, ds, places, e) ← decimalParts s
  decimalValue neg ds places e

/-- Whether underscores in a float text each stand between two digits. -/
def floatUnderscoresFit (s : List Char) : Bool :=
  let last := s.foldl (fun (saw : Option Char) c =>
    saw.bind fun saw =>
      if c.isDigit then some '0'
      else if c = '_' then (if saw = '0' then some '_' else none)
      else if saw = '_' then none
      else some '!') (some '^')
  last.isSome && last ≠ some '_'

/-- The float of a text that starts with a point: digits with underscores between them, and an
optional exponent. -/
def pointFloat? (s : String) : Option Float :=
  let cs := s.toList
  if !floatUnderscoresFit cs then none
  else
    match cs with
    | '.' :: rest =>
      let frac := rest.takeWhile fun c => c.isDigit || c = '_'
      let after := rest.drop frac.length
      let ds := frac.filter Char.isDigit
      if ds.isEmpty then none
      else
        let exp : Option Int := match after with
          | [] => some 0
          | e :: r =>
            if e = 'e' || e = 'E' then
              let (eneg, r) := match r with
                | '+' :: r => (false, r)
                | '-' :: r => (true, r)
                | r => (false, r)
              match r with
              | d :: _ =>
                if d.isDigit && r.all (fun c => c.isDigit || c = '_') then
                  let v : Int :=
                    (r.filter Char.isDigit).foldl (fun n c => 10 * n + (c.toNat - 48)) 0
                  some (if eneg then -v else v)
                else none
              | [] => none
            else none
        exp.bind fun e => decimalValue false ds ds.length e
    | _ => none

/-- An integer read by base-0 rules: signed when it fits, else unsigned. -/
def integer? (s : String) : Option Scalar :=
  match Text.Integer.parseInt s 0 64 with
  | .ok i => some (.int i)
  | .error _ =>
    match Text.Integer.parseNat s 0 64 with
    | .ok n => some (.uint n)
    | .error _ => none

/-- An integer of `0b` or `0o` digits after the prefix, which may carry a sign of its own. -/
def prefixed? (plain : String) : Option Scalar :=
  let viaBase (base : Nat) (rest : String) (neg : Bool) : Option Scalar :=
    match Text.Integer.parseInt ((if neg then "-" else "") ++ rest) base 64 with
    | .ok i => some (.int i)
    | .error _ =>
      if neg then none
      else match Text.Integer.parseNat rest base 64 with
        | .ok n => some (.uint n)
        | .error _ => none
  if plain.startsWith "0b" then viaBase 2 (plain.drop 2).toString false
  else if plain.startsWith "-0b" then viaBase 2 (plain.drop 3).toString true
  else if plain.startsWith "0o" then viaBase 8 (plain.drop 2).toString false
  else if plain.startsWith "-0o" then viaBase 8 (plain.drop 3).toString true
  else none

/-- The tag and meaning of a plain text found by its form alone. -/
def ofPlain (s : String) (dates : Bool) : String × Scalar :=
  let h := hint s
  if h = .none then (Tag.str, .str s)
  else
    match words.find? (·.1 = s) with
    | some (_, tag, v) => (tag, v)
    | none =>
      match h with
      | .point =>
        match pointFloat? s with
        | some f => (Tag.float, .float f)
        | none => (Tag.str, .str s)
      | .sign | .digit =>
        match (if dates then Timestamp.ofText? s else none) with
        | some t => (Tag.timestamp, .timestamp t)
        | none =>
          let plain := String.ofList (s.toList.filter (· ≠ '_'))
          match integer? plain with
          | some v => (Tag.int, v)
          | none =>
            match decimalFloat? plain with
            | some f => (Tag.float, .float f)
            | none =>
              match prefixed? plain with
              | some v => (Tag.int, v)
              | none => (Tag.str, .str s)
      | _ => (Tag.str, .str s)

/-- Whether a tag is one whose texts are checked: none, or a standard scalar tag. -/
def checkedTag (tag : String) : Bool :=
  ["", Tag.str, Tag.bool, Tag.int, Tag.float, Tag.null, Tag.timestamp].contains tag

/-- The tag and meaning of a scalar text under a tag; a text that does not fit a standard tag it
names is an error. Strings and base64 data take any text; other tags keep the text. -/
def resolve (tag text : String) : Except String (String × Scalar) :=
  let tag := Tag.short tag
  if !checkedTag tag then .ok (tag, .str text)
  else if tag = Tag.str then .ok (Tag.str, .str text)
  else
    let (rtag, v) := ofPlain text (tag = "" || tag = Tag.timestamp)
    if tag = "" || tag = rtag then .ok (rtag, v)
    else if tag = Tag.float && rtag = Tag.int then
      match v with
      | .int i => .ok (Tag.float, .float (Float.ofInt i))
      | _ => .error ("cannot decode " ++ rtag ++ " `" ++ text ++ "` as a " ++ tag)
    else .error ("cannot decode " ++ rtag ++ " `" ++ text ++ "` as a " ++ tag)

end Scalar

end StoneLink.Yaml
