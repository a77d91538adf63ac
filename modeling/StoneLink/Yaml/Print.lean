import StoneLink.Yaml.Scalar
import StoneLink.Yaml.Token

/-!
# Writing scalars

A string is written plain when its plain reading is a string again (not null, a number, a
boolean or a date, not a sexagesimal number and not one of the old yes and no words) and its
characters allow it; a text with a line feed is written as a literal block when it can be;
everything else is quoted. Single quotes are used when plain writing is refused only for the
shape of the text (indicators, leading or trailing spaces); double quotes, with escapes, when
the text has tabs, characters that must be escaped, or spaces next to line breaks.

Indentation comes in steps of four; lines are never folded.
-/

namespace StoneLink.Yaml.Print

/-- The old words for yes and no, which are quoted so that older readers keep them strings. -/
def oldBools : List String :=
  ["y", "Y", "yes", "Yes", "YES", "on", "On", "ON", "n", "N", "no", "No", "NO", "off", "Off", "OFF"]

/-- Whether a text is a sexagesimal number like `1:30` or `-2:03:04.5`. -/
def isSexagesimal (s : String) : Bool :=
  let cs := s.toList
  let body := match cs with
    | '+' :: rest | '-' :: rest => rest
    | rest => rest
  match body with
  | first :: _ =>
    if !first.isDigit || !cs.contains ':' then false
    else
      let head := body.takeWhile fun c => c.isDigit || c = '_'
      let rest := body.drop head.length
      let (point, groups) := (rest.dropWhile (· ≠ '.'), rest.takeWhile (· ≠ '.'))
      let pointOk := match point with
        | [] => true
        | _ :: frac => frac.all fun c => c.isDigit || c = '_'
      let parts := (String.ofList groups).splitOn ":"
      pointOk && parts.length ≥ 2 && (parts.headD "").isEmpty &&
        (parts.drop 1).all fun p =>
          let ds := p.toList
          !ds.isEmpty && ds.length ≤ 2 && ds.all Char.isDigit &&
            (ds.length = 1 || ds.headD '9' ≤ '5')
  | [] => false

/-- Whether a string may be written plain as far as its meaning goes. -/
def meansString (s : String) : Bool :=
  (Scalar.ofPlain s true).1 = Tag.str && !isSexagesimal s && !oldBools.contains s

/-- What the characters of a text allow. -/
structure Allowed where
  /-- Whether the text has a line break. -/
  multiline : Bool
  /-- Plain writing in block context. -/
  plain : Bool
  /-- Single quotes. -/
  single : Bool
  /-- A literal block. -/
  block : Bool
  deriving Repr

/-- Whether a character is written as it is in quotes and plain text. -/
def printable (c : Char) : Bool := Chars.isPrintable c

/-- What the characters of a text allow, from its indicators, spaces, breaks and special
characters. -/
def analyze (s : String) : Allowed :=
  let cs := s.toList
  if cs.isEmpty then ⟨false, true, true, false⟩
  else
    let n := cs.length
    let markers := n ≥ 3 && (cs.take 3 = ['-', '-', '-'] || cs.take 3 = ['.', '.', '.'])
    let step := fun (acc : Bool × Bool × Bool × Bool × Bool × Bool × Bool × Bool × Bool ×
        Bool × Bool × Bool) (ic : Nat × Char) =>
      let (blockInd, lineBreaks, special, tabs, leadSpace, leadBreak, trailSpace, trailBreak,
        breakSpace, spaceBreak, prevSpace, prevBreak) := acc
      let (i, c) := ic
      let next := cs.getD (i + 1) '\x00'
      let followedByBlank := i + 1 ≥ n || Chars.isBlank next
      let precededByBlank := i = 0 || Chars.isBlankOrEnd (cs.getD (i - 1) '\x00')
      let indicator :=
        if i = 0 then
          "#,[]\x7b\x7d&*!|>'\"%@`".contains c ||
            ((c = '?' || c = ':' || c = '-') && followedByBlank)
        else (c = ':' && followedByBlank) || (c = '#' && precededByBlank)
      let tabs := tabs || c = '\t'
      let special := special || (c ≠ '\t' && !printable c)
      if c = ' ' then
        (blockInd || indicator, lineBreaks, special, tabs, leadSpace || i = 0, leadBreak,
          trailSpace || i + 1 = n, trailBreak, breakSpace || prevBreak, spaceBreak, true, false)
      else if Chars.isBreak c then
        (blockInd || indicator, true, special, tabs, leadSpace, leadBreak || i = 0, trailSpace,
          trailBreak || i + 1 = n, breakSpace, spaceBreak || prevSpace, false, true)
      else
        (blockInd || indicator, lineBreaks, special, tabs, leadSpace, leadBreak, trailSpace,
          trailBreak, breakSpace, spaceBreak, false, false)
    let init := (markers, false, false, false, false, false, false, false, false, false, false,
      false)
    let (blockInd, lineBreaks, special, tabs, leadSpace, leadBreak, trailSpace, trailBreak,
      breakSpace, spaceBreak, _, _) := (cs.zipIdx.map fun (c, i) => (i, c)).foldl step init
    let plain := !(leadSpace || leadBreak || trailSpace || trailBreak || breakSpace || spaceBreak ||
      tabs || special || lineBreaks || blockInd)
    let single := !(breakSpace || spaceBreak || tabs || special)
    let block := !(trailSpace || spaceBreak || special)
    ⟨lineBreaks, plain, single, block⟩

/-- The four ways of writing a scalar. -/
inductive Style
  | plain
  | singleQuoted
  | doubleQuoted
  | literal
  deriving DecidableEq, Repr

/-- How a string is written as a block mapping value. -/
def style (s : String) : Style :=
  let a := analyze s
  let wanted :=
    if s.toList.contains '\n' then Style.literal
    else if meansString s then .plain
    else .doubleQuoted
  match wanted with
  | .plain => if a.plain then .plain else if a.single then .singleQuoted else .doubleQuoted
  | .literal => if a.block then .literal else .doubleQuoted
  | other => other

/-- The uppercase hexadecimal digits of the last `n` places of a number. -/
def hexUpper (n v : Nat) : String :=
  String.ofList ((List.range n).reverse.map fun i =>
    let d := v / Nat.pow 16 i % 16
    if d < 10 then Char.ofNat (48 + d) else Char.ofNat (55 + d))

/-- The written form of one character in double quotes; with `all`, every character is written
by its escape. -/
def escape (all : Bool) (c : Char) : String :=
  let v := c.toNat
  if !all && printable c && !Chars.isBom c && !Chars.isBreak c && c ≠ '"' && c ≠ '\\' then
    c.toString
  else
    match v with
    | 0x00 => "\\0"
    | 0x07 => "\\a"
    | 0x08 => "\\b"
    | 0x09 => "\\t"
    | 0x0A => "\\n"
    | 0x0B => "\\v"
    | 0x0C => "\\f"
    | 0x0D => "\\r"
    | 0x1B => "\\e"
    | 0x22 => "\\\""
    | 0x5C => "\\\\"
    | 0x85 => "\\N"
    | 0xA0 => "\\_"
    | 0x2028 => "\\L"
    | 0x2029 => "\\P"
    | _ =>
      if v ≤ 0xFF then "\\x" ++ hexUpper 2 v
      else if v ≤ 0xFFFF then "\\u" ++ hexUpper 4 v
      else "\\U" ++ hexUpper 8 v

/-- A text in double quotes. A text that starts with a byte order mark has every character
escaped, since the mark is looked for at the start of the text and not at each character. -/
def doubleQuoted (s : String) : String :=
  let all := s.toList.head? == some '\uFEFF'
  "\"" ++ String.join (s.toList.map (escape all)) ++ "\""

/-- A text in single quotes, quotes doubled; a line goes on after a break at `indent`. -/
def singleQuoted (s : String) (indent : Nat) : String :=
  let (out, _) := s.toList.foldl (fun (out, breaks) c =>
    if Chars.isBreak c then
      let extra := if !breaks && c = '\n' then "\n" else ""
      (out ++ extra ++ (if c = '\n' then "\n" else c.toString), true)
    else
      let lead := if breaks then String.ofList (List.replicate indent ' ') else ""
      (out ++ lead ++ (if c = '\'' then "''" else c.toString), false)) ("", false)
  "'" ++ out ++ "'"

/-- The indicators after `|`: the indentation step when the text starts with a space or break,
and `-` without a final break, `+` with more than one, nothing with one. Also whether the text
ends with more than one break, which leaves the document open. -/
def blockHints (s : String) : String × Bool :=
  let cs := s.toList
  let indentHint := match cs with
    | c :: _ => if c = ' ' || Chars.isBreak c then "4" else ""
    | [] => ""
  let rev := cs.reverse
  let (chomp, open_) := match rev with
    | [] => ("-", false)
    | last :: rest =>
      if !Chars.isBreak last then ("-", false)
      else match rest with
        | [] => ("+", true)
        | prev :: _ => if Chars.isBreak prev then ("+", true) else ("", false)
  (indentHint ++ chomp, open_)

/-- A literal block: its header and its lines at `indent`; empty lines stay empty. A text that
starts with a line break ends the header's line with that break; any other text gets a line
break of its own after the header. -/
def literal (s : String) (indent : Nat) : String :=
  let (hints, _) := blockHints s
  let pad := String.ofList (List.replicate indent ' ')
  let (body, _) := s.toList.foldl (fun (out, atLineStart) c =>
    if Chars.isBreak c then (out ++ (if c = '\n' then "\n" else c.toString), true)
    else if atLineStart then ((out ++ pad).push c, false)
    else if out.isEmpty then (("\n" ++ pad).push c, false)
    else (out.push c, false)) ("", false)
  "|" ++ hints ++ body

/-- A string as the value of a block mapping whose keys are at `column`: the text after the
colon, and whether it leaves the document open. -/
def value (s : String) (column : Nat) : String × Bool :=
  let indent := 4 * ((column + 4) / 4)
  match style s with
  | .plain => (" " ++ s, false)
  | .singleQuoted => (" " ++ singleQuoted s indent, false)
  | .doubleQuoted => (" " ++ doubleQuoted s, false)
  | .literal => (" " ++ literal s indent, (blockHints s).2)

end StoneLink.Yaml.Print
