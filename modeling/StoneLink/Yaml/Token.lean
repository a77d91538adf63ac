/-!
# Tokens of configuration text

Configuration files are YAML. Reading one goes through three representations: a stream of
tokens, a stream of events, and a tree of nodes. This module holds the first: positions in the
text, the tokens, the character classes the scanner tests, and the problems that stop a read.

A position counts characters, lines and columns from zero. A problem names the stage that found
it, an optional context with its own position, and the problem itself; its message gives the line
of the context, or else of the problem, counted from one for the scanner's problems and from zero
for the parser's, and leaves the line out when it is zero.
-/

namespace StoneLink.Yaml

/-- A position in the text: the character index, the line and the column, all from zero. -/
structure Mark where
  /-- Characters before the position. -/
  index : Nat := 0
  /-- Line breaks before the position. -/
  line : Nat := 0
  /-- Characters since the last line break. -/
  column : Nat := 0
  deriving Inhabited, DecidableEq, Repr

/-- The stage of reading that found a problem. -/
inductive Stage
  /-- Decoding the characters of the text. -/
  | reader
  /-- Cutting the text into tokens. -/
  | scanner
  /-- Arranging the tokens into events. -/
  | parser
  deriving Inhabited, DecidableEq, Repr

/-- A problem that stops a read. -/
structure Problem where
  /-- The stage that found it. -/
  stage : Stage
  /-- What was being read, or empty. -/
  context : String := ""
  /-- Where the context starts. -/
  contextMark : Mark := {}
  /-- What went wrong. -/
  problem : String
  /-- Where it went wrong. -/
  problemMark : Mark := {}
  deriving Inhabited, Repr

/-- The text of a problem, with the line it concerns when that is not zero. -/
def Problem.message (p : Problem) : String :=
  let shown (l : Nat) := if p.stage = .scanner then l + 1 else l
  let line :=
    if p.contextMark.line ≠ 0 then shown p.contextMark.line
    else if p.problemMark.line ≠ 0 then shown p.problemMark.line
    else 0
  (if line ≠ 0 then "line " ++ toString line ++ ": " else "") ++ p.problem

/-- How a scalar is written. -/
inductive ScalarStyle
  /-- Without quotes. -/
  | plain
  /-- Between single quotes. -/
  | singleQuoted
  /-- Between double quotes, with escapes. -/
  | doubleQuoted
  /-- A block keeping its line breaks. -/
  | literal
  /-- A block folding its line breaks. -/
  | folded
  deriving Inhabited, DecidableEq, Repr

/-- What a token is. -/
inductive TokenKind
  /-- The start of the text. -/
  | streamStart
  /-- The end of the text. -/
  | streamEnd
  /-- A version directive. -/
  | versionDirective (major minor : Nat)
  /-- A tag directive binding a handle to a prefix. -/
  | tagDirective (handle pre : String)
  /-- The document start marker. -/
  | documentStart
  /-- The document end marker. -/
  | documentEnd
  /-- The start of an indented sequence. -/
  | blockSequenceStart
  /-- The start of an indented mapping. -/
  | blockMappingStart
  /-- The end of an indented collection. -/
  | blockEnd
  /-- An opening bracket. -/
  | flowSequenceStart
  /-- A closing bracket. -/
  | flowSequenceEnd
  /-- An opening brace. -/
  | flowMappingStart
  /-- A closing brace. -/
  | flowMappingEnd
  /-- A dash starting a sequence entry. -/
  | blockEntry
  /-- A comma between bracketed entries. -/
  | flowEntry
  /-- The start of a mapping key. -/
  | key
  /-- The start of a mapping value. -/
  | value
  /-- A reference to an anchored node. -/
  | alias (name : String)
  /-- A name for the next node. -/
  | anchor (name : String)
  /-- A tag as a handle and a suffix. -/
  | tag (handle suffix : String)
  /-- A scalar with its text and style. -/
  | scalar (text : String) (style : ScalarStyle)
  deriving Inhabited, DecidableEq, Repr

/-- A token with the positions where it starts and ends. -/
structure Token where
  /-- What the token is. -/
  kind : TokenKind
  /-- Where it starts. -/
  startMark : Mark
  /-- Where it ends. -/
  endMark : Mark
  deriving Inhabited, Repr

namespace Chars

/-- A space or a tab. -/
def isBlank (c : Char) : Bool := c = ' ' || c = '\t'

/-- A line break: carriage return, line feed, next line, line or paragraph separator. -/
def isBreak (c : Char) : Bool :=
  c = '\r' || c = '\n' || c = '\x85' || c = '\u2028' || c = '\u2029'

/-- The character standing for the end of the text. -/
def isEnd (c : Char) : Bool := c = '\x00'

/-- A line break or the end of the text. -/
def isBreakOrEnd (c : Char) : Bool := isBreak c || isEnd c

/-- A blank, a line break or the end of the text. -/
def isBlankOrEnd (c : Char) : Bool := isBlank c || isBreakOrEnd c

/-- A character of an anchor name: a letter, a digit, an underscore or a dash. -/
def isWord (c : Char) : Bool :=
  c.isAlphanum || c = '_' || c = '-'

/-- A hexadecimal digit. -/
def isHex (c : Char) : Bool :=
  c.isDigit || ('a' ≤ c && c ≤ 'f') || ('A' ≤ c && c ≤ 'F')

/-- The value of a hexadecimal digit. -/
def hexValue (c : Char) : Nat :=
  if c.isDigit then c.toNat - '0'.toNat
  else if 'a' ≤ c && c ≤ 'f' then c.toNat - 'a'.toNat + 10
  else c.toNat - 'A'.toNat + 10

/-- The byte order mark. -/
def isBom (c : Char) : Bool := c = '\uFEFF'

/-- A character a text may hold: tab, line feed, carriage return, printable ASCII, next line,
and everything from U+00A0 on except the surrogates and the non-characters U+FFFE and U+FFFF. -/
def isAllowed (c : Char) : Bool :=
  let n := c.toNat
  n = 0x09 || n = 0x0A || n = 0x0D || (0x20 ≤ n && n ≤ 0x7E) || n = 0x85 ||
    (0xA0 ≤ n && n ≤ 0xD7FF) || (0xE000 ≤ n && n ≤ 0xFFFD) || 0x10000 ≤ n

/-- A character a printer writes as it is: line feed, printable ASCII, and the printable ranges
below the supplementary planes without the byte order mark. -/
def isPrintable (c : Char) : Bool :=
  let n := c.toNat
  n = 0x0A || (0x20 ≤ n && n ≤ 0x7E) || (0xA0 ≤ n && n ≤ 0xD7FF) ||
    (0xE000 ≤ n && n ≤ 0xFFFD && n ≠ 0xFEFF)

end Chars

end StoneLink.Yaml
