import StoneLink.Yaml.Token.Buffer
import StoneLink.Text.Utf8

/-!
# Cutting configuration text into tokens

The lexer reads the characters of a text and produces its tokens one at a time, on demand. Most
tokens are read where they stand; two kinds are decided later. A plain or quoted scalar, an
anchor, an alias, a tag or a bracket may turn out to be a mapping key when a `:` follows it on
the same line within 1024 characters: such a place is a *simple key*, remembered per bracket
level, and when the `:` comes the lexer inserts a KEY token in front of it. Indentation opens
and closes block collections: a deeper key or dash inserts a BLOCK-MAPPING-START or
BLOCK-SEQUENCE-START token, and a line that starts further left closes each deeper level with a
BLOCK-END token.

So that a KEY can still be inserted, the lexer keeps at least three tokens ahead of the reader,
and more while the first of them may still start a simple key.

Before it looks at characters the lexer asks the reader to have them decoded, as many as it
will look at, so the reader's refills, and the problems they find, come where they would when the
text is read as a stream.

Every loop here reads at least one character per round or stops, so each is bounded by the
characters still unread.
-/

namespace StoneLink.Yaml

/-- A place where a mapping key written without `?` may start. -/
structure SimpleKey where
  /-- Whether a key may still start here. -/
  possible : Bool := false
  /-- Whether a key must start here, because it stands at the indentation of a mapping. -/
  required : Bool := false
  /-- The number of the first token of the key. -/
  tokenNumber : Nat := 0
  /-- Where the key starts. -/
  mark : Mark := {}
  deriving Inhabited, Repr

/-- The state of the lexer. -/
structure Lexer where
  /-- The characters of the text. -/
  text : Array Char
  /-- How much of the text the reader has decoded. -/
  buffer : Buffer
  /-- The position of the next character. -/
  mark : Mark := {}
  /-- Line breaks since the last character that is not blank. -/
  newlines : Nat := 0
  /-- Tokens read ahead and not yet taken. -/
  queue : List Token := []
  /-- Tokens taken so far. -/
  taken : Nat := 0
  /-- Whether the first queued token is ready to be taken. -/
  available : Bool := false
  /-- Whether the start token was produced. -/
  started : Bool := false
  /-- Whether the end token was taken. -/
  finished : Bool := false
  /-- The depth of brackets and braces. -/
  flowLevel : Nat := 0
  /-- The column of the innermost block collection, -1 outside all of them. -/
  indent : Int := -1
  /-- The columns of the enclosing block collections, innermost first. -/
  indents : List Int := []
  /-- Whether a simple key may start at the next token. -/
  keyAllowed : Bool := false
  /-- The simple key of each bracket level, outermost first. -/
  keys : Array SimpleKey := #[]
  /-- The bracket level of the simple key that starts at a token number. -/
  keyAt : List (Nat × Nat) := []
  /-- Whether a refill failed while the lexer looked ahead for comments; the problem stands
  unless another one comes first. -/
  pending : Bool := false
  deriving Inhabited

/-- The deepest nesting of block collections or of brackets. -/
def Lexer.maxDepth : Nat := 10000

/-- The problem of a text with a character it may not hold. -/
def Lexer.badCharacter : Problem :=
  { stage := .reader, problem := "control characters are not allowed" }

/-- Steps of the lexer: they change its state or stop with a problem. -/
abbrev Lex := StateT Lexer (Except Problem)

namespace Lexer

/-- The character `k` places after the position; the end of the text reads as a zero. -/
def peek (s : Lexer) (k : Nat) : Char := s.text.getD (s.mark.index + k) '\x00'

/-- The characters still unread. -/
def remaining (s : Lexer) : Nat := s.text.size - s.mark.index

/-- Moves past one character that is not a line break. -/
def advance (s : Lexer) : Lexer :=
  { s with
    mark := { s.mark with index := s.mark.index + 1, column := s.mark.column + 1 }
    newlines := if Chars.isBlank (s.peek 0) then s.newlines else 0 }

/-- The position after a line break of `width` characters. -/
def nextLine (m : Mark) (width : Nat) : Mark := ⟨m.index + width, m.line + 1, 0⟩

/-- Moves past a line break, two characters for a carriage return and line feed. -/
def advanceLine (s : Lexer) : Lexer :=
  if s.peek 0 = '\r' && s.peek 1 = '\n' then
    { s with mark := nextLine s.mark 2, newlines := s.newlines + 1 }
  else if Chars.isBreak (s.peek 0) then
    { s with mark := nextLine s.mark 1, newlines := s.newlines + 1 }
  else s

/-- Moves past a line break and returns what it reads as: a line feed for carriage return, line
feed and next line, either of the two separators as it is. -/
def takeBreak (s : Lexer) : String × Lexer :=
  let c := s.peek 0
  if c = '\r' && s.peek 1 = '\n' then
    ("\n", { s with mark := nextLine s.mark 2, newlines := s.newlines + 1 })
  else if c = '\r' || c = '\n' || c = '\x85' then
    ("\n", { s with mark := nextLine s.mark 1, newlines := s.newlines + 1 })
  else if c = '\u2028' || c = '\u2029' then
    (c.toString, { s with mark := nextLine s.mark 1, newlines := s.newlines + 1 })
  else ("", s)

/-- The number the next token will have. -/
def nextNumber (s : Lexer) : Nat := s.taken + s.queue.length

/-- Appends a token to the queue. -/
def push (s : Lexer) (t : Token) : Lexer := { s with queue := s.queue ++ [t] }

/-- Inserts a token before the queued token with the given number; a number already taken
appends it. -/
def insertAt (s : Lexer) (number : Nat) (t : Token) : Lexer :=
  if number < s.taken then s.push t
  else
    let pos := number - s.taken
    { s with queue := s.queue.take pos ++ t :: s.queue.drop pos }

/-- Whether a document marker `---` or `...` starts at the position. -/
def atDocumentMarker (s : Lexer) : Bool :=
  s.mark.column = 0 &&
    ((s.peek 0 = '-' && s.peek 1 = '-' && s.peek 2 = '-') ||
      (s.peek 0 = '.' && s.peek 1 = '.' && s.peek 2 = '.')) &&
    Chars.isBlankOrEnd (s.peek 3)

/-- The simple key of the innermost bracket level. -/
def topKey (s : Lexer) : SimpleKey := s.keys.getD (s.keys.size - 1) {}

/-- Changes the simple key of a bracket level. -/
def setKey (s : Lexer) (i : Nat) (f : SimpleKey → SimpleKey) : Lexer :=
  { s with keys := s.keys.modify i f }

/-- Forgets which bracket level a token number starts a key on. -/
def forgetKeyAt (s : Lexer) (number : Nat) : Lexer :=
  { s with keyAt := s.keyAt.filter (·.1 ≠ number) }

end Lexer

namespace Lex

open StoneLink.Yaml.Lexer

/-- Makes sure the reader has decoded `n` characters from the position on; a character a text
may not hold, met on the way, stops the read. -/
def cache (n : Nat) : Lex Unit := do
  let s ← get
  let (b, ok) := s.buffer.cache s.mark.index n
  set { s with buffer := b }
  if !ok then throw badCharacter

/-- Asks the reader, while looking ahead, to have `n` characters from the position on decoded,
and tells whether it has. A failed refill does not stop the lexer here: its problem is left
pending. -/
def lookahead (n : Nat) : Lex Bool := do
  let s ← get
  let (b, ok) := s.buffer.cache s.mark.index n
  set { s with buffer := b, pending := s.pending || !ok }
  return ok

/-- Stops with a problem of the lexer at the current position. -/
def fail {α : Type} (context : String) (start : Mark) (problem : String) : Lex α := do
  let s ← get
  throw { stage := .scanner, context, contextMark := start, problem, problemMark := s.mark }

/-- The character `k` places ahead. -/
def peekAt (k : Nat) : Lex Char := return (← get).peek k

/-- Moves past one character. -/
def skip : Lex Unit := modify Lexer.advance

/-- Moves past `n` characters. -/
def skipN (n : Nat) : Lex Unit := modify fun s => (List.range n).foldl (fun s _ => s.advance) s

/-- Moves past a line break. -/
def skipBreak : Lex Unit := modify Lexer.advanceLine

/-- Moves past a line break and returns its text. -/
def readBreak : Lex String := modifyGet Lexer.takeBreak

/-- Appends a token. -/
def emit (t : Token) : Lex Unit := modify (·.push t)

/-- Appends a token of one character at the position, moving past it. -/
def emitIndicator (kind : TokenKind) : Lex Unit := do
  let start := (← get).mark
  skip
  emit ⟨kind, start, (← get).mark⟩

/-- Gives up the simple key of the innermost level; a required one cannot be given up. -/
def removeKey : Lex Unit := do
  let s ← get
  let k := s.topKey
  if k.possible then
    if k.required then fail "while scanning a simple key" k.mark "could not find expected ':'"
    set ((s.setKey (s.keys.size - 1) ({ · with possible := false })).forgetKeyAt k.tokenNumber)

/-- Remembers that a simple key may start at the next token, if one may. -/
def saveKey : Lex Unit := do
  let s ← get
  if s.keyAllowed then
    let key : SimpleKey :=
      { possible := true
        required := s.flowLevel = 0 && s.indent == (s.mark.column : Int)
        tokenNumber := s.nextNumber
        mark := s.mark }
    removeKey
    modify fun s =>
      let i := s.keys.size - 1
      { (s.setKey i fun _ => key).forgetKeyAt key.tokenNumber with
        keyAt := (key.tokenNumber, i) :: (s.forgetKeyAt key.tokenNumber).keyAt }

/-- Whether the simple key of a bracket level can still be completed: it must be on the current
line and at most 1024 characters back. One that cannot is dropped; a required one is an error. -/
def keyValid (i : Nat) : Lex Bool := do
  let s ← get
  let k := s.keys.getD i {}
  if !k.possible then return false
  if k.mark.line < s.mark.line || k.mark.index + 1024 < s.mark.index then
    if k.required then fail "while scanning a simple key" k.mark "could not find expected ':'"
    set (s.setKey i ({ · with possible := false }))
    return false
  return true

/-- Opens a bracket level. Its empty simple key carries the number and position of the bracket
itself, so closing the level at once forgets a key that the bracket started one level out. -/
def enterFlow : Lex Unit := do
  modify fun s =>
    { s with
      keys := s.keys.push { tokenNumber := s.nextNumber, mark := s.mark }
      flowLevel := s.flowLevel + 1 }
  let s ← get
  if s.flowLevel > maxDepth then
    fail "while increasing flow level" s.topKey.mark
      ("exceeded max depth of " ++ toString maxDepth)

/-- Closes a bracket level. -/
def leaveFlow : Lex Unit :=
  modify fun s =>
    if s.flowLevel > 0 then
      { s.forgetKeyAt s.topKey.tokenNumber with
        flowLevel := s.flowLevel - 1, keys := s.keys.pop }
    else s

/-- Opens a block collection at `column` when it is deeper than the current one, with its start
token either appended or inserted before the token with the given number. -/
def rollIndent (column : Nat) (number : Option Nat) (kind : TokenKind) (m : Mark) : Lex Unit := do
  let s ← get
  if s.flowLevel = 0 && s.indent < column then
    let s := { s with indents := s.indent :: s.indents, indent := column }
    set s
    if s.indents.length > maxDepth then
      fail "while increasing indent level" s.topKey.mark
        ("exceeded max depth of " ++ toString maxDepth)
    let t : Token := ⟨kind, m, m⟩
    match number with
    | some n => set (s.insertAt n t)
    | none => set (s.push t)

/-- The indentation after closing every block collection deeper than `column`, with the number
of collections closed. -/
def closeLevels (column : Int) : Int → List Int → Nat → Int × List Int × Nat
  | indent, [], n => (indent, [], n)
  | indent, i :: rest, n =>
    if indent > column then closeLevels column i rest (n + 1) else (indent, i :: rest, n)

/-- Closes every block collection deeper than `column` with a BLOCK-END token each, placed just
before `scanMark`. -/
def unrollIndent (column : Int) (scanMark : Mark) : Lex Unit :=
  modify fun s =>
    if s.flowLevel > 0 then s
    else
      let m := { scanMark with index := scanMark.index - 1 }
      let (indent, indents, n) := closeLevels column s.indent s.indents 0
      { s with indent, indents, queue := s.queue ++ List.replicate n ⟨.blockEnd, m, m⟩ }

/-- Moves to `seen` and on to the end of the line there. -/
def skipThroughComment (seen : Nat) : Lex Unit := do
  for _ in [0:(← get).remaining + 1] do
    cache 1
    let s ← get
    if Chars.isBreakOrEnd (s.peek 0) then
      if s.mark.index ≥ seen then break
      cache 2
      skipBreak
    else skip

/-- Moves past a comment that follows a token on its line, with the blanks before it. -/
def skipLineComment : Lex Unit := do
  if (← get).newlines = 0 then
    let mut blanks := 0
    let mut comment := false
    for _ in [0:512] do
      if !(← lookahead (blanks + 1)) then break
      let c := (← get).peek blanks
      if Chars.isBlank c then blanks := blanks + 1
      else
        comment := c = '#'
        break
    if comment then skipThroughComment ((← get).mark.index + blanks)

/-- Moves past a run of comment lines: the one at the position and each later line, within 512
characters of the last, that holds only blanks before a `#`. Blank lines between them go too. -/
def skipComments : Lex Unit := do
  let mut ahead := 0
  for _ in [0:((← get).remaining + 1) * 513] do
    if ahead ≥ 512 then break
    if !(← lookahead (ahead + 1)) then break
    let s ← get
    let c := s.peek ahead
    if Chars.isBlank c then
      ahead := ahead + 1
      continue
    if (s.flowLevel > 0 && (c = ']' || c = '}')) || Chars.isBreakOrEnd c then
      if !Chars.isBreak c then break
      ahead := ahead + 1
      continue
    if c ≠ '#' then break
    skipThroughComment (s.mark.index + ahead)
    ahead := 1

/-- Moves past blanks, comments and line breaks up to the next token. A tab is skipped only in
brackets or where no simple key may start; a line break in block context allows one again.

A byte order mark is looked for at the front of the reader's buffer, and not at the current
character: a mark inside the text is an ordinary character, while a line the search starts on
loses its first character whenever the character at the front of the buffer is a mark, even the
terminating zero at the end of the text. -/
def skipToToken : Lex Unit := do
  for _ in [0:(← get).remaining + 1] do
    cache 1
    let s ← get
    if s.mark.column = 0 && Chars.isBom (s.text.getD s.buffer.front '\x00') then
      skip
    for _ in [0:(← get).remaining + 1] do
      cache 1
      let s ← get
      let c := s.peek 0
      if c = ' ' || ((s.flowLevel > 0 || !s.keyAllowed) && c = '\t') then skip else break
    if (← peekAt 0) = '#' then skipComments
    if Chars.isBreak (← peekAt 0) then
      cache 2
      let s ← get
      set { s.advanceLine with keyAllowed := s.flowLevel = 0 || s.keyAllowed }
    else break

/-- Moves past blanks. -/
def skipBlanks : Lex Unit := do
  for _ in [0:(← get).remaining + 1] do
    cache 1
    if Chars.isBlank (← peekAt 0) then skip else break

/-- Moves to the end of the line. -/
def skipRestOfLine : Lex Unit := do
  for _ in [0:(← get).remaining + 1] do
    cache 1
    if Chars.isBreakOrEnd (← peekAt 0) then break
    skip

/-! ## Scalars -/

/-- Joins what stood between two runs of scalar text: a single line feed folds into a space,
more line feeds stay but the first, and other breaks stay as they are. -/
def fold (leadingBreak trailingBreaks : String) : String :=
  if leadingBreak.front = '\n' then
    if trailingBreaks.isEmpty then " " else trailingBreaks
  else leadingBreak ++ trailingBreaks

/-- Reads a plain scalar. It ends before `: `, a ` #` comment, a document marker, a line
indented no deeper than the enclosing collection, and in brackets before `,`, `?` and brackets. -/
def plainScalar : Lex Token := do
  let s0 ← get
  let indent : Int := s0.indent + 1
  let start := s0.mark
  let mut endMark := s0.mark
  let mut text := ""
  let mut leadingBreak := ""
  let mut trailingBreaks := ""
  let mut spaces := ""
  let mut leadingBlanks := false
  for _ in [0:s0.remaining + 1] do
    cache 4
    let s ← get
    if s.atDocumentMarker || s.peek 0 = '#' then break
    for _ in [0:s.remaining + 1] do
      let s ← get
      let c := s.peek 0
      if Chars.isBlankOrEnd c then break
      if (c = ':' && Chars.isBlankOrEnd (s.peek 1)) ||
          (s.flowLevel > 0 &&
            (c = ',' || c = '?' || c = '[' || c = ']' || c = '{' || c = '}')) then break
      if leadingBlanks then
        text := text ++ fold leadingBreak trailingBreaks
        leadingBreak := ""
        trailingBreaks := ""
        leadingBlanks := false
      else if !spaces.isEmpty then
        text := text ++ spaces
        spaces := ""
      text := text.push c
      skip
      endMark := (← get).mark
      cache 2
    let c ← peekAt 0
    if !(Chars.isBlank c || Chars.isBreak c) then break
    cache 1
    for _ in [0:(← get).remaining + 1] do
      let s ← get
      let c := s.peek 0
      if Chars.isBlank c then
        if leadingBlanks && (s.mark.column : Int) < indent && c = '\t' then
          fail "while scanning a plain scalar" start
            "found a tab character that violates indentation"
        if !leadingBlanks then spaces := spaces.push c
        skip
      else if Chars.isBreak c then
        cache 2
        let b ← readBreak
        if !leadingBlanks then
          spaces := ""
          leadingBreak := leadingBreak ++ b
          leadingBlanks := true
        else trailingBreaks := trailingBreaks ++ b
      else break
      cache 1
    let s ← get
    if s.flowLevel = 0 && (s.mark.column : Int) < indent then break
  if leadingBlanks then modify fun s => { s with keyAllowed := true }
  return ⟨.scalar text .plain, start, endMark⟩

/-- The character of a one-letter escape of a double-quoted scalar. -/
def escapeChar : Char → Option Char
  | '0' => some '\x00'
  | 'a' => some '\x07'
  | 'b' => some '\x08'
  | 't' => some '\t'
  | '\t' => some '\t'
  | 'n' => some '\n'
  | 'v' => some '\x0b'
  | 'f' => some '\x0c'
  | 'r' => some '\r'
  | 'e' => some '\x1b'
  | ' ' => some ' '
  | '"' => some '"'
  | '\'' => some '\''
  | '\\' => some '\\'
  | 'N' => some '\x85'
  | '_' => some '\xa0'
  | 'L' => some '\u2028'
  | 'P' => some '\u2029'
  | _ => none

/-- The number of hexadecimal digits after an escape letter, or zero. -/
def escapeDigits : Char → Nat
  | 'x' => 2
  | 'u' => 4
  | 'U' => 8
  | _ => 0

/-- The value of `n` hexadecimal digits starting `k` places ahead, if they are digits. -/
def hexAhead (s : Lexer) (k n : Nat) : Option Nat :=
  (List.range n).foldl (fun acc i => acc.bind fun v =>
    let c := s.peek (k + i)
    if Chars.isHex c then some (16 * v + Chars.hexValue c) else none) (some 0)

/-- Reads a quoted scalar. Single quotes escape a quote by doubling it; double quotes take
backslash escapes, including an escaped line break. Line breaks fold as in plain scalars. -/
def quotedScalar (single : Bool) : Lex Token := do
  let s0 ← get
  let start := s0.mark
  skip
  let mut text := ""
  let mut leadingBreak := ""
  let mut trailingBreaks := ""
  let mut spaces := ""
  for _ in [0:s0.remaining + 1] do
    cache 4
    let s ← get
    if s.atDocumentMarker then
      fail "while scanning a quoted scalar" start "found unexpected document indicator"
    if Chars.isEnd (s.peek 0) then
      fail "while scanning a quoted scalar" start "found unexpected end of stream"
    let mut leadingBlanks := false
    for _ in [0:s.remaining + 1] do
      let s ← get
      let c := s.peek 0
      if Chars.isBlankOrEnd c then break
      if single && c = '\'' && s.peek 1 = '\'' then
        text := text.push '\''
        skipN 2
      else if single && c = '\'' then break
      else if !single && c = '"' then break
      else if !single && c = '\\' && Chars.isBreak (s.peek 1) then
        cache 3
        skip
        skipBreak
        leadingBlanks := true
        break
      else if !single && c = '\\' then
        let e := s.peek 1
        match escapeChar e with
        | some ch =>
          text := text.push ch
          skipN 2
        | none =>
          let n := escapeDigits e
          if n = 0 then fail "while parsing a quoted scalar" start "found unknown escape character"
          skipN 2
          cache n
          match hexAhead (← get) 0 n with
          | none =>
            fail "while parsing a quoted scalar" start "did not find expected hexdecimal number"
          | some v =>
            if (0xD800 ≤ v && v ≤ 0xDFFF) || v > 0x10FFFF then
              fail "while parsing a quoted scalar" start
                "found invalid Unicode character escape code"
            text := text.push (Char.ofNat v)
            skipN n
      else
        text := text.push c
        skip
      cache 2
    cache 1
    let c ← peekAt 0
    if (single && c = '\'') || (!single && c = '"') then break
    for _ in [0:(← get).remaining + 1] do
      let c ← peekAt 0
      if Chars.isBlank c then
        if !leadingBlanks then spaces := spaces.push c
        skip
      else if Chars.isBreak c then
        cache 2
        let b ← readBreak
        if !leadingBlanks then
          spaces := ""
          leadingBreak := leadingBreak ++ b
          leadingBlanks := true
        else trailingBreaks := trailingBreaks ++ b
      else break
      cache 1
    if leadingBlanks then
      text := text ++ fold leadingBreak trailingBreaks
      leadingBreak := ""
      trailingBreaks := ""
    else
      text := text ++ spaces
      spaces := ""
  skip
  return ⟨.scalar text (if single then .singleQuoted else .doubleQuoted), start, (← get).mark⟩

/-- Moves past the indentation and empty lines before a line of a block scalar, collecting the
line breaks. With no indentation fixed yet, the deepest of these lines fixes it, but never less
than one column deeper than the enclosing collection. Returns the indentation. -/
def blockBreaks (indent : Nat) (start : Mark) : Lex (Nat × String) := do
  let mut breaks := ""
  let mut deepest := 0
  for _ in [0:(← get).remaining + 1] do
    for _ in [0:(← get).remaining + 1] do
      cache 1
      let s ← get
      if (indent = 0 || s.mark.column < indent) && s.peek 0 = ' ' then skip else break
    let s ← get
    deepest := max deepest s.mark.column
    if (indent = 0 || s.mark.column < indent) && s.peek 0 = '\t' then
      fail "while scanning a block scalar" start
        "found a tab character where an indentation space is expected"
    if !Chars.isBreak (s.peek 0) then break
    cache 2
    breaks := breaks ++ (← readBreak)
  if indent = 0 then
    let s ← get
    let least := (s.indent + 1).toNat
    return (max 1 (max deepest least), breaks)
  return (indent, breaks)

/-- The chomping and indentation indicators after `|` or `>`, in either order. -/
def blockHeader (start : Mark) : Lex (Int × Nat) := do
  let chomp (c : Char) : Int := if c = '+' then 1 else -1
  let digit : Lex Nat := do
    let c ← peekAt 0
    if c = '0' then
      fail "while scanning a block scalar" start "found an indentation indicator equal to 0"
    skip
    return c.toNat - '0'.toNat
  cache 1
  let c ← peekAt 0
  if c = '+' || c = '-' then
    skip
    cache 1
    if (← peekAt 0).isDigit then return (chomp c, ← digit)
    return (chomp c, 0)
  else if c.isDigit then
    let n ← digit
    cache 1
    let d ← peekAt 0
    if d = '+' || d = '-' then
      skip
      return (chomp d, n)
    return (0, n)
  return (0, 0)

/-- Reads a literal (`|`) or folded (`>`) block scalar. Folding joins lines of the same
indentation with a space; chomping `-` drops the final line break, `+` keeps the trailing empty
lines, and neither keeps just the final break. -/
def blockScalar (literal : Bool) : Lex Token := do
  let start := (← get).mark
  skip
  let (chomping, increment) ← blockHeader start
  skipBlanks
  if (← peekAt 0) = '#' then
    skipLineComment
    skipRestOfLine
  if !Chars.isBreakOrEnd (← peekAt 0) then
    fail "while scanning a block scalar" start "did not find expected comment or line break"
  if Chars.isBreak (← peekAt 0) then
    cache 2
    skipBreak
  let s ← get
  let fixed : Nat :=
    if increment > 0 then (if s.indent ≥ 0 then (s.indent + increment).toNat else increment)
    else 0
  let (indent, firstBreaks) ← blockBreaks fixed start
  let mut endMark := (← get).mark
  let mut text := ""
  let mut leadingBreak := ""
  let mut trailingBreaks := firstBreaks
  let mut leadingBlank := false
  cache 1
  for _ in [0:(← get).remaining + 1] do
    let s ← get
    if s.mark.column ≠ indent || Chars.isEnd (s.peek 0) then break
    let trailingBlank := Chars.isBlank (s.peek 0)
    if !literal && !leadingBlank && !trailingBlank && leadingBreak.front = '\n' then
      if trailingBreaks.isEmpty then text := text.push ' '
    else text := text ++ leadingBreak
    leadingBreak := ""
    text := text ++ trailingBreaks
    trailingBreaks := ""
    leadingBlank := Chars.isBlank (s.peek 0)
    for _ in [0:s.remaining + 1] do
      let c ← peekAt 0
      if Chars.isBreakOrEnd c then break
      text := text.push c
      skip
      cache 1
    cache 2
    leadingBreak ← readBreak
    let (_, more) ← blockBreaks indent start
    trailingBreaks := more
    endMark := (← get).mark
  if chomping ≠ -1 then text := text ++ leadingBreak
  if chomping = 1 then text := text ++ trailingBreaks
  return ⟨.scalar text (if literal then .literal else .folded), start, endMark⟩

/-! ## Anchors, tags and directives -/

/-- Reads an anchor `&name` or an alias `*name`: a run of letters, digits, `_` and `-`, followed
by a blank or one of `?:,]}%@` and the backtick. -/
def anchorOrAlias (isAlias : Bool) : Lex Token := do
  let start := (← get).mark
  skip
  let mut name := ""
  for _ in [0:(← get).remaining + 1] do
    cache 1
    let c ← peekAt 0
    if !Chars.isWord c then break
    name := name.push c
    skip
  let endMark := (← get).mark
  let c ← peekAt 0
  if name.isEmpty || !(Chars.isBlankOrEnd c || "?:,]\x7d%@`".contains c) then
    fail (if isAlias then "while scanning an alias" else "while scanning an anchor") start
      "did not find expected alphabetic or numeric character"
  return ⟨if isAlias then .alias name else .anchor name, start, endMark⟩

/-- The context of a problem in a tag, or in a tag directive. -/
def tagContext (directive : Bool) : String :=
  if directive then "while parsing a %TAG directive" else "while parsing a tag"

/-- Reads a tag handle: `!`, letters and digits, and a closing `!` if there is one. In a
directive the handle must be `!` or end in `!`. -/
def tagHandle (directive : Bool) (start : Mark) : Lex String := do
  cache 1
  if (← peekAt 0) ≠ '!' then fail (tagContext directive) start "did not find expected '!'"
  skip
  let mut handle := "!"
  for _ in [0:(← get).remaining + 1] do
    cache 1
    let c ← peekAt 0
    if !Chars.isWord c then break
    handle := handle.push c
    skip
  if (← peekAt 0) = '!' then
    skip
    handle := handle.push '!'
  else if directive && handle ≠ "!" then
    fail (tagContext directive) start "did not find expected '!'"
  return handle

/-- Whether a character may stand in a tag: letters, digits, the dash and underscore, and
`;/?:@&=+$,.%!~*'()[]`. The brackets and the comma are tag characters in brackets as well, so a
tag there ends only at a blank. -/
def isTagChar (c : Char) : Bool :=
  Chars.isWord c || ";/?:@&=+$,.%!~*'()[]".contains c

/-- The length of the encoding that a UTF-8 leading byte starts, or zero for a byte that starts
none. -/
def utf8Width (b : Nat) : Nat :=
  if b < 0x80 then 1 else if b / 32 = 6 then 2 else if b / 16 = 14 then 3
  else if b / 8 = 30 then 4 else 0

/-- Reads one `%`-escaped UTF-8 character of a tag. -/
def uriEscape (directive : Bool) (start : Mark) : Lex (List UInt8) := do
  let mut width := 0
  let mut octets : List UInt8 := []
  for k in [0:4] do
    if k > 0 && k ≥ width then break
    cache 3
    let s ← get
    let octet ← match (if s.peek 0 = '%' then hexAhead s 1 2 else none) with
      | some v => pure v
      | none => fail (tagContext directive) start "did not find URI escaped octet"
    if k = 0 then
      width := utf8Width octet
      if width = 0 then
        fail (tagContext directive) start "found an incorrect leading UTF-8 octet"
    else if octet / 64 ≠ 2 then
      fail (tagContext directive) start "found an incorrect trailing UTF-8 octet"
    octets := octets ++ [octet.toUInt8]
    skipN 3
  return octets

/-- Reads the URI part of a tag after a `head` already read that was not a handle; the head's
leading `!` is not part of it. An empty result is an error. -/
def tagUri (directive : Bool) (head : String) (start : Mark) : Lex String := do
  let mut text := head.drop 1 |>.toString
  let mut found := !head.isEmpty
  for _ in [0:(← get).remaining + 1] do
    cache 1
    let c ← peekAt 0
    if !isTagChar c then break
    if c = '%' then
      let octets ← uriEscape directive start
      text := text ++ Text.Utf8.decodeLossy octets
    else
      text := text.push c
      skip
    found := true
  if !found then fail (tagContext directive) start "did not find expected tag URI"
  return text

/-- Reads a tag: `!<uri>` verbatim, `!handle!suffix`, or `!suffix` with the handle `!`; a lone
`!` has an empty handle and the suffix `!`. It must be followed by a blank or a line end, also
in brackets. -/
def tag : Lex Token := do
  let start := (← get).mark
  cache 2
  let (handle, suffix) ← do
    if (← peekAt 1) = '<' then
      skipN 2
      let suffix ← tagUri false "" start
      if (← peekAt 0) ≠ '>' then
        fail "while scanning a tag" start "did not find the expected '>'"
      skip
      pure ("", suffix)
    else
      let handle ← tagHandle false start
      if handle.length > 1 && handle.front = '!' && handle.back = '!' then
        pure (handle, ← tagUri false "" start)
      else
        let suffix ← tagUri false handle start
        if suffix.isEmpty then pure ("", "!") else pure ("!", suffix)
  cache 1
  let s ← get
  if !Chars.isBlankOrEnd (s.peek 0) then
    fail "while scanning a tag" start "did not find expected whitespace or line break"
  return ⟨.tag handle suffix, start, s.mark⟩

/-- Reads a version number of at most two digits. -/
def versionNumber (start : Mark) : Lex Nat := do
  let mut value := 0
  let mut digits := 0
  for _ in [0:3] do
    cache 1
    let c ← peekAt 0
    if !c.isDigit then break
    digits := digits + 1
    if digits > 2 then
      fail "while scanning a %YAML directive" start "found extremely long version number"
    value := 10 * value + (c.toNat - '0'.toNat)
    skip
  if digits = 0 then
    fail "while scanning a %YAML directive" start "did not find expected version number"
  return value

/-- Reads a `%YAML` or `%TAG` directive with the rest of its line. -/
def directive : Lex Token := do
  let start := (← get).mark
  skip
  let mut name := ""
  for _ in [0:(← get).remaining + 1] do
    cache 1
    let c ← peekAt 0
    if !Chars.isWord c then break
    name := name.push c
    skip
  if name.isEmpty then
    fail "while scanning a directive" start "could not find expected directive name"
  if !Chars.isBlankOrEnd (← peekAt 0) then
    fail "while scanning a directive" start "found unexpected non-alphabetical character"
  let kind ← do
    if name = "YAML" then
      skipBlanks
      let major ← versionNumber start
      if (← peekAt 0) ≠ '.' then
        fail "while scanning a %YAML directive" start
          "did not find expected digit or '.' character"
      skip
      pure (TokenKind.versionDirective major (← versionNumber start))
    else if name = "TAG" then
      skipBlanks
      let handle ← tagHandle true start
      cache 1
      if !Chars.isBlank (← peekAt 0) then
        fail "while scanning a %TAG directive" start "did not find expected whitespace"
      skipBlanks
      let pre ← tagUri true "" start
      cache 1
      if !Chars.isBlankOrEnd (← peekAt 0) then
        fail "while scanning a %TAG directive" start
          "did not find expected whitespace or line break"
      pure (TokenKind.tagDirective handle pre)
    else fail "while scanning a directive" start "found unknown directive name"
  let endMark := (← get).mark
  skipBlanks
  if (← peekAt 0) = '#' then skipRestOfLine
  if !Chars.isBreakOrEnd (← peekAt 0) then
    fail "while scanning a directive" start "did not find expected comment or line break"
  if Chars.isBreak (← peekAt 0) then
    cache 2
    skipBreak
  return ⟨kind, start, endMark⟩

/-! ## Fetching tokens -/

/-- Produces the start token. -/
def streamStart : Lex Unit := do
  modify fun s =>
    { s with indent := -1, keys := #[{}], keyAt := [], keyAllowed := true, started := true }
  emit ⟨.streamStart, (← get).mark, (← get).mark⟩

/-- Produces the end token, closing every open block collection. -/
def streamEnd : Lex Unit := do
  modify fun s =>
    if s.mark.column ≠ 0 then
      { s with mark := { s.mark with column := 0, line := s.mark.line + 1 } }
    else s
  unrollIndent (-1) (← get).mark
  removeKey
  modify fun s => { s with keyAllowed := false }
  emit ⟨.streamEnd, (← get).mark, (← get).mark⟩

/-- Produces a directive, closing every open block collection. -/
def fetchDirective : Lex Unit := do
  unrollIndent (-1) (← get).mark
  removeKey
  modify fun s => { s with keyAllowed := false }
  emit (← directive)

/-- Produces a document marker, closing every open block collection. -/
def documentMarker (kind : TokenKind) : Lex Unit := do
  unrollIndent (-1) (← get).mark
  removeKey
  modify fun s => { s with keyAllowed := false }
  let start := (← get).mark
  skipN 3
  emit ⟨kind, start, (← get).mark⟩

/-- Produces an opening bracket or brace, which may start a simple key. -/
def flowStart (kind : TokenKind) : Lex Unit := do
  saveKey
  enterFlow
  modify fun s => { s with keyAllowed := true }
  emitIndicator kind

/-- Produces a closing bracket or brace. -/
def flowEnd (kind : TokenKind) : Lex Unit := do
  removeKey
  leaveFlow
  modify fun s => { s with keyAllowed := false }
  emitIndicator kind

/-- Produces a comma. -/
def flowEntry : Lex Unit := do
  removeKey
  modify fun s => { s with keyAllowed := true }
  emitIndicator .flowEntry

/-- Produces a sequence dash, opening a block sequence where it is deeper than the current
collection. In block context it needs a place where a simple key could start. -/
def blockEntry : Lex Unit := do
  let s ← get
  if s.flowLevel = 0 then
    if !s.keyAllowed then fail "" s.mark "block sequence entries are not allowed in this context"
    rollIndent s.mark.column none .blockSequenceStart s.mark
  removeKey
  modify fun s => { s with keyAllowed := true }
  emitIndicator .blockEntry

/-- Produces an explicit key indicator `?`. -/
def explicitKey : Lex Unit := do
  let s ← get
  if s.flowLevel = 0 then
    if !s.keyAllowed then fail "" s.mark "mapping keys are not allowed in this context"
    rollIndent s.mark.column none .blockMappingStart s.mark
  removeKey
  modify fun s => { s with keyAllowed := s.flowLevel = 0 }
  emitIndicator .key

/-- Produces a value indicator `:`. When a simple key is pending, a KEY token goes in front of
it, and in block context a mapping opens at its column. -/
def valueIndicator : Lex Unit := do
  let s ← get
  let i := s.keys.size - 1
  let k := s.topKey
  if ← keyValid i then
    modify fun s => s.insertAt k.tokenNumber ⟨.key, k.mark, k.mark⟩
    rollIndent k.mark.column (some k.tokenNumber) .blockMappingStart k.mark
    modify fun s =>
      { (s.setKey i ({ · with possible := false })).forgetKeyAt k.tokenNumber with
        keyAllowed := false }
  else
    let s ← get
    if s.flowLevel = 0 then
      if !s.keyAllowed then fail "" s.mark "mapping values are not allowed in this context"
      rollIndent s.mark.column none .blockMappingStart s.mark
    modify fun s => { s with keyAllowed := s.flowLevel = 0 }
  emitIndicator .value

/-- Whether a plain scalar starts with `c`: any character but a blank and the indicators, or
`-`, and in block context `?` and `:`, when no blank follows. -/
def startsPlain (s : Lexer) (c : Char) : Bool :=
  let next := s.peek 1
  !(Chars.isBlankOrEnd c || "-?:,[]\x7b\x7d#&*!|>'\"%@`".contains c) ||
    (c = '-' && !Chars.isBlank next) ||
    (s.flowLevel = 0 && (c = '?' || c = ':') && !Chars.isBlank next)

/-- Produces the token that starts with the character at the position. -/
def fetchToken (c : Char) : Lex Unit := do
  let s ← get
  let next := s.peek 1
  if c = '[' then flowStart .flowSequenceStart
  else if c = '{' then flowStart .flowMappingStart
  else if c = ']' then flowEnd .flowSequenceEnd
  else if c = '}' then flowEnd .flowMappingEnd
  else if c = ',' then flowEntry
  else if c = '-' && Chars.isBlankOrEnd next then blockEntry
  else if c = '?' && (s.flowLevel > 0 || Chars.isBlankOrEnd next) then explicitKey
  else if c = ':' && (s.flowLevel > 0 || Chars.isBlankOrEnd next) then valueIndicator
  else if c = '*' || c = '&' then
    saveKey
    modify fun s => { s with keyAllowed := false }
    emit (← anchorOrAlias (c = '*'))
  else if c = '!' then
    saveKey
    modify fun s => { s with keyAllowed := false }
    emit (← tag)
  else if (c = '|' || c = '>') && s.flowLevel = 0 then
    removeKey
    modify fun s => { s with keyAllowed := true }
    emit (← blockScalar (c = '|'))
  else if c = '\'' || c = '"' then
    saveKey
    modify fun s => { s with keyAllowed := false }
    emit (← quotedScalar (c = '\''))
  else if startsPlain s c then
    saveKey
    modify fun s => { s with keyAllowed := false }
    emit (← plainScalar)
  else fail "while scanning for the next token" s.mark "found character that cannot start any token"

/-- Produces the next tokens: the start token first, then whatever stands after the blanks and
comments, preceded by the BLOCK-END tokens of the collections it closes. A comment on the rest
of the line goes with the token, except after a sequence dash. -/
def fetchNext : Lex Unit := do
  cache 1
  if !(← get).started then
    streamStart
    return
  let scanMark := (← get).mark
  skipToToken
  unrollIndent (← get).mark.column scanMark
  cache 4
  let s ← get
  let c := s.peek 0
  if Chars.isEnd c then streamEnd
  else if s.mark.column = 0 && c = '%' then fetchDirective
  else if s.atDocumentMarker && c = '-' then documentMarker .documentStart
  else if s.atDocumentMarker && c = '.' then documentMarker .documentEnd
  else
    fetchToken c
    if ((← get).queue.getLast?.map (·.kind)) ≠ some .blockEntry then skipLineComment

/-- Reads ahead until the first queued token can be taken: at least three tokens, and more while
the first may still start a simple key. -/
def fetchMore : Lex Unit := do
  for _ in [0:(← get).remaining + 16] do
    let s ← get
    if s.queue.length > 2 then
      match s.keyAt.lookup s.taken with
      | none => break
      | some i => if !(← keyValid i) then break
    fetchNext
  modify fun s => { s with available := true }

/-- The next token, reading ahead as needed. -/
def peekToken : Lex Token := do
  if !(← get).available then fetchMore
  let s ← get
  return s.queue.headD ⟨.streamEnd, s.mark, s.mark⟩

/-- Takes the next token. -/
def takeToken : Lex Unit :=
  modify fun s =>
    { s with
      available := false
      taken := s.taken + 1
      queue := s.queue.drop 1
      finished := (s.queue.head?.map (·.kind)) = some .streamEnd }

end Lex

/-- A lexer at the start of the characters of a text, of which a byte order mark of `skipped`
bytes was taken off the start. -/
def Lexer.ofChars (chars : Array Char) (skipped : Nat) : Lexer :=
  { text := chars, buffer := Buffer.ofChars chars skipped }

end StoneLink.Yaml
