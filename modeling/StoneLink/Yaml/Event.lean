import StoneLink.Yaml.Token.Lexer
import StoneLink.Yaml.Scalar

/-!
# Events of configuration text

The second representation of a text is a stream of events: the start and end of the stream, of
each document, of each sequence and mapping, and each scalar and alias, every one with the
position where it starts. A reader turns tokens into events with a small state machine that
follows the grammar: a stack of states says what comes after the node being read, and a stack of
positions remembers where each open collection started, for problems reported later.

A missing node where one may be empty (a key or value left out, a dash with nothing after it)
becomes an empty plain scalar. Tags are expanded through the handles in force: `!` and `!!`
always, the latter to the standard prefix, and any `%TAG` directive of the document.
-/

namespace StoneLink.Yaml

/-- What an event is. -/
inductive EventKind
  /-- The start of the stream. -/
  | streamStart
  /-- The end of the stream. -/
  | streamEnd
  /-- The start of a document, explicit when it has a `---` marker. -/
  | documentStart (explicit : Bool)
  /-- The end of a document, explicit when it has a `...` marker. -/
  | documentEnd (explicit : Bool)
  /-- A reference to an anchored node. -/
  | alias (name : String)
  /-- A scalar with its anchor (or empty), tag (or empty), text and style. -/
  | scalar (anchor tag text : String) (style : ScalarStyle)
  /-- The start of a sequence with its anchor and tag; `flow` when bracketed. -/
  | sequenceStart (anchor tag : String) (flow : Bool)
  /-- The end of a sequence. -/
  | sequenceEnd
  /-- The start of a mapping with its anchor and tag; `flow` when in braces. -/
  | mappingStart (anchor tag : String) (flow : Bool)
  /-- The end of a mapping. -/
  | mappingEnd
  deriving Inhabited, Repr

/-- An event and the position where it starts. -/
structure Event where
  /-- What the event is. -/
  kind : EventKind
  /-- Where it starts. -/
  mark : Mark
  deriving Inhabited, Repr

/-- What the reader expects next. -/
inductive Expect
  | streamStart
  | implicitDocumentStart
  | documentStart
  | documentContent
  | documentEnd
  | blockNode
  | blockNodeOrIndentlessSequence
  | flowNode
  | blockSequenceFirstEntry
  | blockSequenceEntry
  | indentlessSequenceEntry
  | blockMappingFirstKey
  | blockMappingKey
  | blockMappingValue
  | flowSequenceFirstEntry
  | flowSequenceEntry
  | flowSequenceEntryMappingKey
  | flowSequenceEntryMappingValue
  | flowSequenceEntryMappingEnd
  | flowMappingFirstKey
  | flowMappingKey
  | flowMappingValue
  | flowMappingEmptyValue
  | finished
  deriving Inhabited, DecidableEq, Repr

/-- The state of the event reader. -/
structure EventReader where
  /-- The tokens. -/
  lexer : Lexer
  /-- What comes next. -/
  expect : Expect := .streamStart
  /-- What comes after each open node, innermost first. -/
  pending : List Expect := []
  /-- Where each open collection starts, innermost first. -/
  starts : List Mark := []
  /-- The tag handles in force with their prefixes. -/
  handles : List (String × String) := []
  deriving Inhabited

/-- Steps of the event reader. -/
abbrev Read := StateT EventReader (Except Problem)

namespace Read

/-- Runs a step of the lexer. -/
def lex {α : Type} (m : Lex α) : Read α := do
  let r ← get
  match m.run r.lexer with
  | .ok (a, l) =>
    set { r with lexer := l }
    pure a
  | .error e => throw e

/-- The next token. -/
def peek : Read Token := lex Lex.peekToken

/-- Takes the next token. -/
def take : Read Unit := lex Lex.takeToken

/-- Stops with a problem of the reader. -/
def fail {α : Type} (problem : String) (at_ : Mark) : Read α :=
  throw { stage := .parser, problem, problemMark := at_ }

/-- Stops with a problem of the reader inside a context. -/
def failIn {α : Type} (context : String) (start : Mark) (problem : String) (at_ : Mark) :
    Read α :=
  throw { stage := .parser, context, contextMark := start, problem, problemMark := at_ }

/-- Makes the innermost pending expectation current. -/
def popExpect : Read Unit :=
  modify fun r => { r with expect := r.pending.headD .finished, pending := r.pending.drop 1 }

/-- Pushes what comes after the node about to be read. -/
def pushExpect (e : Expect) : Read Unit := modify fun r => { r with pending := e :: r.pending }

/-- Sets what comes next. -/
def setExpect (e : Expect) : Read Unit := modify fun r => { r with expect := e }

/-- Remembers where a collection starts. -/
def pushStart (m : Mark) : Read Unit := modify fun r => { r with starts := m :: r.starts }

/-- Forgets where the innermost collection starts, returning it. -/
def popStart : Read Mark := do
  let r ← get
  set { r with starts := r.starts.drop 1 }
  return r.starts.headD {}

/-- The empty plain scalar at a position. -/
def empty (m : Mark) : Event := ⟨.scalar "" "" "" .plain, m⟩

/-- The handles every document has. -/
def defaultHandles : List (String × String) := [("!", "!"), ("!!", Tag.standardPrefix)]

/-- Reads the directives before a document: at most one `%YAML 1.1`, and `%TAG` handles that
must differ; the default handles are added after them. -/
def directives : Read Unit := do
  let mut version := false
  for _ in [0:4 * (← get).lexer.text.size + 8] do
    let t ← peek
    match t.kind with
    | .versionDirective major minor =>
      if version then fail "found duplicate %YAML directive" t.startMark
      if major ≠ 1 || minor ≠ 1 then fail "found incompatible YAML document" t.startMark
      version := true
    | .tagDirective handle pre =>
      if (← get).handles.any (·.1 = handle) then
        fail "found duplicate %TAG directive" t.startMark
      modify fun r => { r with handles := r.handles ++ [(handle, pre)] }
    | _ => break
    take
  modify fun r =>
    { r with handles := r.handles ++ defaultHandles.filter fun (h, _) => !r.handles.any (·.1 = h) }

/-- The start of a document, or the end of the stream. An implicit document starts at any
token but a directive, a `---` or the end; extra `...` markers before an explicit one are
skipped. -/
def documentStart (implicit : Bool) : Read Event := do
  let mut t ← peek
  if !implicit then
    for _ in [0:4 * (← get).lexer.text.size + 8] do
      match t.kind with
      | .documentEnd =>
        take
        t ← peek
      | _ => break
  match t.kind with
  | .versionDirective .. | .tagDirective .. | .documentStart | .streamEnd =>
    match t.kind with
    | .streamEnd =>
      setExpect .finished
      take
      return ⟨.streamEnd, t.startMark⟩
    | _ =>
      let start := t.startMark
      directives
      let u ← peek
      match u.kind with
      | .documentStart => pure ()
      | _ => fail "did not find expected <document start>" u.startMark
      pushExpect .documentEnd
      setExpect .documentContent
      take
      return ⟨.documentStart true, start⟩
  | _ =>
    if implicit then
      directives
      pushExpect .documentEnd
      setExpect .blockNode
      return ⟨.documentStart false, t.startMark⟩
    else
      let start := t.startMark
      directives
      let u ← peek
      match u.kind with
      | .documentStart => pure ()
      | _ => fail "did not find expected <document start>" u.startMark
      pushExpect .documentEnd
      setExpect .documentContent
      take
      return ⟨.documentStart true, start⟩

/-- The end of a document, explicit with a `...` marker; the document's handles are dropped. -/
def documentEnd : Read Event := do
  let t ← peek
  let explicit := match t.kind with | .documentEnd => true | _ => false
  if explicit then take
  modify fun r => { r with handles := [], expect := .documentStart }
  return ⟨.documentEnd explicit, t.startMark⟩

/-- Reads a node: an alias, or an optional anchor and tag in either order followed by a scalar,
a collection start, or nothing (an empty scalar, allowed only after an anchor or tag). In an
indentation-less position a dash starts a sequence. -/
def node (block indentless : Bool) : Read Event := do
  let t ← peek
  match t.kind with
  | .alias name =>
    popExpect
    take
    return ⟨.alias name, t.startMark⟩
  | _ =>
    let start := t.startMark
    let mut anchor := ""
    let mut tagged : Option (String × String × Mark) := none
    let mut t := t
    match t.kind with
    | .anchor name =>
      anchor := name
      take
      t ← peek
      match t.kind with
      | .tag handle suffix =>
        tagged := some (handle, suffix, t.startMark)
        take
        t ← peek
      | _ => pure ()
    | .tag handle suffix =>
      tagged := some (handle, suffix, t.startMark)
      take
      t ← peek
      match t.kind with
      | .anchor name =>
        anchor := name
        take
        t ← peek
      | _ => pure ()
    | _ => pure ()
    let tag ← match tagged with
      | none => pure ""
      | some (handle, suffix, tagMark) =>
        if handle.isEmpty then pure suffix
        else
          match (← get).handles.find? (·.1 = handle) with
          | some (_, pre) =>
            if (pre ++ suffix).isEmpty then
              failIn "while parsing a node" start "found undefined tag handle" tagMark
            else pure (pre ++ suffix)
          | none => failIn "while parsing a node" start "found undefined tag handle" tagMark
    match t.kind with
    | .blockEntry =>
      if indentless then
        setExpect .indentlessSequenceEntry
        return ⟨.sequenceStart anchor tag false, start⟩
    | _ => pure ()
    match t.kind with
    | .scalar text style =>
      popExpect
      take
      return ⟨.scalar anchor tag text style, start⟩
    | .flowSequenceStart =>
      setExpect .flowSequenceFirstEntry
      return ⟨.sequenceStart anchor tag true, start⟩
    | .flowMappingStart =>
      setExpect .flowMappingFirstKey
      return ⟨.mappingStart anchor tag true, start⟩
    | .blockSequenceStart =>
      if block then
        setExpect .blockSequenceFirstEntry
        return ⟨.sequenceStart anchor tag false, start⟩
    | .blockMappingStart =>
      if block then
        setExpect .blockMappingFirstKey
        return ⟨.mappingStart anchor tag false, start⟩
    | _ => pure ()
    if !anchor.isEmpty || !tag.isEmpty then
      popExpect
      return ⟨.scalar anchor tag "" .plain, start⟩
    failIn (if block then "while parsing a block node" else "while parsing a flow node") start
      "did not find expected node content" t.startMark

/-- The content of an explicit document: empty when a marker, directive or the end follows. -/
def documentContent : Read Event := do
  let t ← peek
  match t.kind with
  | .versionDirective .. | .tagDirective .. | .documentStart | .documentEnd | .streamEnd =>
    popExpect
    return empty t.startMark
  | _ => node true false

/-- Whether a token is of the given kind, comparing constructors only. -/
def TokenKind.isBlockEntry : TokenKind → Bool | .blockEntry => true | _ => false
/-- Whether a token ends a block collection. -/
def TokenKind.isBlockEnd : TokenKind → Bool | .blockEnd => true | _ => false
/-- Whether a token is a key indicator. -/
def TokenKind.isKey : TokenKind → Bool | .key => true | _ => false
/-- Whether a token is a value indicator. -/
def TokenKind.isValue : TokenKind → Bool | .value => true | _ => false
/-- Whether a token is a comma. -/
def TokenKind.isFlowEntry : TokenKind → Bool | .flowEntry => true | _ => false
/-- Whether a token closes a bracket. -/
def TokenKind.isFlowSequenceEnd : TokenKind → Bool | .flowSequenceEnd => true | _ => false
/-- Whether a token closes a brace. -/
def TokenKind.isFlowMappingEnd : TokenKind → Bool | .flowMappingEnd => true | _ => false

/-- An entry of a block sequence, or its end. -/
def blockSequenceEntry (first : Bool) : Read Event := do
  if first then
    pushStart (← peek).startMark
    take
  let t ← peek
  if TokenKind.isBlockEntry t.kind then
    let m := t.endMark
    take
    let t ← peek
    setExpect .blockSequenceEntry
    if !TokenKind.isBlockEntry t.kind && !TokenKind.isBlockEnd t.kind then
      pushExpect .blockSequenceEntry
      node true false
    else return empty m
  else if TokenKind.isBlockEnd t.kind then
    popExpect
    let _ ← popStart
    take
    return ⟨.sequenceEnd, t.startMark⟩
  else
    let start ← popStart
    failIn "while parsing a block collection" start "did not find expected '-' indicator"
      t.startMark

/-- An entry of a sequence written without indentation under a mapping key, or its end. -/
def indentlessSequenceEntry : Read Event := do
  let t ← peek
  if TokenKind.isBlockEntry t.kind then
    let m := t.endMark
    take
    let t ← peek
    setExpect .indentlessSequenceEntry
    if !TokenKind.isBlockEntry t.kind && !TokenKind.isKey t.kind && !TokenKind.isValue t.kind &&
        !TokenKind.isBlockEnd t.kind then
      pushExpect .indentlessSequenceEntry
      node true false
    else return empty m
  else
    popExpect
    return ⟨.sequenceEnd, t.startMark⟩

/-- A key of a block mapping, or its end. -/
def blockMappingKey (first : Bool) : Read Event := do
  if first then
    pushStart (← peek).startMark
    take
  let t ← peek
  if TokenKind.isKey t.kind then
    let m := t.endMark
    take
    let t ← peek
    setExpect .blockMappingValue
    if !TokenKind.isKey t.kind && !TokenKind.isValue t.kind && !TokenKind.isBlockEnd t.kind then
      pushExpect .blockMappingValue
      node true true
    else return empty m
  else if TokenKind.isBlockEnd t.kind then
    popExpect
    let _ ← popStart
    take
    return ⟨.mappingEnd, t.startMark⟩
  else
    let start ← popStart
    failIn "while parsing a block mapping" start "did not find expected key" t.startMark

/-- A value of a block mapping; empty when there is no `:` or nothing after it. -/
def blockMappingValue : Read Event := do
  let t ← peek
  setExpect .blockMappingKey
  if TokenKind.isValue t.kind then
    let m := t.endMark
    take
    let t ← peek
    if !TokenKind.isKey t.kind && !TokenKind.isValue t.kind && !TokenKind.isBlockEnd t.kind then
      pushExpect .blockMappingKey
      node true true
    else return empty m
  else return empty t.startMark

/-- An entry of a bracketed sequence, or its end. A `?` or a simple key starts a mapping of one
pair. -/
def flowSequenceEntry (first : Bool) : Read Event := do
  if first then
    pushStart (← peek).startMark
    take
  let mut t ← peek
  if !TokenKind.isFlowSequenceEnd t.kind then
    if !first then
      if TokenKind.isFlowEntry t.kind then
        take
        t ← peek
      else
        let start ← popStart
        failIn "while parsing a flow sequence" start "did not find expected ',' or ']'"
          t.startMark
    if TokenKind.isKey t.kind then
      setExpect .flowSequenceEntryMappingKey
      take
      return ⟨.mappingStart "" "" true, t.startMark⟩
    else if !TokenKind.isFlowSequenceEnd t.kind then
      pushExpect .flowSequenceEntry
      return ← node false false
  popExpect
  let _ ← popStart
  take
  return ⟨.sequenceEnd, t.startMark⟩

/-- The key of a one-pair mapping in a bracketed sequence; when it is missing, the indicator
that follows is passed over. -/
def flowSequenceEntryMappingKey : Read Event := do
  let t ← peek
  if !TokenKind.isValue t.kind && !TokenKind.isFlowEntry t.kind &&
      !TokenKind.isFlowSequenceEnd t.kind then
    pushExpect .flowSequenceEntryMappingValue
    node false false
  else
    let m := t.endMark
    take
    setExpect .flowSequenceEntryMappingValue
    return empty m

/-- The value of a one-pair mapping in a bracketed sequence. -/
def flowSequenceEntryMappingValue : Read Event := do
  let mut t ← peek
  if TokenKind.isValue t.kind then
    take
    t ← peek
    if !TokenKind.isFlowEntry t.kind && !TokenKind.isFlowSequenceEnd t.kind then
      pushExpect .flowSequenceEntryMappingEnd
      return ← node false false
  setExpect .flowSequenceEntryMappingEnd
  return empty t.startMark

/-- The end of a one-pair mapping in a bracketed sequence. -/
def flowSequenceEntryMappingEnd : Read Event := do
  let t ← peek
  setExpect .flowSequenceEntry
  return ⟨.mappingEnd, t.startMark⟩

/-- A key of a mapping in braces, or its end. -/
def flowMappingKey (first : Bool) : Read Event := do
  if first then
    pushStart (← peek).startMark
    take
  let mut t ← peek
  if !TokenKind.isFlowMappingEnd t.kind then
    if !first then
      if TokenKind.isFlowEntry t.kind then
        take
        t ← peek
      else
        let start ← popStart
        failIn "while parsing a flow mapping" start "did not find expected ',' or '\x7d'"
          t.startMark
    if TokenKind.isKey t.kind then
      take
      let u ← peek
      if !TokenKind.isValue u.kind && !TokenKind.isFlowEntry u.kind &&
          !TokenKind.isFlowMappingEnd u.kind then
        pushExpect .flowMappingValue
        return ← node false false
      else
        setExpect .flowMappingValue
        return empty u.startMark
    else if !TokenKind.isFlowMappingEnd t.kind then
      pushExpect .flowMappingEmptyValue
      return ← node false false
  popExpect
  let _ ← popStart
  take
  return ⟨.mappingEnd, t.startMark⟩

/-- A value of a mapping in braces; empty for a key without `:`. -/
def flowMappingValue (emptyValue : Bool) : Read Event := do
  let mut t ← peek
  if emptyValue then
    setExpect .flowMappingKey
    return empty t.startMark
  if TokenKind.isValue t.kind then
    take
    t ← peek
    if !TokenKind.isFlowEntry t.kind && !TokenKind.isFlowMappingEnd t.kind then
      pushExpect .flowMappingKey
      return ← node false false
  setExpect .flowMappingKey
  return empty t.startMark

/-- The start of the stream. -/
def streamStart : Read Event := do
  let t ← peek
  match t.kind with
  | .streamStart =>
    setExpect .implicitDocumentStart
    take
    return ⟨.streamStart, t.startMark⟩
  | _ => fail "did not find expected <stream-start>" t.startMark

/-- The next event in the state the reader expects. -/
def eventIn : Expect → Read (Option Event)
  | .streamStart => some <$> streamStart
  | .implicitDocumentStart => some <$> documentStart true
  | .documentStart => some <$> documentStart false
  | .documentContent => some <$> documentContent
  | .documentEnd => some <$> documentEnd
  | .blockNode => some <$> node true false
  | .blockNodeOrIndentlessSequence => some <$> node true true
  | .flowNode => some <$> node false false
  | .blockSequenceFirstEntry => some <$> blockSequenceEntry true
  | .blockSequenceEntry => some <$> blockSequenceEntry false
  | .indentlessSequenceEntry => some <$> indentlessSequenceEntry
  | .blockMappingFirstKey => some <$> blockMappingKey true
  | .blockMappingKey => some <$> blockMappingKey false
  | .blockMappingValue => some <$> blockMappingValue
  | .flowSequenceFirstEntry => some <$> flowSequenceEntry true
  | .flowSequenceEntry => some <$> flowSequenceEntry false
  | .flowSequenceEntryMappingKey => some <$> flowSequenceEntryMappingKey
  | .flowSequenceEntryMappingValue => some <$> flowSequenceEntryMappingValue
  | .flowSequenceEntryMappingEnd => some <$> flowSequenceEntryMappingEnd
  | .flowMappingFirstKey => some <$> flowMappingKey true
  | .flowMappingKey => some <$> flowMappingKey false
  | .flowMappingValue => some <$> flowMappingValue false
  | .flowMappingEmptyValue => some <$> flowMappingValue true
  | .finished => pure none

/-- The next event, or nothing after the end of the stream. -/
def next : Read (Option Event) := do
  let r ← get
  if r.lexer.finished then return none
  let e ← eventIn r.expect
  -- a refill that failed while the lexer looked ahead stops the read once the event is made
  if (← get).lexer.pending then throw Lexer.badCharacter
  return e

end Read

end StoneLink.Yaml
