import StoneLink.Yaml.Event

/-!
# Nodes of configuration text

The third representation is a tree. Only the first document of a text is read; an empty text
has no tree at all.

Every node carries its tag in short form: an explicit tag as written (expanded, then shortened),
`!!seq` and `!!map` for collections, `!!str` for quoted and block scalars, `!!merge` for a plain
`<<`, and otherwise what the text of a plain scalar resolves to. Lines and columns count from
one.

An alias names the node of the last anchor of that name before it. When that node is still
being read, the alias stands inside the node it names; such an alias keeps only the number of
the anchored node, and the finished anchored nodes are kept in a table by number.
-/

namespace StoneLink.Yaml

/-- What every node records. -/
structure NodeInfo where
  /-- The short tag. -/
  tag : String
  /-- Whether the tag was written explicitly. -/
  tagged : Bool := false
  /-- The anchor, or empty. -/
  anchor : String := ""
  /-- The line, from one. -/
  line : Nat
  /-- The column, from one. -/
  column : Nat
  deriving Inhabited, Repr

/-- A node of a document. -/
inductive Node where
  /-- A scalar and its text. -/
  | scalar (info : NodeInfo) (text : String)
  /-- A sequence and its items. -/
  | sequence (info : NodeInfo) (items : List Node)
  /-- A mapping and its key and value pairs in order. -/
  | mapping (info : NodeInfo) (pairs : List (Node × Node))
  /-- An alias: its name, the number of the alias, the number of the anchored node it names,
  and that node when it was complete. -/
  | alias (info : NodeInfo) (name : String) (id ref : Nat) (target : Option Node)
  deriving Inhabited, Repr

namespace Node

/-- What a node records. -/
def info : Node → NodeInfo
  | .scalar i _ | .sequence i _ | .mapping i _ | .alias i .. => i

/-- The line of a node. -/
def line (n : Node) : Nat := n.info.line

/-- The text of a scalar, the name of an alias, and empty for collections. -/
def text : Node → String
  | .scalar _ t => t
  | .alias _ name .. => name
  | _ => ""

/-- The kind of a node as a number: scalar, sequence, mapping, alias. -/
def kindIndex : Node → Nat
  | .scalar .. => 0
  | .sequence .. => 1
  | .mapping .. => 2
  | .alias .. => 3

end Node

/-- What a read of a text found: the first document's root, if any, and the finished anchored
nodes by number. -/
structure Document where
  /-- The root node. -/
  root : Option Node
  /-- The anchored nodes by number. -/
  anchored : List (Nat × Node)
  deriving Inhabited

/-- The state of building a tree from events. -/
structure Builder where
  /-- The events. -/
  reader : EventReader
  /-- The next event, once read. -/
  ahead : Option Event := none
  /-- The anchors seen: name, number of the node, and the node once complete. -/
  anchors : List (String × Nat × Option Node) := []
  /-- The complete anchored nodes by number. -/
  anchored : List (Nat × Node) := []
  deriving Inhabited

/-- Why a text could not be read. -/
inductive ReadError
  /-- The text is not well formed, or names what it cannot. -/
  | failure (message : String)
  /-- Nodes that do not fit where they stand. -/
  | types (errors : List String)
  /-- The reader broke down: a merge met a key of a kind that cannot be looked up or kept;
  `early` when an empty set of keys found it before hashing it. -/
  | unhashable (typeName : String) (early : Bool)
  deriving Inhabited, Repr

/-- The text of a read error. -/
def ReadError.message : ReadError → String
  | .failure m => "yaml: " ++ m
  | .types es => "yaml: unmarshal errors:\n  " ++ "\n  ".intercalate es
  | .unhashable t early =>
    if early then "hash of unhashable type: " ++ t
    else "runtime error: hash of unhashable type " ++ t

/-- Steps of building a tree. -/
abbrev Build := StateT Builder (Except ReadError)

namespace Build

/-- The next event. -/
def peek : Build Event := do
  let b ← get
  match b.ahead with
  | some e => pure e
  | none =>
    match (Read.next.run b.reader) with
    | .error p => throw (.failure p.message)
    | .ok (none, r) =>
      set { b with reader := r }
      throw (.failure "attempted to go past the end of stream; corrupted value?")
    | .ok (some e, r) =>
      set { b with reader := r, ahead := some e }
      pure e

/-- Consumes the next event. -/
def advance : Build Unit := do
  let _ ← peek
  modify fun b => { b with ahead := none }

/-- The info of a node read from an event: an explicit tag other than `!` is shortened, else
the default tag, else the tag the text resolves to. -/
def info (e : Event) (defaultTag tag text : String) (isScalar : Bool) : NodeInfo :=
  let line := e.mark.line + 1
  let column := e.mark.column + 1
  if tag ≠ "" && tag ≠ "!" then { tag := Tag.short tag, tagged := true, line, column }
  else if defaultTag ≠ "" then { tag := defaultTag, line, column }
  else if isScalar then { tag := (Scalar.ofPlain text true).1, line, column }
  else { tag := "", line, column }

/-- Registers an anchor for the node with the given number, not yet complete. -/
def register (name : String) (id : Nat) : Build Unit :=
  if name.isEmpty then pure ()
  else modify fun b => { b with anchors := (name, id, none) :: b.anchors.filter (·.1 ≠ name) }

/-- Records a complete anchored node; the anchor keeps it only if not taken over since. -/
def complete (name : String) (id : Nat) (n : Node) : Build Unit :=
  if name.isEmpty then pure ()
  else modify fun b =>
    { b with
      anchored := (id, n) :: b.anchored
      anchors := b.anchors.map fun (a, i, v) =>
        if a = name && i = id then (a, i, some n) else (a, i, v) }

/-- Reads a node from its first event. -/
def node : Nat → Build Node
  | 0 => throw (.failure "document nesting too deep")
  | fuel + 1 => do
    let e ← peek
    let id := e.mark.index
    match e.kind with
    | .alias name =>
      let i := info e "" "" name false
      match (← get).anchors.find? (·.1 = name) with
      | none => throw (.failure ("unknown anchor '" ++ name ++ "' referenced"))
      | some (_, ref, target) =>
        advance
        return .alias i name id ref target
    | .scalar anchor tag text style =>
      let dflt := if style = .plain then (if text = "<<" then Tag.merge else "") else Tag.str
      let n := Node.scalar { info e dflt tag text true with anchor } text
      register anchor id
      complete anchor id n
      advance
      return n
    | .sequenceStart anchor tag _ =>
      let i := { info e Tag.seq tag "" false with anchor }
      register anchor id
      advance
      let mut items : Array Node := #[]
      for _ in [0:4 * (← get).reader.lexer.text.size + 8] do
        match (← peek).kind with
        | .sequenceEnd => break
        | _ => items := items.push (← node fuel)
      advance
      let n := Node.sequence i items.toList
      complete anchor id n
      return n
    | .mappingStart anchor tag _ =>
      let i := { info e Tag.map tag "" false with anchor }
      register anchor id
      advance
      let mut pairs : Array (Node × Node) := #[]
      for _ in [0:4 * (← get).reader.lexer.text.size + 8] do
        match (← peek).kind with
        | .mappingEnd => break
        | _ =>
          let k ← node fuel
          let v ← node fuel
          pairs := pairs.push (k, v)
      advance
      let n := Node.mapping i pairs.toList
      complete anchor id n
      return n
    | _ => throw (.failure "did not find expected node content")

/-- Reads the first document: its root, or nothing for an empty text. -/
def document : Build (Option Node) := do
  match (← peek).kind with
  | .streamStart => advance
  | _ => throw (.failure "did not find expected <stream-start>")
  match (← peek).kind with
  | .streamEnd => return none
  | .documentStart _ =>
    advance
    let root ← node (4 * (← get).reader.lexer.text.size + 8)
    match (← peek).kind with
    | .documentEnd _ => advance
    | _ => throw (.failure "did not find expected <document end>")
    return some root
  | _ => some <$> node (4 * (← get).reader.lexer.text.size + 8)

end Build

/-- Reads the first document of a text. An empty text reads as a single line break, and a byte
order mark at the start is skipped. -/
def Document.ofText (text : String) : Except ReadError Document :=
  let (chars, skipped) := match (if text.isEmpty then "\n" else text).toList with
    | c :: rest => if Chars.isBom c then (rest, c.utf8Size) else (c :: rest, 0)
    | [] => ([], 0)
  let b : Builder := { reader := { lexer := Lexer.ofChars chars.toArray skipped } }
  match Build.document.run b with
  | .ok (root, b) => .ok ⟨root, b.anchored⟩
  | .error e => .error e

end StoneLink.Yaml
