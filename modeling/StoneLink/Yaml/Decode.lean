import StoneLink.Yaml.Node
import StoneLink.Yaml.Value
import StoneLink.Text.Quote
import StoneLink.Text.ByteText
import StoneLink.Text.Utf8
import StoneLink.Text.Base64

/-!
# Decoding a tree into values

A target type says how it takes each kind of node, through an `Into` record: which scalars it
accepts, what null makes of it, and, for records and lists, how fields and items are read.
Decoding a node into a value gives the new value and whether the node fit; nodes that do not
fit leave the value alone and add a type error, and decoding goes on. Type errors are collected
in order and reported together. A few problems stop decoding at once: a scalar whose explicit
tag its text does not fit, bad base64 data, an alias that contains itself, and a merge of
something that is not a mapping.

* A scalar is read through the meaning of its text under its tag; a `!!str` scalar is its text.
  Null leaves a value alone, except that it empties a list.
* A mapping first has its keys checked: two keys of the same kind and text are an error for each
  later one, and the mapping is then skipped. A record takes each key that reads as a text and
  names one of its fields, once per field; other keys are ignored. A merge key `<<` brings in the
  fields of another mapping, or of each mapping in a sequence, for every key not yet set.
* A sequence makes a list from fresh items; items that do not fit are left out.
-/

namespace StoneLink.Yaml

/-- The state of decoding. -/
structure DecodeState where
  /-- The type errors so far, in order. -/
  errors : Array String := #[]
  /-- The keys already set while a merge is under way. -/
  merged : Option (List Value) := none
  /-- The aliases being decoded. -/
  active : List Nat := []
  /-- The complete anchored nodes by number. -/
  anchored : List (Nat × Node) := []
  /-- The nodes decoded so far. -/
  decodes : Nat := 0
  /-- The nodes decoded so far while an alias was being decoded. -/
  aliasedDecodes : Nat := 0
  deriving Inhabited

/-- Steps of decoding; a failure stops with its reason. -/
abbrev Decode := StateT DecodeState (Except ReadError)

/-- How values of a type are read from nodes. -/
structure Into (α : Type) where
  /-- The name of the type in messages. -/
  name : String
  /-- The value a scalar gives, from its tag, meaning and text, if it fits. -/
  scalar : String → Scalar → String → Option α := fun _ _ _ => none
  /-- What null makes of a value, if it changes it. -/
  onNull : Option α := none
  /-- For a record, the reader of each field name, given the fuel left. -/
  fields : Option (Nat → String → Option (Node → α → Decode α)) := none
  /-- For a list, how items make a value, given the fuel left. -/
  items : Option (Nat → List Node → Decode α) := none

namespace Decode

/-- Stops decoding with a message. -/
def stop {α : Type} (message : String) : Decode α := throw (.failure message)

/-- Whether decoding `d` nodes, `a` of them inside aliases, expands aliases too much. Past 100
aliased and 1000 decoded nodes, up to 99% may come from aliases while at most 400,000 nodes are
decoded, 10% from 4,000,000 nodes on, and a share falling in a straight line in between. -/
def excessive (a d : Nat) : Bool :=
  a > 100 && d > 1000 &&
    (if d ≤ 400000 then 100 * a > 99 * d
     else if d ≥ 4000000 then 10 * a > d
     else a * 360000000 > d * (356400000 - 89 * (d - 400000)))

/-- Counts one more decoded node, as aliased while an alias is being decoded, and stops a
document that expands too much through its aliases. -/
def tick : Decode Unit := do
  let s ← get
  let a := if s.active.isEmpty then s.aliasedDecodes else s.aliasedDecodes + 1
  let d := s.decodes + 1
  set { s with decodes := d, aliasedDecodes := a }
  if excessive a d then stop "document contains excessive aliasing"

/-- Adds a type error. -/
def note (message : String) : Decode Unit :=
  modify fun s => { s with errors := s.errors.push message }

/-- The text a node shows in a type error: nothing for collections, the text for scalars, cut
to seven bytes and an ellipsis when longer than ten bytes. -/
def shown (tag text : String) : String :=
  if tag = Tag.seq || tag = Tag.map then ""
  else if text.utf8ByteSize > 10 then
    " `" ++ Text.Utf8.decodeLossy (text.toUTF8.toList.take 7) ++ "...`"
  else " `" ++ text ++ "`"

/-- Adds the type error of a node that does not fit a type. -/
def mismatch (n : Node) (typeName : String) : Decode Unit :=
  let tag := Tag.short n.info.tag
  note ("line " ++ toString n.line ++ ": cannot unmarshal " ++ tag ++ shown tag n.text ++
    " into " ++ typeName)

/-- The type errors of keys that repeat an earlier key of the same kind and text. -/
def repeatedKeys (keys : List Node) : List String :=
  (List.range keys.length).flatMap fun i =>
    let ki := keys.getD i default
    ((keys.drop (i + 1)).filter fun kj => kj.kindIndex = ki.kindIndex && kj.text = ki.text).map
      fun kj =>
        "line " ++ toString kj.line ++ ": mapping key " ++ quote kj.text ++
          " already defined at line " ++ toString ki.line

/-- Whether a key is the merge key `<<`. -/
def isMergeKey : Node → Bool
  | .scalar info text => text = "<<" && info.tag = Tag.merge
  | _ => false

/-- Whether a node is a mapping, or an alias of one. -/
def isMappingLike (anchored : List (Nat × Node)) : Node → Bool
  | .mapping .. => true
  | .alias _ _ _ ref target =>
    match target <|> anchored.lookup ref with
    | some (.mapping ..) | none => true
    | some _ => false
  | _ => false

/-- The failure of a merge of something that is not a mapping. -/
def mergeFailure : String := "map merge requires map or sequence of maps as the value"

/-- The tag and meaning of a scalar node; base64 data is decoded. -/
def meaning (info : NodeInfo) (text : String) : Decode (String × Scalar) := do
  if info.tag = Tag.str then return (Tag.str, .str text)
  match Scalar.resolve info.tag text with
  | .error m => stop m
  | .ok (tag, v) =>
    if tag = Tag.binary then
      match Text.Base64.decode? text with
      | some bytes => return (tag, .data bytes)
      | none => stop "!!binary value contains invalid base64 data"
    else return (tag, v)

/-- The tag a key shows: an alias shows the tag of the node it names. -/
def keyTag (anchored : List (Nat × Node)) : Node → String
  | .alias _ _ _ ref target =>
    match target <|> anchored.lookup ref with
    | some t => t.info.tag
    | none => ""
  | n => n.info.tag

/-- How text is read: any scalar but null, as written; base64 data as the text its bytes show. -/
def text : Into String where
  name := "string"
  scalar := fun _ v t =>
    some (match v with | .str s => s | .data b => Text.Utf8.decodeLossy b | _ => t)

/-- How a byte text is read: any scalar but null, as written; base64 data as its bytes. -/
def byteText : Into ByteText where
  name := "string"
  scalar := fun _ v t =>
    some (match v with | .str s => .ofString s | .data b => ⟨b⟩ | _ => .ofString t)

/-- Whether every key of a mapping is a text or the merge key, so that with no type to guide it
the mapping reads as a map keyed by texts. -/
def textKeyed (anchored : List (Nat × Node)) (pairs : List (Node × Node)) : Bool :=
  pairs.all fun (k, _) =>
    let t := keyTag anchored k
    t = Tag.str || t = Tag.merge

/-- Looks a key up in the keys a merge has set: a list or a map cannot be looked up, which an
empty set of keys finds before it hashes anything. -/
def alreadySet (keys : List Value) (k : Value) : Decode Bool :=
  match k.unhashableName? with
  | some t => throw (.unhashable t keys.isEmpty)
  | none => return keys.any (·.same k)

/-- Adds a key to the keys a merge has set; a list or a map cannot be added. -/
def addKey (keys : List Value) (k : Value) : Decode (List Value) :=
  match k.unhashableName? with
  | some t => throw (.unhashable t false)
  | none => return if keys.any (·.same k) then keys else keys ++ [k]

mutual

/-- Decodes a node into a value of a type, giving the new value and whether the node fit. -/
def unmarshal : Nat → {α : Type} → Into α → Node → α → Decode (α × Bool)
  | 0, _, _, _, v => return (v, false)
  | fuel + 1, _, into, n, v => do
    tick
    match n with
    | .alias _ name id ref target =>
      if (← get).active.contains id then stop ("anchor '" ++ name ++ "' value contains itself")
      match target <|> (← get).anchored.lookup ref with
      | none => return (v, false)
      | some t =>
        modify fun s => { s with active := id :: s.active }
        let r ← unmarshal fuel into t v
        modify fun s => { s with active := s.active.erase id }
        return r
    | .scalar info t =>
      let (tag, value) ← meaning info t
      match value with
      | .null =>
        match into.onNull with
        | some z => return (z, true)
        | none => return (v, false)
      | _ =>
        match into.scalar tag value t with
        | some x => return (x, true)
        | none =>
          mismatch n into.name
          return (v, false)
    | .sequence _ items =>
      match into.items with
      | some make => return (← make fuel items, true)
      | none =>
        mismatch n into.name
        return (v, false)
    | .mapping _ pairs =>
      let repeated := repeatedKeys (pairs.map (·.1))
      if !repeated.isEmpty then
        for m in repeated do note m
        return (v, false)
      match into.fields with
      | none =>
        mismatch n into.name
        return (v, false)
      | some fields =>
        let outer := (← get).merged
        modify fun s => { s with merged := none }
        let mut seen := outer
        let mut done : List ByteText := []
        let mut mergeValue : Option Node := none
        let mut v := v
        for (k, value) in pairs do
          if isMergeKey k then
            mergeValue := some value
            continue
          let (name, ok) ← unmarshal fuel byteText k ⟨[]⟩
          if !ok then continue
          match seen with
          | some keys =>
            if keys.any (·.same (.text name)) then continue
            seen := some (keys ++ [.text name])
          | none => pure ()
          match fields fuel name.toString with
          | none => pure ()
          | some field =>
            if done.contains name then
              note ("line " ++ toString k.line ++ ": field " ++ name.toString ++
                " already set in type " ++ into.name)
              continue
            done := name :: done
            v ← field value v
        modify fun s => { s with merged := seen }
        match mergeValue with
        | none => return (v, true)
        | some m =>
          let before := (← get).merged
          if before.isNone then rememberKeys fuel pairs
          let anchored := (← get).anchored
          match m with
          | .mapping .. => v := (← unmarshal fuel into m v).1
          | .alias .. =>
            if !isMappingLike anchored m then stop mergeFailure
            v := (← unmarshal fuel into m v).1
          | .sequence _ items =>
            for item in items do
              if !isMappingLike anchored item then stop mergeFailure
              v := (← unmarshal fuel into item v).1
          | _ => stop mergeFailure
          -- a set started here ends here; one already under way keeps what the merge added
          if before.isNone then modify fun s => { s with merged := none }
          return (v, true)

/-- Starts the keys a merge has set with the keys of the mapping that merges, each read with no
type to guide it. While they are read the set is already in place, so that a mapping among them
takes it over. -/
def rememberKeys : Nat → List (Node × Node) → Decode Unit
  | 0, _ => pure ()
  | fuel + 1, pairs => do
    modify fun s => { s with merged := some [] }
    for (k, _) in pairs do
      if let some key ← anyValue fuel k then
        let keys ← addKey ((← get).merged.getD []) key
        modify fun s => { s with merged := some keys }

/-- Reads a node with no type to guide it, counting every node read; nothing when it does not
read. A mapping with a repeated key does not read, and neither does an item or entry of it that
does not; such items are left out. -/
def anyValue : Nat → Node → Decode (Option Value)
  | 0, _ => return none
  | fuel + 1, n => do
    tick
    match n with
    | .alias _ name id ref target =>
      if (← get).active.contains id then stop ("anchor '" ++ name ++ "' value contains itself")
      match target <|> (← get).anchored.lookup ref with
      | none => return none
      | some t =>
        modify fun s => { s with active := id :: s.active }
        let r ← anyValue fuel t
        modify fun s => { s with active := s.active.erase id }
        return r
    | .scalar info t => return some (Value.ofScalar (← meaning info t).2)
    | .sequence _ items =>
      let mut out : Array Value := #[]
      for item in items do
        if let some x ← anyValue fuel item then out := out.push x
      return some (.list out.toList)
    | .mapping _ pairs =>
      let textKeys := textKeyed (← get).anchored pairs
      return (← mapEntries fuel textKeys pairs []).map (.map textKeys)

/-- Reads a mapping, or an alias of one, into the entries of a map, as a mapping that is merged
into the map is read; nothing when it does not read. -/
def mergeInto : Nat → Bool → Node → List (Value × Value) →
    Decode (Option (List (Value × Value)))
  | 0, _, _, _ => return none
  | fuel + 1, textKeys, n, entries => do
    tick
    match n with
    | .alias _ name id ref target =>
      if (← get).active.contains id then stop ("anchor '" ++ name ++ "' value contains itself")
      match target <|> (← get).anchored.lookup ref with
      | none => return none
      | some t =>
        modify fun s => { s with active := id :: s.active }
        let r ← mergeInto fuel textKeys t entries
        modify fun s => { s with active := s.active.erase id }
        return r
    | .mapping _ pairs => mapEntries fuel textKeys pairs entries
    | _ => return none

/-- Reads the pairs of a mapping into the entries of a map keyed by texts, or by values of any
kind. A key that does not read is skipped, and so is one that a merge under way has set already;
a list or a map as a key stops the read. An entry whose value does not read is left out, and a
later entry of the same key replaces an earlier one. A merge key brings in the entries of the
mappings it names, for keys not yet set. -/
def mapEntries : Nat → Bool → List (Node × Node) → List (Value × Value) →
    Decode (Option (List (Value × Value)))
  | 0, _, _, _ => return none
  | fuel + 1, textKeys, pairs, entries => do
    let repeated := repeatedKeys (pairs.map (·.1))
    if !repeated.isEmpty then
      for m in repeated do note m
      return none
    let outer := (← get).merged
    modify fun s => { s with merged := none }
    let mut seen := outer
    let mut entries := entries
    let mut mergeValue : Option Node := none
    for (k, value) in pairs do
      if isMergeKey k then
        mergeValue := some value
        continue
      let read ← do
        if textKeys then
          let (t, ok) ← unmarshal fuel byteText k ⟨[]⟩
          pure (if ok then some (Value.text t) else none)
        else anyValue fuel k
      let some key := read | continue
      match seen with
      | some keys =>
        if ← alreadySet keys key then continue
        seen := some (keys ++ [key])
      | none => pure ()
      if key.unhashableName?.isSome then stop ("invalid map key: " ++ key.render)
      if let some x ← anyValue fuel value then entries := Value.setEntry entries key x
    modify fun s => { s with merged := seen }
    match mergeValue with
    | none => return some entries
    | some m =>
      let before := (← get).merged
      if before.isNone then rememberKeys fuel pairs
      let anchored := (← get).anchored
      match m with
      | .mapping .. =>
        if let some e ← mergeInto fuel textKeys m entries then entries := e
      | .alias .. =>
        if !isMappingLike anchored m then stop mergeFailure
        if let some e ← mergeInto fuel textKeys m entries then entries := e
      | .sequence _ items =>
        for item in items do
          if !isMappingLike anchored item then stop mergeFailure
          if let some e ← mergeInto fuel textKeys item entries then entries := e
      | _ => stop mergeFailure
      if before.isNone then modify fun s => { s with merged := none }
      return some entries

end

/-- How a list is read: a sequence gives the items that fit, each read from `zero`; null gives
the empty list. -/
def list {β : Type} (name : String) (item : Into β) (zero : β) : Into (List β) where
  name := name
  onNull := some []
  items := some fun fuel nodes => do
    let mut out : Array β := #[]
    for n in nodes do
      let (x, ok) ← unmarshal fuel item n zero
      if ok then out := out.push x
    return out.toList

/-- The integer a float truncates to as a signed 64-bit integer, the lowest one for floats out
of range, and nothing for NaN and floats above `2^63`. -/
def floatToInt64 (f : Float) : Option Int :=
  let top : Float := 9223372036854775808.0
  if !(f ≤ top) then none
  else if f < top && f ≥ -top then
    let t := if f < 0 then f.ceil else f.floor
    some t.toInt64.toInt
  else some (-9223372036854775808)

/-- How a signed 64-bit integer is read: integers in range, and floats truncated. -/
def int64 : Into Int where
  name := "int"
  scalar := fun _ v _ =>
    match v with
    | .int i => some i
    | .float f => floatToInt64 f
    | _ => none

/-- How a byte is read: integers from 0 to 255, and floats above -1 and below 256 truncated. -/
def byte : Into UInt8 where
  name := "uint8"
  scalar := fun _ v _ =>
    match v with
    | .int i => if 0 ≤ i && i ≤ 255 then some i.toNat.toUInt8 else none
    | .float f =>
      if f > -1 && f < 256 then some (if f < 0 then 0 else f.floor.toUInt8) else none
    | _ => none

/-- The words that read as true when a truth value is wanted. -/
def yesWords : List String := ["y", "Y", "yes", "Yes", "YES", "on", "On", "ON"]

/-- The words that read as false when a truth value is wanted. -/
def noWords : List String := ["n", "N", "no", "No", "NO", "off", "Off", "OFF"]

/-- How a truth value is read: booleans, and the old yes and no words. -/
def flag : Into Bool where
  name := "bool"
  scalar := fun _ v _ =>
    let word (s : String) : Option Bool :=
      if yesWords.contains s then some true else if noWords.contains s then some false else none
    match v with
    | .bool b => some b
    | .str s => word s
    | .data b => word (Text.Utf8.decodeLossy b)
    | _ => none

/-- Decodes a document into a value, giving the value and the type errors. -/
def document {α : Type} (into : Into α) (doc : Document) (v : α) :
    Except ReadError (α × List String) :=
  match doc.root with
  | none => .ok (v, [])
  | some root =>
    let fuel := 64 * (doc.anchored.length + 1) + 100000
    -- the document itself counts as the first decoded node
    match (unmarshal fuel into root v).run { anchored := doc.anchored, decodes := 1 } with
    | .ok ((v, _), s) => .ok (v, s.errors.toList)
    | .error e => .error e

end Decode

/-- Reads a value from the first document of a text: the value starts as `initial`, and any type
error fails the read as a whole. -/
def readAs {α : Type} (into : Into α) (text : String) (initial : α) : Except ReadError α :=
  match Document.ofText text with
  | .error e => .error e
  | .ok doc =>
    match Decode.document into doc initial with
    | .error e => .error e
    | .ok (v, []) => .ok v
    | .ok (_, errors) => .error (.types errors)

end StoneLink.Yaml
