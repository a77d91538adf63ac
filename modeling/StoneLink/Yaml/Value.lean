import StoneLink.Text.ByteText
import StoneLink.Text.Shortest
import StoneLink.Yaml.Scalar

/-!
# Values read with no type to guide them

When nothing says what a node should become, a scalar becomes the value its meaning gives, a
sequence becomes a list, and a mapping becomes a map: one keyed by texts when every key of the
mapping is a text, and one keyed by values of any kind otherwise.

Lists and maps have no equality a key needs, so they cannot be keys; every other value can, and
two keys are the same when they are of one kind and equal, floats by their numeric equality.

Messages show values in the notation of typed literals: a text quoted, a float in its shortest
text, an integer from `2^63` on in hexadecimal, a timestamp as `time.Date(…)`, a list as
`[]interface {}{…}` with its items separated by `, `, and a map as `map[string]interface {}{…}`
or `map[interface {}]interface {}{…}` with `key:value` entries in key order. Keys of a map keyed
by values of any kind are ordered by kind first (null, texts, large integers, integers, floats,
truth values, timestamps) and then by value.
-/

namespace StoneLink.Yaml

/-- A value read with no type to guide it. -/
inductive Value where
  /-- Null. -/
  | null
  /-- A truth value. -/
  | bool (b : Bool)
  /-- An integer from `-2^63` to `2^63 - 1`. -/
  | int (i : Int)
  /-- An integer from `2^63` to `2^64 - 1`. -/
  | uint (n : Nat)
  /-- A float. -/
  | float (f : Float)
  /-- A text, as its bytes. -/
  | text (t : ByteText)
  /-- A date or a date and a time. -/
  | time (t : Timestamp)
  /-- A list. -/
  | list (items : List Value)
  /-- A map, keyed by texts or by values of any kind, with its entries. -/
  | map (textKeys : Bool) (entries : List (Value × Value))
  deriving Inhabited

namespace Value

/-- The value of a scalar with no type to guide it. -/
def ofScalar : Scalar → Value
  | .null => .null
  | .bool b => .bool b
  | .int i => .int i
  | .uint n => .uint n
  | .float f => .float f
  | .timestamp t => .time t
  | .str s => .text (.ofString s)
  | .data b => .text ⟨b⟩

/-- The name of a map's type. -/
def mapTypeName (textKeys : Bool) : String :=
  if textKeys then "map[string]interface \x7b\x7d" else "map[interface \x7b\x7d]interface \x7b\x7d"

/-- The name of the type of a value that cannot be a key: a list or a map. -/
def unhashableName? : Value → Option String
  | .list _ => some "[]interface \x7b\x7d"
  | .map textKeys _ => some (mapTypeName textKeys)
  | _ => none

/-- Whether two keys are the same key. -/
def same : Value → Value → Bool
  | .null, .null => true
  | .bool a, .bool b => a == b
  | .int a, .int b => a == b
  | .uint a, .uint b => a == b
  | .float a, .float b => a == b
  | .text a, .text b => a == b
  | .time a, .time b => a.same b
  | _, _ => false

/-- The rank of a key's kind in the order of map entries. -/
def kindRank : Value → Nat
  | .null => 0
  | .text _ => 1
  | .uint _ => 2
  | .int _ => 3
  | .float _ => 4
  | .bool _ => 5
  | .time _ => 6
  | .list _ => 7
  | .map .. => 8

/-- Whether key `a` comes before key `b` in the order of map entries, or is equal to it: by kind,
then by value, with NaN before every other float. -/
def keyLE (a b : Value) : Bool :=
  if a.kindRank ≠ b.kindRank then a.kindRank < b.kindRank
  else match a, b with
    | .bool x, .bool y => !x || y
    | .float x, .float y => x.isNaN || (!y.isNaN && x ≤ y)
    | .int x, .int y => x ≤ y
    | .uint x, .uint y => x ≤ y
    | .text x, .text y => !(y < x)
    | .time x, .time y => x.keyLE y
    | _, _ => true

/-- Sets a key of a map's entries: the entry of the same key takes the new value, and a key not
there yet is added. -/
def setEntry (entries : List (Value × Value)) (k v : Value) : List (Value × Value) :=
  if entries.any (·.1.same k) then entries.map fun e => if e.1.same k then (k, v) else e
  else entries ++ [(k, v)]

/-- The hexadecimal digits of a number, lowercase. -/
def hex (n : Nat) : String := String.ofList (Nat.toDigits 16 n)

mutual

/-- A value in the notation of typed literals. -/
def render : Value → String
  | .null => "interface \x7b\x7d(nil)"
  | .bool b => toString b
  | .int i => toString i
  | .uint n => "0x" ++ hex n
  | .float f => Text.Shortest.render f
  | .text t => t.quote
  | .time t => t.render
  | .list items => "[]interface \x7b\x7d\x7b" ++ ", ".intercalate (renderItems items) ++ "\x7d"
  | .map textKeys entries =>
    let shown := (renderPairs entries).mergeSort fun a b => keyLE a.1 b.1
    mapTypeName textKeys ++ "\x7b" ++ ", ".intercalate (shown.map (·.2)) ++ "\x7d"

/-- The items of a list, each in the notation of typed literals. -/
def renderItems : List Value → List String
  | [] => []
  | v :: rest => render v :: renderItems rest

/-- The entries of a map, each key with the text `key:value` of its entry. -/
def renderPairs : List (Value × Value) → List (Value × String)
  | [] => []
  | (k, v) :: rest => (k, render k ++ ":" ++ render v) :: renderPairs rest

end

end Value

end StoneLink.Yaml
