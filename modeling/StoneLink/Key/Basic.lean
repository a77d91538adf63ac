import StoneLink.Access
import StoneLink.Text.Hex
import StoneLink.Text.Space

/-!
# Keys, key sets and key sources

A key is sixteen bytes. A sphere's key set holds up to five keys: the three role keys that
protect connections, the service data key and the localization key. A key source answers "which
key protects this access level": a key set serves its role keys (and resolves
`highestAvailable` to the strongest role it has), while a setup source serves its one setup key
for every level.
-/

namespace StoneLink

/-- A sixteen-byte AES key. -/
structure Key where
  /-- The key bytes. -/
  bytes : Bytes
  /-- Every key is sixteen bytes. -/
  length_eq : bytes.length = 16
  deriving DecidableEq

namespace Key

/-- The key of sixteen given bytes. -/
def ofBytes? (b : Bytes) : Option Key :=
  if h : b.length = 16 then some ⟨b, h⟩ else none

/-- The key of sixteen given bytes, or `invalidKey`. -/
def ofBytes (b : Bytes) : Except Fault Key :=
  match ofBytes? b with
  | some k => .ok k
  | none => .error (.because .invalidKey)

/-- The key of 32 hexadecimal digits, white space around them ignored; anything else is
`invalidKey`. -/
def parse (s : String) : Except Fault Key :=
  match Hex.decode (Text.trim s) with
  | .ok b => ofBytes b
  | .error _ => .error (.because .invalidKey)

/-- The all-zero key. -/
def zero : Key := ⟨List.replicate 16 0, rfl⟩

/-- The key as lowercase hexadecimal text. -/
def toHex (k : Key) : String := Hex.encode k.bytes

theorem ofBytes?_bytes (k : Key) : ofBytes? k.bytes = some k := by
  simp [ofBytes?, k.length_eq]

end Key

/-- The key material of one sphere. A missing key means no access at that level. -/
structure KeySet where
  /-- The admin role key. -/
  admin : Option Key := none
  /-- The member role key. -/
  member : Option Key := none
  /-- The guest role key. -/
  guest : Option Key := none
  /-- The key of advertised state. -/
  serviceData : Option Key := none
  /-- The key that seeds the broadcast background cipher. -/
  localization : Option Key := none
  deriving DecidableEq

namespace KeySet

/-- The strongest role key present, admin before member before guest. -/
def highest? (ks : KeySet) : Option (AccessLevel × Key) :=
  match ks.admin, ks.member, ks.guest with
  | some k, _, _ => some (.admin, k)
  | none, some k, _ => some (.member, k)
  | none, none, some k => some (.guest, k)
  | none, none, none => none

/-- The key for a level: the three roles, and `highestAvailable` resolved; no other level has a
key in a key set. -/
def key? (ks : KeySet) (level : AccessLevel) : Option Key :=
  match level.code.toNat with
  | 0 => ks.admin
  | 1 => ks.member
  | 2 => ks.guest
  | 202 => ks.highest?.map Prod.snd
  | _ => none

/-- Whether the set holds no key at all. -/
def isEmpty (ks : KeySet) : Bool :=
  ks.admin.isNone && ks.member.isNone && ks.guest.isNone && ks.serviceData.isNone &&
    ks.localization.isNone

end KeySet

/-- Where the keys of envelopes come from. -/
inductive KeySource where
  /-- The role keys of a sphere. -/
  | keys (ks : KeySet)
  /-- One setup key for every level. -/
  | setup (k : Key)
  deriving DecidableEq

namespace KeySource

/-- The key a source serves for a level. -/
def key? : KeySource → AccessLevel → Option Key
  | .keys ks, level => ks.key? level
  | .setup k, _ => some k

/-- The strongest level a source serves, with its key; a setup source answers `setup`. -/
def highest? : KeySource → Option (AccessLevel × Key)
  | .keys ks => ks.highest?
  | .setup k => some (.setup, k)

end KeySource

end StoneLink
