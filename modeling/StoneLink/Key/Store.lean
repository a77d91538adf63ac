import StoneLink.Cipher.Rc5
import StoneLink.Key.Basic
import StoneLink.Text.ByteText

/-!
# The sphere store

A store holds the spheres a program knows: each has an identifier, a one-byte short identifier
that broadcasts carry, and its key set. Identifiers are byte texts, compared and ordered byte by
byte. The store is kept as a list sorted by identifier with no identifier twice, so listing the
identifiers needs no sorting and a second `put` of an identifier replaces the first.

A cached store also keeps the RC5 subkeys of each sphere's localization key once they are
expanded, and drops them when the sphere is replaced or removed.
-/

namespace StoneLink

/-- A sphere: its identifier, its short identifier and its keys. -/
structure Sphere where
  /-- The identifier. -/
  id : ByteText
  /-- The identifier carried in broadcasts. -/
  shortId : UInt8
  /-- The key material. -/
  keys : KeySet
  deriving DecidableEq

/-- The spheres a program knows, sorted by identifier. -/
structure Store where
  /-- The spheres, in increasing order of identifier. -/
  spheres : List Sphere := []
  deriving DecidableEq

namespace Store

/-- The list with a sphere put in its place, replacing one of the same identifier. -/
def insert (sp : Sphere) : List Sphere → List Sphere
  | [] => [sp]
  | x :: xs =>
    if sp.id = x.id then sp :: xs
    else if sp.id < x.id then sp :: x :: xs
    else x :: insert sp xs

/-- The store with a sphere added or replaced. -/
def put (s : Store) (sp : Sphere) : Store := ⟨insert sp s.spheres⟩

/-- The sphere of an identifier. -/
def get? (s : Store) (id : ByteText) : Option Sphere := s.spheres.find? (·.id == id)

/-- The key set of a sphere. -/
def keySet (s : Store) (id : ByteText) : Except Fault KeySet :=
  match s.get? id with
  | some sp => .ok sp.keys
  | none => .error (.because .sphereNotFound)

/-- The store without a sphere that it holds. -/
def remove (s : Store) (id : ByteText) : Except Fault Store :=
  match s.get? id with
  | some _ => .ok ⟨s.spheres.filter (·.id != id)⟩
  | none => .error (.because .sphereNotFound)

/-- The identifiers, in increasing order. -/
def ids (s : Store) : List ByteText := s.spheres.map (·.id)

/-- The number of spheres. -/
def size (s : Store) : Nat := s.spheres.length

/-- The RC5 subkeys of a sphere's localization key. -/
def rc5Subkeys (s : Store) (id : ByteText) : Except Fault (List UInt16) :=
  match s.get? id with
  | none => .error (.because .sphereNotFound)
  | some sp => match sp.keys.localization with
    | some k => .ok (Cipher.Rc5.expand k.bytes)
    | none => .error (.because .noKeyAvailable)

end Store

/-- A store that keeps the RC5 subkeys of a sphere once it has expanded them. Putting a sphere
drops the subkeys of the one it replaces, and removing a sphere drops its subkeys, so subkeys are
expanded afresh from the key of the sphere held now. -/
structure CachedStore where
  /-- The spheres. -/
  store : Store := {}
  /-- The subkeys expanded so far, each with the identifier of its sphere. -/
  subkeys : List (ByteText × List UInt16) := []
  deriving DecidableEq

namespace CachedStore

/-- The subkeys kept for a sphere. -/
def cached? (c : CachedStore) (id : ByteText) : Option (List UInt16) :=
  (c.subkeys.find? (·.1 == id)).map (·.2)

/-- The store with a sphere added or replaced, without the subkeys of the sphere replaced. -/
def put (c : CachedStore) (sp : Sphere) : CachedStore :=
  ⟨c.store.put sp, c.subkeys.filter (·.1 != sp.id)⟩

/-- The store without a sphere that it holds, and without its subkeys. -/
def remove (c : CachedStore) (id : ByteText) : Except Fault CachedStore :=
  match c.store.remove id with
  | .ok s => .ok ⟨s, c.subkeys.filter (·.1 != id)⟩
  | .error e => .error e

/-- The RC5 subkeys of a sphere's localization key: those kept for the sphere if any, else the
expansion of its key, which the store then keeps. -/
def rc5Key (c : CachedStore) (id : ByteText) : Except Fault (List UInt16) × CachedStore :=
  match c.store.get? id with
  | none => (.error (.because .sphereNotFound), c)
  | some sp =>
    match c.cached? id with
    | some ks => (.ok ks, c)
    | none =>
      match sp.keys.localization with
      | none => (.error (.because .noKeyAvailable), c)
      | some k =>
        let ks := Cipher.Rc5.expand k.bytes
        (.ok ks, { c with subkeys := (id, ks) :: c.subkeys })

end CachedStore

end StoneLink
