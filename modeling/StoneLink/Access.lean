import StoneLink.Fault
import StoneLink.Text.Quote

/-!
# Access levels

An access level is the byte every envelope carries to say which key protects it. Seven values
have names: the three roles `admin`, `member` and `guest` (0, 1, 2), `setup` (100) for a device
that has not joined a sphere, `unknown` (201), `highestAvailable` (202), which a key source
resolves to its strongest role, and `encryptionDisabled` (255) for plain text. Every other byte is
a level without a name.

Names are read without regard to case: the letters are folded to lowercase as in Unicode, where
the dotted capital I and the Kelvin sign become `i` and `k`.
-/

namespace StoneLink

/-- The access level byte of an envelope. -/
structure AccessLevel where
  /-- The wire value. -/
  code : UInt8
  deriving DecidableEq, Repr

namespace AccessLevel

/-- The admin role. -/
def admin : AccessLevel := ⟨0⟩
/-- The member role. -/
def member : AccessLevel := ⟨1⟩
/-- The guest role. -/
def guest : AccessLevel := ⟨2⟩
/-- The ephemeral key of a device in setup mode. -/
def setup : AccessLevel := ⟨100⟩
/-- A level that is not resolved. -/
def unknown : AccessLevel := ⟨201⟩
/-- The strongest role a key source can serve, resolved when used. -/
def highestAvailable : AccessLevel := ⟨202⟩
/-- Plain text. -/
def encryptionDisabled : AccessLevel := ⟨255⟩

/-- The name of a level; a level without a name is written `AccessLevel(n)`. -/
def name (a : AccessLevel) : String :=
  match a.code.toNat with
  | 0 => "Admin"
  | 1 => "Member"
  | 2 => "Guest"
  | 100 => "Setup"
  | 201 => "Unknown"
  | 202 => "HighestAvailable"
  | 255 => "EncryptionDisabled"
  | n => "AccessLevel(" ++ toString n ++ ")"

/-- Whether the level is one of the seven named values. -/
def isValid (a : AccessLevel) : Bool :=
  [0, 1, 2, 100, 201, 202, 255].contains a.code.toNat

/-- Whether the level is one of the three roles a key set serves. -/
def isRole (a : AccessLevel) : Bool := a.code ≤ 2

/-- The lowercase form of a character as far as the level names need it. -/
def foldCase (c : Char) : Char :=
  if c.toNat = 0x130 then 'i'
  else if c.toNat = 0x212A then 'k'
  else c.toLower

/-- The level a name stands for. -/
def ofName? (s : String) : Option AccessLevel :=
  match String.ofList (s.toList.map foldCase) with
  | "admin" => some admin
  | "member" => some member
  | "guest" => some guest
  | "setup" => some setup
  | "highest" | "highest_available" => some highestAvailable
  | "disabled" | "none" => some encryptionDisabled
  | _ => none

/-- Reads a level name; an unknown name is reported with the name quoted. -/
def parse (s : String) : Except Fault AccessLevel :=
  match ofName? s with
  | some a => .ok a
  | none => .error (.noted .unknownAccessLevel (quote s))

theorem isRole_iff (a : AccessLevel) : a.isRole = true ↔ a.code.toNat ≤ 2 := by
  simp [isRole, UInt8.le_iff_toNat_le]

end AccessLevel

end StoneLink
