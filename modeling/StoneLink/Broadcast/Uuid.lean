import StoneLink.Text.Hex

/-!
# Service UUIDs

A broadcast is a list of 128-bit service UUIDs. Four of them carry header words inside the
Bluetooth base UUID `0000xxxx-0000-1000-8000-00805f9b34fb`, the word in place of `xxxx`; the
fifth is the encrypted command block itself.

UUIDs are read in the four usual written forms: the canonical `8-4-4-4-12` hexadecimal form, that
form behind `urn:uuid:` or inside braces, and 32 bare hexadecimal digits.
-/

namespace StoneLink.Broadcast

/-- A 128-bit UUID, sixteen bytes. -/
structure Uuid where
  /-- The bytes, most significant first. -/
  bytes : Bytes
  deriving DecidableEq

namespace Uuid

/-- The Bluetooth base UUID. -/
def bluetoothBase : Uuid :=
  ⟨[0x00, 0x00, 0x00, 0x00, 0x00, 0x00, 0x10, 0x00,
    0x80, 0x00, 0x00, 0x80, 0x5F, 0x9B, 0x34, 0xFB]⟩

/-- The base UUID carrying a word in bytes 2 and 3. -/
def ofWord (w : UInt16) : Uuid :=
  ⟨bluetoothBase.bytes.take 2 ++ [(w >>> 8).toUInt8, w.toUInt8] ++ bluetoothBase.bytes.drop 4⟩

/-- The word in bytes 2 and 3, and whether the UUID is the base UUID carrying it. -/
def word (u : Uuid) : UInt16 × Bool :=
  let w := ((u.bytes.getD 2 0).toUInt16 <<< 8) ||| (u.bytes.getD 3 0).toUInt16
  (w, ofWord w == u)

/-- The canonical text of a UUID, lowercase. -/
def toText (u : Uuid) : String :=
  let h := Hex.encode u.bytes
  let part (a n : Nat) := String.ofList ((h.toList.drop a).take n)
  part 0 8 ++ "-" ++ part 8 4 ++ "-" ++ part 12 4 ++ "-" ++ part 16 4 ++ "-" ++ part 20 12

/-- The byte of two hexadecimal digits. -/
def hexByte (a b : UInt8) : Option UInt8 := do
  let x ← Hex.value? a
  let y ← Hex.value? b
  pure (x * 16 + y)

/-- The bytes of pairs of digits starting at the given offsets. -/
def readPairs (s : Bytes) (offsets : List Nat) : Option Bytes :=
  offsets.mapM fun i => hexByte (s.getD i 0) (s.getD (i + 1) 0)

/-- Whether two ASCII texts are equal ignoring case. -/
def sameIgnoringCase (a b : Bytes) : Bool :=
  a.length == b.length &&
    (List.zip a b).all fun (x, y) =>
      let low (c : UInt8) : UInt8 := if 65 ≤ c && c ≤ 90 then c + 32 else c
      low x == low y

/-- The dashed form, checked and read. -/
def readDashed (s : Bytes) : Except String Uuid :=
  if s.getD 8 0 != 45 || s.getD 13 0 != 45 || s.getD 18 0 != 45 || s.getD 23 0 != 45 then
    .error "invalid UUID format"
  else match readPairs s [0, 2, 4, 6, 9, 11, 14, 16, 19, 21, 24, 26, 28, 30, 32, 34] with
    | some b => .ok ⟨b⟩
    | none => .error "invalid UUID format"

/-- Reads a UUID in any of the four written forms. -/
def parse (text : String) : Except String Uuid :=
  let s := text.toUTF8.toList
  match s.length with
  | 36 => readDashed s
  | 45 =>
    if sameIgnoringCase (s.take 9) "urn:uuid:".toUTF8.toList then readDashed (s.drop 9)
    else .error "invalid urn prefix"
  | 38 => readDashed (s.drop 1)
  | 32 => match readPairs s ((List.range 16).map (2 * ·)) with
    | some b => .ok ⟨b⟩
    | none => .error "invalid UUID format"
  | n => .error ("invalid UUID length: " ++ toString n)

end Uuid

end StoneLink.Broadcast
