import StoneLink.Bytes
import StoneLink.Fault

/-!
# The broadcast header

A broadcast header is four sixteen-bit words, each tagged in its top two bits with its place,
so a receiver can put them in order whatever order the radio reports them in:

  word 0: tag 0 | protocol (3) | sphere short id (8) | access level (3)
  word 1: tag 1 | reserved (2) | device token (8) | background bits 28..31
  word 2: tag 2 | background bits 14..27
  word 3: tag 3 | background bits 0..13

The header's bytes, the words low byte first, are also the nonce of the command block cipher.
-/

namespace StoneLink.Broadcast

/-- The header of a broadcast. -/
structure Header where
  /-- The protocol version, three bits. -/
  protocol : UInt8 := 0
  /-- The sphere's short identifier. -/
  sphereShortId : UInt8 := 0
  /-- The access level whose key encrypts the command, three bits. -/
  accessLevel : UInt8 := 0
  /-- Two reserved bits. -/
  reserved : UInt8 := 0
  /-- The token of the sending phone. -/
  deviceToken : UInt8 := 0
  /-- The RC5-encrypted background. -/
  encryptedBackground : UInt32 := 0
  deriving DecidableEq, Repr

namespace Header

/-- The protocol version this library speaks. -/
def protocolVersion : UInt8 := 1

/-- The fourteen bits below a word's tag. -/
def fieldMask : UInt16 := 0x3FFF

/-- The four tagged words; a protocol, level or reserved value too large for its bits is refused. -/
def words (h : Header) : Except Fault (List UInt16) :=
  if h.protocol > 7 ∨ h.accessLevel > 7 ∨ h.reserved > 3 then
    .error (.noted .fieldRange ("protocol " ++ toString h.protocol.toNat ++ ", access level " ++
      toString h.accessLevel.toNat ++ ", reserved " ++ toString h.reserved.toNat))
  else
    let bg := h.encryptedBackground
    .ok [(h.protocol.toUInt16 <<< 11) ||| (h.sphereShortId.toUInt16 <<< 3) |||
        h.accessLevel.toUInt16,
      ((1 : UInt16) <<< 14) ||| (h.reserved.toUInt16 <<< 12) ||| (h.deviceToken.toUInt16 <<< 4) |||
        (bg >>> 28).toUInt16,
      ((2 : UInt16) <<< 14) ||| ((bg >>> 14).toUInt16 &&& fieldMask),
      ((3 : UInt16) <<< 14) ||| (bg.toUInt16 &&& fieldMask)]

/-- The eight header bytes, each word low byte first. -/
def bytes (h : Header) : Except Fault Bytes := do
  return (← h.words).flatMap Bytes.ofUInt16

/-- Puts words in the places their tags name; a tag seen twice is refused. -/
def order (words : List UInt16) : Except Fault (List UInt16) := do
  let (slots, _) ← List.foldlM
    (fun (slots, seen) w =>
      let tag := (w >>> 14).toNat
      if tag ∈ seen then .error (.because .badSequence)
      else .ok (slots.set tag (w &&& fieldMask), tag :: seen))
    (([0, 0, 0, 0] : List UInt16), ([] : List Nat)) words
  pure slots

/-- The header of four tagged words in any order. -/
def decode (words : List UInt16) : Except Fault Header := do
  let w ← order words
  let w0 := w.getD 0 0
  let w1 := w.getD 1 0
  pure {
    protocol := ((w0 >>> 11) &&& 7).toUInt8
    sphereShortId := (w0 >>> 3).toUInt8
    accessLevel := (w0 &&& 7).toUInt8
    reserved := ((w1 >>> 12) &&& 3).toUInt8
    deviceToken := (w1 >>> 4).toUInt8
    encryptedBackground := ((w1 &&& 0x0F).toUInt32 <<< 28) ||| ((w.getD 2 0).toUInt32 <<< 14) |||
      (w.getD 3 0).toUInt32 }

end Header

end StoneLink.Broadcast
