import StoneLink.Cipher.Rc5
import StoneLink.Fault

/-!
# The background payload

Every broadcast carries a sixteen-bit background word that tells devices where the phone is:

  location (6 bits) | profile (3 bits) | RSSI offset (4 bits) | tap to toggle | ignore | 0

The RSSI offset is stored in steps of 2 dB around 8, clamped to the four bits. Together with a
validation word cut from the time stamp, the background word forms one RC5 block under the
sphere's localization key; the validation word goes in the low half.
-/

namespace StoneLink.Broadcast

/-- The largest location identifier, six bits. -/
def maxLocationId : Nat := 63

/-- The largest profile identifier, three bits. -/
def maxProfileId : Nat := 7

/-- The four-bit code of an RSSI offset: half the offset, rounded toward zero, plus 8, clamped
to 0..15. -/
def encodeRssiOffset (offset : Int) : UInt8 :=
  (max 0 (min 15 (offset.tdiv 2 + 8))).toNat.toUInt8

/-- The RSSI offset of a four-bit code. -/
def decodeRssiOffset (encoded : UInt8) : Int := ((encoded &&& 0x0F).toNat - 8 : Int) * 2

/-- What a phone says about itself in every broadcast. -/
structure Background where
  /-- The room the phone is in. -/
  locationId : UInt8 := 0
  /-- The profile of the user. -/
  profileId : UInt8 := 0
  /-- The correction to the received signal strength, in dB. -/
  rssiOffset : Int := 0
  /-- Whether tapping the phone to a device toggles it. -/
  tapToToggle : Bool := false
  /-- Whether devices leave this phone out of their behaviour. -/
  ignoreForBehaviour : Bool := false
  deriving DecidableEq, Repr

namespace Background

/-- The sixteen-bit word of a background; identifiers too large for their bits are refused. -/
def pack (p : Background) : Except Fault UInt16 :=
  if p.locationId.toNat > maxLocationId ∨ p.profileId.toNat > maxProfileId then
    .error (.because .fieldRange)
  else
    .ok ((p.locationId.toUInt16 <<< 10) ||| (p.profileId.toUInt16 <<< 7) |||
      ((encodeRssiOffset p.rssiOffset).toUInt16 <<< 3) |||
      (if p.tapToToggle then 4 else 0) ||| (if p.ignoreForBehaviour then 2 else 0))

/-- The background a sixteen-bit word holds. -/
def unpack (v : UInt16) : Background where
  locationId := ((v >>> 10) &&& 63).toUInt8
  profileId := ((v >>> 7) &&& 7).toUInt8
  rssiOffset := decodeRssiOffset ((v >>> 3) &&& 0x0F).toUInt8
  tapToToggle := v &&& 4 != 0
  ignoreForBehaviour := v &&& 2 != 0

end Background

/-- The validation word of a time stamp: bits 7 to 22, so it changes every 128 seconds. -/
def validationWord (timestamp : UInt32) : UInt16 := (timestamp >>> 7).toUInt16

/-- The encrypted background of a broadcast under the RC5 subkeys of the localization key. -/
def encryptBackground (p : Background) (timestamp : UInt32) (subkeys : List UInt16) :
    Except Fault UInt32 := do
  let packed ← p.pack
  pure (Cipher.Rc5.encryptWord subkeys
    ((validationWord timestamp).toUInt32 ||| (packed.toUInt32 <<< 16)))

/-- The background and validation word of an encrypted background. -/
def decryptBackground (encrypted : UInt32) (subkeys : List UInt16) : Background × UInt16 :=
  let block := Cipher.Rc5.decryptWord subkeys encrypted
  (Background.unpack (block >>> 16).toUInt16, block.toUInt16)

end StoneLink.Broadcast
