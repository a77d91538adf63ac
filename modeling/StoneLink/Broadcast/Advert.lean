import StoneLink.Broadcast.Background
import StoneLink.Broadcast.Command
import StoneLink.Broadcast.Header
import StoneLink.Broadcast.Uuid
import StoneLink.Envelope
import StoneLink.Key.Store
import StoneLink.Text.Quote

/-!
# Advertisements

An advertisement is five service UUIDs: the encrypted command block, then the four header
words. To build one, the sender takes the sphere's strongest role key and its localization key,
encrypts the background with RC5 under the time stamp, and encrypts the command block with
AES-CTR under the role key, starting the counter at the header bytes. A receiver reorders the
words by their tags, reads the header, and opens the block with the key of the level the header
names; the same counter stream that encrypted it decrypts it.
-/

namespace StoneLink.Broadcast

/-- The number of service UUIDs of an advertisement. -/
def advertisementUuids : Nat := 5

/-- The command block combined with the counter stream that starts at the header bytes. -/
def cryptBlock (key : Key) (nonce block : Bytes) : Except Fault Bytes := do
  let iv ← Envelope.ivOfNonce nonce
  Envelope.aesCtr key.bytes iv block

/-- A time in Unix seconds cut to 32 bits, as the validation time stamp. -/
def timestampOf (now : Int) : UInt32 := (now % 4294967296).toNat.toUInt32

/-- What a sender needs besides the command: the spheres' keys, the phone's token and
background, and the time. -/
structure Encoder where
  /-- The spheres and their keys, if any are known. -/
  store : Option Store
  /-- The token of this phone. -/
  deviceToken : UInt8
  /-- The background this phone reports. -/
  background : Background
  /-- The time, in Unix seconds. -/
  now : Int

/-- The five UUIDs of a command for a sphere. -/
def Encoder.encode (e : Encoder) (sphereId : String) (type : CommandType) (payload : Bytes) :
    Except Fault (List Uuid) := do
  if payload.length > maxPayload then throw (.because .commandTooLarge)
  let some store := e.store | throw (.because .noSphereKey)
  let some sphere := store.get? (.ofString sphereId)
    | throw (.noted .unknownSphere (quote sphereId))
  let some (level, key) := sphere.keys.highest? |
    throw (.noted .noSphereKey (quote sphereId ++ " has no role key"))
  let subkeys ← match store.rc5Subkeys (.ofString sphereId) with
    | .ok s => pure s
    | .error _ => throw (.noted .noSphereKey (quote sphereId ++ " has no localization key"))
  let timestamp := timestampOf e.now
  let bg ← encryptBackground e.background timestamp subkeys
  let header : Header :=
    { protocol := Header.protocolVersion, sphereShortId := sphere.shortId,
      accessLevel := level.code, deviceToken := e.deviceToken, encryptedBackground := bg }
  let words ← header.words
  let nonce ← header.bytes
  let block ← CommandPacket.encode ⟨timestamp, type, payload⟩
  let cipher ← cryptBlock key nonce block
  pure (⟨cipher⟩ :: words.map Uuid.ofWord)

/-- A received advertisement: its header and its encrypted command block. -/
structure Parsed where
  /-- The header. -/
  header : Header
  /-- The encrypted command block. -/
  ciphertext : Bytes
  deriving DecidableEq

/-- Sorts UUIDs into header words and the command block: the first four base UUIDs are words,
anything else is the block, the last such one kept. -/
def sortUuids (uuids : List Uuid) : List UInt16 × Bytes × Nat :=
  uuids.foldl
    (fun (words, cipher, n) u =>
      match u.word with
      | (w, true) => if words.length < 4 then (words ++ [w], cipher, n) else (words, u.bytes, n + 1)
      | (_, false) => (words, u.bytes, n + 1))
    ([], List.replicate 16 0, 0)

/-- Reads the five UUIDs of an advertisement. -/
def parse (uuids : List Uuid) : Except Fault Parsed := do
  if uuids.length ≠ advertisementUuids then
    throw (.noted .badSequence (toString uuids.length ++ " service UUIDs"))
  let (words, cipher, n) := sortUuids uuids
  if words.length ≠ 4 ∨ n ≠ 1 then throw (.because .badSequence)
  let header ← Header.decode words
  pure ⟨header, cipher⟩

/-- Opens the command block with the key of the level the header names. -/
def Parsed.decrypt (p : Parsed) (ks : KeySet) : Except Fault CommandPacket := do
  let some key := ks.key? ⟨p.header.accessLevel⟩ | throw (.because .noSphereKey)
  let nonce ← p.header.bytes
  let plain ← cryptBlock key nonce p.ciphertext
  pure (CommandPacket.decode plain)

end StoneLink.Broadcast
