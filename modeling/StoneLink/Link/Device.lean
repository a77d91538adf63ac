import StoneLink.Link.Mode
import StoneLink.Session
import StoneLink.Frame.Packet
import StoneLink.Frame.Multipart

/-!
# An emulated device

A device as a connection sees it: a service with a handshake characteristic, a control
characteristic that takes packets, and a result characteristic that notifies answers in parts.

The device serves the handshake block of its session nonce (under its guest key in normal mode,
bare in setup mode) and, in setup mode, its setup key. Every control write is recorded. The
device then opens it with the key its level names (unless it works in plain text), reads the
packet and records it; data that does not open or read is dropped without an error. A handler
gives the answer to a packet, if any; the answer is encrypted back at the level of the request,
under a packet nonce drawn from the device's random bytes, and notified in numbered parts.

Notifications pass a channel that can be told to lose the next few; the device counts what was
lost. A disconnected device refuses everything.
-/

namespace StoneLink.Link

open StoneLink.Frame

/-- What a device is set up with. -/
structure DeviceConfig where
  /-- The sphere keys of a device in normal mode. -/
  keys : KeySet := {}
  /-- The mode whose characteristics the device serves. -/
  mode : Mode := .normal
  /-- The five-byte session nonce; its first four bytes are the validation key. -/
  sessionNonce : Bytes
  /-- The setup key of a device in setup mode. -/
  setupKey : Key := Key.zero
  /-- Whether control writes and results are plain text. -/
  plaintext : Bool := false
  /-- The size of a notified part; zero means the default size. -/
  chunkSize : Int := 0
  /-- How control packets are answered: the answer to a packet, if any. Without one, a success
  result of the request's type echoes its payload. -/
  handler : StreamPacket → Option StreamPacket := fun req =>
    some (resultPacket req.type ⟨0⟩ req.payload)

/-- A device and what it has seen. -/
structure Device where
  /-- How the device is set up. -/
  config : DeviceConfig
  /-- The device's random bytes, an endless stream. -/
  random : Nat → UInt8
  /-- How many random bytes the device has drawn. -/
  drawn : Nat := 0
  /-- The raw control writes, in order. -/
  writes : List Bytes := []
  /-- The control packets that opened and read, in order. -/
  requests : List StreamPacket := []
  /-- Whether the link was closed. -/
  disconnected : Bool := false
  /-- How many of the next notifications the channel loses. -/
  dropNext : Nat := 0
  /-- How many notifications the channel has lost. -/
  dropped : Nat := 0

namespace Device

/-- The size of the notified parts. -/
def chunkSize (d : Device) : Int :=
  if d.config.chunkSize = 0 then Multipart.defaultChunkSize else d.config.chunkSize

/-- The validation key: the first four bytes of the session nonce. -/
def validationKey (d : Device) : Bytes := d.config.sessionNonce.take Envelope.validationKeySize

/-- Where the device's keys come from: the setup key serves every level in setup mode. -/
def source (d : Device) : KeySource :=
  if d.config.mode = .setup then .setup d.config.setupKey else .keys d.config.keys

/-- Checks that the device is connected and serves the characteristics of a mode. -/
def check (d : Device) (mode : Mode) : Except Fault Unit :=
  if d.disconnected then .error (.because .disconnected)
  else if mode ≠ d.config.mode then .error (.because .characteristicNotFound)
  else .ok ()

/-- Reads a characteristic of the service of a mode. -/
def read (d : Device) (mode : Mode) (c : Characteristic) : Except Fault Bytes := do
  d.check mode
  match c with
  | .session =>
    if d.config.mode = .setup then buildSessionBlock d.config.sessionNonce []
    else match d.config.keys.key? .guest with
      | some guest => buildSessionBlock d.config.sessionNonce guest.bytes
      | none => .error (.because .noKeyForLevel)
  | .setupKey =>
    if d.config.mode = .setup then .ok d.config.setupKey.bytes
    else .error (.because .characteristicNotFound)
  | _ => .error (.because .characteristicNotFound)

/-- Sends one notification through the channel: whether it arrives, and the channel after. -/
def notify (d : Device) (part : Bytes) : Option Bytes × Device :=
  if d.dropNext > 0 then (none, { d with dropNext := d.dropNext - 1, dropped := d.dropped + 1 })
  else (some part, d)

/-- Sends notifications in order: those that arrive, and the channel after. -/
def notifyAll (d : Device) : List Bytes → List Bytes × Device
  | [] => ([], d)
  | p :: ps =>
    let (arrived, d) := d.notify p
    let (rest, d) := d.notifyAll ps
    (arrived.toList ++ rest, d)

/-- The packet a control write carries at its level, if it opens and reads. -/
def opened (d : Device) (data : Bytes) : Option (StreamPacket × AccessLevel) :=
  if d.config.plaintext then (StreamPacket.decode data).toOption.map (·, .encryptionDisabled)
  else match Envelope.levelOf data with
    | .error _ => none
    | .ok level =>
      match Envelope.decrypt data d.config.sessionNonce d.validationKey (some d.source) with
      | .error _ => none
      | .ok plain => (StreamPacket.decode plain).toOption.map (·, level)

/-- The packet nonce the device draws next: the next three of its random bytes. -/
def nonce (d : Device) : Bytes :=
  (List.range Envelope.packetNonceSize).map fun i => d.random (d.drawn + i)

/-- The bytes of an answer at a level, if the device has a key for it, and the device after:
sealing draws a packet nonce. -/
def sealAnswer (d : Device) (answer : Bytes) (level : AccessLevel) :
    Option (Except Fault Bytes) × Device :=
  if d.config.plaintext then (some (.ok answer), d)
  else match d.source.key? level with
    | none => (none, d)
    | some key =>
      (some (Envelope.encryptWithNonce d.nonce answer d.config.sessionNonce d.validationKey
          key.bytes level),
        { d with drawn := d.drawn + Envelope.packetNonceSize })

/-- The notified parts of the answer to a packet that came at a level, and the device after. -/
def answer (d : Device) (req : StreamPacket) (level : AccessLevel) :
    Except Fault (List Bytes) × Device :=
  match d.config.handler req with
  | none => (.ok [], d)
  | some res =>
    match res.encode with
    | .error f => (.error f, d)
    | .ok out =>
      match d.sealAnswer out level with
      | (none, d) => (.ok [], d)
      | (some sealed, d) => (sealed.bind fun e => Multipart.split e d.chunkSize, d)

/-- Takes a control write on the service of a mode: the parts of the answer that arrive, and the
device after. -/
def receive (d : Device) (mode : Mode) (data : Bytes) : Except Fault (List Bytes) × Device :=
  match d.check mode with
  | .error f => (.error f, d)
  | .ok () =>
    let d := { d with writes := d.writes ++ [data] }
    match d.opened data with
    | none => (.ok [], d)
    | some (req, level) =>
      let d := { d with requests := d.requests ++ [req] }
      match d.answer req level with
      | (.error f, d) => (.error f, d)
      | (.ok parts, d) =>
        let (arrived, d) := d.notifyAll parts
        (.ok arrived, d)

end Device

end StoneLink.Link
