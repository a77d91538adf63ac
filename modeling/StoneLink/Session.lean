import StoneLink.Envelope

/-!
# Sessions

A session is the security state of one connection. It starts without a session; the handshake
reads the device's session data and establishes it: a five-byte session nonce, whose first four
bytes are the validation key. In normal mode the data is one AES block under the guest key that
starts with the magic word `0xCAFEBABE`; in setup mode it is the bare nonce.

A device in setup mode also hands out a setup key. While a session has one, every message is
encrypted under it at level `setup`, and incoming messages are opened with it whatever level
they name. Clearing a session forgets the session data and the setup key.

Packet nonces are drawn from a byte source, three bytes per encrypted message.
-/

namespace StoneLink

/-- The secrets a handshake establishes. -/
structure SessionData where
  /-- The five-byte session nonce. -/
  sessionNonce : Bytes
  /-- The four-byte validation key. -/
  validationKey : Bytes
  deriving DecidableEq

/-- The session data of a connection without a session: all zero. -/
def SessionData.zero : SessionData :=
  ⟨List.replicate Envelope.sessionNonceSize 0, List.replicate Envelope.validationKeySize 0⟩

/-- The security state of a connection. -/
structure Session where
  /-- Where role keys come from, if anywhere. -/
  keys : Option KeySource
  /-- The bytes packet nonces are drawn from. -/
  random : Bytes
  /-- The session data, once established. -/
  established : Option SessionData := none
  /-- The setup key, once installed. -/
  setupKey : Option Key := none
  deriving DecidableEq

namespace Session

/-- The magic word at the front of an encrypted handshake block. -/
def magic : UInt32 := 0xCAFEBABE

/-- The name of a session state number: 0 is no session, 1 an established one. -/
def stateName : Int → String
  | 0 => "NoSession"
  | 1 => "Established"
  | n => "State(" ++ toString n ++ ")"

/-- The name of a session's state. -/
def state (s : Session) : String := stateName (if s.established.isSome then 1 else 0)

/-- The session data and whether a session is established; without one the data is all zero. -/
def data (s : Session) : SessionData × Bool :=
  match s.established with
  | some d => (d, true)
  | none => (SessionData.zero, false)

/-- The key an encrypted handshake block is under: the setup key, or else the guest key. -/
def handshakeKey (s : Session) : Option Key :=
  match s.setupKey with
  | some k => some k
  | none => s.keys.bind (·.key? .guest)

/-- The session nonce and validation key starting at `offset` of handshake data. -/
def readData (raw : Bytes) (offset : Nat) : Except Fault SessionData :=
  if raw.length < offset + Envelope.sessionNonceSize then .error (.because .invalidHandshake)
  else
    let rest := raw.drop offset
    .ok ⟨rest.take Envelope.sessionNonceSize, rest.take Envelope.validationKeySize⟩

/-- Establishes the session from the device's session data, encrypted or bare. -/
def establish (s : Session) (raw : Bytes) (encrypted : Bool) : Except Fault Session := do
  if s.established.isSome then throw (.because .alreadyEstablished)
  let data ← if encrypted then do
      let some key := s.handshakeKey | throw (.because .noKeyForLevel)
      if raw.length < Envelope.blockSize then throw (.because .invalidHandshake)
      let block ← Envelope.ecb false key.bytes (raw.take Envelope.blockSize)
      if Bytes.toUInt32 block != magic then throw (.because .invalidHandshake)
      readData block 4
    else readData raw 0
  pure { s with established := some data }

/-- Installs the setup key; anything but sixteen bytes is refused. -/
def setSetupKey (s : Session) (raw : Bytes) : Except Fault Session :=
  match Key.ofBytes? raw with
  | some k => .ok { s with setupKey := some k }
  | none => .error (.because .invalidSetupKey)

/-- Forgets the session data and the setup key. -/
def clear (s : Session) : Session := { s with established := none, setupKey := none }

/-- The level and key a message at `level` is encrypted with. -/
def resolve (s : Session) (level : AccessLevel) : Except Fault (AccessLevel × Key) :=
  match s.setupKey, s.keys with
  | some k, _ => .ok (.setup, k)
  | none, none => .error (.because .noKeyForLevel)
  | none, some src =>
    if level = .highestAvailable then
      match src.highest? with
      | some r => .ok r
      | none => .error (.because .noKeyForLevel)
    else if !level.isRole then .error (.because .noKeyForLevel)
    else match src.key? level with
      | some k => .ok (level, k)
      | none => .error (.because .noKeyForLevel)

/-- Encrypts a message at a level, drawing its packet nonce; plain text needs no session. -/
def encrypt (s : Session) (payload : Bytes) (level : AccessLevel) : Except Fault Bytes × Session :=
  if level = .encryptionDisabled then (Envelope.passthrough payload, s)
  else match s.established with
    | none => (.error (.because .noSession), s)
    | some d => match s.resolve level with
      | .error e => (.error e, s)
      | .ok (lvl, key) =>
        let (r, rest) := Envelope.encrypt s.random payload d.sessionNonce d.validationKey
          key.bytes lvl
        (r, { s with random := rest })

/-- The key source incoming messages are opened with. -/
def openSource (s : Session) : KeySource :=
  match s.setupKey, s.keys with
  | some k, _ => .setup k
  | none, some src => src
  | none, none => .keys {}

/-- Opens an incoming envelope. -/
def decrypt (s : Session) (envelope : Bytes) : Except Fault Bytes :=
  match s.established with
  | none => .error (.because .noSession)
  | some d => Envelope.decrypt envelope d.sessionNonce d.validationKey (some s.openSource)

end Session

/-- The session data a device hands out: the nonce behind the magic word, encrypted under `key`;
with no key, the bare nonce. -/
def buildSessionBlock (sessionNonce key : Bytes) : Except Fault Bytes :=
  if sessionNonce.length ≠ Envelope.sessionNonceSize then .error (.because .badInput)
  else if key.isEmpty then .ok sessionNonce
  else
    Envelope.ecb true key
      (Bytes.padTo Envelope.blockSize (Bytes.ofUInt32 Session.magic ++ sessionNonce))

end StoneLink
