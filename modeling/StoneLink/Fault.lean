/-!
# Faults

Every operation of the library that can fail returns a `Fault`. A fault carries at most one
*cause*, the reason a caller can test for, and a message for people.

Faults travel upwards and pick up context on the way: a label in front
(`connection: handshake: …`) or a note behind a cause (`broadcast: unknown sphere: "home"`).
The cause of a labelled fault is the cause inside it, so a caller that tests for
`Cause.invalidHandshake` finds it however deep the handshake failure was reported.
-/

namespace StoneLink

/-- The reasons for failure that callers can tell apart. Each has one fixed text. -/
inductive Cause where
  /-- An envelope input has the wrong size or is empty. -/
  | badInput
  /-- No key serves the access level an envelope names. -/
  | noKeyForLevel
  /-- An opened envelope does not start with the session's validation key. -/
  | validationMismatch
  /-- Key material is not exactly sixteen bytes. -/
  | invalidKey
  /-- A sphere has no key for the requested use. -/
  | noKeyAvailable
  /-- A sphere is not in the store. -/
  | sphereNotFound
  /-- A derivation secret is shorter than a key. -/
  | masterTooShort
  /-- An access level name is not one of the known names. -/
  | unknownAccessLevel
  /-- A frame is shorter than its header. -/
  | undersized
  /-- A frame or field declares more bytes than there are. -/
  | truncated
  /-- A frame names an opcode that does not exist. -/
  | unknownVariant
  /-- A frame payload does not fit a 16-bit length. -/
  | payloadTooLarge
  /-- A value is longer than its field. -/
  | fieldTooLong
  /-- A message needs more than 255 notification parts. -/
  | tooManyParts
  /-- A notification part size is below one. -/
  | invalidChunkSize
  /-- The session is not established. -/
  | noSession
  /-- The session is established already. -/
  | alreadyEstablished
  /-- The handshake data cannot be read. -/
  | invalidHandshake
  /-- A setup key is not sixteen bytes. -/
  | invalidSetupKey
  /-- A sphere lacks a key that a broadcast needs. -/
  | noSphereKey
  /-- A broadcast names a sphere that is not known. -/
  | unknownSphere
  /-- A broadcast command payload is longer than eleven bytes. -/
  | commandTooLarge
  /-- A broadcast field does not fit its bits. -/
  | fieldRange
  /-- Broadcast header words are missing or repeat a tag. -/
  | badSequence
  /-- The radio is not available. -/
  | radioNotReady
  /-- A newer command for the same target replaced this one. -/
  | superseded
  /-- A broadcast command cannot be encoded. -/
  | invalidCommand
  /-- A connection was made without a peripheral. -/
  | noPeripheral
  /-- A connection mode is neither normal nor setup. -/
  | invalidMode
  /-- A write needs an established session. -/
  | notConnected
  /-- The peripheral has no such service or characteristic. -/
  | characteristicNotFound
  /-- The peripheral is disconnected. -/
  | disconnected
  /-- A settings text cannot be read. -/
  | unreadableSettings
  /-- A byte source is empty. -/
  | endOfInput
  /-- A byte source ends in the middle of a read. -/
  | unexpectedEnd
  /-- The caller gave up waiting. -/
  | cancelled
  /-- The time allowed for an answer ran out. -/
  | deadlineExceeded
  deriving DecidableEq, Repr

/-- The fixed text of each cause. -/
def Cause.message : Cause → String
  | .badInput => "crypto: bad input"
  | .noKeyForLevel => "crypto: no key for access level"
  | .validationMismatch => "crypto: validation key mismatch"
  | .invalidKey => "keys: key must be 16 bytes"
  | .noKeyAvailable => "keys: no key available"
  | .sphereNotFound => "keys: sphere not found"
  | .masterTooShort => "keys: master secret too short"
  | .unknownAccessLevel => "keys: unknown access level"
  | .undersized => "packet: buffer shorter than header"
  | .truncated => "packet: declared length exceeds buffer"
  | .unknownVariant => "packet: unknown variant"
  | .payloadTooLarge => "packet: payload exceeds 16-bit length"
  | .fieldTooLong => "packet: value exceeds fixed field width"
  | .tooManyParts => "multipart: message needs more than 255 parts"
  | .invalidChunkSize => "multipart: chunk size must be positive"
  | .noSession => "session: no session established"
  | .alreadyEstablished => "session: already established"
  | .invalidHandshake => "session: invalid session data"
  | .invalidSetupKey => "session: invalid setup key"
  | .noSphereKey => "broadcast: no key for sphere"
  | .unknownSphere => "broadcast: unknown sphere"
  | .commandTooLarge => "broadcast: payload exceeds 11 bytes"
  | .fieldRange => "broadcast: field out of range"
  | .badSequence => "broadcast: bad header sequence"
  | .radioNotReady => "broadcast: bluetooth not ready"
  | .superseded => "broadcast: superseded by newer command"
  | .invalidCommand => "broadcast: invalid command"
  | .noPeripheral => "connection: no peripheral"
  | .invalidMode => "connection: invalid mode"
  | .notConnected => "connection: not connected"
  | .characteristicNotFound => "ble: characteristic not found"
  | .disconnected => "ble: disconnected"
  | .unreadableSettings => "parsing config file"
  | .endOfInput => "EOF"
  | .unexpectedEnd => "unexpected EOF"
  | .cancelled => "context canceled"
  | .deadlineExceeded => "context deadline exceeded"

/-- Every cause, in the order of declaration. -/
def Cause.all : List Cause :=
  [.badInput, .noKeyForLevel, .validationMismatch, .invalidKey, .noKeyAvailable, .sphereNotFound,
   .masterTooShort, .unknownAccessLevel, .undersized, .truncated, .unknownVariant,
   .payloadTooLarge, .fieldTooLong, .tooManyParts, .invalidChunkSize, .noSession,
   .alreadyEstablished, .invalidHandshake, .invalidSetupKey, .noSphereKey, .unknownSphere,
   .commandTooLarge, .fieldRange, .badSequence, .radioNotReady, .superseded, .invalidCommand,
   .noPeripheral, .invalidMode, .notConnected, .characteristicNotFound, .disconnected,
   .endOfInput, .unexpectedEnd, .cancelled, .deadlineExceeded, .unreadableSettings]

theorem Cause.mem_all (c : Cause) : c ∈ Cause.all := by
  cases c <;> simp [Cause.all]

/-- A failure: a cause, a cause with a note, a fault behind a label, or a message alone. -/
inductive Fault where
  /-- A cause on its own. -/
  | because (c : Cause)
  /-- A cause followed by a note, written `cause: note`. -/
  | noted (c : Cause) (note : String)
  /-- A fault behind a context label, written `label: fault`. -/
  | within (label : String) (inner : Fault)
  /-- A failure that has a message and no cause. -/
  | other (text : String)
  /-- A breakdown of the program itself rather than a failure it reports. -/
  | crash (text : String)
  deriving DecidableEq, Repr

namespace Fault

/-- The text of a fault: labels first, outermost first, then the cause and its note. -/
def message : Fault → String
  | .because c => c.message
  | .noted c note => c.message ++ ": " ++ note
  | .within label inner => label ++ ": " ++ inner.message
  | .other text => text
  | .crash text => text

/-- The cause of a fault, found through its labels. -/
def cause? : Fault → Option Cause
  | .because c => some c
  | .noted c _ => some c
  | .within _ inner => inner.cause?
  | .other _ => none
  | .crash _ => none

@[simp] theorem cause?_within (label : String) (f : Fault) :
    (Fault.within label f).cause? = f.cause? := rfl

end Fault

/-- Puts a label in front of the fault of a failed result; a success passes unchanged. -/
def withLabel {α : Type} (label : String) : Except Fault α → Except Fault α
  | .error f => .error (.within label f)
  | .ok a => .ok a

end StoneLink
