import StoneLink.Bytes
import StoneLink.Fault

/-!
# Broadcast commands

The encrypted part of a broadcast is one sixteen-byte command block:

  validation time stamp (4, low byte first) | command type (1) | payload (11, zero padded)

A switch payload is a count followed by (stone, value) pairs, at most five of them; a set-time
payload is the Unix time and a behaviour-settings payload is 1 or 0, both as four bytes low byte
first.

Commands are queued by *kind*: switching, setting the time, or behaviour settings. Each kind is
sent as one command type; switch commands of one sphere share a block, up to five at a time.
-/

namespace StoneLink.Broadcast

/-- The largest payload of a command block. -/
def maxPayload : Nat := 11

/-- The largest number of switch items in one payload. -/
def maxSwitchItems : Nat := (maxPayload - 1) / 2

/-- The type byte of a command block. -/
structure CommandType where
  /-- The wire value. -/
  code : UInt8
  deriving DecidableEq, Repr

namespace CommandType

/-- No command. -/
def noOp : CommandType := ⟨0⟩
/-- Switch several stones. -/
def multiSwitch : CommandType := ⟨1⟩
/-- Set the clock. -/
def setTime : CommandType := ⟨2⟩
/-- Turn behaviour on or off. -/
def behaviourSettings : CommandType := ⟨3⟩

/-- Whether the type is one of the four. -/
def isValid (c : CommandType) : Bool := c.code ≤ 3

/-- The name of a type; others are written `CommandType(n)`. -/
def name (c : CommandType) : String :=
  match c.code.toNat with
  | 0 => "NoOp"
  | 1 => "MultiSwitch"
  | 2 => "SetTime"
  | 3 => "BehaviourSettings"
  | n => "CommandType(" ++ toString n ++ ")"

end CommandType

/-- What a queued command does: 0 switches, 1 sets the time, 2 sets behaviour; any other number
is not a kind a queue accepts. -/
structure Kind where
  /-- The number of the kind. -/
  code : Int
  deriving DecidableEq, Repr

namespace Kind

/-- Switching stones. -/
def switch : Kind := ⟨0⟩
/-- Setting the time. -/
def setTime : Kind := ⟨1⟩
/-- Behaviour settings. -/
def behaviourSettings : Kind := ⟨2⟩

/-- Whether the kind is one of the three. -/
def isValid (k : Kind) : Bool := 0 ≤ k.code && k.code ≤ 2

/-- The name of a kind; others are written `Kind(n)`. -/
def name (k : Kind) : String :=
  match k.code with
  | 0 => "Switch"
  | 1 => "SetTime"
  | 2 => "BehaviourSettings"
  | n => "Kind(" ++ toString n ++ ")"

/-- The command type a kind is sent as; other kinds map to no command. -/
def commandType (k : Kind) : CommandType :=
  match k.code with
  | 0 => .multiSwitch
  | 1 => .setTime
  | 2 => .behaviourSettings
  | _ => .noOp

/-- Whether commands of the kind share a block. -/
def batches (k : Kind) : Bool := k.code == 0

end Kind

/-- The plain command block of a broadcast. -/
structure CommandPacket where
  /-- The time stamp the receiver checks. -/
  validationTimestamp : UInt32
  /-- The command type. -/
  type : CommandType
  /-- The payload. -/
  payload : Bytes
  deriving DecidableEq

namespace CommandPacket

/-- The sixteen bytes of a command; a payload over eleven bytes is refused. -/
def encode (p : CommandPacket) : Except Fault Bytes :=
  if p.payload.length > maxPayload then .error (.because .commandTooLarge)
  else .ok (Bytes.ofUInt32 p.validationTimestamp ++ [p.type.code] ++
    Bytes.padTo maxPayload p.payload)

/-- The command of sixteen bytes; the payload is all eleven payload bytes. -/
def decode (b : Bytes) : CommandPacket :=
  ⟨Bytes.toUInt32 b, ⟨b.getD 4 0⟩, Bytes.padTo maxPayload ((b.drop 5).take maxPayload)⟩

end CommandPacket

/-- One stone to switch and the value to switch it to. -/
structure SwitchItem where
  /-- The stone. -/
  stoneId : UInt8
  /-- The value, 0 to 100. -/
  value : UInt8
  deriving DecidableEq, Repr

/-- The payload of a switch command; more than five items are refused. -/
def encodeSwitch (items : List SwitchItem) : Except Fault Bytes :=
  if items.length > maxSwitchItems then .error (.because .commandTooLarge)
  else .ok (items.length.toUInt8 :: items.flatMap fun it => [it.stoneId, it.value])

/-- The items of a switch payload. -/
def decodeSwitch (b : Bytes) : Except Fault (List SwitchItem) :=
  match b with
  | [] => .error (.noted .invalidCommand "empty switch payload")
  | n :: rest =>
    if n.toNat > maxSwitchItems ∨ rest.length < 2 * n.toNat then
      .error (.noted .invalidCommand ("switch count " ++ toString n.toNat))
    else .ok ((List.range n.toNat).map fun i => ⟨rest.getD (2 * i) 0, rest.getD (2 * i + 1) 0⟩)

/-- The payload of a set-time command. -/
def setTimePayload (unix : UInt32) : Bytes := Bytes.ofUInt32 unix

/-- The payload of a behaviour-settings command. -/
def behaviourPayload (enabled : Bool) : Bytes := Bytes.ofUInt32 (if enabled then 1 else 0)

end StoneLink.Broadcast
