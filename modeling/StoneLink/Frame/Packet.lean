import StoneLink.Frame.Fields

/-!
# Packets

Control messages travel in packets: a header and a payload. A stream packet's header is the
type, the opcode and the payload length (16 bits, low byte first); an indexed packet has an
index byte after the type. Decoding checks, in order, that the header is there, that the opcode
is one of the four, and that the declared payload is there; bytes after the payload are ignored.

A result packet answers a request: its opcode is `result`, and its payload is a 16-bit result
code followed by data.
-/

namespace StoneLink.Frame

/-- What a packet asks for. -/
structure Opcode where
  /-- The wire value. -/
  code : UInt8
  deriving DecidableEq, Repr

namespace Opcode

/-- Read a value. -/
def read : Opcode := ⟨0⟩
/-- Write a value. -/
def write : Opcode := ⟨1⟩
/-- Announce a value. -/
def notify : Opcode := ⟨2⟩
/-- Answer a request. -/
def result : Opcode := ⟨3⟩

/-- Whether the opcode is one of the four. -/
def isValid (o : Opcode) : Bool := o.code ≤ 3

/-- The name of an opcode; others are written `Opcode(n)`. -/
def name (o : Opcode) : String :=
  match o.code.toNat with
  | 0 => "Read"
  | 1 => "Write"
  | 2 => "Notify"
  | 3 => "Result"
  | n => "Opcode(" ++ toString n ++ ")"

end Opcode

/-- The outcome a result packet reports. -/
structure ResultCode where
  /-- The wire value. -/
  code : UInt16
  deriving DecidableEq, Repr

/-- The name of a result code; others are written `ResultCode(n)`. -/
def ResultCode.name (r : ResultCode) : String :=
  match r.code.toNat with
  | 0 => "Success"
  | 1 => "WaitForSuccess"
  | 16 => "BufferUnassigned"
  | 17 => "BufferLocked"
  | 18 => "BufferTooSmall"
  | 32 => "WrongPayloadSize"
  | 33 => "WrongParameter"
  | 34 => "InvalidMessage"
  | 35 => "UnknownOpCode"
  | 36 => "UnknownType"
  | 37 => "NotFound"
  | 48 => "NoAccess"
  | 64 => "NotAvailable"
  | 65 => "NotImplemented"
  | 65535 => "Unspecified"
  | n => "ResultCode(" ++ toString n ++ ")"

/-- The largest payload a 16-bit length can declare. -/
def maxPayload : Nat := 65535

/-- A packet without an index. -/
structure StreamPacket where
  /-- The message type. -/
  type : UInt8
  /-- What the packet asks for. -/
  opcode : Opcode
  /-- The payload. -/
  payload : Bytes
  deriving DecidableEq

/-- A packet with an index byte. -/
structure IndexedPacket where
  /-- The message type. -/
  type : UInt8
  /-- The index. -/
  id : UInt8
  /-- What the packet asks for. -/
  opcode : Opcode
  /-- The payload. -/
  payload : Bytes
  deriving DecidableEq

/-- A header followed by a payload whose length fits 16 bits. -/
def frame (header payload : Bytes) : Except Fault Bytes :=
  if payload.length > maxPayload then .error (.because .payloadTooLarge)
  else .ok (header ++ Bytes.ofUInt16 payload.length.toUInt16 ++ payload)

/-- The payload after a header of `size` bytes whose opcode is at `opcodeAt`. -/
def unframe (size opcodeAt : Nat) (data : Bytes) : Except Fault Bytes :=
  if data.length < size then .error (.because .undersized)
  else if data.getD opcodeAt 0 > 3 then .error (.because .unknownVariant)
  else
    let n := (Bytes.toUInt16 (data.drop (size - 2))).toNat
    if n > data.length - size then .error (.because .truncated)
    else .ok ((data.drop size).take n)

namespace StreamPacket

/-- The bytes of a packet. -/
def encode (p : StreamPacket) : Except Fault Bytes := frame [p.type, p.opcode.code] p.payload

/-- The packet at the front of some bytes. -/
def decode (data : Bytes) : Except Fault StreamPacket := do
  let payload ← unframe 4 1 data
  pure ⟨data.getD 0 0, ⟨data.getD 1 0⟩, payload⟩

/-- The result code and data of a result payload. -/
def result (p : StreamPacket) : Except Fault (ResultCode × Bytes) :=
  if p.payload.length < 2 then .error (.because .truncated)
  else .ok (⟨Bytes.toUInt16 p.payload⟩, p.payload.drop 2)

end StreamPacket

/-- The result packet of a type, a code and data. -/
def resultPacket (type : UInt8) (code : ResultCode) (data : Bytes) : StreamPacket :=
  ⟨type, .result, Bytes.ofUInt16 code.code ++ data⟩

namespace IndexedPacket

/-- The bytes of a packet. -/
def encode (p : IndexedPacket) : Except Fault Bytes :=
  frame [p.type, p.id, p.opcode.code] p.payload

/-- The packet at the front of some bytes. -/
def decode (data : Bytes) : Except Fault IndexedPacket := do
  let payload ← unframe 5 2 data
  pure ⟨data.getD 0 0, data.getD 1 0, ⟨data.getD 2 0⟩, payload⟩

end IndexedPacket

end StoneLink.Frame
