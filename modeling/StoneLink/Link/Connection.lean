import StoneLink.Link.Device

/-!
# Connections

A connection is the encrypted control channel to one device: a mode and a session. Connecting
reads the device's handshake data and establishes the session; in setup mode it then reads the
setup key and installs it, clearing the session again if that fails.

A packet is sealed before it is sent: it needs an established session unless it goes in plain
text, and encrypting it draws a packet nonce from the session's byte source. A request then
listens on the result characteristic, writes the packet and reassembles the notified parts into
messages. A message that does not open or read is passed over, and so is a packet that is not a
result of the request's type; a request that finds no such result runs out of time. Messages
sent in plain text come back in plain text.

Every operation gives the connection and the device afterwards, and its outcome; failures are
labelled with the step that failed.
-/

namespace StoneLink.Link

open StoneLink.Frame

/-- The control channel to one device. -/
structure Connection where
  /-- The mode of the handshake. -/
  mode : Mode
  /-- The security state. -/
  session : Session
  deriving DecidableEq

namespace Connection

/-- A new connection: it needs a device, and a mode number that names a mode. -/
def create (hasDevice : Bool) (modeCode : Int) (keys : Option KeySource) (random : Bytes) :
    Except Fault Connection :=
  if !hasDevice then .error (.because .noPeripheral)
  else match Mode.ofCode? modeCode with
    | none => .error (.because .invalidMode)
    | some mode => .ok ⟨mode, { keys, random }⟩

/-- Establishes the session with a peripheral whose characteristics `read` reads, reading the
setup key too in setup mode. -/
def handshake (c : Connection) (read : Characteristic → Except Fault Bytes) :
    Connection × Except Fault Unit :=
  match read .session with
  | .error f => (c, .error (.within "connection: read session data" f))
  | .ok raw =>
    match c.session.establish raw (c.mode = .normal) with
    | .error f => (c, .error (.within "connection: handshake" f))
    | .ok s =>
      if c.mode = .setup then
        match read .setupKey with
        | .error f =>
          ({ c with session := s.clear }, .error (.within "connection: read setup key" f))
        | .ok key =>
          match s.setSetupKey key with
          | .error f => ({ c with session := s.clear }, .error (.within "connection" f))
          | .ok s => ({ c with session := s }, .ok ())
      else ({ c with session := s }, .ok ())

/-- Establishes the session with a device, on the service of the connection's mode. -/
def connect (c : Connection) (d : Device) : Connection × Except Fault Unit :=
  c.handshake (d.read c.mode)

/-- The bytes of a packet at a level, and the connection after drawing a packet nonce. -/
def envelope (c : Connection) (pkt : StreamPacket) (level : AccessLevel) :
    Except Fault Bytes × Connection :=
  if c.session.established.isNone && level ≠ .encryptionDisabled then
    (.error (.because .notConnected), c)
  else match pkt.encode with
    | .error f => (.error (.within "connection: encode" f), c)
    | .ok plain =>
      let (r, s) := c.session.encrypt plain level
      (withLabel "connection: encrypt" r, { c with session := s })

/-- Writes a packet at a level to the control characteristic. -/
def write (c : Connection) (d : Device) (pkt : StreamPacket) (level : AccessLevel) :
    Connection × Device × Except Fault Unit :=
  match c.envelope pkt level with
  | (.error f, c) => (c, d, .error f)
  | (.ok data, c) =>
    let (r, d) := d.receive c.mode data
    (c, d, (withLabel "connection: write control" r).map fun _ => ())

/-- The messages that notified parts make, in order. -/
def reassemble (parts : List Bytes) : List Bytes :=
  (parts.foldl (fun (r, out) part =>
    let (r, msg) := Multipart.Reassembler.feed r part
    (r, out ++ msg.toList)) (({} : Multipart.Reassembler), [])).2

/-- The packet a result message holds, opened unless the request went in plain text. -/
def openMessage (c : Connection) (msg : Bytes) (level : AccessLevel) : Option StreamPacket :=
  let plain := if level = .encryptionDisabled then .ok msg else c.session.decrypt msg
  match plain with
  | .error _ => none
  | .ok p => (StreamPacket.decode p).toOption

/-- The result a message gives a request of a type, if it is one. -/
def accept (c : Connection) (type : UInt8) (level : AccessLevel) (msg : Bytes) :
    Option StreamPacket :=
  match c.openMessage msg level with
  | some res => if res.opcode = .result && res.type = type then some res else none
  | none => none

/-- Sends a packet at a level and waits for the result of its type. -/
def request (c : Connection) (d : Device) (pkt : StreamPacket) (level : AccessLevel) :
    Connection × Device × Except Fault StreamPacket :=
  match c.envelope pkt level with
  | (.error f, c) => (c, d, .error f)
  | (.ok data, c) =>
    match d.check c.mode with
    | .error f => (c, d, .error (.within "connection: subscribe result" f))
    | .ok () =>
      match d.receive c.mode data with
      | (.error f, d) => (c, d, .error (.within "connection: write control" f))
      | (.ok parts, d) =>
        match (reassemble parts).findSome? (c.accept pkt.type level) with
        | some res => (c, d, .ok res)
        | none =>
          (c, d, .error (.within "connection: waiting for result" (.because .deadlineExceeded)))

/-- Clears the session and closes the link. -/
def disconnect (c : Connection) (d : Device) : Connection × Device :=
  ({ c with session := c.session.clear }, { d with disconnected := true })

end Connection

/-- What can be done to a connection and its device. -/
inductive Action
  /-- Run the handshake. -/
  | connect
  /-- Write a packet at a level. -/
  | write (pkt : StreamPacket) (level : AccessLevel)
  /-- Send a packet at a level and wait for its result. -/
  | request (pkt : StreamPacket) (level : AccessLevel)
  /-- Close the link from the connection's side. -/
  | disconnect
  /-- Close the link from the device's side. -/
  | deviceDisconnect
  /-- Lose the next notifications. -/
  | dropNext (n : Nat)
  /-- Only look. -/
  | observe
  deriving DecidableEq

/-- Performs an action: the connection and device after it, and the result it brought. -/
def Action.perform (c : Connection) (d : Device) :
    Action → Connection × Device × Except Fault (Option StreamPacket)
  | .connect => let (c, r) := c.connect d; (c, d, r.map fun _ => none)
  | .write pkt level => let (c, d, r) := c.write d pkt level; (c, d, r.map fun _ => none)
  | .request pkt level => let (c, d, r) := c.request d pkt level; (c, d, r.map some)
  | .disconnect => let (c, d) := c.disconnect d; (c, d, .ok none)
  | .deviceDisconnect => (c, { d with disconnected := true }, .ok none)
  | .dropNext n => (c, { d with dropNext := n }, .ok none)
  | .observe => (c, d, .ok none)

end StoneLink.Link
