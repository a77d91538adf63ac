import StoneLink.Fault

/-!
# Connection modes

A device is reached in one of two modes. In normal mode the handshake block is encrypted with
the guest key of the sphere; a device in setup mode has no sphere yet, hands out its session
nonce bare and then an ephemeral setup key. Each mode has its own service and characteristics,
so a connection in one mode finds nothing on a device serving the other.

Mode numbers other than those of the two modes are refused by a connection; a device, which only
compares its number with that of setup mode, serves the normal characteristics for them.
-/

namespace StoneLink.Link

/-- How the handshake is done: with the keys of a sphere, or with the setup key. -/
inductive Mode
  | normal
  | setup
  deriving DecidableEq, Repr

namespace Mode

/-- The mode a number names: 0 is normal and 1 setup. -/
def ofCode? : Int → Option Mode
  | 0 => some .normal
  | 1 => some .setup
  | _ => none

/-- The name of a mode. -/
def name : Mode → String
  | .normal => "Normal"
  | .setup => "Setup"

/-- The name of a mode number; a number of no mode is `Unknown`. -/
def nameOf (code : Int) : String :=
  match ofCode? code with
  | some m => m.name
  | none => "Unknown"

/-- The mode whose characteristics a mode number selects: only the number of setup mode selects
the setup set. -/
def serving (code : Int) : Mode := if code = 1 then .setup else .normal

/-- A number that names a mode selects that mode's characteristics. -/
theorem serving_ofCode (code : Int) (m : Mode) (h : ofCode? code = some m) : serving code = m := by
  unfold ofCode? at h
  split at h <;> simp_all [serving]

end Mode

/-- The characteristics of the service of a mode. -/
inductive Characteristic
  /-- The handshake data. -/
  | session
  /-- Where packets are written. -/
  | control
  /-- Where results are notified. -/
  | result
  /-- The setup key, in setup mode only. -/
  | setupKey
  deriving DecidableEq, Repr

/-- The identifiers of a mode's service and characteristics, as text. -/
structure Identifiers where
  /-- The service. -/
  service : String
  /-- The handshake data. -/
  session : String
  /-- Where packets are written. -/
  control : String
  /-- Where results are notified. -/
  result : String
  /-- The setup key; all zeros in normal mode, which has none. -/
  setupKey : String
  deriving DecidableEq, Repr

/-- The identifiers each mode uses. -/
def Identifiers.ofMode : Mode → Identifiers
  | .normal =>
    { service := "24f00000-7d10-4805-bfc1-7663a01c3bff"
      session := "24f0000e-7d10-4805-bfc1-7663a01c3bff"
      control := "24f0000c-7d10-4805-bfc1-7663a01c3bff"
      result := "24f0000d-7d10-4805-bfc1-7663a01c3bff"
      setupKey := "00000000-0000-0000-0000-000000000000" }
  | .setup =>
    { service := "24f10000-7d10-4805-bfc1-7663a01c3bff"
      session := "24f1000e-7d10-4805-bfc1-7663a01c3bff"
      control := "24f1000c-7d10-4805-bfc1-7663a01c3bff"
      result := "24f1000d-7d10-4805-bfc1-7663a01c3bff"
      setupKey := "24f10003-7d10-4805-bfc1-7663a01c3bff" }

end StoneLink.Link
