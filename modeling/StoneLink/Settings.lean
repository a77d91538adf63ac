import StoneLink.Key.Store
import StoneLink.Broadcast.Background
import StoneLink.Text.ByteText

/-!
# Settings

The settings of the tools: a log level, the spheres with their keys written in hexadecimal, and
the broadcast section. Settings start from defaults (level `info`, an interval of 500 ms, three
retries, no spheres) and a settings file overrides what it names.

Validation checks, in order: the log level; for each sphere a non-empty id, ids and short ids
not used before, and keys that read as sixteen bytes each; then a positive interval, retries not
below zero, and a location and profile that fit their bits. The first failure is reported. The
key store of the settings holds every sphere; a sphere whose keys do not read stops it.
-/

namespace StoneLink

/-- The detail of log messages, from none to all. -/
inductive LogLevel
  | disabled
  | error
  | warn
  | info
  | debug
  | trace
  deriving DecidableEq, Repr

namespace LogLevel

/-- The number of a level: 0 for none up to 5 for all. -/
def code : LogLevel → Nat
  | .disabled => 0
  | .error => 1
  | .warn => 2
  | .info => 3
  | .debug => 4
  | .trace => 5

/-- The name of a level. -/
def name : LogLevel → String
  | .disabled => "Disabled"
  | .error => "Error"
  | .warn => "Warn"
  | .info => "Info"
  | .debug => "Debug"
  | .trace => "Trace"

/-- The level a word names: `trace`, `debug`, `info`, `warn`, `error` or `disabled`. -/
def ofWord? : String → Option LogLevel
  | "trace" => some .trace
  | "debug" => some .debug
  | "info" => some .info
  | "warn" => some .warn
  | "error" => some .error
  | "disabled" => some .disabled
  | _ => none

/-- The level a settings value names. A value that is not one of the six words is refused and
shown quoted byte for byte. -/
def parse (t : ByteText) : Except Fault LogLevel :=
  match ofWord? t.toString with
  | some l => .ok l
  | none => .error (.other
    ("log_level must be trace, debug, info, warn, error or disabled, got " ++ t.quote))

end LogLevel

namespace Settings

/-- The keys of a sphere in hexadecimal; an empty text means no key. -/
structure KeyTexts where
  /-- The admin key. -/
  admin : String := ""
  /-- The member key. -/
  member : String := ""
  /-- The guest key. -/
  guest : String := ""
  /-- The service data key. -/
  serviceData : String := ""
  /-- The localization key. -/
  localization : String := ""
  deriving DecidableEq, Repr

/-- One sphere of the settings. -/
structure SphereEntry where
  /-- The sphere id. -/
  id : ByteText := ⟨[]⟩
  /-- The one-byte id used in broadcasts. -/
  shortId : UInt8 := 0
  /-- The keys. -/
  keys : KeyTexts := {}
  deriving DecidableEq, Repr

/-- The broadcast section. -/
structure BroadcastSection where
  /-- The time each broadcast window lasts, in milliseconds. -/
  intervalMs : Int := 500
  /-- How often a command is sent again. -/
  retries : Int := 3
  /-- The token of this phone. -/
  deviceToken : UInt8 := 0
  /-- The room of this phone. -/
  locationId : UInt8 := 0
  /-- The profile of the user. -/
  profileId : UInt8 := 0
  /-- The correction to the signal strength. -/
  rssiOffset : Int := 0
  /-- Whether tapping toggles a device. -/
  tapToToggle : Bool := false
  /-- Whether devices leave this phone out of their behaviour. -/
  ignoreForBehaviour : Bool := false
  deriving DecidableEq, Repr

end Settings

/-- The settings of the tools. -/
structure Settings where
  /-- The log level word. -/
  logLevel : ByteText := .ofString "info"
  /-- The spheres. -/
  spheres : List Settings.SphereEntry := []
  /-- The broadcast section. -/
  broadcast : Settings.BroadcastSection := {}
  deriving DecidableEq, Repr

namespace Settings

/-- The keys of a sphere with the role names they are written under, in order. -/
def KeyTexts.entries (k : KeyTexts) : List (String × String) :=
  [("admin", k.admin), ("member", k.member), ("guest", k.guest), ("service_data", k.serviceData),
   ("localization", k.localization)]

/-- Reads one key text under its role name; an empty text is no key. -/
def readKey (role text : String) : Except Fault (Option Key) :=
  if text.isEmpty then .ok none
  else match Key.parse text with
    | .ok k => .ok (some k)
    | .error f => .error (.within ("keys." ++ role) f)

/-- The key set the texts of a sphere stand for; the first key that does not read stops it. -/
def SphereEntry.keySet (s : SphereEntry) : Except Fault KeySet := do
  let admin ← readKey "admin" s.keys.admin
  let member ← readKey "member" s.keys.member
  let guest ← readKey "guest" s.keys.guest
  let serviceData ← readKey "service_data" s.keys.serviceData
  let localization ← readKey "localization" s.keys.localization
  return { admin, member, guest, serviceData, localization }

/-- The sphere entry of a key set: every key written in hexadecimal. -/
def SphereEntry.ofKeySet (id : String) (shortId : UInt8) (ks : KeySet) : SphereEntry :=
  let text (k : Option Key) := (k.map Key.toHex).getD ""
  { id := .ofString id, shortId, keys := ⟨text ks.admin, text ks.member, text ks.guest, text ks.serviceData,
      text ks.localization⟩ }

/-- Checks the spheres from the `i`-th on, given the ids and short ids used before. -/
def checkSpheres : Nat → List ByteText → List (UInt8 × ByteText) → List SphereEntry →
    Except Fault Unit
  | _, _, _, [] => .ok ()
  | i, ids, shorts, s :: rest =>
    let at_ := "spheres[" ++ toString i ++ "]"
    if s.id.isEmpty then .error (.other (at_ ++ ".id must not be empty"))
    else if ids.contains s.id then
      .error (.other (at_ ++ ": duplicate sphere id " ++ s.id.quote))
    else match shorts.lookup s.shortId with
      | some other =>
        .error (.other (at_ ++ ": short_id " ++ toString s.shortId.toNat ++ " already used by " ++
          other.quote))
      | none =>
        match s.keySet with
        | .error f => .error (.within at_ f)
        | .ok _ => checkSpheres (i + 1) (s.id :: ids) ((s.shortId, s.id) :: shorts) rest

/-- Checks the settings; the first problem found is the answer. -/
def validate (c : Settings) : Except Fault Unit := do
  let _ ← LogLevel.parse c.logLevel
  checkSpheres 0 [] [] c.spheres
  let b := c.broadcast
  if b.intervalMs ≤ 0 then throw (.other "broadcast.interval_ms must be > 0")
  if b.retries < 0 then throw (.other "broadcast.retries must be >= 0")
  if b.locationId.toNat > Broadcast.maxLocationId then
    throw (.other ("broadcast.location_id must be <= " ++ toString Broadcast.maxLocationId ++
      ", got " ++ toString b.locationId.toNat))
  if b.profileId.toNat > Broadcast.maxProfileId then
    throw (.other ("broadcast.profile_id must be <= " ++ toString Broadcast.maxProfileId ++
      ", got " ++ toString b.profileId.toNat))

/-- The key store of the settings, every sphere put in order. -/
def store (c : Settings) : Except Fault Store :=
  c.spheres.foldlM (fun st s =>
    match s.keySet with
    | .ok ks => .ok (st.put ⟨s.id, s.shortId, ks⟩)
    | .error f => .error (.within ("sphere " ++ s.id.quote) f)) {}

/-- The broadcast window length in nanoseconds, as a signed 64-bit count that wraps. -/
def BroadcastSection.intervalNanos (b : BroadcastSection) : Int :=
  (Int64.ofInt (b.intervalMs * 1000000)).toInt

/-- The background the broadcast section describes. -/
def BroadcastSection.background (b : BroadcastSection) : Broadcast.Background where
  locationId := b.locationId
  profileId := b.profileId
  rssiOffset := b.rssiOffset
  tapToToggle := b.tapToToggle
  ignoreForBehaviour := b.ignoreForBehaviour

end Settings

end StoneLink
