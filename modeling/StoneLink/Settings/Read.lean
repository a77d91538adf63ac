import StoneLink.Settings
import StoneLink.Yaml.Decode

/-!
# Reading settings

Settings are read from YAML on top of the defaults. Each section is a record whose fields are
named in snake case; unknown fields are ignored, and a field given twice is an error. The sphere
list is built from fresh entries, so a sphere does not inherit anything from the defaults or
from another sphere. A text that is not YAML, or whose values do not fit, is refused as a whole
with the reader's message.
-/

namespace StoneLink.Settings

open StoneLink.Yaml

/-- A field read with its own reader from the value the record holds. -/
def field {α β : Type} (fuel : Nat) (into : Into β) (get : α → β) (put : α → β → α) :
    Option (Node → α → Decode α) :=
  some fun n v => do
    let (x, _) ← Decode.unmarshal fuel into n (get v)
    pure (put v x)

/-- How the keys of a sphere are read. -/
def keyTextsInto : Into KeyTexts where
  name := "config.KeysConfig"
  fields := some fun fuel key =>
    match key with
    | "admin" => field fuel Decode.text (·.admin) fun k s => { k with admin := s }
    | "member" => field fuel Decode.text (·.member) fun k s => { k with member := s }
    | "guest" => field fuel Decode.text (·.guest) fun k s => { k with guest := s }
    | "service_data" =>
      field fuel Decode.text (·.serviceData) fun k s => { k with serviceData := s }
    | "localization" =>
      field fuel Decode.text (·.localization) fun k s => { k with localization := s }
    | _ => none

/-- How a sphere is read. -/
def sphereInto : Into SphereEntry where
  name := "config.SphereConfig"
  fields := some fun fuel key =>
    match key with
    | "id" => field fuel Decode.byteText (·.id) fun s v => { s with id := v }
    | "short_id" => field fuel Decode.byte (·.shortId) fun s v => { s with shortId := v }
    | "keys" => field fuel keyTextsInto (·.keys) fun s v => { s with keys := v }
    | _ => none

/-- How the broadcast section is read. -/
def broadcastInto : Into BroadcastSection where
  name := "config.BroadcastConfig"
  fields := some fun fuel key =>
    match key with
    | "interval_ms" => field fuel Decode.int64 (·.intervalMs) fun b v => { b with intervalMs := v }
    | "retries" => field fuel Decode.int64 (·.retries) fun b v => { b with retries := v }
    | "device_token" =>
      field fuel Decode.byte (·.deviceToken) fun b v => { b with deviceToken := v }
    | "location_id" => field fuel Decode.byte (·.locationId) fun b v => { b with locationId := v }
    | "profile_id" => field fuel Decode.byte (·.profileId) fun b v => { b with profileId := v }
    | "rssi_offset" => field fuel Decode.int64 (·.rssiOffset) fun b v => { b with rssiOffset := v }
    | "tap_to_toggle" =>
      field fuel Decode.flag (·.tapToToggle) fun b v => { b with tapToToggle := v }
    | "ignore_for_behaviour" =>
      field fuel Decode.flag (·.ignoreForBehaviour) fun b v => { b with ignoreForBehaviour := v }
    | _ => none

/-- How the settings are read. -/
def settingsInto : Into Settings where
  name := "config.Config"
  fields := some fun fuel key =>
    match key with
    | "log_level" =>
      field fuel Decode.byteText (·.logLevel) fun c v => { c with logLevel := v }
    | "spheres" =>
      field fuel (Decode.list "[]config.SphereConfig" sphereInto {}) (·.spheres)
        fun c v => { c with spheres := v }
    | "broadcast" => field fuel broadcastInto (·.broadcast) fun c v => { c with broadcast := v }
    | _ => none

/-- Reads settings from a YAML text on top of the defaults. -/
def parse (text : String) : Except Fault Settings :=
  match readAs settingsInto text {} with
  | .ok c => .ok c
  | .error (.unhashable t early) => .error (.crash (ReadError.unhashable t early).message)
  | .error e => .error (.noted .unreadableSettings e.message)

end StoneLink.Settings
