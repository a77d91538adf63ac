import StoneLink.Cipher.Sha256
import StoneLink.Key.Basic

/-!
# Deriving a sphere's keys

All five keys of a sphere come from one master secret of at least sixteen bytes. Each is the
first sixteen bytes of HKDF-SHA256 of the secret, without salt, under the context text
`crownstone:<sphere id>:<role>`, so a key of one sphere and role says nothing about another.
-/

namespace StoneLink.Key

/-- The role names the derivation context uses, in the order the keys are derived. -/
def roles : List String := ["admin", "member", "guest", "service_data", "localization"]

/-- The key of one role of a sphere. -/
def deriveRole (master : Bytes) (sphereId role : String) : Key :=
  let b := Cipher.Sha256.hkdf master [] ("crownstone:" ++ sphereId ++ ":" ++ role).toUTF8.toList 16
  match ofBytes? b with
  | some k => k
  | none => zero

/-- The five keys of a sphere; a master secret shorter than a key is refused. -/
def derive (master : Bytes) (sphereId : String) : Except Fault KeySet :=
  if master.length < 16 then .error (.because .masterTooShort)
  else
    let k := deriveRole master sphereId
    .ok { admin := k "admin", member := k "member", guest := k "guest",
          serviceData := k "service_data", localization := k "localization" }

end StoneLink.Key
