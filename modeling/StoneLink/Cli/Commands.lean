import StoneLink.Cli.Tool
import StoneLink.Settings.Write
import StoneLink.Key.Derive
import StoneLink.Broadcast.Advert

/-!
# The commands of the tool

* `keygen` derives the five keys of a sphere from a master secret (random unless given) and
  prints them as a settings stanza.
* `encrypt` wraps a payload in a session envelope at an access level; the plain-text levels copy
  the payload and need no session inputs.
* `decrypt` opens an envelope with one key for every level and prints the level and payload.
* `broadcast` turns switch, time or behaviour commands into the five service UUIDs of one
  advertisement, through a queue as the scheduler would, and can decode the result again.
* `advertise` would send the commands through a radio; there is none here, so it fails once its
  inputs are checked.

Run without a command, the tool prints its usage and exits with status 2; `-h` and `help` print
it and exit normally; an unknown command prints it and fails.
-/

namespace StoneLink.Cli

open StoneLink.Text StoneLink.Broadcast

/-- The flags of `keygen`. -/
def keygenFlags : FlagSet :=
  ⟨"keygen",
   [⟨"sphere", "sphere id (required)", .text ""⟩,
    ⟨"short", "sphere short id (0-255)", .count 0⟩,
    ⟨"master", "hex master secret, at least 16 bytes (default: random)", .text ""⟩]⟩

/-- Derives a sphere's keys and prints them as a settings stanza. -/
def keygen (args : List String) : Tool Unit := do
  let (vs, _) ← Tool.flags keygenFlags args
  let sphere := vs.text "sphere"
  if sphere.isEmpty then Tool.fail "-sphere is required"
  let short := vs.count "short"
  if short > 255 then Tool.fail "-short must be 0-255"
  let master := vs.text "master"
  let secret ← if master.isEmpty then (Run.draw 32 : Run Bytes)
    else Tool.orStop (hexInput "master" master 0)
  let ks ← Tool.orFail (Key.derive secret sphere)
  Tool.say (Settings.renderSpheres [Settings.SphereEntry.ofKeySet sphere short.toUInt8 ks])

/-- The session inputs of `encrypt` and `decrypt`. -/
def envelopeFlags : List Flag :=
  [⟨"nonce", "hex session nonce (5 bytes)", .text ""⟩,
   ⟨"vkey", "hex validation key (4 bytes, default: first 4 nonce bytes)", .text ""⟩,
   ⟨"key", "hex AES key (16 bytes)", .text ""⟩]

/-- The session nonce, validation key and key; the validation key defaults to the first four
bytes of the nonce. -/
def envelopeInputs (vs : FlagValues) : Except String (Bytes × Bytes × Bytes) := do
  let nonce ← hexInput "nonce" (vs.text "nonce") Envelope.sessionNonceSize
  let vkey ← if (vs.text "vkey").isEmpty then pure (nonce.take Envelope.validationKeySize)
    else hexInput "vkey" (vs.text "vkey") Envelope.validationKeySize
  let key ← hexInput "key" (vs.text "key") Envelope.blockSize
  return (nonce, vkey, key)

/-- The flags of `encrypt`. -/
def encryptFlags : FlagSet :=
  ⟨"encrypt",
   envelopeFlags ++ [⟨"level", "access level written to the envelope", .text "admin"⟩]⟩

/-- Wraps one hexadecimal payload in an envelope and prints it. -/
def encrypt (args : List String) : Tool Unit := do
  let (vs, rest) ← Tool.flags encryptFlags args
  let [arg] := rest | Tool.fail "want one hex payload argument"
  let level ← Tool.orFail (AccessLevel.parse (vs.text "level"))
  if level = .highestAvailable then Tool.fail "-level must name a concrete level"
  let payload ← Tool.orStop (hexInput "payload" arg 0)
  let (nonce, vkey, key) ← if level = .encryptionDisabled then pure ([], [], [])
    else Tool.orStop (envelopeInputs vs)
  let source ← if level ≠ .encryptionDisabled && Envelope.inputsFit payload nonce vkey key then
      (Run.draw Envelope.packetNonceSize : Run Bytes)
    else pure []
  let envelope ← Tool.orFail (Envelope.encrypt source payload nonce vkey key level).1
  Tool.say (Hex.encode envelope ++ "\n")

/-- The flags of `decrypt`. -/
def decryptFlags : FlagSet := ⟨"decrypt", envelopeFlags⟩

/-- Opens one hexadecimal envelope and prints its level and payload. -/
def decrypt (args : List String) : Tool Unit := do
  let (vs, rest) ← Tool.flags decryptFlags args
  let [arg] := rest | Tool.fail "want one hex envelope argument"
  let envelope ← Tool.orStop (hexInput "envelope" arg 0)
  let (nonce, vkey, keyBytes) ← Tool.orStop (envelopeInputs vs)
  let key ← Tool.orFail (Key.ofBytes keyBytes)
  let level ← Tool.orFail (Envelope.levelOf envelope)
  let payload ← Tool.orFail (Envelope.decrypt envelope nonce vkey (some (.setup key)))
  Tool.say ("level:   " ++ level.name ++ "\npayload: " ++ Hex.encode payload ++ "\n")

/-- The flags that choose broadcast commands; the settings path shows its default. -/
def commandFlags (home : String) : List Flag :=
  [⟨"config", "config file (default: " ++ defaultPath home ++ ")", .text ""⟩,
   ⟨"sphere", "sphere id", .text ""⟩,
   ⟨"switch", "switch commands, e.g. 3=100,4=0", .text ""⟩,
   ⟨"time", "set the sphere time to this Unix time", .number (-1)⟩,
   ⟨"behaviour", "enable or disable behaviour (on|off)", .text ""⟩]

/-- The commands the flags ask for. -/
def chosenCommands (vs : FlagValues) : Except String (List Command) :=
  commandsOf (vs.text "sphere") (vs.text "switch") (vs.number "time") (vs.text "behaviour")

/-- The flags of `broadcast`. -/
def broadcastFlags (home : String) : FlagSet :=
  ⟨"broadcast",
   commandFlags home ++ [⟨"verify", "decode and decrypt the result again", .switch false⟩]⟩

/-- The fields of a background as a record is printed with its field names. -/
def backgroundText (b : Background) : String :=
  "\x7bLocationID:" ++ toString b.locationId.toNat ++ " ProfileID:" ++ toString b.profileId.toNat ++
    " RSSIOffset:" ++ toString b.rssiOffset ++ " TapToToggle:" ++ toString b.tapToToggle ++
    " IgnoreForBehaviour:" ++ toString b.ignoreForBehaviour ++ "\x7d"

/-- A 16-bit word in hexadecimal with a `0x` prefix and at least four digits. -/
def wordText (w : UInt16) : String := "0x" ++ Hex.encode (Bytes.ofNatBE 2 w.toNat)

/-- Decodes an advertisement again with the sphere's keys and prints what it says. -/
def verify (store : Store) (sphereId : String) (uuids : List Uuid) : Tool Unit := do
  let some sphere := store.get? (.ofString sphereId) | Tool.fail (Cause.unknownSphere.message)
  let parsed ← Tool.orFail (parse uuids)
  let pkt ← Tool.orFail (parsed.decrypt sphere.keys)
  let h := parsed.header
  Tool.say ("\nprotocol " ++ toString h.protocol.toNat ++ ", sphere " ++
    toString h.sphereShortId.toNat ++ ", access " ++ toString h.accessLevel.toNat ++
    ", device token " ++ toString h.deviceToken.toNat ++ "\n")
  match store.rc5Subkeys (.ofString sphereId) with
  | .ok subkeys =>
    let (bg, word) := decryptBackground h.encryptedBackground subkeys
    Tool.say ("background " ++ backgroundText bg ++ ", validation word " ++ wordText word ++ "\n")
  | .error _ => pure ()
  Tool.say ("command " ++ pkt.type.name ++ ", validation time " ++
    toString pkt.validationTimestamp.toNat ++ ", payload " ++ Hex.encode pkt.payload ++ "\n")
  if pkt.type = .multiSwitch then
    let items ← Tool.orFail (decodeSwitch pkt.payload)
    for it in items do
      Tool.say ("  stone " ++ toString it.stoneId.toNat ++ " -> " ++ toString it.value.toNat ++
        "\n")

/-- Prints the service UUIDs of the commands the flags ask for. -/
def broadcast (home : String) (args : List String) : Tool Unit := do
  let (vs, _) ← Tool.flags (broadcastFlags home) args
  let cmds ← Tool.orStop (chosenCommands vs)
  let settings ← loadSettings home (vs.text "config")
  let store ← Tool.orFail settings.store
  let queue := cmds.foldl Queue.add (Queue.create 0)
  let some window := (queue.nextWindow).1 | Tool.fail Cause.invalidCommand.message
  let payload ← Tool.orFail window.payload
  let now ← (Run.now : Run Int)
  let encoder : Encoder :=
    { store := some store, deviceToken := settings.broadcast.deviceToken,
      background := settings.broadcast.background, now }
  let uuids ← Tool.orFail (encoder.encode window.sphereId window.commandType payload)
  for u in uuids do Tool.say (u.toText ++ "\n")
  let left := cmds.length - window.items.length
  if left > 0 then Tool.warn (toString left ++ " command(s) did not fit this window\n")
  if vs.switch "verify" then verify store (vs.text "sphere") uuids

/-- The flags of `advertise`. -/
def advertiseFlags (home : String) : FlagSet := ⟨"advertise", commandFlags home⟩

/-- Checks the commands and settings of an advertisement; without a radio it then fails. -/
def advertise (home : String) (args : List String) : Tool Unit := do
  let (vs, _) ← Tool.flags (advertiseFlags home) args
  let _ ← Tool.orStop (chosenCommands vs)
  let settings ← loadSettings home (vs.text "config")
  let _ ← Tool.orFail settings.store
  Tool.fail "ble: advertising not supported on this platform"

/-- The commands with what they do. -/
def commandList : List (String × String) :=
  [("keygen", "derive a sphere's keys and print a YAML stanza"),
   ("encrypt", "wrap a hex payload in a session envelope"),
   ("decrypt", "open a hex session envelope"),
   ("broadcast", "print the service UUIDs of a broadcast command"),
   ("advertise", "broadcast a command through the local adapter")]

/-- A text padded with spaces to a width. -/
def padRight (width : Nat) (s : String) : String :=
  s ++ String.ofList (List.replicate (width - s.length) ' ')

/-- The usage of the tool. -/
def usage : String :=
  "usage: cstool <command> [options]\n\ncommands:\n" ++
    String.join (commandList.map fun (name, summary) =>
      "  " ++ padRight 10 name ++ " " ++ summary ++ "\n") ++
    "\nrun 'cstool <command> -h' for command options\n"

/-- The steps of a named command, if there is one. -/
def command (home : String) : String → Option (List String → Tool Unit)
  | "keygen" => some keygen
  | "encrypt" => some encrypt
  | "decrypt" => some decrypt
  | "broadcast" => some (broadcast home)
  | "advertise" => some (advertise home)
  | _ => none

/-- Runs the tool with its arguments, given the home directory. -/
def main (home : String) : List String → Run Outcome
  | [] => pure ⟨2, "", usage⟩
  | name :: rest =>
    match command home name with
    | some steps => Tool.finish name (steps rest)
    | none =>
      if name = "-h" || name = "help" then pure ⟨0, "", usage⟩
      else pure ⟨1, "", usage ++ Tool.logLine ("unknown command " ++ quote name)⟩

end StoneLink.Cli
