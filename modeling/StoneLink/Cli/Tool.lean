import StoneLink.Cli.World
import StoneLink.Cli.Flags
import StoneLink.Settings.Read
import StoneLink.Broadcast.Queue
import StoneLink.Text.Hex
import StoneLink.Text.Space

/-!
# Steps of a command

A command is a run that writes to standard output and standard error and may stop early: with a
failure, which is reported on standard error after the program's name and the command's, with
wrong flags, whose message and usage are already written, or after help was shown.

The steps shared by the commands live here: reading flags, reading hexadecimal inputs (trimmed
of white space, with a length check), reading the switch list of a broadcast, putting the
commands of a broadcast together, and loading the settings file. An explicit settings path must
name a readable, well-formed and valid file; the default path, in the user's home directory, may
be missing, and then the default settings apply.
-/

namespace StoneLink.Cli

open StoneLink.Text

/-- Why a command stops early. -/
inductive Stop
  /-- It failed; the message is reported with the command's name. -/
  | failed (message : String)
  /-- Its flags were wrong; the message and the usage were written. -/
  | misused
  /-- Help was asked for and shown. -/
  | helped
  deriving DecidableEq, Repr

/-- What a command has written so far. -/
structure Written where
  /-- Standard output. -/
  out : String := ""
  /-- Standard error. -/
  err : String := ""
  deriving DecidableEq, Repr

/-- The steps of a command. -/
abbrev Tool := ExceptT Stop (StateT Written Run)

namespace Tool

/-- Writes to standard output. -/
def say (s : String) : Tool Unit := modify fun w => { w with out := w.out ++ s }

/-- Writes to standard error. -/
def warn (s : String) : Tool Unit := modify fun w => { w with err := w.err ++ s }

/-- Stops with a failure. -/
def fail {α : Type} (message : String) : Tool α := throw (.failed message)

/-- The value of a result, or a failure with the fault's message. -/
def orFail {α : Type} : Except Fault α → Tool α
  | .ok a => pure a
  | .error f => fail f.message

/-- The value of a result, or a failure with its message. -/
def orStop {α : Type} : Except String α → Tool α
  | .ok a => pure a
  | .error m => fail m

/-- Reads the flags of a command, writing the usage on help and on wrong flags. -/
def flags (fs : FlagSet) (args : List String) : Tool (FlagValues × List String) :=
  match fs.read args with
  | .read vs rest => pure (vs, rest)
  | .help => do warn fs.usage; throw .helped
  | .wrong m => do warn (m ++ "\n" ++ fs.usage); throw .misused

/-- A log line of the program: its name in front and a line break at the end. -/
def logLine (message : String) : String :=
  "cstool: " ++ message ++ (if message.endsWith "\n" then "" else "\n")

/-- How a command run ends: its exit status and what it wrote; a failure is logged with the
command's name. -/
def finish (name : String) (t : Tool Unit) : Run Outcome := do
  let (r, w) ← (ExceptT.run t).run {}
  return match r with
    | .ok () => ⟨0, w.out, w.err⟩
    | .error (.failed m) => ⟨1, w.out, w.err ++ logLine (name ++ ": " ++ m)⟩
    | .error .misused => ⟨2, w.out, w.err⟩
    | .error .helped => ⟨0, w.out, w.err⟩

end Tool

/-- The bytes a hexadecimal input names, trimmed of white space, checked to have `want` bytes when
`want` is not zero; the input's name leads any message. -/
def hexInput (name s : String) (want : Nat) : Except String Bytes :=
  match Hex.decode (trim s) with
  | .error p => .error ("-" ++ name ++ ": " ++ p.message)
  | .ok b =>
    if want > 0 && b.length ≠ want then
      .error ("-" ++ name ++ ": want " ++ toString want ++ " bytes, got " ++ toString b.length)
    else .ok b

/-- The text of a failed reading of a decimal byte. -/
def byteFailure (text : String) (e : Integer.Failure) : String :=
  "strconv.ParseUint: parsing " ++ quote text ++ ": " ++ e.message

/-- Reads one `stone=value` pair of a switch list. -/
def switchPair (pair : String) : Except String Broadcast.SwitchItem :=
  let cs := pair.toList
  let stone := cs.takeWhile (· ≠ '=')
  match cs.drop stone.length with
  | [] => .error ("switch " ++ quote pair ++ ": want stone=value")
  | _ :: value =>
    let stone := String.ofList stone
    let value := String.ofList value
    match Integer.parseNat stone 10 8 with
    | .error e => .error ("switch " ++ quote pair ++ ": stone id: " ++ byteFailure stone e)
    | .ok id =>
      match Integer.parseNat value 10 8 with
      | .error e => .error ("switch " ++ quote pair ++ ": value: " ++ byteFailure value e)
      | .ok v =>
        if v > 100 then .error ("switch " ++ quote pair ++ ": value must be 0-100")
        else .ok ⟨id.toUInt8, v.toUInt8⟩

/-- Reads a switch list `stone=value,stone=value`; empty entries are skipped, and at least one
item is needed. -/
def switchList (s : String) : Except String (List Broadcast.SwitchItem) := do
  let pairs := (s.splitOn ",").map trim |>.filter (!·.isEmpty)
  let items ← pairs.mapM switchPair
  if items.isEmpty then throw "no switch items"
  return items

/-- The commands a broadcast's flags ask for: switches, a time, or a behaviour setting, exactly
one of the three, for a named sphere. A negative time means no time was asked for. -/
def commandsOf (sphere switches : String) (time : Int) (behaviour : String) :
    Except String (List Broadcast.Command) := do
  if sphere.isEmpty then throw "-sphere is required"
  let switchCmds ← if switches.isEmpty then pure [] else do
    let items ← switchList switches
    pure (items.map fun it =>
      ({ sphereId := sphere, kind := .switch, switch := it } : Broadcast.Command))
  let timeCmds ← if time < 0 then pure [] else do
    if time > 4294967295 then throw "-time out of range"
    pure [({ sphereId := sphere, kind := .setTime, time := time.toNat.toUInt32 } :
      Broadcast.Command)]
  let behaviourCmds ← if behaviour.isEmpty then pure [] else do
    let enabled ← match behaviour with
      | "on" => pure true
      | "off" => pure false
      | _ => throw ("-behaviour must be on or off, got " ++ quote behaviour)
    pure [({ sphereId := sphere, kind := .behaviourSettings, behaviourEnabled := enabled } :
      Broadcast.Command)]
  let kinds := [!switches.isEmpty, time ≥ 0, !behaviour.isEmpty].count true
  if kinds ≠ 1 then throw "choose exactly one of -switch, -time, -behaviour"
  return switchCmds ++ timeCmds ++ behaviourCmds

/-- A path with empty and `.` parts dropped and `..` parts resolved. -/
def cleanPath (path : String) : String :=
  if path.isEmpty then "."
  else
    let rooted := path.startsWith "/"
    let parts := (path.splitOn "/").foldl (fun (acc : List String) part =>
      if part.isEmpty || part = "." then acc
      else if part = ".." then
        match acc with
        | top :: rest => if top = ".." then ".." :: acc else rest
        | [] => if rooted then [] else [".."]
      else part :: acc) []
    let body := "/".intercalate parts.reverse
    let full := if rooted then "/" ++ body else body
    if full.isEmpty then "." else full

/-- The default settings path in a home directory; without a home, a file in the working
directory. -/
def defaultPath (home : String) : String :=
  if home.isEmpty then "crownstone.yaml"
  else cleanPath (home ++ "/.config/crownstone/config.yaml")

/-- Loads the settings at a path, or at the default path when the path is empty. -/
def loadSettings (home path : String) : Tool Settings := do
  let explicit := !path.isEmpty
  let path := if explicit then path else defaultPath home
  match ← (Run.read path : Run FileRead) with
  | .contents text =>
    let s ← Tool.orFail (Settings.parse text)
    match s.validate with
    | .ok () => pure s
    | .error f => Tool.fail (path ++ ": " ++ f.message)
  | .missing =>
    if explicit then
      Tool.fail ("reading config file: open " ++ path ++ ": no such file or directory")
    else pure {}
  | .directory => Tool.fail ("reading config file: read " ++ path ++ ": is a directory")
  | .notDirectory => Tool.fail ("reading config file: open " ++ path ++ ": not a directory")
  | .nameTooLong => Tool.fail ("reading config file: open " ++ path ++ ": file name too long")
  | .denied => Tool.fail ("reading config file: open " ++ path ++ ": permission denied")

end StoneLink.Cli
