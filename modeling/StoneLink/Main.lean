import StoneLink.Cli.Commands
import StoneLink.Text.Utf8
import Std.Time.DateTime.Timestamp

/-!
# The command-line tool

The entry point answers a run's questions with the real world: files from the file system, random
bytes from the system's source, and the system clock. It then writes what the run wrote to
standard output and standard error and exits with the run's status.

A file that is not valid UTF-8 is read with each bad byte replaced by U+FFFD.
-/

namespace StoneLink.Cli

/-- What reading a file finds on the file system. -/
def readPath (path : String) : IO FileRead := do
  try
    let bytes ← IO.FS.readBinFile path
    return .contents ((String.fromUTF8? bytes).getD (Text.Utf8.decodeLossy bytes.toList))
  catch e =>
    return match e with
      | .noFileOrDirectory .. => .missing
      | .permissionDenied .. => .denied
      -- the code of a path through a file, as against one that names a directory
      | .inappropriateType _ 20 _ => .notDirectory
      | .inappropriateType .. => .directory
      | .invalidArgument _ 36 _ => .nameTooLong
      | _ => .missing

/-- Answers the questions of a run with the real world. -/
def Run.perform {α : Type} : Run α → IO α
  | .done a => pure a
  | .readFile path next => do Run.perform (next (← readPath path))
  | .random count next => do
    let bytes ← IO.getRandomBytes count.toUSize
    Run.perform (next bytes.toList)
  | .clock next => do
    let t ← Std.Time.Timestamp.now
    Run.perform (next t.toSecondsSinceUnixEpoch.val)

end StoneLink.Cli

/-- Runs the tool on the command line and exits with its status. -/
def main (args : List String) : IO UInt32 := do
  let home := (← IO.getEnv "HOME").getD ""
  let o ← (StoneLink.Cli.main home args).perform
  IO.print o.stdout
  IO.eprint o.stderr
  return o.exit.toUInt32
