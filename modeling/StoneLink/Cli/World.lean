import StoneLink.Bytes

/-!
# Runs against the world

The tools read a settings file, draw random bytes and read the clock, and nothing else. A run is
therefore a tree: it either has finished with a value, or it asks the world one of these three
questions and goes on with a function of the answer. The program's entry point answers the
questions with real files, randomness and time; a `World` record answers them with fixed data,
which makes a run an ordinary function of its inputs.

A run does not print as it goes. It collects what it writes to standard output and standard
error, and ends with an exit status.
-/

namespace StoneLink.Cli

/-- What reading a file found. -/
inductive FileRead
  /-- The file and its text. -/
  | contents (text : String)
  /-- There is no such file. -/
  | missing
  /-- The path names a directory. -/
  | directory
  /-- A part of the path before its end names a file, not a directory. -/
  | notDirectory
  /-- The path, or a name in it, is longer than a file system allows. -/
  | nameTooLong
  /-- The file may not be read. -/
  | denied
  deriving DecidableEq, Repr

/-- A run that ends with a value of type `α`, asking the world questions on the way. -/
inductive Run (α : Type) where
  /-- Finished, with a value. -/
  | done (a : α)
  /-- Reads the file at a path. -/
  | readFile (path : String) (next : FileRead → Run α)
  /-- Draws a number of random bytes. -/
  | random (count : Nat) (next : Bytes → Run α)
  /-- Reads the clock, in Unix seconds. -/
  | clock (next : Int → Run α)

namespace Run

/-- Goes on with a second run from the value of the first. -/
def bind {α β : Type} : Run α → (α → Run β) → Run β
  | .done a, f => f a
  | .readFile path next, f => .readFile path fun r => bind (next r) f
  | .random count next, f => .random count fun b => bind (next b) f
  | .clock next, f => .clock fun t => bind (next t) f

instance : Monad Run where
  pure := .done
  bind := bind

/-- Reads the file at a path. -/
def read (path : String) : Run FileRead := .readFile path .done

/-- Draws a number of random bytes. -/
def draw (count : Nat) : Run Bytes := .random count .done

/-- Reads the clock. -/
def now : Run Int := .clock .done

end Run

/-- How far a walk along a path has got: into a directory, the working one or another, or to a
file with its text, or to the end of the walk with what it found. -/
inductive Walk
  /-- A directory; `working` tells whether it is the working directory. -/
  | folder (working : Bool)
  /-- A file and its text. -/
  | file (text : String)
  /-- The walk ended early with what it found. -/
  | stop (found : FileRead)

/-- The longest name a directory can hold, in bytes. -/
def nameMax : Nat := 255

/-- The longest path, in bytes, with its terminating zero. -/
def pathMax : Nat := 4096

/-- One step of a walk along a path, over one part of the path. An empty part and `.` stay where
they are, `..` leaves the working directory for one that holds nothing known, and a name is
looked up among the files of the working directory; a name too long for a directory to hold is
found to be so when it is looked up. No step leads on from a file. -/
def Walk.step (files : List (String × String)) : Walk → String → Walk
  | .stop r, _ => .stop r
  | .file _, _ => .stop .notDirectory
  | .folder working, part =>
    if part.isEmpty || part = "." then .folder working
    else if part = ".." then .folder false
    else if part.utf8ByteSize > nameMax then .stop .nameTooLong
    else if working then
      match files.lookup part with
      | some text => .file text
      | none => .stop .missing
    else .stop .missing

/-- What reading a path finds when the working directory holds just the given files, by name,
and no other directory holds anything: a path is walked part by part from the root when it
starts with `/` and from the working directory otherwise. -/
def readIn (files : List (String × String)) (path : String) : FileRead :=
  if path.utf8ByteSize + 1 > pathMax then .nameTooLong
  else if path.isEmpty then .missing
  else
    let start : Walk := .folder !(path.startsWith "/")
    match (path.splitOn "/").foldl (Walk.step files) start with
    | .folder _ => .directory
    | .file text => .contents text
    | .stop r => r

/-- Fixed answers to a run's questions. -/
structure World where
  /-- The files by path. -/
  files : String → FileRead := fun _ => .missing
  /-- The random bytes, drawn from the front; zeros once they run out. -/
  random : Bytes := []
  /-- The time, in Unix seconds. -/
  time : Int := 0

/-- The value a run ends with when a world answers its questions. -/
def Run.within {α : Type} : Run α → World → α
  | .done a, _ => a
  | .readFile path next, w => (next (w.files path)).within w
  | .random count next, w =>
    (next (Bytes.padTo count (w.random.take count))).within { w with random := w.random.drop count }
  | .clock next, w => (next w.time).within w

/-- How a run of a tool ends: its exit status and what it wrote. -/
structure Outcome where
  /-- The exit status. -/
  exit : Nat
  /-- What was written to standard output. -/
  stdout : String
  /-- What was written to standard error. -/
  stderr : String
  deriving DecidableEq, Repr

end StoneLink.Cli
