import StoneLink.Text.Integer
import StoneLink.Text.Quote

/-!
# Command flags

A command reads flags from the front of its arguments and stops at the first argument that is
not one: a lone `-`, anything not starting with `-`, or `--`, which is dropped. A flag is written
`-name` or `--name`, with its value after `=` or in the next argument; a true-or-false flag takes
a value only after `=` and is otherwise set to true. Each flag may be given any number of times;
the last value counts.

Reading stops with a message at the first problem: a malformed flag, a name no flag has, a
missing value, or a value that does not read as the flag's kind. `-h` and `-help` ask for help
unless a flag has that name.

The usage text lists the flags sorted by name, each with the kind of value it takes, its purpose
on the next line, and its default unless that is the kind's zero.
-/

namespace StoneLink.Cli

open StoneLink.Text

/-- A value a flag holds; its constructor says the kind of value the flag takes. -/
inductive FlagValue
  /-- Text. -/
  | text (s : String)
  /-- An unsigned 64-bit integer. -/
  | count (n : Nat)
  /-- A signed 64-bit integer. -/
  | number (i : Int)
  /-- True or false. -/
  | switch (b : Bool)
  deriving DecidableEq, Repr

namespace FlagValue

/-- The truth value a text names, if it names one. -/
def readBool (s : String) : Option Bool :=
  if ["1", "t", "T", "TRUE", "true", "True"].contains s then some true
  else if ["0", "f", "F", "FALSE", "false", "False"].contains s then some false
  else none

/-- The words a failed integer reading is reported with. -/
def failureWords : Integer.Failure → String
  | .malformed => "parse error"
  | .range => "value out of range"

/-- A text read as a value of the same kind; integers may be written in any base a prefix names. -/
def set (v : FlagValue) (s : String) : Except String FlagValue :=
  match v with
  | .text _ => .ok (.text s)
  | .count _ => match Integer.parseNat s 0 64 with
    | .ok n => .ok (.count n)
    | .error e => .error (failureWords e)
  | .number _ => match Integer.parseInt s 0 64 with
    | .ok i => .ok (.number i)
    | .error e => .error (failureWords e)
  | .switch _ => match readBool s with
    | some b => .ok (.switch b)
    | none => .error "parse error"

/-- The word for the kind of value in usage text; empty for true-or-false flags. -/
def kindName : FlagValue → String
  | .text _ => "string"
  | .count _ => "uint"
  | .number _ => "int"
  | .switch _ => ""

/-- Whether a value is the zero of its kind. -/
def isZero : FlagValue → Bool
  | .text s => s.isEmpty
  | .count n => n == 0
  | .number i => i == 0
  | .switch b => !b

/-- How a default is shown in usage text: text in quotes, other values as written. -/
def shown : FlagValue → String
  | .text s => quote s
  | .count n => toString n
  | .number i => toString i
  | .switch b => toString b

end FlagValue

/-- A flag: its name, what it is for, and the value it has unless given. -/
structure Flag where
  /-- The name, written after a dash. -/
  name : String
  /-- What the flag is for. -/
  usage : String
  /-- The value when the flag is not given; it also fixes the kind. -/
  default : FlagValue
  deriving DecidableEq, Repr

/-- The usage lines of one flag. -/
def Flag.lines (f : Flag) : String :=
  let kind := f.default.kindName
  let head := "  -" ++ f.name ++ (if kind.isEmpty then "" else " " ++ kind)
  let gap := if head.utf8ByteSize ≤ 4 then "\t" else "\n    \t"
  let dflt := if f.default.isZero then "" else " (default " ++ f.default.shown ++ ")"
  head ++ gap ++ "\n    \t".intercalate (f.usage.splitOn "\n") ++ dflt ++ "\n"

/-- The values of the flags, the latest first. -/
abbrev FlagValues := List (String × FlagValue)

namespace FlagValues

/-- The text of a text flag. -/
def text (vs : FlagValues) (name : String) : String :=
  match vs.lookup name with
  | some (.text s) => s
  | _ => ""

/-- The value of an unsigned flag. -/
def count (vs : FlagValues) (name : String) : Nat :=
  match vs.lookup name with
  | some (.count n) => n
  | _ => 0

/-- The value of a signed flag. -/
def number (vs : FlagValues) (name : String) : Int :=
  match vs.lookup name with
  | some (.number i) => i
  | _ => 0

/-- The value of a true-or-false flag. -/
def switch (vs : FlagValues) (name : String) : Bool :=
  match vs.lookup name with
  | some (.switch b) => b
  | _ => false

end FlagValues

/-- How reading the flags ended. -/
inductive Reading
  /-- The flags were read: their values, and the arguments after them. -/
  | read (values : FlagValues) (rest : List String)
  /-- Help was asked for. -/
  | help
  /-- The flags are wrong; the message says why. -/
  | wrong (message : String)
  deriving DecidableEq, Repr

/-- The flags of a command. -/
structure FlagSet where
  /-- The command's name. -/
  command : String
  /-- The flags. -/
  flags : List Flag
  deriving DecidableEq, Repr

namespace FlagSet

/-- The usage text: a title and the flags sorted by name. -/
def usage (fs : FlagSet) : String :=
  "Usage of " ++ fs.command ++ ":\n" ++
    String.join ((fs.flags.mergeSort fun a b => decide (a.name ≤ b.name)).map Flag.lines)

/-- A flag's name and the value written after `=`, if any; the name has at least one character. -/
def splitValue : List Char → List Char × Option (List Char)
  | [] => ([], none)
  | c :: more =>
    let before := more.takeWhile (· ≠ '=')
    match more.drop before.length with
    | [] => (c :: before, none)
    | _ :: value => (c :: before, some value)

/-- Reads flags from the front of the arguments, given the values so far; each round uses up at
least one argument, so as many rounds as arguments suffice. -/
def readFrom (fs : FlagSet) : Nat → FlagValues → List String → Reading
  | 0, vs, args => .read vs args
  | _, vs, [] => .read vs []
  | fuel + 1, vs, s :: rest =>
    match s.toList with
    | '-' :: c :: more =>
      let (dashes, body) := if c = '-' then (2, more) else (1, c :: more)
      if dashes = 2 && body.isEmpty then .read vs rest
      else match body with
        | [] | '-' :: _ | '=' :: _ => .wrong ("bad flag syntax: " ++ s)
        | _ =>
          let (nameChars, value) := splitValue body
          let name := String.ofList nameChars
          match fs.flags.find? (·.name = name) with
          | none =>
            if name = "help" || name = "h" then .help
            else .wrong ("flag provided but not defined: -" ++ name)
          | some f =>
            match f.default with
            | .switch _ =>
              match value with
              | none => fs.readFrom fuel ((name, .switch true) :: vs) rest
              | some v =>
                let text := String.ofList v
                match FlagValue.readBool text with
                | some b => fs.readFrom fuel ((name, .switch b) :: vs) rest
                | none => .wrong ("invalid boolean value " ++ quote text ++ " for -" ++ name ++
                    ": parse error")
            | kind =>
              let (given, after) : Option String × List String := match value, rest with
                | some v, _ => (some (String.ofList v), rest)
                | none, v :: more => (some v, more)
                | none, [] => (none, [])
              match given with
              | none => .wrong ("flag needs an argument: -" ++ name)
              | some text =>
                match kind.set text with
                | .ok x => fs.readFrom fuel ((name, x) :: vs) after
                | .error e => .wrong ("invalid value " ++ quote text ++ " for flag -" ++ name ++
                    ": " ++ e)
    | _ => .read vs (s :: rest)

/-- Reads the flags at the front of the arguments. -/
def read (fs : FlagSet) (args : List String) : Reading :=
  fs.readFrom (args.length + 1) (fs.flags.map fun f => (f.name, f.default)) args

end FlagSet

end StoneLink.Cli
