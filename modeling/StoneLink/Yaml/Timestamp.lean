/-!
# Dates and times

A plain text that reads as a date, or as a date and a time, is a timestamp. The accepted forms
are `YYYY-M-D`; that date with `T` or `t`, a time `h:m:s` with an optional fraction of a second
and a zone `Z` or `±hh:mm`; and that date with spaces and a time, with no zone. The year has four
digits, month, day, hour, minute and second one or two; the day must exist in its month, the hour
is below 24 and minute and second below 60. A fraction starts with a point or a comma and keeps
its first nine digits as nanoseconds. A zone's offset may be up to 24 hours and 60 minutes.

A timestamp keeps the date and time as written and where it holds: universal time for `Z` and for
no zone at all, the local zone for an offset of zero (which is the local zone's offset), and a
fixed offset otherwise. Two timestamps are one key when they are the same instant with the same
nanoseconds in the same zone; a fixed offset counts as the same zone only for whole hours from -12
to +14, the offsets for which one shared zone is kept.
-/

namespace StoneLink.Yaml

/-- Where a timestamp holds. -/
inductive Zone
  /-- Universal time. -/
  | utc
  /-- The local zone, whose offset is zero. -/
  | localTime
  /-- A fixed offset from universal time, in seconds. -/
  | fixed (offset : Int)
  deriving DecidableEq, Repr, Inhabited

/-- The offset of a zone from universal time, in seconds. -/
def Zone.offset : Zone → Int
  | .fixed o => o
  | _ => 0

/-- Whether a fixed offset is one of the whole hours from -12 to +14, for which one zone is kept
and shared. -/
def Zone.sharedOffset (offset : Int) : Bool :=
  offset % 3600 = 0 && -12 * 3600 ≤ offset && offset ≤ 14 * 3600

/-- Whether two zones are one zone. -/
def Zone.same : Zone → Zone → Bool
  | .utc, .utc => true
  | .localTime, .localTime => true
  | .fixed a, .fixed b => a = b && Zone.sharedOffset a
  | _, _ => false

/-- The rank of a zone in the order of keys: universal time, then local, then fixed offsets. -/
def Zone.rank : Zone → Int × Int
  | .utc => (0, 0)
  | .localTime => (1, 0)
  | .fixed o => (2, o)

/-- A date and time as written, with where it holds. -/
structure Timestamp where
  /-- The year, from 0 to 9999. -/
  year : Nat
  /-- The month, from 1 to 12. -/
  month : Nat
  /-- The day of the month. -/
  day : Nat
  /-- The hour. -/
  hour : Nat := 0
  /-- The minute. -/
  minute : Nat := 0
  /-- The second. -/
  second : Nat := 0
  /-- The nanoseconds. -/
  nanos : Nat := 0
  /-- Where it holds. -/
  zone : Zone := .utc
  deriving DecidableEq, Repr, Inhabited

namespace Timestamp

/-! ## Reading -/

/-- Reads one or two digits. -/
def twoDigits : List Char → Option (Nat × List Char)
  | a :: b :: rest =>
    if a.isDigit then
      if b.isDigit then some (10 * (a.toNat - 48) + (b.toNat - 48), rest)
      else some (a.toNat - 48, b :: rest)
    else none
  | [a] => if a.isDigit then some (a.toNat - 48, []) else none
  | [] => none

/-- Reads exactly two digits. -/
def fixedTwo : List Char → Option Nat
  | [a, b] => if a.isDigit && b.isDigit then some (10 * (a.toNat - 48) + (b.toNat - 48)) else none
  | _ => none

/-- The days of a month in a year of the Gregorian calendar. -/
def daysIn (month year : Nat) : Nat :=
  if month = 2 then
    if year % 4 = 0 && (year % 100 ≠ 0 || year % 400 = 0) then 29 else 28
  else if month = 4 || month = 6 || month = 9 || month = 11 then 30
  else 31

/-- The nanoseconds of the digits of a fraction of a second: the first nine, the rest dropped. -/
def nanosOf (digits : List Char) : Nat :=
  let kept := digits.take 9
  kept.foldl (fun n c => 10 * n + (c.toNat - 48)) 0 * Nat.pow 10 (9 - kept.length)

/-- Reads a fraction of a second, a point or comma and at least one digit, as nanoseconds; zero
and the text as it is when the text does not start so. -/
def fraction (s : List Char) : Nat × List Char :=
  match s with
  | c :: d :: rest =>
    if (c = '.' || c = ',') && d.isDigit then
      let digits := (d :: rest).takeWhile Char.isDigit
      (nanosOf digits, rest.dropWhile Char.isDigit)
    else (0, s)
  | _ => (0, s)

/-- Reads a zone `Z` or `±hh:mm`, with hours up to 24 and minutes up to 60. -/
def zoneOf (s : List Char) : Option Zone :=
  match s with
  | ['Z'] => some .utc
  | [sign, h1, h2, ':', m1, m2] =>
    if sign = '+' || sign = '-' then
      match fixedTwo [h1, h2], fixedTwo [m1, m2] with
      | some h, some m =>
        if h ≤ 24 && m ≤ 60 then
          let offset : Int := ((h * 60 + m) * 60 : Nat)
          if offset = 0 then some .localTime
          else some (.fixed (if sign = '-' then -offset else offset))
        else none
      | _, _ => none
    else none
  | _ => none

/-- Reads `h:m:s` with an optional fraction: the hour, minute, second, nanoseconds and the rest. -/
def clock (s : List Char) : Option ((Nat × Nat × Nat × Nat) × List Char) := do
  let (h, s) ← twoDigits s
  if h ≥ 24 then none
  let s ← match s with | ':' :: s => some s | _ => none
  let (m, s) ← twoDigits s
  if m ≥ 60 then none
  let s ← match s with | ':' :: s => some s | _ => none
  let (sec, s) ← twoDigits s
  if sec ≥ 60 then none
  let (nanos, s) := fraction s
  some ((h, m, sec, nanos), s)

/-- The timestamp a text reads as, if it is one in one of the accepted forms. -/
def ofText? (s : String) : Option Timestamp :=
  let cs := s.toList
  let yearDigits := cs.takeWhile Char.isDigit
  if yearDigits.length ≠ 4 || cs.getD 4 ' ' ≠ '-' then none
  else do
    let year := yearDigits.foldl (fun n c => 10 * n + (c.toNat - 48)) 0
    let (month, s) ← twoDigits (cs.drop 5)
    if month = 0 || month > 12 then none
    let s ← match s with | '-' :: s => some s | _ => none
    let (day, s) ← twoDigits s
    if day = 0 || day > daysIn month year then none
    let date : Timestamp := { year, month, day }
    match s with
    | [] => some date
    | c :: rest =>
      if c = 'T' || c = 't' then
        let ((hour, minute, second, nanos), z) ← clock rest
        let zone ← zoneOf z
        some { date with hour, minute, second, nanos, zone }
      else if c = ' ' then
        match clock (rest.dropWhile (· = ' ')) with
        | some ((hour, minute, second, nanos), []) =>
          some { date with hour, minute, second, nanos }
        | _ => none
      else none

/-! ## Instants and keys -/

/-- The days from a fixed day long before year 0 to a date of the Gregorian calendar. -/
def dayNumber (year month day : Nat) : Nat :=
  -- years counted from March, so that a leap day ends its year
  let y := year + 400 - (if month ≤ 2 then 1 else 0)
  let m := (month + 9) % 12
  y * 365 + y / 4 - y / 100 + y / 400 + (153 * m + 2) / 5 + day - 1

/-- The instant of a timestamp, in seconds from a fixed instant long before year 0. -/
def instant (t : Timestamp) : Int :=
  let seconds := dayNumber t.year t.month t.day * 86400 + t.hour * 3600 + t.minute * 60 + t.second
  (seconds : Int) - t.zone.offset

/-- Whether two timestamps are one key. -/
def same (a b : Timestamp) : Bool :=
  a.nanos = b.nanos && a.instant = b.instant && a.zone.same b.zone

/-- Whether timestamp `a` comes before `b` in the order of keys, or is equal to it: by
nanoseconds first, then by instant, then by zone. -/
def keyLE (a b : Timestamp) : Bool :=
  if a.nanos ≠ b.nanos then a.nanos < b.nanos
  else if a.instant ≠ b.instant then a.instant < b.instant
  else a.zone.rank.1 < b.zone.rank.1 ||
    (a.zone.rank.1 = b.zone.rank.1 && a.zone.rank.2 ≤ b.zone.rank.2)

/-! ## Showing -/

/-- The English names of the months. -/
def monthNames : List String :=
  ["January", "February", "March", "April", "May", "June", "July", "August", "September",
   "October", "November", "December"]

/-- A timestamp in the notation of typed literals:
`time.Date(2001, time.January, 1, 0, 0, 0, 0, time.UTC)`, with its fields as written. -/
def render (t : Timestamp) : String :=
  let place := match t.zone with
    | .utc => "time.UTC"
    | .localTime => "time.Local"
    | .fixed _ => "time.Location(\"\")"
  "time.Date(" ++ toString t.year ++ ", time." ++ monthNames.getD (t.month - 1) "" ++ ", " ++
    ", ".intercalate ([t.day, t.hour, t.minute, t.second, t.nanos].map toString) ++ ", " ++
    place ++ ")"

end Timestamp

end StoneLink.Yaml
