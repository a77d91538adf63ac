import StoneLink.Broadcast.Advert
import StoneLink.Broadcast.Queue

/-!
# The scheduler

The scheduler turns the queue into advertisements, one window at a time: it takes the next
window, encodes it, starts advertising, waits one interval, stops, and ends the window. A window
that cannot be encoded fails its commands without being advertised.

While the radio is off, nothing is sent: a command added then fails at once, and the radio going
off fails every queued command. A window can be interrupted before its interval is over: if the
caller gives up, its commands go back to the front of the queue; if the radio goes off, they fail
with everything else. An advertiser that refuses to start changes none of this: the refusal is
only noted, and the window waits and ends as any other.

The advertiser is recorded rather than driven: the scheduler keeps every list of UUIDs it
started advertising and counts the stops.
-/

namespace StoneLink.Broadcast

/-- What happens while a window is on the air. -/
inductive Interruption where
  /-- Nothing: the interval passes. -/
  | none
  /-- The caller gives up during the window. -/
  | cancel
  /-- The radio goes off during the window. -/
  | radioOff
  /-- The caller has given up before the window starts. -/
  | cancelBefore
  deriving DecidableEq, Repr

/-- The scheduler and the record of its advertiser. -/
structure Scheduler where
  /-- The queue. -/
  queue : Queue
  /-- The encoder, if there is one. -/
  encoder : Option Encoder
  /-- Whether the radio is on. -/
  available : Bool := true
  /-- Whether the advertiser refuses to start. -/
  startFails : Bool := false
  /-- Every list of UUIDs advertising started with. -/
  advertised : List (List Uuid) := []
  /-- How many times advertising was stopped. -/
  stops : Nat := 0
  /-- Whether the advertiser is advertising. -/
  advertising : Bool := false

namespace Scheduler

/-- Adds a command; while the radio is off it fails at once. -/
def add (s : Scheduler) (cmd : Command) : Scheduler :=
  if s.available then { s with queue := s.queue.add cmd }
  else { s with queue := s.queue.issueEnded (.failed (.because .radioNotReady)) }

/-- The radio turns on or off; turning off fails every queued command. -/
def setAvailable (s : Scheduler) (available : Bool) : Scheduler :=
  if s.available && !available then
    { s with available := false, queue := s.queue.failAll (.because .radioNotReady) }
  else { s with available := available }

/-- The advertisement of a window. -/
def encodeWindow (s : Scheduler) (w : Window) : Except Fault (List Uuid) := do
  let payload ← w.payload
  let some e := s.encoder | throw (.because .noSphereKey)
  e.encode w.sphereId w.commandType payload

/-- Stops advertising. -/
def stop (s : Scheduler) : Scheduler := { s with stops := s.stops + 1, advertising := false }

/-- Runs one window; answers whether a window ran, and the fault that ended the run, if any. -/
def runWindow (s : Scheduler) (during : Interruption) : (Bool × Option Fault) × Scheduler :=
  if during = .cancelBefore then ((false, some (.because .cancelled)), s)
  else if !s.available then ((false, none), s)
  else
    match s.queue.nextWindow with
    | (none, q) => ((false, none), { s with queue := q })
    | (some w, q) =>
      let s := { s with queue := q }
      match s.encodeWindow w with
      | .error f => ((true, none), { s with queue := s.queue.failWindow w f })
      | .ok uuids =>
        -- an advertiser that refuses to start is only noted; the window still runs its course
        let s :=
          if s.startFails then s
          else { s with advertised := s.advertised ++ [uuids], advertising := true }
        if during = .cancel then
          let s := s.stop
          ((false, some (.because .cancelled)), { s with queue := s.queue.requeue w })
        else
          let s := if during = .radioOff then s.setAvailable false else s
          let s := s.stop
          ((true, none), { s with queue := s.queue.windowElapsed w })

/-- The number of windows the queue can still fill: every command's windows left, and one more
for each command. -/
def windowBound (s : Scheduler) : Nat :=
  (s.queue.items.map fun it => it.retriesRemaining.toNat + 1).foldr (· + ·) 0 + 1

/-- Runs windows until one does not run, for at most `fuel` windows. -/
def runWindows : Nat → Scheduler → Scheduler
  | 0, s => s
  | fuel + 1, s =>
    match s.runWindow .none with
    | ((true, _), s') => runWindows fuel s'
    | ((false, _), s') => s'

/-- Runs windows until the queue has nothing left to send. -/
def drain (s : Scheduler) : Scheduler := runWindows s.windowBound s

end Scheduler

end StoneLink.Broadcast
