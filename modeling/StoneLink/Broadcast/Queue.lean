import StoneLink.Broadcast.Command

/-!
# The command queue

Commands wait in a queue until the scheduler sends them in *windows*: one advertisement that
lasts one interval. A window takes the command at the front, and with it further commands of the
same sphere and kind in queue order, up to five for switch commands and one otherwise. A command
is sent in as many windows as it has retries; after each window it goes to the back of the
queue.

A newer command replaces an older one with the same target: same sphere and kind, and for
switch commands the same stone. The replaced command is finished as `superseded`, whether it was
waiting or being sent.

Every command added gets a ticket, its number in the order of adding, and the queue records how
each ticket ended: still pending, done after its last window, or failed with a fault. Windows
refer to commands by ticket, so a window can be ended after its commands have moved on.
-/

namespace StoneLink.Broadcast

/-- A command for the queue. -/
structure Command where
  /-- The sphere it is for. -/
  sphereId : String := ""
  /-- What it does. -/
  kind : Kind := .switch
  /-- The stone and value, for switch commands. -/
  switch : SwitchItem := ⟨0, 0⟩
  /-- The time, for set-time commands. -/
  time : UInt32 := 0
  /-- Whether behaviour is on, for behaviour-settings commands. -/
  behaviourEnabled : Bool := false
  /-- How many windows to send it in; zero or less means the queue's default. -/
  retries : Int := 0
  deriving DecidableEq, Repr

/-- The target of a command: sphere, kind, and the stone for switch commands (else -1). -/
def Command.target (c : Command) : String × Int × Int :=
  (c.sphereId, c.kind.code, if c.kind.batches then c.switch.stoneId.toNat else -1)

/-- How a ticket ended. -/
inductive Outcome where
  /-- Not ended yet. -/
  | pending
  /-- Sent in all its windows. -/
  | done
  /-- Ended with a fault. -/
  | failed (f : Fault)
  deriving DecidableEq, Repr

/-- A queued command with its ticket and the windows it has left. -/
structure Item where
  /-- The ticket. -/
  ticket : Nat
  /-- The command. -/
  command : Command
  /-- The windows left. -/
  retriesRemaining : Int
  deriving DecidableEq, Repr

/-- The commands of one advertisement. -/
structure Window where
  /-- The sphere. -/
  sphereId : String
  /-- The kind. -/
  kind : Kind
  /-- The commands, as they were when the window was taken. -/
  items : List Item
  deriving DecidableEq, Repr

namespace Window

/-- The command type the window is sent as. -/
def commandType (w : Window) : CommandType := w.kind.commandType

/-- The payload of the window's command block. -/
def payload (w : Window) : Except Fault Bytes :=
  match w.items with
  | [] => .error (.because .invalidCommand)
  | first :: _ =>
    match w.kind.code with
    | 0 => encodeSwitch (w.items.map (·.command.switch))
    | 1 => .ok (setTimePayload first.command.time)
    | 2 => .ok (behaviourPayload first.command.behaviourEnabled)
    | _ => .error (.because .invalidCommand)

end Window

/-- The default number of windows per command. -/
def standardRetries : Int := 3

/-- The queue: waiting commands, commands being sent, and how every ticket ended. -/
structure Queue where
  /-- The windows a command gets when it names none. -/
  defaultRetries : Int := standardRetries
  /-- The waiting commands, front first. -/
  items : List Item := []
  /-- The commands in windows being sent. -/
  inFlight : List Item := []
  /-- The outcome of every ticket, in ticket order. -/
  outcomes : List Outcome := []
  deriving DecidableEq, Repr

namespace Queue

/-- An empty queue; a default of zero or less windows means three. -/
def create (retries : Int) : Queue :=
  { defaultRetries := if retries ≤ 0 then standardRetries else retries }

/-- Ends a ticket, unless it has ended already. -/
def finish (q : Queue) (ticket : Nat) (o : Outcome) : Queue :=
  if q.outcomes.getD ticket .done = .pending then { q with outcomes := q.outcomes.set ticket o }
  else q

/-- Ends the tickets of a list of items. -/
def finishAll (q : Queue) (items : List Item) (o : Outcome) : Queue :=
  items.foldl (fun q it => q.finish it.ticket o) q

/-- Issues a ticket that has already ended. -/
def issueEnded (q : Queue) (o : Outcome) : Queue := { q with outcomes := q.outcomes ++ [o] }

/-- Adds a command at the front, replacing the commands with its target; a command of an
unknown kind fails at once. -/
def add (q : Queue) (cmd : Command) : Queue :=
  if !cmd.kind.isValid then q.issueEnded (.failed (.because .invalidCommand))
  else
    let ticket := q.outcomes.length
    let q := { q with outcomes := q.outcomes ++ [Outcome.pending] }
    let hit (it : Item) : Bool := it.command.target == cmd.target
    let q := (q.finishAll (q.items.filter hit) (.failed (.because .superseded))).finishAll
      (q.inFlight.filter hit) (.failed (.because .superseded))
    let retries := if cmd.retries ≤ 0 then q.defaultRetries else cmd.retries
    { q with items := ⟨ticket, cmd, retries⟩ :: q.items.filter (!hit ·),
             inFlight := q.inFlight.filter (!hit ·) }

/-- The commands waiting, front first. -/
def commands (q : Queue) : List Command := q.items.map (·.command)

/-- Splits the waiting items into those a window takes and the rest. -/
def takeWindow (sphereId : String) (kind : Kind) (limit : Nat) (items : List Item) :
    List Item × List Item :=
  items.foldl
    (fun (taken, rest) it =>
      if taken.length < limit ∧ it.command.sphereId = sphereId ∧ it.command.kind = kind then
        (taken ++ [it], rest)
      else (taken, rest ++ [it]))
    ([], [])

/-- Takes the next window: the front command and the commands that can share its block. -/
def nextWindow (q : Queue) : Option Window × Queue :=
  match q.items with
  | [] => (none, q)
  | first :: _ =>
    let c := first.command
    let limit := if c.kind.batches then maxSwitchItems else 1
    let (taken, rest) := takeWindow c.sphereId c.kind limit q.items
    (some ⟨c.sphereId, c.kind, taken⟩,
      { q with items := rest, inFlight := q.inFlight ++ taken })

/-- Takes the item of a ticket out of the commands being sent, if it is there. It does not ask
whether the item has ended in the meantime: in every state a run of operations reaches, a
command in flight is still pending (`Queue.Wf.pending_of_listed`), so that question would always
be answered no. -/
def release (q : Queue) (ticket : Nat) : Option Item × Queue :=
  match q.inFlight.find? (·.ticket == ticket) with
  | some it => (some it, { q with inFlight := q.inFlight.filter (·.ticket != ticket) })
  | none => (none, q)

/-- Ends a window that was sent: each of its commands still being sent uses up one window and is
done, or goes to the back of the queue. -/
def windowElapsed (q : Queue) (w : Window) : Queue :=
  w.items.foldl
    (fun q wi =>
      match q.release wi.ticket with
      | (some it, q) =>
        let left := it.retriesRemaining - 1
        if left ≤ 0 then q.finish it.ticket .done
        else { q with items := q.items ++ [{ it with retriesRemaining := left }] }
      | (none, q) => q)
    q

/-- Ends a window that could not be sent: its commands still being sent fail. -/
def failWindow (q : Queue) (w : Window) (f : Fault) : Queue :=
  w.items.foldl
    (fun q wi =>
      match q.release wi.ticket with
      | (some it, q) => q.finish it.ticket (.failed f)
      | (none, q) => q)
    q

/-- Fails every waiting command and every command being sent. -/
def failAll (q : Queue) (f : Fault) : Queue :=
  { (q.finishAll (q.items ++ q.inFlight) (.failed f)) with items := [], inFlight := [] }

/-- Puts the commands of an interrupted window back at the front, in window order. -/
def requeue (q : Queue) (w : Window) : Queue :=
  let (back, q) := w.items.foldl
    (fun (back, q) wi =>
      match q.release wi.ticket with
      | (some it, q) => (back ++ [it], q)
      | (none, q) => (back, q))
    ([], q)
  { q with items := back ++ q.items }

end Queue

end StoneLink.Broadcast
