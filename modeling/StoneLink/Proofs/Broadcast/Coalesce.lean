import StoneLink.Proofs.Broadcast.Outage

/-!
# Adding coalesces commands

Commands added to a new queue, before any window is taken, replace one another by target. The
queue then lists, front first, the latest command of each target among the commands of a valid
kind, newest first, each under the ticket of its own add; every other command of a valid kind has
ended as superseded, the latest ones are still pending, and a command of an unknown kind failed at
once.

The law is proved by the list of commands read from its end (`Coalesced`): the last command either
fails at once and changes nothing else, or goes to the front and ends the listed commands of its
target, which are the commands that were the latest of that target before it.
-/

namespace StoneLink.Broadcast

namespace Queue

/-- Whether the command added `i`-th is the latest of its target: its kind is valid and no command
of a valid kind added after it has its target. -/
def latestOfTarget (cmds : List Command) (i : Nat) : Bool :=
  match cmds[i]? with
  | some c => c.kind.isValid &&
      (cmds.drop (i + 1)).all fun c' => !(c'.kind.isValid && c.target == c'.target)
  | none => false

/-- How the command added `i`-th has ended: failed at once if its kind is unknown, still pending
if it is the latest of its target, superseded otherwise. -/
def coalescedOutcome (cmds : List Command) (i : Nat) (c : Command) : Outcome :=
  if !c.kind.isValid then .failed (.because .invalidCommand)
  else if latestOfTarget cmds i then .pending else .failed (.because .superseded)

theorem latestOfTarget_snoc_self (pre : List Command) (c : Command) :
    latestOfTarget (pre ++ [c]) pre.length = c.kind.isValid := by
  simp [latestOfTarget]

/-- A command added later leaves an earlier one the latest of its target unless it is of a valid
kind and has that target. -/
theorem latestOfTarget_snoc (pre : List Command) (c : Command) {i : Nat} (hi : i < pre.length) :
    latestOfTarget (pre ++ [c]) i =
      (latestOfTarget pre i && !(c.kind.isValid && pre[i].target == c.target)) := by
  simp only [latestOfTarget, List.getElem?_append_left hi, List.getElem?_eq_getElem hi,
    List.drop_append_of_le_length (by omega : i + 1 ≤ pre.length), List.all_append, List.all_cons,
    List.all_nil, Bool.and_true, Bool.and_assoc]

theorem valid_of_latestOfTarget {cmds : List Command} {i : Nat} {c : Command}
    (hc : cmds[i]? = some c) (h : latestOfTarget cmds i = true) : c.kind.isValid = true := by
  simp only [latestOfTarget, hc, Bool.and_eq_true] at h
  exact h.1

/-- The queue after adding `cmds` to a new queue, as the coalescing law describes it. -/
structure Coalesced (cmds : List Command) (q : Queue) : Prop where
  /-- The waiting commands with their tickets are the latest of each target, newest first. -/
  items_eq : q.items.map (fun it => (it.command, it.ticket)) =
    (cmds.zipIdx.filter fun p => latestOfTarget cmds p.2).reverse
  /-- Nothing is in flight. -/
  inFlight_eq : q.inFlight = []
  /-- Every add issued one ticket. -/
  length_outcomes : q.outcomes.length = cmds.length
  /-- Every ticket has the outcome the law gives it. -/
  outcome_eq : ∀ i c, cmds[i]? = some c → q.outcomes[i]? = some (coalescedOutcome cmds i c)

section Coalesced

variable {pre : List Command} {q : Queue}

theorem coalesced_create (retries : Int) : Coalesced [] (create retries) where
  items_eq := rfl
  inFlight_eq := rfl
  length_outcomes := rfl
  outcome_eq := fun _ _ h => by simp at h

/-- A ticket of the first commands is pending exactly when its command is the latest of its
target. -/
theorem Coalesced.pending_iff (h : Coalesced pre q) {i : Nat} (hi : i < pre.length) :
    q.Pending i ↔ latestOfTarget pre i = true := by
  rw [Pending, h.outcome_eq i pre[i] (List.getElem?_eq_getElem hi), Option.some.injEq,
    coalescedOutcome]
  cases hk : pre[i].kind.isValid <;> cases hl : latestOfTarget pre i <;> simp
  exact absurd (valid_of_latestOfTarget (List.getElem?_eq_getElem hi) hl) (by simp [hk])

/-- The tickets of the waiting commands of a target are the commands of that target that are the
latest of it. -/
theorem Coalesced.mem_tickets_target (h : Coalesced pre q) (c : Command) (i : Nat) :
    i ∈ (q.items.filter fun it => it.command.target == c.target).map (·.ticket) ↔
      ∃ ci, pre[i]? = some ci ∧ latestOfTarget pre i = true ∧ (ci.target == c.target) = true := by
  have hview : (q.items.filter fun it => it.command.target == c.target).map (·.ticket) =
      (((pre.zipIdx.filter fun x => latestOfTarget pre x.2).reverse.filter
        fun x => x.1.target == c.target).map Prod.snd) := by
    rw [← h.items_eq, List.filter_map, List.map_map]
    rfl
  rw [hview]
  simp only [List.mem_map, List.mem_filter, List.mem_reverse, List.mem_zipIdx_iff_getElem?]
  constructor
  · rintro ⟨⟨ci, j⟩, ⟨⟨hc, hl⟩, hp⟩, rfl⟩
    exact ⟨ci, hc, hl, hp⟩
  · rintro ⟨ci, hc, hl, hp⟩
    exact ⟨(ci, i), ⟨⟨hc, hl⟩, hp⟩, rfl⟩

theorem length_outcomes_finishAll (q : Queue) (l : List Item) (o : Outcome) :
    (q.finishAll l o).outcomes.length = q.outcomes.length := by
  induction l generalizing q with
  | nil => rfl
  | cons it l ih =>
    rw [finishAll_cons, ih, finish_eq]
    split <;> simp

/-- Every add issues one ticket. -/
theorem length_outcomes_add (q : Queue) (c : Command) :
    (q.add c).outcomes.length = q.outcomes.length + 1 := by
  cases hk : c.kind.isValid with
  | false =>
    rw [add_of_invalid hk]
    simp [issueEnded]
  | true =>
    rw [outcomes_add hk, length_outcomes_finishAll, length_outcomes_finishAll]
    simp [issueEnded]

/-- A command of a valid kind goes in front of the waiting commands of other targets. -/
theorem items_add_of_valid {c : Command} (hk : c.kind.isValid = true) (q : Queue) :
    (q.add c).items = ⟨q.outcomes.length, c, if c.retries ≤ 0 then q.defaultRetries else c.retries⟩ ::
      q.items.filter fun it => !(it.command.target == c.target) := by
  simp [add, hk]

/-- With nothing in flight, a command of a valid kind issues its ticket pending and ends the pending
waiting commands of its target as superseded. -/
theorem outcome_add_of_valid {c : Command} (hk : c.kind.isValid = true) {q : Queue}
    (hfl : q.inFlight = []) (u : Nat) :
    (q.add c).outcomes[u]? =
      if (q.Pending u ∨ u = q.outcomes.length) ∧
          u ∈ (q.items.filter fun it => it.command.target == c.target).map (·.ticket)
        then some (.failed (.because .superseded)) else (q.outcomes ++ [.pending])[u]? := by
  rw [outcomes_add hk, hfl, List.filter_nil,
    show ∀ q' : Queue, q'.finishAll [] (.failed (.because .superseded)) = q' from fun _ => rfl,
    outcome_finishAll (by simp), issueEnded]
  simp only [pending_issuePending]

/-- The commands of the first ones that stay the latest of their target after one more command. -/
theorem filter_zipIdx_snoc (pre : List Command) (c : Command) :
    pre.zipIdx.filter (fun x => latestOfTarget (pre ++ [c]) x.2) =
      (pre.zipIdx.filter fun x => latestOfTarget pre x.2).filter
        fun x => !(c.kind.isValid && x.1.target == c.target) := by
  rw [List.filter_filter]
  refine List.filter_congr fun x hx => ?_
  obtain ⟨hlt, hx1⟩ := List.mem_zipIdx' (x := x.1) (i := x.2) hx
  rw [latestOfTarget_snoc pre c hlt, ← hx1, Bool.and_comm]

/-- The latest commands of each target after one more command, newest first. -/
theorem latest_snoc (pre : List Command) (c : Command) :
    ((pre ++ [c]).zipIdx.filter fun x => latestOfTarget (pre ++ [c]) x.2).reverse =
      (if c.kind.isValid then [(c, pre.length)] else []) ++
        ((pre.zipIdx.filter fun x => latestOfTarget pre x.2).reverse.filter
          fun x => !(c.kind.isValid && x.1.target == c.target)) := by
  rw [List.zipIdx_append, List.filter_append, List.reverse_append, filter_zipIdx_snoc,
    List.filter_reverse, Nat.zero_add]
  cases hk : c.kind.isValid <;> simp [latestOfTarget_snoc_self, hk]

theorem Coalesced.add (h : Coalesced pre q) (c : Command) : Coalesced (pre ++ [c]) (q.add c) := by
  have hn : q.outcomes.length = pre.length := h.length_outcomes
  cases hk : c.kind.isValid with
  | false =>
    -- a command of an unknown kind fails at once and leaves the rest as it was
    rw [add_of_invalid hk]
    refine ⟨?_, h.inFlight_eq, by simp [issueEnded, hn], fun i ci hci => ?_⟩
    · simpa [latest_snoc, hk, issueEnded] using h.items_eq
    · rcases Nat.lt_or_ge i pre.length with hi | hi
      · rw [List.getElem?_append_left hi] at hci
        have hsame : latestOfTarget (pre ++ [c]) i = latestOfTarget pre i := by
          rw [latestOfTarget_snoc pre c hi, hk]
          simp
        simp only [issueEnded, List.getElem?_append_left (hn ▸ hi), h.outcome_eq i ci hci,
          coalescedOutcome, hsame]
      · obtain rfl : i = pre.length := by
          have := (List.getElem?_eq_some_iff.mp hci).1
          simp at this
          omega
        simp only [List.getElem?_concat_length, Option.some.injEq] at hci
        subst hci
        simp [issueEnded, hn, coalescedOutcome, hk]
  | true =>
    -- a command of a valid kind goes in front and supersedes the latest commands of its target
    refine ⟨?_, ?_, ?_, fun i ci hci => ?_⟩
    · have hmap : (q.items.filter fun it => !(it.command.target == c.target)).map
          (fun it => (it.command, it.ticket)) =
          (q.items.map fun it => (it.command, it.ticket)).filter
            fun x => !(x.1.target == c.target) := by
        rw [List.filter_map]
        rfl
      rw [items_add_of_valid hk, List.map_cons, hmap, h.items_eq, latest_snoc, hn]
      simp [hk]
    · have := inFlight_add_sublist q c
      rw [h.inFlight_eq] at this
      exact List.eq_nil_of_sublist_nil this
    · rw [length_outcomes_add, hn, List.length_append, List.length_singleton]
    · rw [outcome_add_of_valid hk h.inFlight_eq]
      simp only [h.mem_tickets_target c]
      rcases Nat.lt_or_ge i pre.length with hi | hi
      · -- an earlier command ends as superseded exactly when it was the latest of the new target
        rw [List.getElem?_append_left hi] at hci
        have hci' : pre[i] = ci := by simpa [List.getElem?_eq_getElem hi] using hci
        rw [List.getElem?_append_left (hn ▸ hi), h.outcome_eq i ci hci, coalescedOutcome,
          coalescedOutcome, latestOfTarget_snoc pre c hi, hk, hci']
        simp only [h.pending_iff hi, hci]
        have hvl : latestOfTarget pre i = true → ci.kind.isValid = true :=
          valid_of_latestOfTarget hci
        cases hl : latestOfTarget pre i <;> cases hv : ci.kind.isValid <;>
          by_cases ht : ci.target = c.target <;> simp_all
      · -- the new command is the latest of its target and pending
        obtain rfl : i = pre.length := by
          have := (List.getElem?_eq_some_iff.mp hci).1
          simp at this
          omega
        simp only [List.getElem?_concat_length, Option.some.injEq] at hci
        subst hci
        simp [hn, coalescedOutcome, hk, latestOfTarget_snoc_self]

/-- Adding commands one by one to a new queue keeps it as the coalescing law describes; the
induction reads the commands from their end, one `Coalesced.add` step per command. -/
theorem coalesced_run_add (retries : Int) (cmds : List Command) :
    Coalesced cmds ((create retries).run (cmds.map Op.add)) := by
  induction cmds using List.reverseRecOn with
  | nil => exact coalesced_create retries
  | append_singleton pre c ih =>
    rw [List.map_append, run_append]
    exact ih.add c

end Coalesced

/-- Adding commands to a new queue, with no window taken, coalesces them by target: the queue
lists, front first, the latest command of each target among those of a valid kind, newest first,
each under the ticket of its own add, and nothing is in flight. A ticket is still pending exactly
when its command is the latest of its target; the other commands of a valid kind have ended as
superseded, and a command of an unknown kind failed at once. -/
theorem add_run_coalesces (retries : Int) (cmds : List Command) :
    let q := (create retries).run (cmds.map Op.add)
    let latest := (cmds.zipIdx.filter fun p => latestOfTarget cmds p.2).reverse
    q.commands = latest.map Prod.fst ∧ q.items.map (·.ticket) = latest.map Prod.snd ∧
      q.inFlight = [] ∧
      ∀ i c, cmds[i]? = some c → q.outcomes[i]? = some (coalescedOutcome cmds i c) := by
  intro q latest
  have h : Coalesced cmds q := coalesced_run_add retries cmds
  have hfst := congrArg (List.map Prod.fst) h.items_eq
  have hsnd := congrArg (List.map Prod.snd) h.items_eq
  rw [List.map_map] at hfst hsnd
  exact ⟨hfst, hsnd, h.inFlight_eq, h.outcome_eq⟩

/- Switching stone 3, then stone 4, then stone 3 again: the first switch of stone 3 is superseded
by the last one. -/
example : [0, 1, 2].map (latestOfTarget
    [{ switch := ⟨3, 1⟩ }, { switch := ⟨4, 1⟩ }, { switch := ⟨3, 0⟩ }]) = [false, true, true] := by
  decide

end Queue

end StoneLink.Broadcast
