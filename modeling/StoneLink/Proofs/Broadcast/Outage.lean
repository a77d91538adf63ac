import StoneLink.Broadcast.Scheduler
import StoneLink.Proofs.Broadcast.Completion

/-!
# Radio outages

The scheduler drives its queue one window at a time, and every window ends within the call that
started it: by its interval, by the radio going off, or by the caller giving up. Between calls,
then, no command is in flight, and while the radio is off no command waits either: going off
fails every command, a command added while it is off fails at once, and a window is never started
while it is off.

The queue facts this rests on are about what a window does to the in-flight list: taking a window
moves its commands there, and ending, failing or requeueing it takes each of them out again.
-/

namespace StoneLink.Broadcast

namespace Queue

theorem Wf.issueEnded {q : Queue} (h : q.Wf) {o : Outcome} (ho : o ≠ .pending) :
    (q.issueEnded o).Wf :=
  h.of_perm (List.Perm.refl _) (pending_issueEnded ho q) rfl

theorem inFlight_add_sublist (q : Queue) (cmd : Command) : (q.add cmd).inFlight.Sublist q.inFlight := by
  unfold add
  split
  · exact List.Sublist.refl _
  · simp only [inFlight_finishAll]
    exact List.filter_sublist

theorem nextWindow_none {q q' : Queue} (h : q.nextWindow = (none, q')) : q' = q := by
  unfold nextWindow at h
  split at h
  · exact (Prod.mk.inj h).2.symm
  · simp at h

/-- Taking a window moves its commands, as they were, from the waiting list to the end of the
in-flight list. -/
theorem nextWindow_some {q q' : Queue} {w : Window} (h : q.nextWindow = (some w, q')) :
    (w.items ++ q'.items).Perm q.items ∧ q'.inFlight = q.inFlight ++ w.items ∧
      q'.outcomes = q.outcomes := by
  unfold nextWindow at h
  split at h
  · simp at h
  · next first others hitems =>
    have hperm := foldl_takeStep_perm first.command.sphereId first.command.kind
      (if first.command.kind.batches then maxSwitchItems else 1) ([], []) q.items
    rw [← takeWindow_eq] at hperm
    obtain ⟨hw, rfl⟩ := Prod.mk.inj h
    obtain rfl := Option.some.inj hw
    refine ⟨?_, rfl, rfl⟩
    simp only [List.append_nil, List.nil_append] at hperm
    exact hperm

theorem inFlight_elapseStep (q : Queue) (wi : Item) :
    (q.elapseStep wi).inFlight = q.inFlight.filter (·.ticket != wi.ticket) := by
  have hrel := inFlight_release q wi.ticket
  unfold elapseStep
  split
  · next it q' heq =>
    rw [heq] at hrel
    dsimp only
    split
    · rw [inFlight_finish, hrel]
    · exact hrel
  · next q' heq =>
    rw [heq] at hrel
    exact hrel

theorem inFlight_failStep (f : Fault) (q : Queue) (wi : Item) :
    (q.failStep f wi).inFlight = q.inFlight.filter (·.ticket != wi.ticket) := by
  have hrel := inFlight_release q wi.ticket
  unfold failStep
  split
  · next it q' heq =>
    rw [heq] at hrel
    rw [inFlight_finish, hrel]
  · next q' heq =>
    rw [heq] at hrel
    exact hrel

/-- A window's commands leave the in-flight list when it has been taken and then ended. -/
theorem filter_window_eq_nil (ws : List Item) :
    ws.filter (fun it => it.ticket ∉ ws.map (·.ticket)) = [] :=
  List.filter_eq_nil_iff.mpr fun x hx => by simpa using List.mem_map_of_mem hx

theorem Wf.of_nextWindow {q q' : Queue} {ow : Option Window} (h : q.Wf)
    (hn : q.nextWindow = (ow, q')) : q'.Wf := by
  have := h.nextWindow
  rwa [hn] at this

theorem windowElapsed_of_inFlight_nil {q : Queue} (h : q.inFlight = []) (w : Window) :
    q.windowElapsed w = q := by
  rw [windowElapsed_eq]
  induction w.items with
  | nil => rfl
  | cons wi ws ih =>
    rw [List.foldl_cons]
    have hstep : q.elapseStep wi = q := by
      rw [elapseStep, release_of_find?_none (by simp [h])]
    rw [hstep, ih]

/-- Requeueing commands that are all in flight, with distinct tickets, puts back exactly them, in
window order. -/
theorem foldl_requeueStep_of_mem (ws : List Item) (acc : List Item × Queue)
    (hnd : (acc.2.inFlight.map (·.ticket)).Nodup) (hws : ∀ wi ∈ ws, wi ∈ acc.2.inFlight)
    (hwnd : (ws.map (·.ticket)).Nodup) : (ws.foldl requeueStep acc).1 = acc.1 ++ ws := by
  induction ws generalizing acc with
  | nil => simp
  | cons wi ws ih =>
    obtain ⟨back, q⟩ := acc
    have hf := find?_ticket_of_mem hnd (hws wi List.mem_cons_self)
    have hfresh : wi.ticket ∉ ws.map (·.ticket) := (List.nodup_cons.mp hwnd).1
    rw [List.foldl_cons, requeueStep, release_of_find? hf, ih]
    · simp
    · exact hnd.sublist (List.filter_sublist.map _)
    · intro x hx
      refine List.mem_filter.mpr ⟨hws x (List.mem_cons_of_mem _ hx), ?_⟩
      have hne : x.ticket ≠ wi.ticket := fun heq => hfresh (heq ▸ List.mem_map_of_mem hx)
      simpa using hne
    · exact (List.nodup_cons.mp hwnd).2

/-- A window taken and then requeued goes back, command for command, in front of the waiting
ones; the in-flight list and the outcomes are as before the window. -/
theorem Wf.requeue_of_nextWindow {q q' : Queue} {w : Window} (h : q.Wf)
    (hn : q.nextWindow = (some w, q')) :
    (q'.requeue w).items = w.items ++ q'.items ∧ (q'.requeue w).inFlight = q.inFlight ∧
      (q'.requeue w).outcomes = q.outcomes := by
  obtain ⟨-, hfl, hout⟩ := nextWindow_some hn
  have hnd := (h.of_nextWindow hn).inFlight_nodup
  -- the window's tickets are new to the in-flight list
  have hdisj : (q.inFlight.map (·.ticket) ++ w.items.map (·.ticket)).Nodup := by
    rw [← List.map_append, ← hfl]
    exact hnd
  have hback := foldl_requeueStep_of_mem w.items ([], q') hnd
    (fun wi hwi => hfl ▸ List.mem_append_right _ hwi) (List.nodup_append.mp hdisj).2.1
  have hitems := (foldl_requeueStep w.items ([], q') hnd).1
  refine ⟨by rw [requeue_eq, requeued, hitems, hback]; rfl, ?_, by rw [outcomes_requeue, hout]⟩
  -- the window's commands leave flight, and the commands in flight before it stay
  have hfold := inFlight_foldl Prod.snd Queue.requeueStep inFlight_requeueStep w.items ([], q')
  dsimp only at hfold
  rw [hfl, List.filter_append, filter_window_eq_nil, List.append_nil] at hfold
  rw [requeue_eq]
  refine hfold.trans (List.filter_eq_self.mpr fun x hx => ?_)
  have hout : x.ticket ∉ w.items.map (·.ticket) :=
    fun hin => (List.nodup_append.mp hdisj).2.2 _ (List.mem_map_of_mem hx) _ hin rfl
  simpa using hout

end Queue

namespace Scheduler

/-! ## One window -/

section RunWindow

variable {s : Scheduler} {w : Window} {q : Queue} {uuids : List Uuid}

theorem encodeWindow_queue (s : Scheduler) (q : Queue) (w : Window) :
    ({ s with queue := q } : Scheduler).encodeWindow w = s.encodeWindow w :=
  rfl

theorem not_available (ha : s.available = true) : (!s.available) = false := by
  simp [ha]

theorem runWindow_cancelBefore (s : Scheduler) :
    s.runWindow .cancelBefore = ((false, some (.because .cancelled)), s) := by
  simp [runWindow]

/-- While the radio is off, a window does not start and nothing changes. -/
theorem runWindow_of_off (ha : s.available = false) {during : Interruption}
    (hd : during ≠ .cancelBefore) : s.runWindow during = ((false, none), s) := by
  simp [runWindow, ha, hd]

theorem runWindow_of_none (ha : s.available = true) {during : Interruption}
    (hd : during ≠ .cancelBefore) (hn : s.queue.nextWindow = (none, q)) :
    s.runWindow during = ((false, none), { s with queue := q }) := by
  simp [runWindow, ha, hd, hn]

-- In the lemmas below the encoder is read on the scheduler with the window's queue, so the
-- availability and the advertiser's flag are rewritten only after `encodeWindow_queue` has fired.

/-- A window that cannot be encoded fails without going on the air. -/
theorem runWindow_of_error {f : Fault} (ha : s.available = true) {during : Interruption}
    (hd : during ≠ .cancelBefore) (hn : s.queue.nextWindow = (some w, q))
    (he : s.encodeWindow w = .error f) :
    s.runWindow during = ((true, none), { s with queue := q.failWindow w f }) := by
  simp only [runWindow, hd, if_false, not_available ha, Bool.false_eq_true, hn, encodeWindow_queue,
    he]

/-- A window that is given up puts its commands back, whether advertising started or not. -/
theorem runWindow_cancel (ha : s.available = true) (hn : s.queue.nextWindow = (some w, q))
    (he : s.encodeWindow w = .ok uuids) :
    (s.runWindow .cancel).1 = (false, some (.because .cancelled)) ∧
      (s.runWindow .cancel).2.queue = q.requeue w ∧ (s.runWindow .cancel).2.available = true := by
  simp only [runWindow, reduceCtorEq, if_false, not_available ha, Bool.false_eq_true, hn,
    encodeWindow_queue, he]
  -- the advertiser's refusal touches only the record of what was advertised
  cases s.startFails <;> simp [stop, ha]

/-- A window cut short by the radio going off ends after everything has failed, whether
advertising started or not. -/
theorem runWindow_radioOff (ha : s.available = true) (hn : s.queue.nextWindow = (some w, q))
    (he : s.encodeWindow w = .ok uuids) :
    (s.runWindow .radioOff).1 = (true, none) ∧
      (s.runWindow .radioOff).2.queue = q.failAll (.because .radioNotReady) ∧
      (s.runWindow .radioOff).2.available = false := by
  simp only [runWindow, reduceCtorEq, if_false, not_available ha, Bool.false_eq_true, hn,
    encodeWindow_queue, he]
  -- everything failed before the window ended, so its end finds nothing in flight
  cases s.startFails <;> simp only [stop, ha, setAvailable] <;>
    simp [Queue.windowElapsed_of_inFlight_nil (q := q.failAll _) rfl]

/-- Otherwise the window ends by its interval. -/
theorem runWindow_elapsed (ha : s.available = true) (hn : s.queue.nextWindow = (some w, q))
    (he : s.encodeWindow w = .ok uuids) :
    (s.runWindow .none).1 = (true, none) ∧
      (s.runWindow .none).2.queue = q.windowElapsed w ∧ (s.runWindow .none).2.available = true := by
  simp only [runWindow, reduceCtorEq, if_false, not_available ha, Bool.false_eq_true, hn,
    encodeWindow_queue, he]
  -- the advertiser's refusal touches only the record of what was advertised
  cases s.startFails <;> simp [stop, ha]

end RunWindow

/-! ## Calls and the state between them -/

/-- One call on the scheduler. -/
inductive Call where
  /-- Adds a command. -/
  | add (cmd : Command)
  /-- Reports the radio on or off. -/
  | setAvailable (available : Bool)
  /-- Runs one window, with what happens while it is on the air. -/
  | runWindow (during : Interruption)

/-- The scheduler after a call. -/
def Call.apply : Call → Scheduler → Scheduler
  | .add cmd, s => s.add cmd
  | .setAvailable b, s => s.setAvailable b
  | .runWindow during, s => (s.runWindow during).2

/-- The scheduler after a sequence of calls. -/
def run (s : Scheduler) (calls : List Call) : Scheduler := calls.foldl (fun s c => c.apply s) s

theorem run_cons (s : Scheduler) (c : Call) (calls : List Call) :
    run s (c :: calls) = run (c.apply s) calls := rfl

/-- The state between two calls: the queue is well formed, no window is on the air, and while the
radio is off no command waits. -/
structure Settled (s : Scheduler) : Prop where
  wf : s.queue.Wf
  inFlight_nil : s.queue.inFlight = []
  items_nil_of_off : s.available = false → s.queue.items = []

section Settled

variable {s : Scheduler}

theorem Settled.add (h : s.Settled) (cmd : Command) : (s.add cmd).Settled := by
  unfold Scheduler.add
  split
  · next ha =>
    refine ⟨h.wf.add cmd, ?_, fun hoff => absurd ha (by simpa using hoff)⟩
    exact List.sublist_nil.mp (h.inFlight_nil ▸ Queue.inFlight_add_sublist s.queue cmd)
  · next ha =>
    exact ⟨h.wf.issueEnded (by simp), h.inFlight_nil, fun _ => h.items_nil_of_off (by simpa using ha)⟩

theorem Settled.setAvailable (h : s.Settled) (b : Bool) : (s.setAvailable b).Settled := by
  unfold Scheduler.setAvailable
  split
  · -- going off fails every command and empties both lists
    exact ⟨h.wf.failAll _, rfl, fun _ => rfl⟩
  · next hstay =>
    refine ⟨h.wf, h.inFlight_nil, fun hoff => h.items_nil_of_off ?_⟩
    simp only at hoff
    subst hoff
    simpa using hstay

/-- A window that is taken while nothing is in flight, and then ended in any way, leaves nothing
in flight. -/
theorem inFlight_foldl_of_nextWindow {q q' : Queue} {w : Window} (hfl : q.inFlight = [])
    (hn : q.nextWindow = (some w, q')) {f : Queue → Item → Queue}
    (hf : ∀ q wi, (f q wi).inFlight = q.inFlight.filter (·.ticket != wi.ticket)) :
    (w.items.foldl f q').inFlight = [] := by
  have hfold := Queue.inFlight_foldl id f hf w.items q'
  dsimp only [id] at hfold
  rw [(Queue.nextWindow_some hn).2.1, hfl, List.nil_append, Queue.filter_window_eq_nil] at hfold
  exact hfold

theorem Settled.runWindow (h : s.Settled) (during : Interruption) : (s.runWindow during).2.Settled := by
  by_cases hd : during = .cancelBefore
  · rw [hd, runWindow_cancelBefore]
    exact h
  cases ha : s.available with
  | false =>
    rw [runWindow_of_off ha hd]
    exact h
  | true =>
    have hoff : ∀ s' : Scheduler, s'.available = true → s'.available = false → s'.queue.items = [] :=
      fun s' hon hoff => absurd (hon.symm.trans hoff) (by simp)
    rcases hn : s.queue.nextWindow with ⟨_ | w, q⟩
    · -- nothing waits: the queue is as it was
      rw [runWindow_of_none ha hd hn, Queue.nextWindow_none hn]
      exact h
    · have hq := h.wf.of_nextWindow hn
      cases he : s.encodeWindow w with
      | error f =>
        rw [runWindow_of_error ha hd hn he]
        refine ⟨hq.failWindow w f, ?_, hoff _ ha⟩
        rw [Queue.failWindow_eq]
        exact inFlight_foldl_of_nextWindow h.inFlight_nil hn (Queue.inFlight_failStep f)
      | ok uuids =>
        -- the window ends by its interval, by the caller giving up or by the radio going off
        cases during with
        | none =>
          obtain ⟨-, hqueue, havail⟩ := runWindow_elapsed ha hn he
          refine ⟨hqueue ▸ hq.windowElapsed w, ?_, hoff _ havail⟩
          rw [hqueue, Queue.windowElapsed_eq]
          exact inFlight_foldl_of_nextWindow h.inFlight_nil hn Queue.inFlight_elapseStep
        | cancelBefore => exact absurd rfl hd
        | cancel =>
          obtain ⟨-, hqueue, havail⟩ := runWindow_cancel ha hn he
          obtain ⟨-, hfl, -⟩ := h.wf.requeue_of_nextWindow hn
          exact ⟨hqueue ▸ hq.requeue w, by rw [hqueue, hfl, h.inFlight_nil], hoff _ havail⟩
        | radioOff =>
          obtain ⟨-, hqueue, -⟩ := runWindow_radioOff ha hn he
          exact ⟨hqueue ▸ hq.failAll _, by rw [hqueue]; rfl, fun _ => by rw [hqueue]; rfl⟩

theorem Settled.apply (h : s.Settled) : ∀ c : Call, (c.apply s).Settled
  | .add cmd => h.add cmd
  | .setAvailable b => h.setAvailable b
  | .runWindow during => h.runWindow during

theorem Settled.run (h : s.Settled) (calls : List Call) : (s.run calls).Settled := by
  induction calls generalizing s with
  | nil => exact h
  | cons c calls ih =>
    rw [run_cons]
    exact ih (h.apply c)

theorem settled_new (d : Int) (e : Option Encoder) (sf : Bool) :
    ({ queue := Queue.create d, encoder := e, startFails := sf } : Scheduler).Settled :=
  ⟨Queue.wf_create d, rfl, fun h => absurd h (by simp)⟩

end Settled

/-! ## Outages -/

/-- A window cut short by the radio going off fails every command that was waiting before it. -/
theorem outcome_runWindow_radioOff {s : Scheduler} (h : s.Settled) {w : Window} {q : Queue}
    {uuids : List Uuid} (ha : s.available = true) (hn : s.queue.nextWindow = (some w, q))
    (he : s.encodeWindow w = .ok uuids) {it : Item} (hit : it ∈ s.queue.items) :
    (s.runWindow .radioOff).2.queue.outcomes[it.ticket]? = some (.failed (.because .radioNotReady)) := by
  obtain ⟨-, hqueue, -⟩ := runWindow_radioOff ha hn he
  have hq := h.wf.of_nextWindow hn
  -- the command is listed in the queue the window left, whether the window took it or not
  have hlisted : it ∈ q.listed := by
    obtain ⟨hperm, hfl, -⟩ := Queue.nextWindow_some hn
    have hmem := hperm.symm.subset hit
    rw [List.mem_append] at hmem
    rcases hmem with hw | hrest
    · exact List.mem_append_right _ (by rw [hfl]; exact List.mem_append_right _ hw)
    · exact List.mem_append_left _ hrest
  rw [hqueue, Queue.failAll, Queue.outcome_finishAll (by simp),
    if_pos ⟨hq.pending_of_listed it hlisted, List.mem_map_of_mem hlisted⟩]

/-- **No broadcast survives a radio outage.** After any sequence of calls on a new scheduler: no
window is on the air; while the radio is off no command waits, a command added gets a ticket that
has already failed as `radioNotReady` and leaves the queue's lists as they were, and a window run
by a caller that has not given up does nothing. A window that is given up puts its commands back
in front of the waiting ones with their records as they were, so no window is spent and no ticket
ends; a window cut short by the radio going off leaves nothing waiting or in flight, and every
command that was waiting has failed as `radioNotReady`. Both hold whether the advertiser started
or refused to. -/
theorem radio_outage_clears_queue (d : Int) (e : Option Encoder) (sf : Bool) (calls : List Call) :
    let s := run { queue := Queue.create d, encoder := e, startFails := sf } calls
    s.queue.inFlight = [] ∧
      (s.available = false → s.queue.items = [] ∧
        (∀ cmd, (s.add cmd).queue.items = s.queue.items ∧
          (s.add cmd).queue.inFlight = s.queue.inFlight ∧
          (s.add cmd).queue.outcomes = s.queue.outcomes ++ [.failed (.because .radioNotReady)]) ∧
        ∀ during, during ≠ .cancelBefore → s.runWindow during = ((false, none), s)) ∧
      (∀ w q uuids, s.available = true → s.queue.nextWindow = (some w, q) →
        s.encodeWindow w = .ok uuids →
        ((s.runWindow .cancel).1 = (false, some (.because .cancelled)) ∧
          (s.runWindow .cancel).2.queue.items = w.items ++ q.items ∧
          (w.items ++ q.items).Perm s.queue.items ∧
          (s.runWindow .cancel).2.queue.inFlight = [] ∧
          (s.runWindow .cancel).2.queue.outcomes = s.queue.outcomes) ∧
        ((s.runWindow .radioOff).1 = (true, none) ∧ (s.runWindow .radioOff).2.available = false ∧
          (s.runWindow .radioOff).2.queue.items = [] ∧ (s.runWindow .radioOff).2.queue.inFlight = [] ∧
          ∀ it ∈ s.queue.items,
            (s.runWindow .radioOff).2.queue.outcomes[it.ticket]? =
              some (.failed (.because .radioNotReady)))) := by
  intro s
  have h : s.Settled := (settled_new d e sf).run calls
  refine ⟨h.inFlight_nil, fun hoff => ⟨h.items_nil_of_off hoff, fun cmd => ?_,
    fun during hd => runWindow_of_off hoff hd⟩, fun w q uuids ha hn he => ⟨?_, ?_⟩⟩
  · -- while the radio is off a command only gets a failed ticket
    simp only [Scheduler.add, hoff, Bool.false_eq_true, if_false]
    exact ⟨rfl, rfl, rfl⟩
  · obtain ⟨hres, hqueue, -⟩ := runWindow_cancel ha hn he
    obtain ⟨hitems, hfl, hout⟩ := h.wf.requeue_of_nextWindow hn
    exact ⟨hres, by rw [hqueue, hitems], (Queue.nextWindow_some hn).1,
      by rw [hqueue, hfl, h.inFlight_nil], by rw [hqueue, hout]⟩
  · obtain ⟨hres, hqueue, havail⟩ := runWindow_radioOff ha hn he
    exact ⟨hres, havail, by rw [hqueue]; rfl, by rw [hqueue]; rfl,
      fun it hit => outcome_runWindow_radioOff h ha hn he hit⟩

theorem radio_outage_clears_queue_after_off :
    let s := run { queue := Queue.create 0, encoder := none, startFails := false }
      [.add {}, .setAvailable false]
    s.available = false ∧ s.queue.outcomes = [.failed (.because .radioNotReady)] ∧
    s.queue.inFlight = [] ∧
      (s.available = false → s.queue.items = [] ∧
        (∀ cmd, (s.add cmd).queue.items = s.queue.items ∧
          (s.add cmd).queue.inFlight = s.queue.inFlight ∧
          (s.add cmd).queue.outcomes = s.queue.outcomes ++ [.failed (.because .radioNotReady)]) ∧
        ∀ during, during ≠ .cancelBefore → s.runWindow during = ((false, none), s)) ∧
      (∀ w q uuids, s.available = true → s.queue.nextWindow = (some w, q) →
        s.encodeWindow w = .ok uuids →
        ((s.runWindow .cancel).1 = (false, some (.because .cancelled)) ∧
          (s.runWindow .cancel).2.queue.items = w.items ++ q.items ∧
          (w.items ++ q.items).Perm s.queue.items ∧
          (s.runWindow .cancel).2.queue.inFlight = [] ∧
          (s.runWindow .cancel).2.queue.outcomes = s.queue.outcomes) ∧
        ((s.runWindow .radioOff).1 = (true, none) ∧ (s.runWindow .radioOff).2.available = false ∧
          (s.runWindow .radioOff).2.queue.items = [] ∧ (s.runWindow .radioOff).2.queue.inFlight = [] ∧
          ∀ it ∈ s.queue.items,
            (s.runWindow .radioOff).2.queue.outcomes[it.ticket]? =
              some (.failed (.because .radioNotReady)))) := by
  have h := radio_outage_clears_queue 0 none false [.add {}, .setAvailable false]
  exact ⟨by decide, by decide, h⟩

end Scheduler

end StoneLink.Broadcast
