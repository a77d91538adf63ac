import StoneLink.Proofs.Broadcast.QueueInvariant

/-!
# How a queued command ends

A command that the queue accepts stays in it, with its command and its budget less the windows it
has spent, until one of four events ends it (`Queue.Ends`): a later command with the same target
supersedes it; failing everything fails it; a window that names it fails while it is in flight; or
a window that names it is sent while it is in flight and it had one window left, and it is done.
A window spends one of its windows when it is sent while the command is in flight and names it
(`Queue.spent` counts them), so a stale window that names a command waiting in the queue fails or
spends nothing. A window that is interrupted puts its commands still in flight back at the front,
as they were.

The proof follows one ticket through each operation. Its `slot` is its outcome with its record in
flight and its record waiting. An operation on a window goes through the window's commands one at
a time: those with other tickets leave the slot as it is, and the first one with the ticket acts
on it if it is in flight; after that it is not in flight, and the rest leave it alone.
-/

namespace StoneLink.Broadcast

namespace Queue

/-! ## A ticket's record -/

theorem find?_ticket_filter_ne (l : List Item) {u t : Nat} (h : u ≠ t) :
    (l.filter (·.ticket != u)).find? (·.ticket == t) = l.find? (·.ticket == t) := by
  rw [List.find?_filter]
  congr 1
  funext x
  by_cases hx : x.ticket = t
  · simp [hx, Ne.symm h]
  · simp [hx]

/-- In a list with distinct tickets, the record found for an item's ticket is the item. -/
theorem find?_ticket_of_mem {l : List Item} (hnd : (l.map (·.ticket)).Nodup) {it : Item}
    (hit : it ∈ l) : l.find? (·.ticket == it.ticket) = some it := by
  obtain ⟨x, hx⟩ : ∃ x, l.find? (·.ticket == it.ticket) = some x :=
    Option.isSome_iff_exists.mp (List.find?_isSome.mpr ⟨it, hit, by simp⟩)
  have hxt : x.ticket = it.ticket := by simpa using List.find?_some hx
  rw [hx, List.inj_on_of_nodup_map hnd (List.mem_of_find?_eq_some hx) hit hxt]

theorem find?_ticket_of_not_mem {l : List Item} {t : Nat} (h : t ∉ l.map (·.ticket)) :
    l.find? (·.ticket == t) = none := by
  rw [List.find?_eq_none]
  intro x hx hxt
  exact h (List.mem_map.mpr ⟨x, hx, by simpa using hxt⟩)

theorem mem_of_find?_ticket {l : List Item} {t : Nat} {x : Item}
    (h : l.find? (·.ticket == t) = some x) : x ∈ l ∧ x.ticket = t :=
  ⟨List.mem_of_find?_eq_some h, by simpa using List.find?_some h⟩

theorem outcome_finish_ne (q : Queue) {u t : Nat} (o : Outcome) (h : u ≠ t) :
    (q.finish u o).outcomes[t]? = q.outcomes[t]? := by
  rw [finish_eq]
  split <;> simp [h]

theorem outcome_finish_self {q : Queue} {t : Nat} (o : Outcome) (h : q.Pending t) :
    (q.finish t o).outcomes[t]? = some o := by
  rw [finish_eq, if_pos h, List.getElem?_set_self (lt_length_of_pending h)]

/-- Ending a list of items gives the outcome to each pending ticket among them. -/
theorem outcome_finishAll {o : Outcome} (ho : o ≠ .pending) (q : Queue) (l : List Item) (u : Nat) :
    (q.finishAll l o).outcomes[u]? =
      if q.Pending u ∧ u ∈ l.map (·.ticket) then some o else q.outcomes[u]? := by
  induction l generalizing q with
  | nil => simp [finishAll]
  | cons it l ih =>
    rw [finishAll_cons, ih]
    by_cases hu : it.ticket = u
    · subst hu
      by_cases hp : q.Pending it.ticket
      · simp [pending_finish ho, hp, outcome_finish_self o hp]
      · simp [hp, finish_eq]
    · simp [pending_finish ho, Ne.symm hu, outcome_finish_ne q o hu]

theorem release_of_find? {q : Queue} {t : Nat} {it : Item}
    (h : q.inFlight.find? (·.ticket == t) = some it) :
    q.release t = (some it, { q with inFlight := q.inFlight.filter (·.ticket != t) }) := by
  simp only [release, h]

theorem release_of_find?_none {q : Queue} {t : Nat}
    (h : q.inFlight.find? (·.ticket == t) = none) : q.release t = (none, q) := by
  simp only [release, h]

/-- Releasing a ticket takes its records out of flight, whether there is one or not. -/
theorem inFlight_release (q : Queue) (t : Nat) :
    (q.release t).2.inFlight = q.inFlight.filter (·.ticket != t) := by
  unfold release
  split
  · rfl
  · next hf =>
    refine (List.filter_eq_self.mpr fun x hx => ?_).symm
    simpa using List.find?_eq_none.mp hf x hx

/-! ## A ticket's slot through the commands of a window -/

/-- What the queue holds for a ticket: its outcome, its record in flight and its record
waiting. -/
def slot (q : Queue) (t : Nat) : Option Outcome × Option Item × Option Item :=
  (q.outcomes[t]?, q.inFlight.find? (·.ticket == t), q.items.find? (·.ticket == t))

theorem slot_elapseStep_ne {q : Queue} {wi : Item} {t : Nat} (h : wi.ticket ≠ t) :
    (q.elapseStep wi).slot t = q.slot t := by
  unfold elapseStep
  split
  · next it q' hrel =>
    obtain ⟨-, hu, rfl⟩ := release_some hrel
    rw [← hu] at h
    dsimp only
    split
    · simp [slot, outcome_finish_ne _ _ h, find?_ticket_filter_ne _ h]
    · simp [slot, find?_ticket_filter_ne _ h, List.find?_append, h]
  · next q' hrel => rw [release_none hrel]

/-- A ticket not in flight is left alone by every command of a sent window. -/
theorem slot_elapseStep_waiting {q : Queue} {t : Nat}
    (h : q.inFlight.find? (·.ticket == t) = none) (wi : Item) :
    (q.elapseStep wi).slot t = q.slot t := by
  by_cases hw : wi.ticket = t
  · unfold elapseStep
    rw [hw, release_of_find?_none h]
  · exact slot_elapseStep_ne hw

/-- The command of a sent window with a ticket in flight uses up one of its windows: it is done
after the last, and otherwise waits at the back of the queue. -/
theorem slot_elapseStep_self {q : Queue} {wi : Item} {t : Nat} {it : Item} (hw : wi.ticket = t)
    (hs : q.slot t = (some .pending, some it, none)) :
    (q.elapseStep wi).slot t =
      if it.retriesRemaining - 1 ≤ 0 then (some .done, none, none)
      else (some .pending, none, some { it with retriesRemaining := it.retriesRemaining - 1 }) := by
  simp only [slot, Prod.mk.injEq] at hs
  obtain ⟨hout, hfl, hwait⟩ := hs
  have hit : it.ticket = t := (mem_of_find?_ticket hfl).2
  unfold elapseStep
  rw [hw, release_of_find? hfl]
  dsimp only
  have hp : ({ q with inFlight := q.inFlight.filter (·.ticket != t) } : Queue).Pending t := hout
  split
  · simp [slot, hit, outcome_finish_self _ hp, hwait]
  · simp [slot, hout, List.find?_append, hwait, hit]

theorem slot_failStep_ne {q : Queue} {f : Fault} {wi : Item} {t : Nat} (h : wi.ticket ≠ t) :
    (q.failStep f wi).slot t = q.slot t := by
  unfold failStep
  split
  · next it q' hrel =>
    obtain ⟨-, hu, rfl⟩ := release_some hrel
    rw [← hu] at h
    simp [slot, outcome_finish_ne _ _ h, find?_ticket_filter_ne _ h]
  · next q' hrel => rw [release_none hrel]

theorem slot_failStep_waiting {q : Queue} {f : Fault} {t : Nat}
    (h : q.inFlight.find? (·.ticket == t) = none) (wi : Item) :
    (q.failStep f wi).slot t = q.slot t := by
  by_cases hw : wi.ticket = t
  · unfold failStep
    rw [hw, release_of_find?_none h]
  · exact slot_failStep_ne hw

theorem slot_failStep_self {q : Queue} {f : Fault} {wi : Item} {t : Nat} {it : Item}
    (hw : wi.ticket = t) (hs : q.slot t = (some .pending, some it, none)) :
    (q.failStep f wi).slot t = (some (.failed f), none, none) := by
  simp only [slot, Prod.mk.injEq] at hs
  obtain ⟨hout, hfl, hwait⟩ := hs
  have hit : it.ticket = t := (mem_of_find?_ticket hfl).2
  unfold failStep
  rw [hw, release_of_find? hfl]
  have hp : ({ q with inFlight := q.inFlight.filter (·.ticket != t) } : Queue).Pending t := hout
  simp [slot, hit, outcome_finish_self _ hp, hwait]

theorem slot_requeueStep_ne {acc : List Item × Queue} {wi : Item} {t : Nat} (h : wi.ticket ≠ t) :
    (requeued (requeueStep acc wi)).slot t = (requeued acc).slot t := by
  obtain ⟨back, q⟩ := acc
  simp only [requeueStep]
  split
  · next it q' hrel =>
    obtain ⟨-, hu, rfl⟩ := release_some hrel
    rw [← hu] at h
    simp [slot, requeued, find?_ticket_filter_ne _ h, List.find?_append, h]
  · next q' hrel => rw [release_none hrel]

theorem slot_requeueStep_waiting {acc : List Item × Queue} {t : Nat}
    (h : acc.2.inFlight.find? (·.ticket == t) = none) (wi : Item) :
    (requeued (requeueStep acc wi)).slot t = (requeued acc).slot t := by
  by_cases hw : wi.ticket = t
  · obtain ⟨back, q⟩ := acc
    simp only [requeueStep]
    rw [hw, release_of_find?_none h]
  · exact slot_requeueStep_ne hw

/-- An interrupted window puts a ticket in flight back to wait, as it was. -/
theorem slot_requeueStep_self {acc : List Item × Queue} {wi : Item} {t : Nat} {it : Item}
    (hw : wi.ticket = t) (hs : (requeued acc).slot t = (some .pending, some it, none)) :
    (requeued (requeueStep acc wi)).slot t = (some .pending, none, some it) := by
  obtain ⟨back, q⟩ := acc
  simp only [slot, requeued, Prod.mk.injEq, List.find?_append, Option.or_eq_none_iff] at hs
  obtain ⟨hout, hfl, hback, hwait⟩ := hs
  simp only [requeueStep]
  rw [hw, release_of_find? hfl]
  have hit : it.ticket = t := (mem_of_find?_ticket hfl).2
  simp [slot, requeued, hout, List.find?_append, hback, hit]

/-! ## Through a whole window -/

section Fold

variable {σ : Type} (view : σ → Queue) (step : σ → Item → σ) {t : Nat}

/-- A window's fold leaves alone a ticket with no record in flight, when each of its steps
does. -/
theorem slot_foldl_waiting
    (hwait : ∀ a wi, ((view a).slot t).2.1 = none → (view (step a wi)).slot t = (view a).slot t)
    (ws : List Item) {a : σ} (h : ((view a).slot t).2.1 = none) :
    (view (ws.foldl step a)).slot t = (view a).slot t := by
  induction ws generalizing a with
  | nil => rfl
  | cons wi ws ih =>
    have hs := hwait a wi h
    rw [List.foldl_cons, ih (by rw [hs]; exact h), hs]

/-- A window's fold acts on a ticket in flight at its first command with the ticket, when that
step takes the ticket out of flight and the steps for other tickets leave it alone. -/
theorem slot_foldl_of_first {s₀ s₁ : Option Outcome × Option Item × Option Item}
    (hne : ∀ a wi, wi.ticket ≠ t → (view (step a wi)).slot t = (view a).slot t)
    (hwait : ∀ a wi, ((view a).slot t).2.1 = none → (view (step a wi)).slot t = (view a).slot t)
    (hself : ∀ a wi, wi.ticket = t → (view a).slot t = s₀ → (view (step a wi)).slot t = s₁)
    (hs₁ : s₁.2.1 = none) (ws : List Item) {a : σ} (hs : (view a).slot t = s₀) :
    (view (ws.foldl step a)).slot t = if t ∈ ws.map (·.ticket) then s₁ else s₀ := by
  induction ws generalizing a with
  | nil => simpa using hs
  | cons wi ws ih =>
    rw [List.foldl_cons]
    by_cases hw : wi.ticket = t
    · -- after its first command with the ticket, the ticket is not in flight
      have hstep := hself a wi hw hs
      rw [slot_foldl_waiting view step hwait ws (by rw [hstep]; exact hs₁), hstep]
      simp [hw]
    · rw [ih (by rw [hne a wi hw, hs])]
      simp [Ne.symm hw]

/-- A window's fold whose every step releases the command of its ticket takes out of flight
exactly the commands that the window names. -/
theorem inFlight_foldl
    (hf : ∀ a wi, (view (step a wi)).inFlight = (view a).inFlight.filter (·.ticket != wi.ticket))
    (ws : List Item) (a : σ) :
    (view (ws.foldl step a)).inFlight =
      (view a).inFlight.filter (fun it => it.ticket ∉ ws.map (·.ticket)) := by
  induction ws generalizing a with
  | nil => simp
  | cons wi ws ih =>
    rw [List.foldl_cons, ih, hf, List.filter_filter]
    congr 1
    funext x
    by_cases hw : x.ticket = wi.ticket <;> simp [hw]

end Fold

/-- A sent window acts on a ticket in flight at its first command with the ticket. -/
theorem slot_foldl_elapseStep {t : Nat} {it : Item} (ws : List Item) {q : Queue}
    (hs : q.slot t = (some .pending, some it, none)) :
    (ws.foldl elapseStep q).slot t =
      if t ∈ ws.map (·.ticket) then
        if it.retriesRemaining - 1 ≤ 0 then (some .done, none, none)
        else (some .pending, none, some { it with retriesRemaining := it.retriesRemaining - 1 })
      else (some .pending, some it, none) :=
  slot_foldl_of_first id elapseStep (fun _ _ => slot_elapseStep_ne)
    (fun _ wi h => slot_elapseStep_waiting h wi) (fun _ _ hw => slot_elapseStep_self hw)
    (by split <;> rfl) ws hs

/-- A window that could not be sent fails a ticket in flight at its first command with it. -/
theorem slot_foldl_failStep {f : Fault} {t : Nat} {it : Item} (ws : List Item) {q : Queue}
    (hs : q.slot t = (some .pending, some it, none)) :
    (ws.foldl (failStep f) q).slot t =
      if t ∈ ws.map (·.ticket) then (some (.failed f), none, none)
      else (some .pending, some it, none) :=
  slot_foldl_of_first id (failStep f) (fun _ _ => slot_failStep_ne)
    (fun _ wi h => slot_failStep_waiting h wi) (fun _ _ hw => slot_failStep_self hw) rfl ws hs

/-- An interrupted window puts a ticket in flight back to wait at its first command with it. -/
theorem slot_foldl_requeueStep {t : Nat} {it : Item} (ws : List Item) {acc : List Item × Queue}
    (hs : (requeued acc).slot t = (some .pending, some it, none)) :
    (requeued (ws.foldl requeueStep acc)).slot t =
      if t ∈ ws.map (·.ticket) then (some .pending, none, some it)
      else (some .pending, some it, none) :=
  slot_foldl_of_first requeued requeueStep (fun _ _ => slot_requeueStep_ne)
    (fun _ wi h => slot_requeueStep_waiting h wi) (fun _ _ hw => slot_requeueStep_self hw) rfl ws hs

/-! ## The ticket of a listed item -/

/-- In a queue in order, a command in flight is pending, and its ticket has no record waiting. -/
theorem Wf.slot_of_inFlight {q : Queue} (h : q.Wf) {it : Item} (hit : it ∈ q.inFlight) :
    q.slot it.ticket = (some .pending, some it, none) := by
  have hnd := h.tickets_nodup
  simp only [listed, List.map_append, List.nodup_append] at hnd
  obtain ⟨-, hfl, hdisj⟩ := hnd
  have hwait : it.ticket ∉ q.items.map (·.ticket) :=
    fun hmem => hdisj _ hmem _ (List.mem_map_of_mem hit) rfl
  exact Prod.ext (h.pending_of_listed it (List.mem_append_right _ hit))
    (Prod.ext (find?_ticket_of_mem hfl hit) (find?_ticket_of_not_mem hwait))

/-- In a queue in order, a command waiting is pending, and its ticket has no record in flight. -/
theorem Wf.slot_of_items {q : Queue} (h : q.Wf) {it : Item} (hit : it ∈ q.items) :
    q.slot it.ticket = (some .pending, none, some it) := by
  have hnd := h.tickets_nodup
  simp only [listed, List.map_append, List.nodup_append] at hnd
  obtain ⟨hwait, -, hdisj⟩ := hnd
  have hfl : it.ticket ∉ q.inFlight.map (·.ticket) :=
    fun hmem => hdisj _ (List.mem_map_of_mem hit) _ hmem rfl
  exact Prod.ext (h.pending_of_listed it (List.mem_append_left _ hit))
    (Prod.ext (find?_ticket_of_not_mem hfl) (find?_ticket_of_mem hwait hit))

theorem mem_inFlight_of_slot {q : Queue} {t : Nat} {o : Option Outcome} {x : Item}
    {y : Option Item} (h : q.slot t = (o, some x, y)) :
    x ∈ q.listed ∧ x.ticket = t ∧ t ∈ q.inFlight.map (·.ticket) := by
  simp only [slot, Prod.mk.injEq] at h
  obtain ⟨hx, hxt⟩ := mem_of_find?_ticket h.2.1
  exact ⟨List.mem_append_right _ hx, hxt, List.mem_map.mpr ⟨x, hx, hxt⟩⟩

theorem mem_items_of_slot {q : Queue} {t : Nat} {o : Option Outcome} {x : Item}
    (h : q.slot t = (o, none, some x)) :
    x ∈ q.listed ∧ x.ticket = t ∧ t ∉ q.inFlight.map (·.ticket) := by
  simp only [slot, Prod.mk.injEq] at h
  obtain ⟨hx, hxt⟩ := mem_of_find?_ticket h.2.2
  refine ⟨List.mem_append_left _ hx, hxt, fun hmem => ?_⟩
  obtain ⟨y, hy, hyt⟩ := List.mem_map.mp hmem
  rw [List.find?_eq_none] at h
  exact h.2.1 y hy (by simp [hyt])

theorem outcome_of_slot {q : Queue} {t : Nat} {s : Option Outcome × Option Item × Option Item}
    (h : q.slot t = s) : q.outcomes[t]? = s.1 :=
  congrArg Prod.fst h

/-! ## How a live command ends -/

/-- How an operation ends a live command with ticket `t`, target `g` and `left` windows left,
and with which outcome. -/
inductive Ends (q : Queue) (t : Nat) (g : String × Int × Int) (left : Int) : Op → Outcome → Prop
  /-- A later command with the same target supersedes it. -/
  | superseded (c : Command) : c.kind.isValid = true → c.target = g →
      Ends q t g left (.add c) (.failed (.because .superseded))
  /-- Failing everything fails it. -/
  | failAll (f : Fault) : Ends q t g left (.failAll f) (.failed f)
  /-- A window that names it and could not be sent fails it while it is in flight. -/
  | failWindow (w : Window) (f : Fault) : t ∈ w.items.map (·.ticket) →
      t ∈ q.inFlight.map (·.ticket) → Ends q t g left (.failWindow w f) (.failed f)
  /-- A window that names it is sent while it is in flight with one window left: it is done. -/
  | lastWindow (w : Window) : t ∈ w.items.map (·.ticket) → t ∈ q.inFlight.map (·.ticket) →
      left = 1 → Ends q t g left (.windowElapsed w) .done

section Ends

variable {q : Queue} {t : Nat} {g : String × Int × Int} {left : Int} {o : Outcome}

theorem ends_add_iff {c : Command} :
    Ends q t g left (.add c) o ↔
      c.kind.isValid = true ∧ c.target = g ∧ o = .failed (.because .superseded) := by
  constructor
  · intro h
    cases h with
    | superseded _ hv hg => exact ⟨hv, hg, rfl⟩
  · rintro ⟨hv, hg, rfl⟩
    exact .superseded c hv hg

theorem ends_failAll_iff {f : Fault} : Ends q t g left (.failAll f) o ↔ o = .failed f := by
  constructor
  · intro h
    cases h
    rfl
  · rintro rfl
    exact .failAll f

theorem ends_failWindow_iff {w : Window} {f : Fault} :
    Ends q t g left (.failWindow w f) o ↔
      t ∈ w.items.map (·.ticket) ∧ t ∈ q.inFlight.map (·.ticket) ∧ o = .failed f := by
  constructor
  · intro h
    cases h with
    | failWindow _ _ hw hfl => exact ⟨hw, hfl, rfl⟩
  · rintro ⟨hw, hfl, rfl⟩
    exact .failWindow w f hw hfl

theorem ends_windowElapsed_iff {w : Window} :
    Ends q t g left (.windowElapsed w) o ↔
      t ∈ w.items.map (·.ticket) ∧ t ∈ q.inFlight.map (·.ticket) ∧ left = 1 ∧ o = .done := by
  constructor
  · intro h
    cases h with
    | lastWindow _ hw hfl hl => exact ⟨hw, hfl, hl, rfl⟩
  · rintro ⟨hw, hfl, hl, rfl⟩
    exact .lastWindow w hw hfl hl

theorem not_ends_nextWindow : ¬ Ends q t g left .nextWindow o := nofun

theorem not_ends_requeue {w : Window} : ¬ Ends q t g left (.requeue w) o := nofun

end Ends

/-- Whether an operation spends one of a ticket's windows: it ends, as sent, a window that names
the ticket while the ticket is in flight. -/
def Op.spends (q : Queue) (t : Nat) : Op → Bool
  | .windowElapsed w => decide (t ∈ w.items.map (·.ticket)) && decide (t ∈ q.inFlight.map (·.ticket))
  | _ => false

/-- How many windows a ticket spends over a run. -/
def spent (t : Nat) : Queue → List Op → Nat
  | _, [] => 0
  | q, op :: ops => (if op.spends q t then 1 else 0) + spent t (op.apply q) ops

/-- What one operation does to a live command with record `it`: it ends the command with an
outcome exactly as `Ends` says, the ticket keeps an outcome, and while it is pending its record
keeps the command and has one window fewer if the operation spent one. -/
def StepsLive (q : Queue) (it : Item) (op : Op) : Prop :=
  (∀ o, o ≠ .pending →
      ((op.apply q).outcomes[it.ticket]? = some o ↔
        Ends q it.ticket it.command.target it.retriesRemaining op o)) ∧
    (op.apply q).outcomes[it.ticket]? ≠ none ∧
    ((op.apply q).Pending it.ticket →
      ∃ it' ∈ (op.apply q).listed, it'.ticket = it.ticket ∧ it'.command = it.command ∧
        it'.retriesRemaining = it.retriesRemaining - if op.spends q it.ticket then 1 else 0)

section StepsLive

variable {q : Queue} {it : Item} {op : Op}

/-- An operation that ends the command with the one outcome `Ends` allows steps it. -/
theorem StepsLive.of_ended {o' : Outcome} (ho' : o' ≠ .pending)
    (hout : (op.apply q).outcomes[it.ticket]? = some o')
    (hends : ∀ o, Ends q it.ticket it.command.target it.retriesRemaining op o ↔ o = o') :
    StepsLive q it op := by
  refine ⟨fun o _ => ?_, by simp [hout], fun hp => ?_⟩
  · rw [hout, Option.some.injEq, hends]
    exact eq_comm
  · have hp' : (op.apply q).outcomes[it.ticket]? = some .pending := hp
    rw [hout, Option.some.injEq] at hp'
    exact absurd hp' ho'

/-- An operation that leaves the command pending, with a listed record for it and no way to end
it, steps it. -/
theorem StepsLive.of_kept (hout : (op.apply q).outcomes[it.ticket]? = some .pending)
    (hends : ∀ o, ¬ Ends q it.ticket it.command.target it.retriesRemaining op o)
    {it' : Item} (hit' : it' ∈ (op.apply q).listed) (ht : it'.ticket = it.ticket)
    (hc : it'.command = it.command)
    (hr : it'.retriesRemaining = it.retriesRemaining - if op.spends q it.ticket then 1 else 0) :
    StepsLive q it op := by
  refine ⟨fun o ho => ?_, by simp [hout], fun _ => ⟨it', hit', ht, hc, hr⟩⟩
  rw [hout, Option.some.injEq]
  exact iff_of_false (Ne.symm ho) (hends o)

end StepsLive

/-- A listed ticket is among the tickets of the listed items that a test picks exactly when the
test picks its item. -/
theorem Wf.mem_filter_tickets_iff {q : Queue} (h : q.Wf) {it : Item} (hit : it ∈ q.listed)
    (p : Item → Bool) : it.ticket ∈ (q.listed.filter p).map (·.ticket) ↔ p it = true := by
  constructor
  · intro hmem
    obtain ⟨x, hx, hxt⟩ := List.mem_map.mp hmem
    obtain ⟨hxl, hpx⟩ := List.mem_filter.mp hx
    rwa [h.eq_of_ticket_eq hxl hit hxt] at hpx
  · intro hp
    exact List.mem_map_of_mem (List.mem_filter.mpr ⟨hit, hp⟩)

/-- Ending a list of items leaves every outcome as it was or sets it to the new one. -/
theorem outcome_finishAll_cases {o : Outcome} (ho : o ≠ .pending) (q : Queue) (l : List Item)
    (u : Nat) : (q.finishAll l o).outcomes[u]? = q.outcomes[u]? ∨
      (q.finishAll l o).outcomes[u]? = some o := by
  rw [outcome_finishAll ho]
  split
  · exact .inr rfl
  · exact .inl rfl

theorem Wf.stepsLive_add {q : Queue} (h : q.Wf) {it : Item} (hit : it ∈ q.listed) (c : Command) :
    StepsLive q it (.add c) := by
  have hpend := h.pending_of_listed it hit
  have hlt := lt_length_of_pending hpend
  have hspends : (Op.add c).spends q it.ticket = false := rfl
  cases hk : c.kind.isValid with
  | false =>
    -- a command of an unknown kind only issues a ticket that has already failed
    have hout : (q.add c).outcomes[it.ticket]? = some .pending := by
      rw [add_of_invalid hk, issueEnded, List.getElem?_append_left hlt]
      exact hpend
    have hkept : it ∈ (Op.apply (.add c) q).listed := by
      rw [Op.apply, add_of_invalid hk]
      exact hit
    refine StepsLive.of_kept hout (fun o hends => ?_) hkept rfl rfl (by simp [hspends])
    rw [ends_add_iff, hk] at hends
    exact Bool.false_ne_true hends.1
  | true =>
    -- the live command is superseded exactly when its target is the new one's
    have hpend' : (q.add c).Pending it.ticket ↔ ¬ it.command.target = c.target := by
      rw [pending_add hk, h.mem_filter_tickets_iff hit]
      simp only [hpend, true_or, true_and, beq_iff_eq]
    have hsup : Outcome.failed (.because .superseded) ≠ .pending := by simp
    -- the outcome is the one it had or the one the new command gives the commands it replaces
    have hcases : (q.add c).outcomes[it.ticket]? = some .pending ∨
        (q.add c).outcomes[it.ticket]? = some (.failed (.because .superseded)) := by
      have hissued : (q.issueEnded .pending).outcomes[it.ticket]? = some .pending := by
        rw [issueEnded, List.getElem?_append_left hlt]
        exact hpend
      rw [outcomes_add hk]
      rcases outcome_finishAll_cases hsup _ (q.inFlight.filter _) it.ticket with h1 | h1
      · rw [h1]
        rcases outcome_finishAll_cases hsup _ (q.items.filter _) it.ticket with h2 | h2
        · exact .inl (h2.trans hissued)
        · exact .inr h2
      · exact .inr h1
    by_cases hg : it.command.target = c.target
    · have hout : (q.add c).outcomes[it.ticket]? = some (.failed (.because .superseded)) :=
        hcases.resolve_left fun hp => hpend'.mp hp hg
      refine StepsLive.of_ended hsup hout fun o => ?_
      rw [ends_add_iff]
      simp [hk, hg]
    · have hout : (q.add c).outcomes[it.ticket]? = some .pending := by
        refine hcases.resolve_right fun hs => ?_
        have hp := hpend'.mpr hg
        rw [Pending, hs] at hp
        simp at hp
      have hkept : it ∈ (Op.apply (.add c) q).listed := by
        rw [Op.apply, listed_add hk]
        exact List.mem_cons_of_mem _ (List.mem_filter.mpr ⟨hit, by simp [hg]⟩)
      refine StepsLive.of_kept hout (fun o hends => ?_) hkept rfl rfl (by simp [hspends])
      rw [ends_add_iff] at hends
      exact hg hends.2.1.symm

theorem Wf.stepsLive_nextWindow {q : Queue} (h : q.Wf) {it : Item} (hit : it ∈ q.listed) :
    StepsLive q it .nextWindow := by
  have hout : (q.nextWindow.2).outcomes[it.ticket]? = some .pending := by
    rw [outcomes_nextWindow]
    exact h.pending_of_listed it hit
  exact StepsLive.of_kept hout (fun _ => not_ends_nextWindow)
    ((listed_nextWindow_perm q).symm.subset hit) rfl rfl (by simp [Op.spends])

theorem Wf.stepsLive_failAll {q : Queue} (h : q.Wf) {it : Item} (hit : it ∈ q.listed) (f : Fault) :
    StepsLive q it (.failAll f) := by
  -- every listed command fails
  have hout : (q.failAll f).outcomes[it.ticket]? = some (.failed f) := by
    have hfinish := outcome_finishAll (o := .failed f) (by simp) q (q.items ++ q.inFlight) it.ticket
    rw [if_pos ⟨h.pending_of_listed it hit, List.mem_map_of_mem hit⟩] at hfinish
    exact hfinish
  exact StepsLive.of_ended (by simp) hout fun o => ends_failAll_iff

/-- An operation that leaves the slot of a waiting command as it was, and that can end it or spend
one of its windows only while it is in flight, steps it. -/
theorem Wf.stepsLive_waiting {q : Queue} (h : q.Wf) {it : Item} (hwait : it ∈ q.items) {op : Op}
    (hs : (op.apply q).slot it.ticket = q.slot it.ticket)
    (hends : ∀ o, Ends q it.ticket it.command.target it.retriesRemaining op o →
      it.ticket ∈ q.inFlight.map (·.ticket))
    (hspends : op.spends q it.ticket = true → it.ticket ∈ q.inFlight.map (·.ticket)) :
    StepsLive q it op := by
  have hs₀ := h.slot_of_items hwait
  have hnot := (mem_items_of_slot hs₀).2.2
  have hs' := hs.trans hs₀
  have hkeep : op.spends q it.ticket = false := by
    cases hb : op.spends q it.ticket
    · rfl
    · exact absurd (hspends hb) hnot
  exact StepsLive.of_kept (outcome_of_slot hs') (fun o he => hnot (hends o he))
    (mem_items_of_slot hs').1 rfl rfl (by simp [hkeep])

theorem Wf.stepsLive_windowElapsed {q : Queue} (h : q.Wf) {it : Item} (hit : it ∈ q.listed)
    (w : Window) : StepsLive q it (.windowElapsed w) := by
  rcases List.mem_append.mp hit with hwait | hfl
  · -- a waiting command is untouched by the end of a window
    refine h.stepsLive_waiting hwait ?_ (fun o he => (ends_windowElapsed_iff.mp he).2.1)
      (fun hb => by simp only [Op.spends, Bool.and_eq_true, decide_eq_true_eq] at hb; exact hb.2)
    exact slot_foldl_waiting id Queue.elapseStep (fun _ wi h => slot_elapseStep_waiting h wi) w.items
      (congrArg (·.2.1) (h.slot_of_items hwait))
  · have hpos := h.retries_pos it hit
    have hin : it.ticket ∈ q.inFlight.map (·.ticket) := List.mem_map_of_mem hfl
    have hs' := slot_foldl_elapseStep w.items (h.slot_of_inFlight hfl)
    rw [← windowElapsed_eq] at hs'
    by_cases hw : it.ticket ∈ w.items.map (·.ticket)
    · by_cases hlast : it.retriesRemaining - 1 ≤ 0
      · -- the window was its last one
        rw [if_pos hw, if_pos hlast] at hs'
        have hone : it.retriesRemaining = 1 := by omega
        refine StepsLive.of_ended (by simp) (outcome_of_slot hs') fun o => ?_
        simp [ends_windowElapsed_iff, hw, hin, hone]
      · rw [if_pos hw, if_neg hlast] at hs'
        refine StepsLive.of_kept (outcome_of_slot hs') (fun o hends => ?_)
          (mem_items_of_slot hs').1 rfl rfl (by simp [Op.spends, hw, hin])
        have hone := (ends_windowElapsed_iff.mp hends).2.2.1
        omega
    · rw [if_neg hw] at hs'
      exact StepsLive.of_kept (outcome_of_slot hs')
        (fun o hends => hw (ends_windowElapsed_iff.mp hends).1)
        (mem_inFlight_of_slot hs').1 rfl rfl (by simp [Op.spends, hw])

theorem Wf.stepsLive_failWindow {q : Queue} (h : q.Wf) {it : Item} (hit : it ∈ q.listed)
    (w : Window) (f : Fault) : StepsLive q it (.failWindow w f) := by
  have hspends : (Op.failWindow w f).spends q it.ticket = false := rfl
  rcases List.mem_append.mp hit with hwait | hfl
  · -- a waiting command is untouched by the failure of a window
    refine h.stepsLive_waiting hwait ?_ (fun o he => (ends_failWindow_iff.mp he).2.1)
      (by simp [hspends])
    exact slot_foldl_waiting id (Queue.failStep f) (fun _ wi h => slot_failStep_waiting h wi)
      w.items (congrArg (·.2.1) (h.slot_of_items hwait))
  · have hin : it.ticket ∈ q.inFlight.map (·.ticket) := List.mem_map_of_mem hfl
    have hs' := slot_foldl_failStep (f := f) w.items (h.slot_of_inFlight hfl)
    rw [← failWindow_eq] at hs'
    by_cases hw : it.ticket ∈ w.items.map (·.ticket)
    · rw [if_pos hw] at hs'
      refine StepsLive.of_ended (by simp) (outcome_of_slot hs') fun o => ?_
      simp [ends_failWindow_iff, hw, hin]
    · rw [if_neg hw] at hs'
      exact StepsLive.of_kept (outcome_of_slot hs')
        (fun o hends => hw (ends_failWindow_iff.mp hends).1)
        (mem_inFlight_of_slot hs').1 rfl rfl (by simp [hspends])

theorem Wf.stepsLive_requeue {q : Queue} (h : q.Wf) {it : Item} (hit : it ∈ q.listed)
    (w : Window) : StepsLive q it (.requeue w) := by
  have hspends : (Op.requeue w).spends q it.ticket = false := rfl
  have hstart : (requeued ([], q)).slot it.ticket = q.slot it.ticket := by
    simp [requeued, slot]
  rcases List.mem_append.mp hit with hwait | hfl
  · -- a waiting command stays where it is
    refine h.stepsLive_waiting hwait ?_ (fun o he => absurd he not_ends_requeue) (by simp [hspends])
    rw [Op.apply, requeue_eq, slot_foldl_waiting requeued Queue.requeueStep
      (fun _ wi h => slot_requeueStep_waiting h wi) _
      (by rw [hstart]; exact congrArg (·.2.1) (h.slot_of_items hwait)), hstart]
  · -- a command in flight goes back to wait, or stays in flight if the window does not name it
    have hs' := slot_foldl_requeueStep w.items (hstart.trans (h.slot_of_inFlight hfl))
    rw [← requeue_eq] at hs'
    split at hs'
    · exact StepsLive.of_kept (outcome_of_slot hs') (fun _ => not_ends_requeue)
        (mem_items_of_slot hs').1 rfl rfl (by simp [hspends])
    · exact StepsLive.of_kept (outcome_of_slot hs') (fun _ => not_ends_requeue)
        (mem_inFlight_of_slot hs').1 rfl rfl (by simp [hspends])

/-- One operation steps every live command of a well-formed queue as `StepsLive` says. -/
theorem Wf.stepsLive {q : Queue} (h : q.Wf) {it : Item} (hit : it ∈ q.listed) :
    ∀ op, StepsLive q it op
  | .add c => h.stepsLive_add hit c
  | .nextWindow => h.stepsLive_nextWindow hit
  | .failAll f => h.stepsLive_failAll hit f
  | .windowElapsed w => h.stepsLive_windowElapsed hit w
  | .failWindow w f => h.stepsLive_failWindow hit w f
  | .requeue w => h.stepsLive_requeue hit w

/-! ## Requeued windows -/

theorem inFlight_requeueStep (acc : List Item × Queue) (wi : Item) :
    (requeueStep acc wi).2.inFlight = acc.2.inFlight.filter (·.ticket != wi.ticket) := by
  obtain ⟨back, q⟩ := acc
  have hrel := inFlight_release q wi.ticket
  simp only [requeueStep]
  split
  · next it q' heq =>
    rw [heq] at hrel
    exact hrel
  · next q' heq =>
    rw [heq] at hrel
    exact hrel

/-- One command of a requeued window: the in-flight record with its ticket, if there is one,
joins the released ones. -/
theorem requeueStep_spec {acc : List Item × Queue} (hnd : (acc.2.inFlight.map (·.ticket)).Nodup)
    (wi : Item) :
    (requeueStep acc wi).2.items = acc.2.items ∧
      ∀ it, it ∈ (requeueStep acc wi).1 ↔ it ∈ acc.1 ∨ (it ∈ acc.2.inFlight ∧ it.ticket = wi.ticket) := by
  obtain ⟨back, q⟩ := acc
  simp only [requeueStep]
  cases hf : q.inFlight.find? (·.ticket == wi.ticket) with
  | none =>
    -- no record in flight has the ticket
    rw [release_of_find?_none hf]
    refine ⟨rfl, fun it => ?_⟩
    simp only [iff_self_or, and_imp]
    exact fun hit ht => absurd (by simp [ht]) (List.find?_eq_none.mp hf it hit)
  | some x =>
    obtain ⟨hx, hxt⟩ := mem_of_find?_ticket hf
    rw [release_of_find? hf]
    refine ⟨rfl, fun it => ?_⟩
    simp only [List.mem_append, List.mem_singleton]
    constructor
    · rintro (hb | rfl)
      · exact .inl hb
      · exact .inr ⟨hx, hxt⟩
    · rintro (hb | ⟨hit, ht⟩)
      · exact .inl hb
      · -- tickets in flight are distinct, so the record found is this one
        have := find?_ticket_of_mem hnd hit
        rw [ht, hf] at this
        exact .inr (Option.some.inj this).symm

theorem foldl_requeueStep (ws : List Item) (acc : List Item × Queue)
    (hnd : (acc.2.inFlight.map (·.ticket)).Nodup) :
    (ws.foldl requeueStep acc).2.items = acc.2.items ∧
      ∀ it, it ∈ (ws.foldl requeueStep acc).1 ↔
        it ∈ acc.1 ∨ (it ∈ acc.2.inFlight ∧ it.ticket ∈ ws.map (·.ticket)) := by
  induction ws generalizing acc with
  | nil => simp
  | cons wi ws ih =>
    obtain ⟨hitems, hback⟩ := requeueStep_spec hnd wi
    have hq := inFlight_requeueStep acc wi
    have hnd' : ((requeueStep acc wi).2.inFlight.map (·.ticket)).Nodup := by
      rw [hq]
      exact hnd.sublist ((List.filter_sublist).map _)
    obtain ⟨hitems', hback'⟩ := ih _ hnd'
    rw [List.foldl_cons]
    refine ⟨hitems'.trans hitems, fun it => ?_⟩
    rw [hback', hback, hq]
    simp only [List.mem_filter, List.map_cons, List.mem_cons, bne_iff_ne, ne_eq]
    constructor
    · rintro ((hb | ⟨hit, ht⟩) | ⟨⟨hit, -⟩, ht⟩)
      · exact .inl hb
      · exact .inr ⟨hit, .inl ht⟩
      · exact .inr ⟨hit, .inr ht⟩
    · rintro (hb | ⟨hit, ht | ht⟩)
      · exact .inl (.inl hb)
      · exact .inl (.inr ⟨hit, ht⟩)
      · by_cases hw : it.ticket = wi.ticket
        · exact .inl (.inr ⟨hit, hw⟩)
        · exact .inr ⟨⟨hit, by simpa using hw⟩, ht⟩

/-- Requeueing a window puts back, in front of the waiting commands, exactly the commands in
flight that the window names, with their records as they were. -/
theorem Wf.requeue_front {q : Queue} (h : q.Wf) (w : Window) :
    ∃ back : List Item, (q.requeue w).items = back ++ q.items ∧
      (∀ it, it ∈ back ↔ it ∈ q.inFlight ∧ it.ticket ∈ w.items.map (·.ticket)) ∧
      (q.requeue w).inFlight = q.inFlight.filter (fun it => it.ticket ∉ w.items.map (·.ticket)) := by
  have hnd := h.inFlight_nodup
  obtain ⟨hitems, hback⟩ := foldl_requeueStep w.items ([], q) hnd
  refine ⟨(w.items.foldl Queue.requeueStep ([], q)).1, ?_, fun it => ?_, ?_⟩
  · rw [requeue_eq, requeued, hitems]
  · simpa using hback it
  · rw [requeue_eq]
    exact inFlight_foldl Prod.snd Queue.requeueStep inFlight_requeueStep w.items ([], q)

/-! ## The default number of windows -/

theorem defaultRetries_release (q : Queue) (t : Nat) :
    (q.release t).2.defaultRetries = q.defaultRetries := by
  unfold release
  split <;> rfl

theorem defaultRetries_elapseStep (q : Queue) (wi : Item) :
    (q.elapseStep wi).defaultRetries = q.defaultRetries := by
  unfold elapseStep
  split
  · next it q' hrel =>
    have hd : q'.defaultRetries = q.defaultRetries := by
      simpa [hrel] using defaultRetries_release q wi.ticket
    dsimp only
    split
    · rw [defaultRetries_finish, hd]
    · exact hd
  · next q' hrel => simpa [hrel] using defaultRetries_release q wi.ticket

theorem defaultRetries_failStep (f : Fault) (q : Queue) (wi : Item) :
    (q.failStep f wi).defaultRetries = q.defaultRetries := by
  unfold failStep
  split
  · next it q' hrel =>
    rw [defaultRetries_finish]
    simpa [hrel] using defaultRetries_release q wi.ticket
  · next q' hrel => simpa [hrel] using defaultRetries_release q wi.ticket

theorem defaultRetries_requeueStep (acc : List Item × Queue) (wi : Item) :
    (requeueStep acc wi).2.defaultRetries = acc.2.defaultRetries := by
  obtain ⟨back, q⟩ := acc
  simp only [requeueStep]
  split
  · next it q' hrel => simpa [hrel] using defaultRetries_release q wi.ticket
  · next q' hrel => simpa [hrel] using defaultRetries_release q wi.ticket

theorem defaultRetries_apply (q : Queue) (op : Op) :
    (op.apply q).defaultRetries = q.defaultRetries := by
  cases op with
  | add cmd => exact defaultRetries_add q cmd
  | nextWindow =>
    show q.nextWindow.2.defaultRetries = _
    unfold nextWindow
    split <;> rfl
  | failAll f => simp [Op.apply, failAll]
  | windowElapsed w =>
    rw [Op.apply, windowElapsed_eq]
    exact List.foldlRecOn (motive := fun q' => q'.defaultRetries = q.defaultRetries) w.items
      elapseStep rfl (fun q' hq' wi _ => (defaultRetries_elapseStep q' wi).trans hq')
  | failWindow w f =>
    rw [Op.apply, failWindow_eq]
    exact List.foldlRecOn (motive := fun q' => q'.defaultRetries = q.defaultRetries) w.items
      (failStep f) rfl (fun q' hq' wi _ => (defaultRetries_failStep f q' wi).trans hq')
  | requeue w =>
    rw [Op.apply, requeue_eq]
    exact List.foldlRecOn (motive := fun acc => (requeued acc).defaultRetries = q.defaultRetries)
      w.items requeueStep rfl (fun acc hacc wi _ => (defaultRetries_requeueStep acc wi).trans hacc)

theorem defaultRetries_run (q : Queue) (ops : List Op) :
    (q.run ops).defaultRetries = q.defaultRetries := by
  induction ops generalizing q with
  | nil => rfl
  | cons op ops ih => rw [run_cons, ih, defaultRetries_apply]

/-! ## A live command along a run -/

/-- A ticket that is pending at the end of a run was pending at its start, unless it had no
outcome yet: outcomes, once given, are never taken back. -/
theorem pending_of_run_pending {q : Queue} {t : Nat} (hsome : q.outcomes[t]? ≠ none)
    {ops : List Op} (hp : (q.run ops).Pending t) : q.Pending t := by
  obtain ⟨o, ho⟩ := Option.ne_none_iff_exists'.mp hsome
  by_cases hpo : o = .pending
  · rw [Pending, ho, hpo]
  · have hkeep := keepsEnded_run q ops t o ho hpo
    rw [Pending, hkeep] at hp
    exact absurd (Option.some.inj hp) hpo

/-- While the ticket of a live command is pending, the command stays listed with one window fewer
for each window it spent. -/
theorem Wf.record_run {q : Queue} (h : q.Wf) {it : Item} (hit : it ∈ q.listed) (ops : List Op)
    (hp : (q.run ops).Pending it.ticket) :
    ∃ it' ∈ (q.run ops).listed, it'.ticket = it.ticket ∧ it'.command = it.command ∧
      it'.retriesRemaining = it.retriesRemaining - spent it.ticket q ops := by
  induction ops generalizing q it with
  | nil => exact ⟨it, hit, rfl, rfl, by simp [spent]⟩
  | cons op ops ih =>
    rw [run_cons] at hp
    obtain ⟨-, hsome, hkept⟩ := h.stepsLive hit op
    -- the first operation leaves the ticket pending, with a record that the rest of the run keeps
    obtain ⟨it1, hit1, ht1, hc1, hr1⟩ := hkept (pending_of_run_pending hsome hp)
    obtain ⟨it2, hit2, ht2, hc2, hr2⟩ := ih (h.apply op) hit1 (by rw [ht1]; exact hp)
    refine ⟨it2, by rwa [run_cons], ht2.trans ht1, hc2.trans hc1, ?_⟩
    rw [hr2, hr1, ht1, spent]
    split <;> push_cast <;> omega

theorem run_append (q : Queue) (xs ys : List Op) : q.run (xs ++ ys) = (q.run xs).run ys :=
  List.foldl_append

/-- The record of a command of a valid kind just added: its ticket is the next one, and it gets its
own number of windows when that is positive and the queue's default otherwise. -/
theorem mem_listed_add {cmd : Command} (hk : cmd.kind.isValid = true) (q : Queue) :
    ⟨q.outcomes.length, cmd, if cmd.retries ≤ 0 then q.defaultRetries else cmd.retries⟩ ∈
      (q.add cmd).listed := by
  rw [listed_add hk]
  exact List.mem_cons_self

/-- **The life of a broadcast command.** Add a command of a valid kind after any run, with ticket
`t` and `r` windows: its own number when positive, else the queue's default, three when the queue
was created with none. Along every further run: while the ticket is pending, the command is listed
with `r - n` windows left, where `n < r` counts the ends of windows that named it while it was in
flight; requeueing a window puts back in front exactly the window's commands still in flight, with
their records as they were; each operation ends the pending command exactly as `Ends` says, as
superseded by a later valid command with its target, as failed by a failure of everything or of a
window naming it while it is in flight, or as done by the end of such a window when it was its last
(`r - n = 1`, so at the `r`-th window spent); and an outcome once given stays. -/
theorem added_command_lifecycle (d : Int) (pre : List Op) {cmd : Command}
    (hk : cmd.kind.isValid = true) :
    let q₀ := ((create d).run pre).add cmd
    let t := ((create d).run pre).outcomes.length
    let r := if 0 < cmd.retries then cmd.retries else if d ≤ 0 then 3 else d
    q₀.Pending t ∧
      (∀ xs : List Op, (q₀.run xs).Pending t →
        spent t q₀ xs < r ∧ ∃ it ∈ (q₀.run xs).listed,
          it.ticket = t ∧ it.command = cmd ∧ it.retriesRemaining = r - spent t q₀ xs) ∧
      (∀ (xs : List Op) (w : Window), ∃ back : List Item,
        ((q₀.run xs).requeue w).items = back ++ (q₀.run xs).items ∧
        (∀ it, it ∈ back ↔ it ∈ (q₀.run xs).inFlight ∧ it.ticket ∈ w.items.map (·.ticket)) ∧
        ((q₀.run xs).requeue w).inFlight =
          (q₀.run xs).inFlight.filter (fun it => it.ticket ∉ w.items.map (·.ticket))) ∧
      (∀ (xs : List Op) (op : Op) (o : Outcome), (q₀.run xs).Pending t → o ≠ .pending →
        ((q₀.run (xs ++ [op])).outcomes[t]? = some o ↔
          Ends (q₀.run xs) t cmd.target (r - spent t q₀ xs) op o)) ∧
      (∀ (xs ys : List Op) (o : Outcome), (q₀.run xs).outcomes[t]? = some o → o ≠ .pending →
        (q₀.run (xs ++ ys)).outcomes[t]? = some o) := by
  intro q₀ t r
  have h₀ : q₀.Wf := ((wf_create d).run pre).add cmd
  -- the new record has `r` windows: the default survives every run
  have hr : (if cmd.retries ≤ 0 then ((create d).run pre).defaultRetries else cmd.retries) = r := by
    rw [defaultRetries_run]
    simp only [create, standardRetries, r]
    split <;> split <;> omega
  have hit₀ : (⟨t, cmd, r⟩ : Item) ∈ q₀.listed := hr ▸ mem_listed_add hk _
  have hlive : ∀ xs, (q₀.run xs).Pending t → ∃ it ∈ (q₀.run xs).listed,
      it.ticket = t ∧ it.command = cmd ∧ it.retriesRemaining = r - spent t q₀ xs :=
    fun xs hp => h₀.record_run hit₀ xs hp
  refine ⟨h₀.pending_of_listed _ hit₀, fun xs hp => ?_, fun xs w => (h₀.run xs).requeue_front w,
    fun xs op o hp ho => ?_, fun xs ys o ho hne => ?_⟩
  · obtain ⟨it, hit, ht, hc, hrem⟩ := hlive xs hp
    have hpos := (h₀.run xs).retries_pos it hit
    exact ⟨by omega, it, hit, ht, hc, hrem⟩
  · -- the live record steps as `StepsLive` says
    obtain ⟨it, hit, ht, hc, hrem⟩ := hlive xs hp
    have hstep := ((h₀.run xs).stepsLive hit op).1 o ho
    rw [ht, hc, hrem] at hstep
    rw [run_append]
    exact hstep
  · rw [run_append]
    exact keepsEnded_run _ ys t o ho hne

theorem added_command_lifecycle_switch :
    ({} : Command).kind.isValid = true ∧
      let q₀ := ((create 0).run []).add {}
      let t := ((create 0).run []).outcomes.length
      let r := if 0 < ({} : Command).retries then ({} : Command).retries else if (0 : Int) ≤ 0 then 3 else 0
      q₀.Pending t ∧
        (∀ xs : List Op, (q₀.run xs).Pending t →
          spent t q₀ xs < r ∧ ∃ it ∈ (q₀.run xs).listed,
            it.ticket = t ∧ it.command = {} ∧ it.retriesRemaining = r - spent t q₀ xs) ∧
        (∀ (xs : List Op) (w : Window), ∃ back : List Item,
          ((q₀.run xs).requeue w).items = back ++ (q₀.run xs).items ∧
          (∀ it, it ∈ back ↔ it ∈ (q₀.run xs).inFlight ∧ it.ticket ∈ w.items.map (·.ticket)) ∧
          ((q₀.run xs).requeue w).inFlight =
            (q₀.run xs).inFlight.filter (fun it => it.ticket ∉ w.items.map (·.ticket))) ∧
        (∀ (xs : List Op) (op : Op) (o : Outcome), (q₀.run xs).Pending t → o ≠ .pending →
          ((q₀.run (xs ++ [op])).outcomes[t]? = some o ↔
            Ends (q₀.run xs) t ({} : Command).target (r - spent t q₀ xs) op o)) ∧
        (∀ (xs ys : List Op) (o : Outcome), (q₀.run xs).outcomes[t]? = some o → o ≠ .pending →
          (q₀.run (xs ++ ys)).outcomes[t]? = some o) := by
  have hk : ({} : Command).kind.isValid = true := by decide
  have h := added_command_lifecycle 0 [] hk
  exact ⟨hk, h⟩

/-- A window's failure spares a command of it that is no longer in flight: the end of the window
sent it back to wait, so a late failure of the same window leaves it pending. -/
theorem stale_window_failure_spares_command :
    let c : Command := { sphereId := "S1", switch := ⟨1, 1⟩ }
    let w : Window := ⟨"S1", .switch, [⟨0, c, 3⟩]⟩
    let q := (create 0).run [.add c, .nextWindow, .windowElapsed w]
    ((create 0).add c).nextWindow.1 = some w ∧ q.Pending 0 ∧
      (q.failWindow w (.because .radioNotReady)).outcomes[0]? = some .pending := by
  decide

end Queue

end StoneLink.Broadcast
