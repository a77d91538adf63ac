import Mathlib
import StoneLink.Broadcast.Queue

/-!
# The queue keeps its structure

Every sequence of queue operations keeps the queue in order: adding commands, taking windows,
ending windows that were sent, failed or interrupted, and failing everything. No ticket is
listed twice across the waiting and the in-flight list, no two listed commands share a target,
every listed command is pending with a window left, and every pending ticket is listed. The
windows may be any windows, stale ones included: a window names its commands by ticket, and a
command that is no longer in flight is passed over.

The invariant `Wf` looks at the listed items only up to order and at which tickets are pending.
Each operation either reorders the listed items, takes one out and ends its ticket, replaces one
by a copy with a window fewer, or (adding) ends the commands with the new target and lists the
new one under a fresh ticket; a lemma for each kind of change carries the invariant across it.

Outcomes are written once: `finish` changes only a pending ticket, so a ticket that has ended
keeps its outcome through every later operation, and since listed tickets are pending it never
comes back to a list.
-/

namespace StoneLink.Broadcast

namespace Queue

/-- The items the queue lists: the waiting ones, then those in flight. -/
def listed (q : Queue) : List Item := q.items ++ q.inFlight

/-- A ticket that has been issued and has not ended. -/
def Pending (q : Queue) (t : Nat) : Prop := q.outcomes[t]? = some .pending

instance (q : Queue) (t : Nat) : Decidable (q.Pending t) :=
  inferInstanceAs (Decidable (q.outcomes[t]? = some .pending))

/-! ## Listed items and pending tickets -/

theorem getD_eq_pending_iff (q : Queue) (t : Nat) :
    q.outcomes.getD t .done = .pending ↔ q.Pending t := by
  simp only [Pending, List.getD_eq_getElem?_getD]
  cases q.outcomes[t]? with
  | none => simp
  | some o => simp

theorem lt_length_of_pending {q : Queue} {t : Nat} (h : q.Pending t) : t < q.outcomes.length := by
  unfold Pending at h
  exact (List.getElem?_eq_some_iff.mp h).1

theorem finish_eq (q : Queue) (t : Nat) (o : Outcome) :
    q.finish t o = { q with outcomes := if q.Pending t then q.outcomes.set t o else q.outcomes } := by
  unfold finish
  by_cases h : q.Pending t
  · rw [if_pos ((getD_eq_pending_iff q t).mpr h), if_pos h]
  · rw [if_neg (mt (getD_eq_pending_iff q t).mp h), if_neg h]

@[simp] theorem items_finish (q : Queue) (t : Nat) (o : Outcome) : (q.finish t o).items = q.items := by
  rw [finish_eq]

@[simp] theorem inFlight_finish (q : Queue) (t : Nat) (o : Outcome) :
    (q.finish t o).inFlight = q.inFlight := by
  rw [finish_eq]

@[simp] theorem defaultRetries_finish (q : Queue) (t : Nat) (o : Outcome) :
    (q.finish t o).defaultRetries = q.defaultRetries := by
  rw [finish_eq]

theorem pending_finish {q : Queue} {t : Nat} {o : Outcome} (ho : o ≠ .pending) (u : Nat) :
    (q.finish t o).Pending u ↔ q.Pending u ∧ u ≠ t := by
  rw [finish_eq]
  by_cases ht : q.Pending t
  · rw [if_pos ht]
    simp only [Pending, List.getElem?_set]
    by_cases hu : t = u
    · subst hu
      simp [lt_length_of_pending ht, ho]
    · simp [hu, Ne.symm hu]
  · rw [if_neg ht]
    constructor
    · intro hu
      exact ⟨hu, fun h => ht (h ▸ hu)⟩
    · exact fun h => h.1

/-- `q'` keeps the outcome of every ticket that has ended in `q`. -/
def KeepsEnded (q q' : Queue) : Prop :=
  ∀ (t : Nat) (o : Outcome), q.outcomes[t]? = some o → o ≠ .pending → q'.outcomes[t]? = some o

theorem KeepsEnded.refl (q : Queue) : KeepsEnded q q := fun _ _ h _ => h

theorem KeepsEnded.trans {q q' q'' : Queue} (h : KeepsEnded q q') (h' : KeepsEnded q' q'') :
    KeepsEnded q q'' := fun t o ht ho => h' t o (h t o ht ho) ho

theorem KeepsEnded.of_outcomes {q q' : Queue} (h : q'.outcomes = q.outcomes) :
    KeepsEnded q q' := fun _ _ ht _ => h ▸ ht

theorem keepsEnded_finish (q : Queue) (t : Nat) (o : Outcome) : KeepsEnded q (q.finish t o) := by
  intro u o' hu ho'
  rw [finish_eq]
  by_cases ht : q.Pending t
  · rw [if_pos ht, List.getElem?_set]
    -- the ticket that ends was pending, so it is not `u`
    have htu : t ≠ u := by
      rintro rfl
      exact ho' (Option.some.inj (hu.symm.trans ht))
    simp [htu, hu]
  · rw [if_neg ht]
    exact hu

theorem finishAll_cons (q : Queue) (it : Item) (l : List Item) (o : Outcome) :
    q.finishAll (it :: l) o = (q.finish it.ticket o).finishAll l o := rfl

@[simp] theorem items_finishAll (q : Queue) (l : List Item) (o : Outcome) :
    (q.finishAll l o).items = q.items := by
  induction l generalizing q with
  | nil => rfl
  | cons it l ih => rw [finishAll_cons, ih, items_finish]

@[simp] theorem inFlight_finishAll (q : Queue) (l : List Item) (o : Outcome) :
    (q.finishAll l o).inFlight = q.inFlight := by
  induction l generalizing q with
  | nil => rfl
  | cons it l ih => rw [finishAll_cons, ih, inFlight_finish]

@[simp] theorem defaultRetries_finishAll (q : Queue) (l : List Item) (o : Outcome) :
    (q.finishAll l o).defaultRetries = q.defaultRetries := by
  induction l generalizing q with
  | nil => rfl
  | cons it l ih => rw [finishAll_cons, ih, defaultRetries_finish]

theorem pending_finishAll {o : Outcome} (ho : o ≠ .pending) (q : Queue) (l : List Item) (u : Nat) :
    (q.finishAll l o).Pending u ↔ q.Pending u ∧ u ∉ l.map (·.ticket) := by
  induction l generalizing q with
  | nil => simp [finishAll]
  | cons it l ih =>
    rw [finishAll_cons, ih, pending_finish ho]
    simp only [List.map_cons, List.mem_cons, not_or]
    tauto

theorem keepsEnded_finishAll (q : Queue) (l : List Item) (o : Outcome) :
    KeepsEnded q (q.finishAll l o) := by
  induction l generalizing q with
  | nil => exact KeepsEnded.refl q
  | cons it l ih =>
    rw [finishAll_cons]
    exact (keepsEnded_finish q it.ticket o).trans (ih _)

theorem pending_issueEnded {o : Outcome} (ho : o ≠ .pending) (q : Queue) (u : Nat) :
    (q.issueEnded o).Pending u ↔ q.Pending u := by
  simp only [issueEnded, Pending, List.getElem?_append, List.getElem?_singleton]
  split
  · rfl
  · next hu =>
    have hnone : q.outcomes[u]? = none := List.getElem?_eq_none (by omega)
    rw [hnone]
    split <;> simp [ho]

theorem keepsEnded_issueEnded (q : Queue) (o : Outcome) : KeepsEnded q (q.issueEnded o) := by
  intro t o' ht _
  have hlt : t < q.outcomes.length := (List.getElem?_eq_some_iff.mp ht).1
  simp [issueEnded, List.getElem?_append_left hlt, ht]

theorem release_none {q q' : Queue} {t : Nat} (h : q.release t = (none, q')) : q' = q := by
  unfold release at h
  split at h
  · cases h
  · exact (Prod.mk.inj h).2.symm

theorem release_some {q q' : Queue} {t : Nat} {it : Item} (h : q.release t = (some it, q')) :
    it ∈ q.inFlight ∧ it.ticket = t ∧
      q' = { q with inFlight := q.inFlight.filter (·.ticket != it.ticket) } := by
  unfold release at h
  split at h
  · next it' hfind =>
    simp only [Prod.mk.injEq, Option.some.injEq] at h
    obtain ⟨rfl, rfl⟩ := h
    have ht := List.find?_some hfind
    simp only [beq_iff_eq] at ht
    exact ⟨List.mem_of_find?_eq_some hfind, ht, by rw [ht]⟩
  · cases h

theorem outcomes_release (q : Queue) (t : Nat) : (q.release t).2.outcomes = q.outcomes := by
  unfold release
  split <;> rfl

theorem outcomes_of_release {q q' : Queue} {t : Nat} {o : Option Item}
    (h : q.release t = (o, q')) : q'.outcomes = q.outcomes := by
  rw [← outcomes_release q t, h]

/-- In a list with distinct tickets, an item and the items with other tickets are the whole
list. -/
theorem perm_cons_filter_ticket {l : List Item} {it : Item} (hnd : (l.map (·.ticket)).Nodup)
    (hit : it ∈ l) : l.Perm (it :: l.filter (·.ticket != it.ticket)) := by
  induction l with
  | nil => cases hit
  | cons x xs ih =>
    simp only [List.map_cons, List.nodup_cons, List.mem_map] at hnd
    obtain ⟨hx, hnd⟩ := hnd
    rcases List.mem_cons.mp hit with rfl | hit
    · -- the item is the head; no other item has its ticket
      have hrest : xs.filter (·.ticket != it.ticket) = xs := by
        rw [List.filter_eq_self]
        intro y hy
        simpa using fun h => hx ⟨y, hy, h⟩
      simp [hrest]
    · have hne : x.ticket ≠ it.ticket := fun h => hx ⟨it, hit, h.symm⟩
      have hperm := ih hnd hit
      simp only [List.filter_cons, bne_iff_ne, ne_eq, hne, not_false_eq_true, if_true]
      exact (hperm.cons x).trans (List.Perm.swap it x _)

/-- The queue's structural invariant. -/
structure Wf (q : Queue) : Prop where
  /-- No ticket is listed twice, in one list or across both. -/
  tickets_nodup : (q.listed.map (·.ticket)).Nodup
  /-- No two listed commands have the same target. -/
  targets_nodup : (q.listed.map (·.command.target)).Nodup
  /-- Every listed command is pending. -/
  pending_of_listed : ∀ it ∈ q.listed, q.Pending it.ticket
  /-- Every listed command has a window left. -/
  retries_pos : ∀ it ∈ q.listed, 1 ≤ it.retriesRemaining
  /-- Every pending ticket is listed. -/
  listed_of_pending : ∀ t, q.Pending t → t ∈ q.listed.map (·.ticket)
  /-- A command that names no number of windows gets at least one. -/
  default_pos : 1 ≤ q.defaultRetries

theorem wf_create (retries : Int) : (create retries).Wf where
  tickets_nodup := List.nodup_nil
  targets_nodup := List.nodup_nil
  pending_of_listed := fun _ h => nomatch h
  retries_pos := fun _ h => nomatch h
  listed_of_pending := fun t h => by simp [Pending, create] at h
  default_pos := by
    simp only [create]
    split
    · decide
    · omega

theorem Wf.inFlight_nodup {q : Queue} (h : q.Wf) : (q.inFlight.map (·.ticket)).Nodup :=
  h.tickets_nodup.sublist ((List.sublist_append_right _ _).map _)

section Transfer

variable {q q' : Queue}

/-- The invariant sees the listed items only up to order. -/
theorem Wf.of_perm (h : q.Wf) (hl : q'.listed.Perm q.listed)
    (hp : ∀ u, q'.Pending u ↔ q.Pending u) (hd : q'.defaultRetries = q.defaultRetries) :
    q'.Wf where
  tickets_nodup := ((hl.map _).nodup_iff).mpr h.tickets_nodup
  targets_nodup := ((hl.map _).nodup_iff).mpr h.targets_nodup
  pending_of_listed := fun it hit => (hp _).mpr (h.pending_of_listed it (hl.subset hit))
  retries_pos := fun it hit => h.retries_pos it (hl.subset hit)
  listed_of_pending := fun t ht => (hl.map _).symm.subset (h.listed_of_pending t ((hp t).mp ht))
  default_pos := hd ▸ h.default_pos

/-- Replacing a listed item by one with the same ticket and command and a window left keeps the
invariant. -/
theorem Wf.of_replace {it : Item} {rest : List Item} (h : q.Wf) (it' : Item)
    (hl : q.listed.Perm (it :: rest)) (hl' : q'.listed.Perm (it' :: rest))
    (ht : it'.ticket = it.ticket) (hc : it'.command = it.command) (hr : 1 ≤ it'.retriesRemaining)
    (hp : ∀ u, q'.Pending u ↔ q.Pending u) (hd : q'.defaultRetries = q.defaultRetries) :
    q'.Wf := by
  have htickets : (q'.listed.map (·.ticket)).Perm (q.listed.map (·.ticket)) := by
    refine ((hl'.map _).trans ?_).trans (hl.map _).symm
    simp [ht]
  have htargets : (q'.listed.map (·.command.target)).Perm (q.listed.map (·.command.target)) := by
    refine ((hl'.map _).trans ?_).trans (hl.map _).symm
    simp [hc]
  have hmem : ∀ x ∈ q'.listed, x = it' ∨ x ∈ q.listed := by
    intro x hx
    rcases List.mem_cons.mp (hl'.subset hx) with rfl | hx
    · exact .inl rfl
    · exact .inr (hl.symm.subset (List.mem_cons_of_mem it hx))
  have hit : it ∈ q.listed := hl.symm.subset List.mem_cons_self
  refine ⟨htickets.nodup_iff.mpr h.tickets_nodup, htargets.nodup_iff.mpr h.targets_nodup,
    ?_, ?_, ?_, hd ▸ h.default_pos⟩
  · intro x hx
    rcases hmem x hx with rfl | hx
    · exact (hp _).mpr (ht ▸ h.pending_of_listed it hit)
    · exact (hp _).mpr (h.pending_of_listed x hx)
  · intro x hx
    rcases hmem x hx with rfl | hx
    · exact hr
    · exact h.retries_pos x hx
  · intro t htp
    exact htickets.symm.subset (h.listed_of_pending t ((hp t).mp htp))

/-- Taking a listed item out and ending its ticket keeps the invariant. -/
theorem Wf.of_finish_one (h : q.Wf) (it : Item) (hl : q.listed.Perm (it :: q'.listed))
    (hp : ∀ u, q'.Pending u ↔ q.Pending u ∧ u ≠ it.ticket)
    (hd : q'.defaultRetries = q.defaultRetries) : q'.Wf := by
  have htickets := hl.map (·.ticket)
  have hnd : (it.ticket :: q'.listed.map (·.ticket)).Nodup := htickets.nodup_iff.mp h.tickets_nodup
  have hsub : ∀ x ∈ q'.listed, x ∈ q.listed := fun x hx =>
    hl.symm.subset (List.mem_cons_of_mem it hx)
  refine ⟨(List.nodup_cons.mp hnd).2,
    (List.nodup_cons.mp ((hl.map (·.command.target)).nodup_iff.mp h.targets_nodup)).2,
    ?_, fun x hx => h.retries_pos x (hsub x hx), ?_, hd ▸ h.default_pos⟩
  · intro x hx
    refine (hp _).mpr ⟨h.pending_of_listed x (hsub x hx), ?_⟩
    -- the ticket that ended is no longer listed
    intro hx'
    exact (List.nodup_cons.mp hnd).1 (hx' ▸ List.mem_map_of_mem hx)
  · intro t htp
    obtain ⟨htp, hne⟩ := (hp t).mp htp
    have hmem := htickets.subset (h.listed_of_pending t htp)
    simp only [List.map_cons, List.mem_cons] at hmem
    exact hmem.resolve_left hne

end Transfer

/-! ## Each operation keeps the invariant -/

/-- One item of `takeWindow`: into the window while it has room and the item matches. -/
def takeStep (sphereId : String) (kind : Kind) (limit : Nat) :
    List Item × List Item → Item → List Item × List Item :=
  fun (taken, rest) it =>
    if taken.length < limit ∧ it.command.sphereId = sphereId ∧ it.command.kind = kind then
      (taken ++ [it], rest)
    else (taken, rest ++ [it])

theorem takeWindow_eq (sphereId : String) (kind : Kind) (limit : Nat) (items : List Item) :
    takeWindow sphereId kind limit items = items.foldl (takeStep sphereId kind limit) ([], []) :=
  rfl

/-- Taking a window splits the waiting items: every item goes to the window or stays. -/
theorem foldl_takeStep_perm (sphereId : String) (kind : Kind) (limit : Nat)
    (acc : List Item × List Item) (items : List Item) :
    ((items.foldl (takeStep sphereId kind limit) acc).1 ++
      (items.foldl (takeStep sphereId kind limit) acc).2).Perm (acc.1 ++ acc.2 ++ items) := by
  induction items generalizing acc with
  | nil => simp
  | cons it items ih =>
    obtain ⟨taken, rest⟩ := acc
    refine (ih _).trans ?_
    simp only [takeStep]
    split
    · simp only [List.append_assoc, List.singleton_append]
      exact List.Perm.append_left taken List.perm_middle.symm
    · simp

/-- Taking a window moves the window's items from the waiting list to the in-flight list, as they
are. -/
theorem listed_nextWindow_perm (q : Queue) : q.nextWindow.2.listed.Perm q.listed := by
  unfold Queue.nextWindow
  split
  · exact List.Perm.refl _
  · next first others hitems =>
    have hperm := foldl_takeStep_perm first.command.sphereId first.command.kind
      (if first.command.kind.batches then maxSwitchItems else 1) ([], []) q.items
    rw [← takeWindow_eq] at hperm
    -- the window's items move from the waiting list to the in-flight list
    have hmove : ∀ taken rest : List Item, (taken ++ rest).Perm q.items →
        (rest ++ (q.inFlight ++ taken)).Perm (q.items ++ q.inFlight) := by
      intro taken rest hsplit
      have hswap : (rest ++ (q.inFlight ++ taken)).Perm ((taken ++ rest) ++ q.inFlight) := by
        rw [← List.append_assoc]
        exact List.perm_append_comm.trans (by simp)
      exact hswap.trans (hsplit.append_right _)
    simp only [listed, List.nil_append] at hperm ⊢
    exact hmove _ _ hperm

theorem Wf.nextWindow {q : Queue} (h : q.Wf) : q.nextWindow.2.Wf :=
  h.of_perm (listed_nextWindow_perm q) (fun _ => by unfold Queue.nextWindow; split <;> rfl)
    (by unfold Queue.nextWindow; split <;> rfl)

theorem add_of_invalid {cmd : Command} (hk : cmd.kind.isValid = false) (q : Queue) :
    q.add cmd = q.issueEnded (.failed (.because .invalidCommand)) := by
  simp [add, hk]

theorem listed_add {cmd : Command} (hk : cmd.kind.isValid = true) (q : Queue) :
    (q.add cmd).listed =
      ⟨q.outcomes.length, cmd, if cmd.retries ≤ 0 then q.defaultRetries else cmd.retries⟩ ::
        q.listed.filter (fun it => !(it.command.target == cmd.target)) := by
  simp [add, hk, listed, List.filter_append]

/-- Issuing a pending ticket makes one more ticket pending. -/
theorem pending_issuePending (q : Queue) (u : Nat) :
    ({ q with outcomes := q.outcomes ++ [.pending] } : Queue).Pending u ↔
      q.Pending u ∨ u = q.outcomes.length := by
  simp only [Pending, List.getElem?_append, List.getElem?_singleton]
  split
  · next hu =>
    constructor
    · exact .inl
    · rintro (h | rfl)
      · exact h
      · omega
  · next hu =>
    have hnone : q.outcomes[u]? = none := List.getElem?_eq_none (by omega)
    rw [hnone]
    constructor
    · intro h
      split at h
      · exact .inr (by omega)
      · cases h
    · rintro (h | rfl)
      · cases h
      · simp

theorem pending_add {cmd : Command} (hk : cmd.kind.isValid = true) (q : Queue) (u : Nat) :
    (q.add cmd).Pending u ↔ (q.Pending u ∨ u = q.outcomes.length) ∧
      u ∉ (q.listed.filter (fun it => it.command.target == cmd.target)).map (·.ticket) := by
  -- the new ticket is issued pending, then the commands it replaces end as superseded
  have hunfold : (q.add cmd).Pending u ↔
      ((({ q with outcomes := q.outcomes ++ [.pending] } : Queue).finishAll
        (q.items.filter fun it => it.command.target == cmd.target)
        (.failed (.because .superseded))).finishAll
          (q.inFlight.filter fun it => it.command.target == cmd.target)
          (.failed (.because .superseded))).Pending u := by
    simp only [add, hk, Bool.not_true, Bool.false_eq_true, if_false]
    rfl
  have hsup : Outcome.failed (.because .superseded) ≠ .pending := by simp
  rw [hunfold, pending_finishAll hsup, pending_finishAll hsup, pending_issuePending]
  simp only [listed, List.filter_append, List.map_append, List.mem_append, not_or]
  tauto

@[simp] theorem defaultRetries_add (q : Queue) (cmd : Command) :
    (q.add cmd).defaultRetries = q.defaultRetries := by
  unfold add
  split
  · rfl
  · simp

theorem Wf.ticket_lt {q : Queue} (h : q.Wf) {it : Item} (hit : it ∈ q.listed) :
    it.ticket < q.outcomes.length :=
  lt_length_of_pending (h.pending_of_listed it hit)

theorem Wf.eq_of_ticket_eq {q : Queue} (h : q.Wf) {it it' : Item} (hit : it ∈ q.listed)
    (hit' : it' ∈ q.listed) (ht : it.ticket = it'.ticket) : it = it' :=
  List.inj_on_of_nodup_map h.tickets_nodup hit hit' ht

theorem Wf.add {q : Queue} (h : q.Wf) (cmd : Command) : (q.add cmd).Wf := by
  cases hk : cmd.kind.isValid with
  | false =>
    -- a command of an unknown kind only issues a ticket that has already failed
    rw [add_of_invalid hk]
    exact h.of_perm (List.Perm.refl _) (pending_issueEnded (by simp) q) rfl
  | true =>
    refine ⟨?_, ?_, ?_, ?_, ?_, by simpa using h.default_pos⟩
    · -- the new ticket is past every listed one
      rw [listed_add hk]
      simp only [List.map_cons, List.nodup_cons]
      refine ⟨?_, h.tickets_nodup.sublist (List.filter_sublist.map _)⟩
      simp only [List.mem_map, List.mem_filter, not_exists, not_and]
      rintro it ⟨hit, -⟩ heq
      exact absurd (h.ticket_lt hit) (by omega)
    · -- the new target is on no item that stays
      rw [listed_add hk]
      simp only [List.map_cons, List.nodup_cons]
      refine ⟨?_, h.targets_nodup.sublist (List.filter_sublist.map _)⟩
      simp only [List.mem_map, List.mem_filter, not_exists, not_and]
      rintro it ⟨-, hhit⟩ heq
      simp [heq] at hhit
    · intro it hit
      rw [listed_add hk] at hit
      rw [pending_add hk]
      simp only [List.mem_map, List.mem_filter, not_exists, not_and]
      rcases List.mem_cons.mp hit with rfl | hit
      · refine ⟨.inr rfl, ?_⟩
        rintro it' ⟨hit', -⟩ heq
        dsimp only at heq
        exact absurd (h.ticket_lt hit') (by omega)
      · -- an item that stays is not one that ends as superseded
        obtain ⟨hit, hhit⟩ := List.mem_filter.mp hit
        refine ⟨.inl (h.pending_of_listed it hit), ?_⟩
        rintro it' ⟨hit', hhit'⟩ heq
        rw [h.eq_of_ticket_eq hit' hit heq] at hhit'
        simp [hhit'] at hhit
    · intro it hit
      rw [listed_add hk] at hit
      rcases List.mem_cons.mp hit with rfl | hit
      · have hdef := h.default_pos
        dsimp only
        split <;> omega
      · exact h.retries_pos it (List.mem_filter.mp hit).1
    · intro t ht
      rw [pending_add hk] at ht
      rw [listed_add hk, List.map_cons, List.mem_cons]
      obtain ⟨ht | rfl, hnot⟩ := ht
      · -- a pending ticket that was not superseded is on an item that stays
        obtain ⟨it, hit, rfl⟩ := List.mem_map.mp (h.listed_of_pending t ht)
        have hkeep : (it.command.target == cmd.target) = false := by
          cases hb : (it.command.target == cmd.target)
          · rfl
          · exact absurd (List.mem_map_of_mem (List.mem_filter.mpr ⟨hit, hb⟩)) hnot
        exact .inr (List.mem_map_of_mem (List.mem_filter.mpr ⟨hit, by simp [hkeep]⟩))
      · exact .inl rfl

theorem Wf.failAll {q : Queue} (h : q.Wf) (f : Fault) : (q.failAll f).Wf := by
  have hp := pending_finishAll (o := .failed f) (by simp) q (q.items ++ q.inFlight)
  refine ⟨List.nodup_nil, List.nodup_nil, (fun _ h => nomatch h), (fun _ h => nomatch h), ?_, ?_⟩
  · -- every pending ticket was listed, so every one has ended
    intro t ht
    obtain ⟨ht, hnot⟩ := (hp t).mp ht
    exact absurd (h.listed_of_pending t ht) hnot
  · simpa [Queue.failAll] using h.default_pos

/-- A released item leaves the in-flight list and nothing else. -/
theorem Wf.listed_perm_release {q q' : Queue} {t : Nat} {it : Item} (h : q.Wf)
    (hrel : q.release t = (some it, q')) :
    q.listed.Perm (it :: q'.listed) ∧ q'.items = q.items ∧ q'.outcomes = q.outcomes ∧
      q'.defaultRetries = q.defaultRetries := by
  obtain ⟨hit, -, rfl⟩ := release_some hrel
  have hnd := h.inFlight_nodup
  refine ⟨?_, rfl, rfl, rfl⟩
  exact ((perm_cons_filter_ticket hnd hit).append_left q.items).trans List.perm_middle

/-- One command of an elapsed window: if it is still in flight it uses up a window, and ends as
done after its last one or goes to the back of the queue. -/
def elapseStep (q : Queue) (wi : Item) : Queue :=
  match q.release wi.ticket with
  | (some it, q) =>
    let left := it.retriesRemaining - 1
    if left ≤ 0 then q.finish it.ticket .done
    else { q with items := q.items ++ [{ it with retriesRemaining := left }] }
  | (none, q) => q

theorem windowElapsed_eq (q : Queue) (w : Window) :
    q.windowElapsed w = w.items.foldl elapseStep q := rfl

theorem Wf.elapseStep {q : Queue} (h : q.Wf) (wi : Item) : (q.elapseStep wi).Wf := by
  unfold Queue.elapseStep
  split
  · next it q' hrel =>
    obtain ⟨hperm, hitems, houts, hdef⟩ := h.listed_perm_release hrel
    have hpend : ∀ u, q'.Pending u ↔ q.Pending u := fun u => by rw [Pending, Pending, houts]
    dsimp only
    split
    · -- after its last window the ticket ends as done
      refine h.of_finish_one it (by simpa [listed] using hperm) ?_ (by simp [hdef])
      intro u
      rw [pending_finish (by simp), hpend]
    · -- otherwise the item goes to the back with one window fewer
      next hleft =>
      refine h.of_replace { it with retriesRemaining := it.retriesRemaining - 1 } hperm
        ?_ rfl rfl (by simp only; omega) hpend hdef
      simp only [listed, List.append_assoc, List.singleton_append]
      exact List.perm_middle
  · next q' hrel =>
    rw [release_none hrel]
    exact h

/-- One command of a window that could not be sent: if it is still in flight it fails. -/
def failStep (f : Fault) (q : Queue) (wi : Item) : Queue :=
  match q.release wi.ticket with
  | (some it, q) => q.finish it.ticket (.failed f)
  | (none, q) => q

theorem failWindow_eq (q : Queue) (w : Window) (f : Fault) :
    q.failWindow w f = w.items.foldl (failStep f) q := rfl

theorem Wf.failStep {q : Queue} (h : q.Wf) (f : Fault) (wi : Item) : (q.failStep f wi).Wf := by
  unfold Queue.failStep
  split
  · next it q' hrel =>
    obtain ⟨hperm, hitems, houts, hdef⟩ := h.listed_perm_release hrel
    refine h.of_finish_one it (by simpa [listed] using hperm) ?_ (by simp [hdef])
    intro u
    rw [pending_finish (by simp), Pending, Pending, houts]
  · next q' hrel =>
    rw [release_none hrel]
    exact h

/-- One command of an interrupted window: if it is still in flight it is released, to go back
to the front of the queue. -/
def requeueStep (acc : List Item × Queue) (wi : Item) : List Item × Queue :=
  match acc with
  | (back, q) =>
    match q.release wi.ticket with
    | (some it, q) => (back ++ [it], q)
    | (none, q) => (back, q)

/-- A requeue in progress: the commands released so far, in front of the waiting ones. -/
def requeued (acc : List Item × Queue) : Queue := { acc.2 with items := acc.1 ++ acc.2.items }

theorem requeue_eq (q : Queue) (w : Window) :
    q.requeue w = requeued (w.items.foldl requeueStep ([], q)) := by
  unfold requeue
  rfl

theorem Wf.requeueStep {acc : List Item × Queue} (h : (requeued acc).Wf) (wi : Item) :
    (requeued (Queue.requeueStep acc wi)).Wf := by
  obtain ⟨back, q⟩ := acc
  simp only [Queue.requeueStep]
  split
  · next it q' hrel =>
    obtain ⟨hit, -, rfl⟩ := release_some hrel
    have hnd : (q.inFlight.map (·.ticket)).Nodup := h.inFlight_nodup
    refine h.of_perm ?_ (fun _ => Iff.rfl) rfl
    -- the released item moves from the in-flight list to the released ones
    simp only [requeued, listed, List.append_assoc, List.singleton_append]
    refine List.Perm.append_left back ?_
    refine List.perm_middle.symm.trans (List.Perm.append_left q.items ?_)
    exact (perm_cons_filter_ticket hnd hit).symm
  · next q' hrel =>
    rw [release_none hrel]
    exact h

theorem Wf.requeue {q : Queue} (h : q.Wf) (w : Window) : (q.requeue w).Wf := by
  rw [requeue_eq]
  refine List.foldlRecOn (motive := fun acc => (requeued acc).Wf) w.items Queue.requeueStep ?_
    (fun acc hacc wi _ => hacc.requeueStep wi)
  simpa [requeued] using h

theorem Wf.windowElapsed {q : Queue} (h : q.Wf) (w : Window) : (q.windowElapsed w).Wf := by
  rw [windowElapsed_eq]
  exact List.foldlRecOn w.items Queue.elapseStep h (fun q hq wi _ => hq.elapseStep wi)

theorem Wf.failWindow {q : Queue} (h : q.Wf) (w : Window) (f : Fault) : (q.failWindow w f).Wf := by
  rw [failWindow_eq]
  exact List.foldlRecOn w.items (Queue.failStep f) h (fun q hq wi _ => hq.failStep f wi)

/-! ## Outcomes are written once -/

/-- A valid command issues its ticket pending, then ends the commands it replaces. -/
theorem outcomes_add {cmd : Command} (hk : cmd.kind.isValid = true) (q : Queue) :
    (q.add cmd).outcomes =
      (((q.issueEnded .pending).finishAll
        (q.items.filter fun it => it.command.target == cmd.target)
        (.failed (.because .superseded))).finishAll
          (q.inFlight.filter fun it => it.command.target == cmd.target)
          (.failed (.because .superseded))).outcomes := by
  simp only [add, hk, Bool.not_true, Bool.false_eq_true, if_false]
  rfl

theorem keepsEnded_add (q : Queue) (cmd : Command) : KeepsEnded q (q.add cmd) := by
  cases hk : cmd.kind.isValid with
  | false =>
    rw [add_of_invalid hk]
    exact keepsEnded_issueEnded q _
  | true =>
    exact (keepsEnded_issueEnded q _).trans ((keepsEnded_finishAll _ _ _).trans
      ((keepsEnded_finishAll _ _ _).trans (KeepsEnded.of_outcomes (outcomes_add hk q))))

theorem outcomes_nextWindow (q : Queue) : q.nextWindow.2.outcomes = q.outcomes := by
  unfold Queue.nextWindow
  split
  · rfl
  · simp

theorem keepsEnded_failAll (q : Queue) (f : Fault) : KeepsEnded q (q.failAll f) :=
  keepsEnded_finishAll q _ _

theorem keepsEnded_elapseStep (q : Queue) (wi : Item) : KeepsEnded q (q.elapseStep wi) := by
  unfold Queue.elapseStep
  split
  · next it q' hrel =>
    have houts := outcomes_of_release hrel
    dsimp only
    split
    · exact (KeepsEnded.of_outcomes houts).trans (keepsEnded_finish q' _ _)
    · exact KeepsEnded.of_outcomes houts
  · next q' hrel =>
    rw [release_none hrel]
    exact KeepsEnded.refl q

theorem keepsEnded_failStep (q : Queue) (f : Fault) (wi : Item) :
    KeepsEnded q (q.failStep f wi) := by
  unfold Queue.failStep
  split
  · next it q' hrel =>
    have houts := outcomes_of_release hrel
    exact (KeepsEnded.of_outcomes houts).trans (keepsEnded_finish q' _ _)
  · next q' hrel =>
    rw [release_none hrel]
    exact KeepsEnded.refl q

/-- A requeue step leaves the queue as releasing the command leaves it. -/
theorem requeueStep_snd (acc : List Item × Queue) (wi : Item) :
    (Queue.requeueStep acc wi).2 = (acc.2.release wi.ticket).2 := by
  obtain ⟨back, q⟩ := acc
  simp only [Queue.requeueStep]
  split <;> next heq => rw [heq]

theorem outcomes_requeue (q : Queue) (w : Window) : (q.requeue w).outcomes = q.outcomes := by
  rw [requeue_eq]
  refine List.foldlRecOn (motive := fun acc => (requeued acc).outcomes = q.outcomes) w.items
    Queue.requeueStep rfl ?_
  intro acc hacc wi _
  simp only [requeued] at hacc ⊢
  rw [requeueStep_snd, outcomes_release, hacc]

/-! ## Runs of operations -/

/-- An operation on the queue. The windows are any windows: those `nextWindow` returned, stale
ones included. -/
inductive Op where
  /-- Adds a command. -/
  | add (cmd : Command)
  /-- Takes the next window. -/
  | nextWindow
  /-- Fails every command. -/
  | failAll (f : Fault)
  /-- Ends a window that was sent. -/
  | windowElapsed (w : Window)
  /-- Ends a window that could not be sent. -/
  | failWindow (w : Window) (f : Fault)
  /-- Puts an interrupted window back. -/
  | requeue (w : Window)

/-- The queue after an operation. -/
def Op.apply : Op → Queue → Queue
  | .add cmd, q => q.add cmd
  | .nextWindow, q => q.nextWindow.2
  | .failAll f, q => q.failAll f
  | .windowElapsed w, q => q.windowElapsed w
  | .failWindow w f, q => q.failWindow w f
  | .requeue w, q => q.requeue w

/-- The queue after a sequence of operations. -/
def run (q : Queue) (ops : List Op) : Queue := ops.foldl (fun q op => op.apply q) q

theorem run_cons (q : Queue) (op : Op) (ops : List Op) : run q (op :: ops) = run (op.apply q) ops :=
  rfl

theorem Wf.apply {q : Queue} (h : q.Wf) (op : Op) : (op.apply q).Wf := by
  cases op with
  | add cmd => exact h.add cmd
  | nextWindow => exact h.nextWindow
  | failAll f => exact h.failAll f
  | windowElapsed w => exact h.windowElapsed w
  | failWindow w f => exact h.failWindow w f
  | requeue w => exact h.requeue w

theorem Wf.run {q : Queue} (h : q.Wf) (ops : List Op) : (q.run ops).Wf := by
  induction ops generalizing q with
  | nil => exact h
  | cons op ops ih =>
    rw [run_cons]
    exact ih (h.apply op)

theorem keepsEnded_apply (q : Queue) (op : Op) : KeepsEnded q (op.apply q) := by
  cases op with
  | add cmd => exact keepsEnded_add q cmd
  | nextWindow => exact KeepsEnded.of_outcomes (outcomes_nextWindow q)
  | failAll f => exact keepsEnded_failAll q f
  | windowElapsed w =>
    rw [Op.apply, windowElapsed_eq]
    exact List.foldlRecOn (motive := KeepsEnded q) w.items Queue.elapseStep (KeepsEnded.refl q)
      (fun q' hq' wi _ => hq'.trans (keepsEnded_elapseStep q' wi))
  | failWindow w f =>
    rw [Op.apply, failWindow_eq]
    exact List.foldlRecOn (motive := KeepsEnded q) w.items (Queue.failStep f) (KeepsEnded.refl q)
      (fun q' hq' wi _ => hq'.trans (keepsEnded_failStep q' f wi))
  | requeue w => exact KeepsEnded.of_outcomes (outcomes_requeue q w)

theorem keepsEnded_run (q : Queue) (ops : List Op) : KeepsEnded q (q.run ops) := by
  induction ops generalizing q with
  | nil => exact KeepsEnded.refl q
  | cons op ops ih =>
    rw [run_cons]
    exact (keepsEnded_apply q op).trans (ih _)

/-! ## The invariant along every run -/

/-- **The queue keeps its structure.** After any sequence of operations from a new queue, with
windows that may be stale: (a) no ticket is listed twice, in the waiting list, in the in-flight
list or across the two; (b) no two listed commands share a target; (c) every listed command is
pending and has a window left; (d) every pending ticket is listed exactly once, and adding a
command of an unknown kind touches neither list and issues a ticket that has failed as an
invalid command; (e) from then on, a ticket that has ended keeps its outcome and is never listed
again. -/
theorem run_keeps_structure (retries : Int) (ops : List Op) :
    let q := (create retries).run ops
    ((q.items ++ q.inFlight).map (·.ticket)).Nodup ∧
      ((q.items ++ q.inFlight).map (·.command.target)).Nodup ∧
      (∀ it ∈ q.items ++ q.inFlight,
        q.outcomes[it.ticket]? = some .pending ∧ 1 ≤ it.retriesRemaining) ∧
      (∀ t, q.outcomes[t]? = some .pending →
        ((q.items ++ q.inFlight).map (·.ticket)).count t = 1) ∧
      (∀ cmd : Command, cmd.kind.isValid = false →
        (q.add cmd).items = q.items ∧ (q.add cmd).inFlight = q.inFlight ∧
          (q.add cmd).outcomes = q.outcomes ++ [.failed (.because .invalidCommand)]) ∧
      (∀ more t o, q.outcomes[t]? = some o → o ≠ .pending →
        (q.run more).outcomes[t]? = some o ∧
          t ∉ ((q.run more).items ++ (q.run more).inFlight).map (·.ticket)) := by
  intro q
  have hw : q.Wf := (wf_create retries).run ops
  refine ⟨hw.tickets_nodup, hw.targets_nodup,
    fun it hit => ⟨hw.pending_of_listed it hit, hw.retries_pos it hit⟩,
    fun t ht => List.count_eq_one_of_mem hw.tickets_nodup (hw.listed_of_pending t ht), ?_, ?_⟩
  · intro cmd hk
    rw [add_of_invalid hk]
    exact ⟨rfl, rfl, rfl⟩
  · intro more t o ht ho
    have hkeep := keepsEnded_run q more t o ht ho
    refine ⟨hkeep, fun hlisted => ho ?_⟩
    -- a listed ticket is pending, and this one has ended
    obtain ⟨it, hit, rfl⟩ := List.mem_map.mp hlisted
    have hpend : (q.run more).Pending it.ticket := (hw.run more).pending_of_listed it hit
    unfold Pending at hpend
    rw [hkeep] at hpend
    exact Option.some.inj hpend

end Queue

end StoneLink.Broadcast
