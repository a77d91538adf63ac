import StoneLink.Proofs.Broadcast.Format
import StoneLink.Proofs.Broadcast.Outage
import StoneLink.Proofs.Envelope

/-!
# What a window holds

A window takes the command at the front of the queue and, for switch commands, the next commands
of the same sphere that are switch commands too, in queue order, up to five; any other command is
sent alone. The commands it takes leave the waiting list, which keeps the others in their order.

In every state a run of operations reaches, the window's payload then fits the command block: the
queue accepts only commands of the three kinds, so the payload is built, and at most five switch
items take eleven bytes. The stones of a switch window are distinct, though nothing in the window
checks it: no two listed commands share a target, and the target of a switch command is its
sphere and stone.

The first fact needs an invariant beside `Wf`: every listed command is of a valid kind. Apart from
adding, every operation lists only commands that were listed before (`ListsFrom`), and adding lists
a command only when its kind is valid.
-/

namespace StoneLink.Broadcast

namespace Queue

/-! ## Operations list only commands listed before -/

/-- Every command listed in `q'` was listed in `q`. -/
def ListsFrom (q q' : Queue) : Prop := ∀ it ∈ q'.listed, ∃ x ∈ q.listed, x.command = it.command

section ListsFrom

variable {q q' q'' : Queue}

theorem ListsFrom.refl (q : Queue) : ListsFrom q q := fun it hit => ⟨it, hit, rfl⟩

theorem ListsFrom.trans (h : ListsFrom q q') (h' : ListsFrom q' q'') : ListsFrom q q'' := by
  intro it hit
  obtain ⟨x, hx, hxc⟩ := h' it hit
  obtain ⟨y, hy, hyc⟩ := h x hx
  exact ⟨y, hy, hyc.trans hxc⟩

theorem ListsFrom.of_subset (h : ∀ it ∈ q'.listed, it ∈ q.listed) : ListsFrom q q' :=
  fun it hit => ⟨it, h it hit, rfl⟩

end ListsFrom

theorem mem_listed_of_release {q : Queue} {t : Nat} {it : Item}
    (hit : it ∈ (q.release t).2.listed) : it ∈ q.listed := by
  unfold release at hit
  split at hit
  · simp only [listed, List.mem_append, List.mem_filter] at hit ⊢
    tauto
  · exact hit

theorem listsFrom_elapseStep (q : Queue) (wi : Item) : ListsFrom q (q.elapseStep wi) := by
  unfold elapseStep
  split
  · next it q' hrel =>
    obtain ⟨hit, -, rfl⟩ := release_some hrel
    dsimp only
    split
    · refine ListsFrom.of_subset fun x hx => ?_
      simp only [listed, items_finish, inFlight_finish, List.mem_append, List.mem_filter] at hx ⊢
      tauto
    · -- the command goes to the back with a window fewer, as the command it was in flight
      intro x hx
      simp only [listed, List.mem_append, List.mem_filter, List.mem_singleton] at hx
      rcases hx with (hx | rfl) | hx
      · exact ⟨x, List.mem_append_left _ hx, rfl⟩
      · exact ⟨it, List.mem_append_right _ hit, rfl⟩
      · exact ⟨x, List.mem_append_right _ hx.1, rfl⟩
  · next q' hrel =>
    rw [release_none hrel]
    exact .refl q

theorem listsFrom_failStep (f : Fault) (q : Queue) (wi : Item) : ListsFrom q (q.failStep f wi) := by
  unfold failStep
  split
  · next it q' hrel =>
    refine ListsFrom.of_subset fun x hx => mem_listed_of_release (t := wi.ticket) ?_
    rw [hrel]
    simpa [listed] using hx
  · next q' hrel =>
    rw [release_none hrel]
    exact .refl q

theorem listsFrom_requeueStep (acc : List Item × Queue) (wi : Item) :
    ListsFrom (requeued acc) (requeued (requeueStep acc wi)) := by
  obtain ⟨back, q⟩ := acc
  simp only [requeueStep]
  split
  · next it q' hrel =>
    obtain ⟨hit, -, rfl⟩ := release_some hrel
    -- the released command moves from flight to the commands put back
    refine ListsFrom.of_subset fun x hx => ?_
    simp only [requeued, listed, List.mem_append, List.mem_singleton, List.mem_filter] at hx ⊢
    rcases hx with ((hx | rfl) | hx) | hx
    · exact .inl (.inl hx)
    · exact .inr hit
    · exact .inl (.inr hx)
    · exact .inr hx.1
  · next q' hrel =>
    rw [release_none hrel]
    exact .refl _

/-- Every operation but adding lists only commands that were listed before. -/
theorem listsFrom_apply (q : Queue) :
    ∀ op : Op, (∀ cmd, op ≠ .add cmd) → ListsFrom q (op.apply q)
  | .add cmd, h => absurd rfl (h cmd)
  | .nextWindow, _ => ListsFrom.of_subset fun _ hx => (listed_nextWindow_perm q).subset hx
  | .failAll f, _ => fun _ hx => by simp [Op.apply, listed, Queue.failAll] at hx
  | .windowElapsed w, _ => by
    rw [Op.apply, windowElapsed_eq]
    exact List.foldlRecOn (motive := ListsFrom q) w.items elapseStep (.refl q)
      fun q' hq' wi _ => hq'.trans (listsFrom_elapseStep q' wi)
  | .failWindow w f, _ => by
    rw [Op.apply, failWindow_eq]
    exact List.foldlRecOn (motive := ListsFrom q) w.items (failStep f) (.refl q)
      fun q' hq' wi _ => hq'.trans (listsFrom_failStep f q' wi)
  | .requeue w, _ => by
    rw [Op.apply, requeue_eq]
    refine List.foldlRecOn (motive := fun acc => ListsFrom q (requeued acc)) w.items requeueStep
      (.of_subset fun x hx => by simpa [requeued, listed] using hx) ?_
    exact fun acc hacc wi _ => hacc.trans (listsFrom_requeueStep acc wi)

/-! ## Every listed command is of a valid kind -/

/-- Every listed command is of a kind the queue accepts. -/
def KindsValid (q : Queue) : Prop := ∀ it ∈ q.listed, it.command.kind.isValid = true

theorem KindsValid.of_listsFrom {q q' : Queue} (h : q.KindsValid) (hf : ListsFrom q q') :
    q'.KindsValid := by
  intro it hit
  obtain ⟨x, hx, hxc⟩ := hf it hit
  exact hxc ▸ h x hx

theorem KindsValid.add {q : Queue} (h : q.KindsValid) (cmd : Command) : (q.add cmd).KindsValid := by
  cases hk : cmd.kind.isValid with
  | false =>
    rw [add_of_invalid hk]
    exact h
  | true =>
    intro it hit
    rw [listed_add hk] at hit
    rcases List.mem_cons.mp hit with rfl | hit
    · exact hk
    · exact h it (List.mem_filter.mp hit).1

theorem KindsValid.apply {q : Queue} (h : q.KindsValid) (op : Op) : (op.apply q).KindsValid := by
  cases op with
  | add cmd => exact h.add cmd
  | _ => exact h.of_listsFrom (listsFrom_apply q _ fun _ => nofun)

theorem kindsValid_run (retries : Int) (ops : List Op) : ((create retries).run ops).KindsValid := by
  suffices ∀ q : Queue, q.KindsValid → (q.run ops).KindsValid from
    this _ fun _ h => nomatch h
  intro q hq
  induction ops generalizing q with
  | nil => exact hq
  | cons op ops ih =>
    rw [run_cons]
    exact ih _ (hq.apply op)

/-! ## Taking a window -/

/-- Whether a command can go in a window of the given sphere and kind. -/
def sharesWindow (sphereId : String) (kind : Kind) (it : Item) : Bool :=
  decide (it.command.sphereId = sphereId ∧ it.command.kind = kind)

theorem takeStep_of_take {s : String} {k : Kind} {limit : Nat} {taken rest : List Item} {it : Item}
    (hm : sharesWindow s k it = true) (hl : taken.length < limit) :
    takeStep s k limit (taken, rest) it = (taken ++ [it], rest) := by
  simp only [sharesWindow, decide_eq_true_eq] at hm
  simp only [takeStep]
  rw [if_pos ⟨hl, hm⟩]

theorem takeStep_of_skip {s : String} {k : Kind} {limit : Nat} {taken rest : List Item} {it : Item}
    (h : ¬ (sharesWindow s k it = true ∧ taken.length < limit)) :
    takeStep s k limit (taken, rest) it = (taken, rest ++ [it]) := by
  simp only [sharesWindow, decide_eq_true_eq] at h
  simp only [takeStep]
  rw [if_neg fun hc => h ⟨hc.2, hc.1⟩]

/-- Items without repeats are split into the first matching ones that fit and the others, in
their order. -/
theorem foldl_takeStep_eq (s : String) (k : Kind) (limit : Nat) (items taken rest : List Item)
    (hnd : items.Nodup) :
    items.foldl (takeStep s k limit) (taken, rest) =
      (taken ++ (items.filter (sharesWindow s k)).take (limit - taken.length),
        rest ++ items.filter fun it => it ∉ (items.filter (sharesWindow s k)).take
          (limit - taken.length)) := by
  induction items generalizing taken rest with
  | nil => simp
  | cons it items ih =>
    obtain ⟨hit, hnd⟩ := List.nodup_cons.mp hnd
    rw [List.foldl_cons]
    by_cases hm : sharesWindow s k it = true
    · by_cases hl : taken.length < limit
      · -- the item joins the window; the items after it are not it
        obtain ⟨n, hn⟩ : ∃ n, limit - taken.length = n + 1 := ⟨limit - taken.length - 1, by omega⟩
        have hn' : limit - (taken ++ [it]).length = n := by
          rw [List.length_append, List.length_singleton]
          omega
        rw [takeStep_of_take hm hl, ih _ _ hnd, hn', hn, List.filter_cons_of_pos hm,
          List.take_succ_cons, List.filter_cons_of_neg (by simp)]
        simp only [List.append_assoc, List.singleton_append, Prod.mk.injEq, true_and]
        congr 1
        refine List.filter_congr fun x hx => ?_
        have hne : x ≠ it := fun h => hit (h ▸ hx)
        simp [hne]
      · -- the window is full
        rw [takeStep_of_skip fun h => hl h.2, ih _ _ hnd, show limit - taken.length = 0 by omega]
        simp
    · -- the item does not match, so it is in no window
      have hout : it ∉ (items.filter (sharesWindow s k)).take (limit - taken.length) :=
        fun h => hm (List.mem_filter.mp (List.mem_of_mem_take h)).2
      rw [takeStep_of_skip fun h => hm h.1, ih _ _ hnd, List.filter_cons_of_neg hm,
        List.filter_cons_of_pos (by simpa using hout)]
      simp

theorem takeWindow_eq_filter (s : String) (k : Kind) (limit : Nat) {items : List Item}
    (hnd : items.Nodup) :
    takeWindow s k limit items =
      ((items.filter (sharesWindow s k)).take limit,
        items.filter fun it => it ∉ (items.filter (sharesWindow s k)).take limit) := by
  rw [takeWindow_eq, foldl_takeStep_eq s k limit items [] [] hnd]
  simp

/-- The window of a queue with a front command: the front command, then the next commands that can
share its window, up to the limit of its kind. They leave the waiting list, which keeps the others
in order, and go in flight. -/
theorem nextWindow_of_cons {q : Queue} {first : Item} {rest : List Item}
    (hq : q.items = first :: rest) (hnd : q.items.Nodup) :
    q.nextWindow = (some ⟨first.command.sphereId, first.command.kind,
        first :: (rest.filter (sharesWindow first.command.sphereId first.command.kind)).take
          ((if first.command.kind.batches then maxSwitchItems else 1) - 1)⟩,
      { q with
        items := q.items.filter fun it => it ∉ first :: (rest.filter
          (sharesWindow first.command.sphereId first.command.kind)).take
            ((if first.command.kind.batches then maxSwitchItems else 1) - 1)
        inFlight := q.inFlight ++ first :: (rest.filter
          (sharesWindow first.command.sphereId first.command.kind)).take
            ((if first.command.kind.batches then maxSwitchItems else 1) - 1) }) := by
  have hfirst : sharesWindow first.command.sphereId first.command.kind first = true := by
    simp [sharesWindow]
  -- every kind's limit is at least one, so the front command is taken
  obtain ⟨n, hn⟩ : ∃ n, (if first.command.kind.batches then maxSwitchItems else 1) = n + 1 := by
    split
    · exact ⟨maxSwitchItems - 1, rfl⟩
    · exact ⟨0, rfl⟩
  have htake := takeWindow_eq_filter first.command.sphereId first.command.kind
    (if first.command.kind.batches then maxSwitchItems else 1) hnd
  rw [hq, List.filter_cons_of_pos hfirst, hn, List.take_succ_cons, ← hq] at htake
  unfold nextWindow
  split
  · next h => rw [hq] at h; cases h
  · next first' others hitems =>
    rw [hq] at hitems
    obtain ⟨rfl, rfl⟩ := List.cons.inj hitems
    simp only [hn, htake, Nat.add_sub_cancel]

/-- Switch commands of one sphere with distinct targets have distinct stones. -/
theorem nodup_stones {items : List Item} {s : String}
    (hs : ∀ it ∈ items, it.command.sphereId = s ∧ it.command.kind = Kind.switch)
    (hnd : (items.map (·.command.target)).Nodup) :
    (items.map (·.command.switch.stoneId)).Nodup := by
  -- the target of such a command is its stone, next to the sphere and the switch kind
  have htargets : items.map (·.command.target) =
      (items.map (·.command.switch.stoneId)).map fun st => (s, (0 : Int), (st.toNat : Int)) := by
    rw [List.map_map]
    refine List.map_congr_left fun it hit => ?_
    obtain ⟨h1, h2⟩ := hs it hit
    simp [Command.target, h1, h2, Kind.switch, Kind.batches]
  rw [htargets] at hnd
  exact hnd.of_map _

end Queue

/-! ## The payload of a window -/

theorem encodeSwitch_eq_ok {items : List SwitchItem} (h : items.length ≤ maxSwitchItems) :
    encodeSwitch items =
      .ok (items.length.toUInt8 :: items.flatMap fun it => [it.stoneId, it.value]) := by
  rw [encodeSwitch, if_neg (by omega)]

theorem length_flatMap_pairs (items : List SwitchItem) :
    (items.flatMap fun it => [it.stoneId, it.value]).length = 2 * items.length := by
  induction items with
  | nil => rfl
  | cons x xs ih =>
    simp only [List.flatMap_cons, List.length_append, ih, List.length_cons, List.length_nil]
    omega

/-- The pairs of a switch payload hold each item's stone and value in turn. -/
theorem getD_flatMap_pairs (items : List SwitchItem) (i : Nat) :
    (items.flatMap fun it => [it.stoneId, it.value]).getD (2 * i) 0 =
        (items[i]?.map (·.stoneId)).getD 0 ∧
      (items.flatMap fun it => [it.stoneId, it.value]).getD (2 * i + 1) 0 =
        (items[i]?.map (·.value)).getD 0 := by
  induction items generalizing i with
  | nil => simp
  | cons x xs ih =>
    cases i with
    | zero => simp
    | succ i =>
      rw [show 2 * (i + 1) = 2 * i + 1 + 1 by omega]
      simp only [List.flatMap_cons, List.cons_append, List.nil_append, List.getD_cons_succ,
        List.getElem?_cons_succ]
      exact ih i

/-- A switch payload of at most five items reads back as the items. -/
theorem decodeSwitch_encodeSwitch {items : List SwitchItem} (h : items.length ≤ maxSwitchItems) :
    decodeSwitch (items.length.toUInt8 :: items.flatMap fun it => [it.stoneId, it.value]) =
      .ok items := by
  have hmax : maxSwitchItems = 5 := rfl
  have hn : items.length.toUInt8.toNat = items.length := by
    simp only [Nat.toUInt8, UInt8.toNat_ofNat']
    omega
  simp only [decodeSwitch, hn, length_flatMap_pairs]
  rw [if_neg (by omega)]
  congr 1
  refine List.ext_getElem (by simp) fun i h1 h2 => ?_
  obtain ⟨hs, hv⟩ := getD_flatMap_pairs items i
  simp only [List.getElem_map, List.getElem_range, hs, hv, List.getElem?_eq_getElem h2,
    Option.map_some, Option.getD_some]

theorem Kind.eq_switch_iff (k : Kind) : k = Kind.switch ↔ k.code = 0 := by
  cases k
  simp [Kind.switch]

theorem Kind.batches_iff (k : Kind) : k.batches = true ↔ k = Kind.switch := by
  rw [Kind.eq_switch_iff]
  simp [Kind.batches]

/-- The payload of a window of commands of a valid kind, at most five of them for switch commands,
fits the command block, and a switch payload reads back as the window's items in order. -/
theorem Window.payload_of_valid {w : Window} (hne : w.items ≠ []) (hk : w.kind.isValid = true)
    (hsw : w.kind = Kind.switch → w.items.length ≤ maxSwitchItems) :
    ∃ b, w.payload = .ok b ∧ b.length ≤ maxPayload ∧
      (w.kind = Kind.switch → decodeSwitch b = .ok (w.items.map (·.command.switch))) := by
  have hvalid : 0 ≤ w.kind.code ∧ w.kind.code ≤ 2 := by simpa [Kind.isValid] using hk
  have hmax : maxPayload = 11 := rfl
  unfold Window.payload
  split
  · contradiction
  · split
    · -- switch commands: a count, then a stone and a value for each of at most five
      next hcode =>
      have hlen : (w.items.map (·.command.switch)).length ≤ maxSwitchItems := by
        simpa using hsw ((Kind.eq_switch_iff _).mpr hcode)
      refine ⟨_, encodeSwitch_eq_ok hlen, ?_, fun _ => decodeSwitch_encodeSwitch hlen⟩
      have : maxSwitchItems = 5 := rfl
      simp only [List.length_cons, length_flatMap_pairs]
      omega
    · next hcode =>
      refine ⟨_, rfl, by simp [setTimePayload, hmax], fun hs => ?_⟩
      rw [(Kind.eq_switch_iff _).mp hs] at hcode
      cases hcode
    · next hcode =>
      refine ⟨_, rfl, by simp [behaviourPayload, hmax], fun hs => ?_⟩
      rw [(Kind.eq_switch_iff _).mp hs] at hcode
      cases hcode
    · -- no other code is valid
      rename_i h0 h1 h2
      rcases (show w.kind.code = 0 ∨ w.kind.code = 1 ∨ w.kind.code = 2 by omega) with h | h | h
      · exact absurd h h0
      · exact absurd h h1
      · exact absurd h h2

/-! ## Sending refuses only long payloads as too large -/

theorem bind_eq_error {α β : Type} {x : Except Fault α} {g : α → Except Fault β} {f : Fault}
    (h : (x >>= g) = .error f) : x = .error f ∨ ∃ a, x = .ok a ∧ g a = .error f := by
  cases x with
  | error e => exact .inl (by simpa [bind, Except.bind] using h)
  | ok a => exact .inr ⟨a, rfl, h⟩

theorem encryptBackground_error {p : Background} {t : UInt32} {s : List UInt16} {f : Fault}
    (h : encryptBackground p t s = .error f) : f.cause? = some .fieldRange := by
  unfold encryptBackground at h
  rcases bind_eq_error h with h | ⟨v, -, h⟩
  · unfold Background.pack at h
    split at h
    · cases h
      rfl
    · cases h
  · cases h

theorem Header.words_error {h : Header} {f : Fault} (hw : h.words = .error f) :
    f.cause? = some .fieldRange := by
  unfold Header.words at hw
  split at hw
  · cases hw
    rfl
  · cases hw

theorem Header.bytes_error {h : Header} {f : Fault} (hb : h.bytes = .error f) :
    f.cause? = some .fieldRange := by
  rw [Header.bytes_eq] at hb
  rcases hw : h.words with f' | ws <;> rw [hw] at hb <;> cases hb
  exact Header.words_error hw

theorem cryptBlock_error {key : Key} {nonce block : Bytes} {f : Fault}
    (h : cryptBlock key nonce block = .error f) : f = .because .badInput := by
  unfold cryptBlock at h
  rcases bind_eq_error h with h | ⟨iv, -, h⟩
  · unfold Envelope.ivOfNonce at h
    split at h
    · exact (Except.error.inj h).symm
    · cases h
  · unfold Envelope.aesCtr at h
    split at h
    · cases h
    · exact (Except.error.inj h).symm

/-- The header a sender writes fits its bits: protocol 1, the level of a role key and no
reserved bits. -/
theorem Header.fits_of_role {level : AccessLevel} (hl : level.code.toNat ≤ 2)
    (shortId token : UInt8) (bg : UInt32) :
    Header.Fits
      { protocol := Header.protocolVersion, sphereShortId := shortId, accessLevel := level.code,
        deviceToken := token, encryptedBackground := bg } :=
  ⟨show Header.protocolVersion ≤ 7 by decide, UInt8.le_iff_toNat_le.mpr (by simp; omega),
    show (0 : UInt8) ≤ 3 by decide⟩

/-- What a refusal to send names, and what it follows from: a payload over eleven bytes, a
background out of range, a missing sphere or key, or a bad nonce. The header is never out of
range, for its level is that of a role key. -/
theorem Encoder.encode_error_cause {e : Encoder} {sphereId : String} {type : CommandType}
    {payload : Bytes} {f : Fault} (h : e.encode sphereId type payload = .error f) :
    (f.cause? = some .commandTooLarge ∧ maxPayload < payload.length) ∨
      (f.cause? = some .fieldRange ∧ ¬ e.background.Fits) ∨
      f.cause? ∈ [some .noSphereKey, some .unknownSphere, some .badInput] := by
  have hthrow : ∀ {α : Type} (x : Fault), (throw x : Except Fault α) = .error f → f = x :=
    fun x h => (Except.error.inj h).symm
  simp only [Encoder.encode] at h
  by_cases hle : payload.length > maxPayload
  · rw [if_pos hle] at h
    exact .inl ⟨by rw [hthrow _ h]; rfl, hle⟩
  rw [if_neg hle] at h
  -- the lookups of the sphere and its keys fail only for want of them
  split at h
  · split at h
    · next _ sphere _ =>
      split at h
      · next level key hrole =>
        split at h
        · rw [pure_bind] at h
          rcases bind_eq_error h with h | ⟨bg, -, h⟩
          · -- the background is encrypted once it packs
            refine .inr (.inl ⟨encryptBackground_error h, fun hfits => ?_⟩)
            obtain ⟨v, hv⟩ := (Background.pack_eq_ok_iff _).mpr hfits
            simp [encryptBackground, hv, bind, Except.bind, pure, Except.pure] at h
          -- the header fits, so its words and bytes are written, and the block fits too
          have hhdr := Header.fits_of_role (KeySet.code_le_of_highest? hrole) sphere.shortId
            e.deviceToken bg
          rcases bind_eq_error h with h | ⟨ws, -, h⟩
          · rw [Header.words_eq_ok hhdr] at h
            cases h
          rcases bind_eq_error h with h | ⟨nonce, -, h⟩
          · rw [Header.bytes_eq, Header.words_eq_ok hhdr] at h
            cases h
          rcases bind_eq_error h with h | ⟨block, -, h⟩
          · rw [CommandPacket.encode_eq_ok (Nat.le_of_not_lt hle)] at h
            cases h
          rcases bind_eq_error h with h | ⟨cipher, -, h⟩
          · simp [cryptBlock_error h, Fault.cause?]
          · cases h
        · rcases bind_eq_error h with h | ⟨s, hs, -⟩
          · simp [hthrow _ h, Fault.cause?]
          · cases hs
      · simp [hthrow _ h, Fault.cause?]
    · simp [hthrow _ h, Fault.cause?]
  · simp [hthrow _ h, Fault.cause?]

/-- Sending refuses a command as too large only when its payload is over eleven bytes: every
other refusal names a missing key, a field out of range or a bad nonce. -/
theorem Encoder.tooLarge_of_encode {e : Encoder} {sphereId : String} {type : CommandType}
    {payload : Bytes} {f : Fault} (h : e.encode sphereId type payload = .error f)
    (hf : f.cause? = some .commandTooLarge) : maxPayload < payload.length := by
  rcases Encoder.encode_error_cause h with ⟨-, hlong⟩ | ⟨hc, -⟩ | hc
  · exact hlong
  · simp [hf] at hc
  · simp [hf] at hc

/-- Sending refuses a command for a field out of range only when the background does not fit its
bits. -/
theorem Encoder.unfit_of_fieldRange {e : Encoder} {sphereId : String} {type : CommandType}
    {payload : Bytes} {f : Fault} (h : e.encode sphereId type payload = .error f)
    (hf : f.cause? = some .fieldRange) : ¬ e.background.Fits := by
  rcases Encoder.encode_error_cause h with ⟨hc, -⟩ | ⟨-, hunfit⟩ | hc
  · simp [hf] at hc
  · exact hunfit
  · simp [hf] at hc

/-! ## The next window of a reachable queue -/

/-- **A window holds the front command and the commands that can share its block.** In every
state a run of operations reaches from a new queue, when commands are waiting, the next window is
the front command followed, for a switch command, by the next waiting commands of its sphere that
are switch commands too, in queue order, up to five in all, and for any other command by none.
They leave the waiting list, which keeps the others in their order, and go in flight. The
window's payload is built and has at most eleven bytes, so sending never refuses it as too large;
for a switch window it reads back as the window's stones and values in queue order, the stones
pairwise distinct. -/
theorem next_window_batches (retries : Int) (ops : List Queue.Op) :
    let q := (Queue.create retries).run ops
    ∀ first rest, q.items = first :: rest →
      let taken := first :: (rest.filter fun it =>
          it.command.sphereId = first.command.sphereId ∧ it.command.kind = first.command.kind).take
        (if first.command.kind = Kind.switch then maxSwitchItems - 1 else 0)
      let w : Window := ⟨first.command.sphereId, first.command.kind, taken⟩
      q.nextWindow = (some w,
          { q with items := q.items.filter (· ∉ taken), inFlight := q.inFlight ++ taken }) ∧
        ∃ b, w.payload = .ok b ∧ b.length ≤ maxPayload ∧
          (∀ (e : Encoder) sphereId f, e.encode sphereId w.commandType b = .error f →
            f.cause? ≠ some .commandTooLarge) ∧
          (w.kind = Kind.switch →
            decodeSwitch b = .ok (taken.map (·.command.switch)) ∧
              (taken.map (·.command.switch.stoneId)).Nodup) := by
  intro q first rest hq taken w
  have hw : q.Wf := (Queue.wf_create retries).run ops
  have hv : q.KindsValid := Queue.kindsValid_run retries ops
  -- no item waits twice, since no ticket is listed twice
  have hnd : q.items.Nodup :=
    (hw.tickets_nodup.of_map _).sublist (List.sublist_append_left _ _)
  have hlimit : (if first.command.kind.batches then maxSwitchItems else 1) - 1 =
      if first.command.kind = Kind.switch then maxSwitchItems - 1 else 0 := by
    by_cases hs : first.command.kind = Kind.switch
    · simp [hs, Kind.batches_iff]
    · simp [hs, Kind.batches_iff]
  have hnext := Queue.nextWindow_of_cons hq hnd
  rw [hlimit] at hnext
  refine ⟨hnext, ?_⟩
  -- the window's commands are listed, so of a valid kind and of distinct targets
  have hsub : taken.Sublist q.items := by
    rw [hq]
    exact ((List.take_sublist _ _).trans List.filter_sublist).cons_cons first
  have hmatch : ∀ it ∈ taken,
      it.command.sphereId = first.command.sphereId ∧ it.command.kind = first.command.kind := by
    intro it hit
    rcases List.mem_cons.mp hit with rfl | hit
    · exact ⟨rfl, rfl⟩
    · simpa using (List.mem_filter.mp (List.mem_of_mem_take hit)).2
  have hk : first.command.kind.isValid = true := hv first (by simp [Queue.listed, hq])
  have hlen : first.command.kind = Kind.switch → taken.length ≤ maxSwitchItems := by
    intro hs
    have : maxSwitchItems = 5 := rfl
    simp only [taken, hs, if_true, List.length_cons, List.length_take]
    omega
  obtain ⟨b, hb, hblen, hdec⟩ := Window.payload_of_valid (w := w) (List.cons_ne_nil _ _) hk hlen
  refine ⟨b, hb, hblen, fun e sphereId f he hf => ?_, fun hs => ⟨hdec hs, ?_⟩⟩
  · exact absurd (Encoder.tooLarge_of_encode he hf) (by omega)
  · -- distinct targets of switch commands of one sphere are distinct stones
    refine Queue.nodup_stones (s := first.command.sphereId)
      (fun it hit => ⟨(hmatch it hit).1, (hmatch it hit).2.trans hs⟩) ?_
    exact hw.targets_nodup.sublist ((hsub.trans (List.sublist_append_left _ _)).map _)

end StoneLink.Broadcast
