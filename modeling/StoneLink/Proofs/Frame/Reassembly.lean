import StoneLink.Proofs.Frame.Parts

/-!
# The receiver's state along any calls

A receiver gets two kinds of calls: a notification, and a reset by its owner. Along any calls
made on a fresh receiver, its state is fixed by the calls alone. Take the calls since it was last
put back at rest, by a reset, a last part or a regular part other than the one it expected: they
hold no reset, and their non-empty notifications are the regular parts `0, 1, …, k - 1` in that
order. The receiver then expects part `k`, has collected exactly their chunks, and a last part
delivers those chunks followed by its own and puts it back at rest. Its count of resets is the
number of regular parts that came out of order, kept as a 64-bit word that wraps around; a reset
by the owner is not counted. Empty
notifications change nothing, so the same calls without them end in the same state with the same
messages.

The description of the state (`Reassembler.Described`) is stated against the whole history of
calls and carried from one call to the next: each call either extends the calls since the last
restart or is a restart itself.
-/

namespace StoneLink.Frame.Multipart

namespace Reassembler

/-- A call made on a receiver: a notification, or a reset by its owner. -/
inductive Call where
  /-- A notification with its bytes. -/
  | data (d : Bytes)
  /-- A reset by the owner. -/
  | reset
  deriving DecidableEq

/-- Makes one call: the new state and the message delivered, if any. -/
def apply (r : Reassembler) : Call → Reassembler × Option Bytes
  | .data d => r.feed d
  | .reset => (r.reset, none)

/-- Makes calls in order: the state at the end and the messages delivered, in order. -/
def run : Reassembler → List Call → Reassembler × List Bytes
  | r, [] => (r, [])
  | r, c :: cs =>
    let rest := (r.apply c).1.run cs
    (rest.1, (r.apply c).2.toList ++ rest.2)

namespace Call

/-- The bytes of a non-empty notification. -/
def notice : Call → Option Bytes
  | .data (b :: rest) => some (b :: rest)
  | _ => none

/-- Whether the call puts the receiver `r` back at rest: a reset, a last part, or a regular part
other than the one `r` expects. -/
def restarts (r : Reassembler) : Call → Bool
  | .reset => true
  | .data [] => false
  | .data (p :: _) => p == lastPart || p != r.expected

/-- Whether the call is a regular part other than the one the receiver `r` expects. -/
def outOfOrder (r : Reassembler) : Call → Bool
  | .data (p :: _) => p != lastPart && p != r.expected
  | _ => false

@[simp] theorem notice_data_nil : notice (.data []) = none := rfl

@[simp] theorem notice_data_cons (p : UInt8) (chunk : Bytes) :
    notice (.data (p :: chunk)) = some (p :: chunk) := rfl

@[simp] theorem notice_reset : notice .reset = none := rfl

end Call

/-! ## One call -/

@[simp] theorem apply_data_nil (r : Reassembler) : r.apply (.data []) = (r, none) := rfl

/-- Only a last part delivers, and it delivers what was collected followed by its chunk. -/
theorem apply_snd_eq_some_iff (r : Reassembler) (c : Call) (m : Bytes) :
    (r.apply c).2 = some m ↔ ∃ chunk, c = .data (lastPart :: chunk) ∧ m = r.buffer ++ chunk := by
  rcases c with ⟨_ | ⟨p, chunk⟩⟩ | _
  · simp
  · by_cases hlast : p = lastPart
    · subst hlast
      simp [apply, feed_last, eq_comm]
    by_cases hnext : p = r.expected
    · simp [apply, feed_next hlast hnext.symm, hlast]
    · simp [apply, feed_skip hlast hnext, hlast]
  · simp [apply]

theorem apply_last (r : Reassembler) (chunk : Bytes) :
    (r.apply (.data (lastPart :: chunk))).1 = { r with expected := 0, buffer := [] } := by
  simp [apply, feed_last]

/-- A call counts a reset exactly when it is a regular part out of order. -/
theorem resets_apply (r : Reassembler) (c : Call) :
    (r.apply c).1.resets = r.resets + if c.outOfOrder r then 1 else 0 := by
  rcases c with ⟨_ | ⟨p, chunk⟩⟩ | _
  · simp [Call.outOfOrder]
  · by_cases hlast : p = lastPart
    · subst hlast
      simp [apply, feed_last, Call.outOfOrder]
    by_cases hnext : p = r.expected
    · rw [apply, feed_next hlast hnext.symm]
      simp [Call.outOfOrder, hnext]
    · rw [apply, feed_skip hlast hnext]
      simp [Call.outOfOrder, hlast, hnext]
  · simp [apply, reset, Call.outOfOrder]

/-- A restart leaves the receiver at rest. -/
theorem rest_of_restarts {r : Reassembler} {c : Call} (h : c.restarts r = true) :
    (r.apply c).1.expected = 0 ∧ (r.apply c).1.buffer = [] := by
  rcases c with ⟨_ | ⟨p, chunk⟩⟩ | _
  · simp [Call.restarts] at h
  · by_cases hlast : p = lastPart
    · subst hlast
      simp [apply_last]
    have hnext : p ≠ r.expected := by simpa [Call.restarts, hlast] using h
    simp [apply, feed_skip hlast hnext]
  · simp [apply, reset]

/-- A call that does not restart the receiver is an empty notification, which changes nothing,
or the regular part it expects, which extends the collection. -/
theorem apply_of_not_restarts {r : Reassembler} {c : Call} (h : c.restarts r = false) :
    c = .data [] ∨ ∃ p chunk, c = .data (p :: chunk) ∧ p ≠ lastPart ∧ p = r.expected ∧
      r.apply c = ({ r with expected := r.expected + 1, buffer := r.buffer ++ chunk }, none) := by
  rcases c with ⟨_ | ⟨p, chunk⟩⟩ | _
  · exact .inl rfl
  · have hp : p ≠ lastPart ∧ p = r.expected := by simpa [Call.restarts] using h
    exact .inr ⟨p, chunk, rfl, hp.1, hp.2, feed_next hp.1 hp.2.symm chunk⟩
  · simp [Call.restarts] at h

/-- The expected number steps up by one after a regular part, without wrapping around. -/
theorem toNat_expected_add_one {r : Reassembler} {p : UInt8} (hp : p ≠ lastPart)
    (he : p = r.expected) : (r.expected + 1).toNat = r.expected.toNat + 1 := by
  have hlt := toNat_lt_of_ne_lastPart hp
  rw [he] at hlt
  rw [UInt8.toNat_add, UInt8.toNat_one]
  omega

/-! ## Calls in order -/

@[simp] theorem run_nil (r : Reassembler) : r.run [] = (r, []) := rfl

theorem run_cons (r : Reassembler) (c : Call) (cs : List Call) :
    r.run (c :: cs) = (((r.apply c).1.run cs).1, (r.apply c).2.toList ++ ((r.apply c).1.run cs).2) :=
  rfl

theorem run_append (r : Reassembler) (xs ys : List Call) :
    r.run (xs ++ ys) = (((r.run xs).1.run ys).1, (r.run xs).2 ++ ((r.run xs).1.run ys).2) := by
  induction xs generalizing r with
  | nil => rfl
  | cons c xs ih => simp [run_cons, ih]

theorem run_snoc_fst (r : Reassembler) (cs : List Call) (c : Call) :
    (r.run (cs ++ [c])).1 = ((r.run cs).1.apply c).1 := by
  simp [run_append, run_cons]

/-- Empty notifications change nothing: the calls without them end in the same state and deliver
the same messages. -/
theorem run_filter_empty (r : Reassembler) (cs : List Call) :
    r.run (cs.filter (· ≠ .data [])) = r.run cs := by
  induction cs generalizing r with
  | nil => rfl
  | cons c cs ih =>
    by_cases hc : c = .data []
    · subst hc
      rw [List.filter_cons_of_neg (by simp), ih, run_cons]
      simp
    · rw [List.filter_cons_of_pos (by simpa using hc), run_cons, run_cons, ih]

/-- The count of resets along calls is the number of regular parts that came out of order, each
judged against the receiver it was made on, as a 64-bit word. -/
theorem resets_run (cs : List Call) :
    (run {} cs).1.resets =
      (cs.zipIdx.countP fun x => x.1.outOfOrder (run {} (cs.take x.2)).1).toUInt64 := by
  induction cs using List.reverseRecOn with
  | nil => rfl
  | append_singleton cs c ih =>
    -- the calls before the last are judged against the same receivers as before
    have hsame : (cs.zipIdx.countP fun x => x.1.outOfOrder (run {} ((cs ++ [c]).take x.2)).1) =
        cs.zipIdx.countP fun x => x.1.outOfOrder (run {} (cs.take x.2)).1 := by
      refine List.countP_congr fun x hx => ?_
      have hlt : x.2 < cs.length := by
        have := (List.mem_zipIdx hx).2.1
        omega
      rw [List.take_append_of_le_length (by omega)]
    rw [run_snoc_fst, resets_apply, ih, List.zipIdx_append, List.countP_append, hsame]
    by_cases hc : c.outOfOrder (run {} cs).1 <;> simp [hc]

/-! ## The state along calls from a fresh receiver -/

/-- The calls `pre` are none, or end with one that put the receiver back at rest. -/
def Restarted (pre : List Call) : Prop :=
  pre = [] ∨ ∃ pre' c, pre = pre' ++ [c] ∧ c.restarts (run {} pre').1 = true

/-- The receiver `r`, reached by the calls `cs`, has collected the chunks of the regular parts
`0, 1, …` made since it was last put back at rest, in order, and expects the next number. -/
def Described (cs : List Call) (r : Reassembler) : Prop :=
  ∃ pre post chunks, cs = pre ++ post ∧ Restarted pre ∧ Call.reset ∉ post ∧
    post.filterMap Call.notice = numbered chunks ∧
    r.expected.toNat = chunks.length ∧ r.buffer = chunks.flatten

theorem described_nil : Described [] {} :=
  ⟨[], [], [], rfl, .inl rfl, by simp, rfl, rfl, rfl⟩

/-- One call keeps the description: a restart starts the calls since the last restart afresh, an
empty notification is not among the notices, and the expected part adds its chunk. -/
theorem Described.snoc {cs : List Call} (h : Described cs (run {} cs).1) (c : Call) :
    Described (cs ++ [c]) (run {} (cs ++ [c])).1 := by
  rw [run_snoc_fst]
  cases hrs : c.restarts (run {} cs).1
  · obtain ⟨pre, post, chunks, hcs, hpre, hreset, hnotice, hexp, hbuf⟩ := h
    rcases apply_of_not_restarts hrs with rfl | ⟨p, chunk, rfl, hlast, hnext, happ⟩
    · exact ⟨pre, post ++ [.data []], chunks, by simp [hcs], hpre, by simpa using hreset,
        by rw [List.filterMap_append, hnotice]; simp, hexp, hbuf⟩
    · -- the part's number is the count of chunks collected so far
      have hnum : chunks.length.toUInt8 = p := by
        rw [hnext, ← hexp]
        simp
      refine ⟨pre, post ++ [.data (p :: chunk)], chunks ++ [chunk], by simp [hcs], hpre,
        by simpa using hreset, ?_, ?_, ?_⟩
      · simp [hnotice, Call.notice, numbered_append_single, hnum]
      · rw [happ, toNat_expected_add_one hlast hnext, hexp, List.length_append,
          List.length_singleton]
      · simp [happ, hbuf]
  · obtain ⟨hexp, hbuf⟩ := rest_of_restarts hrs
    exact ⟨cs ++ [c], [], [], by simp, .inr ⟨cs, c, rfl, hrs⟩, by simp, rfl, by simp [hexp],
      by simp [hbuf]⟩

theorem described_run (cs : List Call) : Described cs (run {} cs).1 := by
  induction cs using List.reverseRecOn with
  | nil => exact described_nil
  | append_singleton cs c ih => exact ih.snoc c

/-- **The state of a receiver along any calls.** From a fresh receiver, after any notifications
and resets: expecting part 0 means nothing is collected. The calls since the receiver was last
put back at rest hold no reset, their non-empty notifications are the regular parts numbered
`0, 1, …, k - 1` in order, the receiver expects part `k` and has collected their chunks, and the
next call delivers a message exactly when it is a last part, the message being those chunks
followed by the last part's own. After a last part the receiver is at rest again. The count of
resets is the number of regular parts that came with a number other than the one expected then,
modulo `2 ^ 64` as the 64-bit count wraps, and empty notifications change neither the state nor
the messages. -/
theorem reassembler_state_along_calls (cs : List Call) :
    ((run {} cs).1.expected = 0 → (run {} cs).1.buffer = []) ∧
    (∃ pre post chunks, cs = pre ++ post ∧ Restarted pre ∧ Call.reset ∉ post ∧
      post.filterMap Call.notice = numbered chunks ∧
      (run {} cs).1.expected.toNat = chunks.length ∧ (run {} cs).1.buffer = chunks.flatten ∧
      ∀ c m, ((run {} cs).1.apply c).2 = some m ↔
        ∃ chunk, c = .data (lastPart :: chunk) ∧ m = chunks.flatten ++ chunk) ∧
    (∀ chunk, ((run {} cs).1.apply (.data (lastPart :: chunk))).1 =
      { (run {} cs).1 with expected := 0, buffer := [] }) ∧
    (run {} cs).1.resets.toNat =
      cs.zipIdx.countP (fun x => x.1.outOfOrder (run {} (cs.take x.2)).1) % 2 ^ 64 ∧
    run {} (cs.filter (· ≠ .data [])) = run {} cs := by
  obtain ⟨pre, post, chunks, hcs, hpre, hreset, hnotice, hexp, hbuf⟩ := described_run cs
  refine ⟨fun h0 => ?_, ⟨pre, post, chunks, hcs, hpre, hreset, hnotice, hexp, hbuf, ?_⟩,
    apply_last _, by rw [resets_run cs, UInt64.toNat_ofNat'], run_filter_empty _ cs⟩
  · -- expecting part 0 means no chunk has been collected
    rw [h0, UInt8.toNat_zero, eq_comm, List.length_eq_zero_iff] at hexp
    rw [hbuf, hexp, List.flatten_nil]
  · intro c m
    rw [apply_snd_eq_some_iff, hbuf]

/-- Part 0, a reset by the owner, then part 1: the owner's reset is not counted, part 1 is, and
the receiver ends at rest. -/
theorem reassembler_state_after_owner_reset :
    let cs := [Call.data [0, 1, 2], .reset, .data [1, 3, 4]]
    (run {} cs).1.expected = 0 ∧ (run {} cs).1.buffer = [] ∧ (run {} cs).1.resets.toNat = 1 := by
  intro cs
  have h := reassembler_state_along_calls cs
  have hexp : (run {} cs).1.expected = 0 := rfl
  refine ⟨hexp, h.1 hexp, ?_⟩
  rw [h.2.2.2.1]
  rfl

end Reassembler

end StoneLink.Frame.Multipart
