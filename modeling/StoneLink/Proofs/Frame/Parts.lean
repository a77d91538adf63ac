import StoneLink.Proofs.Frame.Receive

/-!
# Messages cut into parts and put back together

Cutting a message into parts and feeding the parts, in order, to a receiver at rest gives the
message back: the receiver delivers it once, at the last part, and comes back to rest. This holds
while the count of parts does not wrap around, that is while the message's length and the part
size add up to less than `2 ^ 63`. Beyond that the count comes out negative for a short message
and `split` breaks down.

A receiver that misses notifications does more than drop messages. It throws away what it
collected when a regular part comes out of order, but every last part delivers. What it delivers
is a splice (`Reassembler.SplicedFrom`): the chunks of notifications numbered `0, 1, …, k - 1`, in
the order they came, followed by the chunk of a last part. The chunks may come from several
messages, and a message that lost its first part is delivered as its last chunk alone. Only when
notifications are lost a whole message at a time are the messages delivered exactly.
-/

namespace StoneLink.Frame.Multipart

/-! ## The parts of one message, in order -/

/-- A regular part's number is not the last part's. -/
theorem toUInt8_ne_lastPart {j : Nat} (hj : j < 255) : j.toUInt8 ≠ lastPart := by
  intro h
  have h' := congrArg UInt8.toNat h
  simp [lastPart] at h'
  omega

/-- A regular part's number is below `0xFF`. -/
theorem toNat_lt_of_ne_lastPart {b : UInt8} (h : b ≠ lastPart) : b.toNat < 255 := by
  have hne : b.toNat ≠ 255 := fun hb => h (UInt8.toNat_inj.mp (by simpa [lastPart] using hb))
  have := b.toNat_lt
  omega

/-- Two part numbers below 256 are equal only as numbers. -/
theorem toUInt8_inj {i j : Nat} (hi : i < 256) (hj : j < 256) (h : i.toUInt8 = j.toUInt8) :
    i = j := by
  have h' := congrArg UInt8.toNat h
  simp at h'
  omega

/-- The last chunk is the rest of the message, empty messages included. -/
theorem lastChunk_eq_drop (data : Bytes) {size : Nat} (hsize : 0 < size) :
    (data.drop ((partCount data.length size - 1) * size)).take size =
      data.drop ((partCount data.length size - 1) * size) := by
  cases data with
  | nil => simp
  | cons b bs => exact take_lastChunk hsize (by simp)

/-- The last chunk completes the front of the message. -/
theorem take_append_lastChunk (data : Bytes) {size : Nat} (hsize : 0 < size) :
    data.take ((partCount data.length size - 1) * size) ++
        (data.drop ((partCount data.length size - 1) * size)).take size = data := by
  rw [lastChunk_eq_drop data hsize, List.take_append_drop]

/-- The last part, read off the list of parts. -/
theorem getLast?_parts {data : Bytes} {size n : Nat} (hn : 1 ≤ n) :
    ((List.range n).map (part data size n)).getLast? =
      some (lastPart :: (data.drop ((n - 1) * size)).take size) := by
  rw [List.getLast?_eq_getElem?, List.length_map, List.length_range, List.getElem?_map,
    List.getElem?_range (by omega), Option.map_some, part, if_pos (by omega)]

namespace Reassembler

/-- Feeds notifications one at a time: the receiver at the end, and what each notification
delivered. -/
def feedAll : Reassembler → List Bytes → Reassembler × List (Option Bytes)
  | r, [] => (r, [])
  | r, d :: ds =>
    let rest := (r.feed d).1.feedAll ds
    (rest.1, (r.feed d).2 :: rest.2)

@[simp] theorem feedAll_nil (r : Reassembler) : r.feedAll [] = (r, []) := rfl

theorem feedAll_cons (r : Reassembler) (d : Bytes) (ds : List Bytes) :
    r.feedAll (d :: ds) =
      (((r.feed d).1.feedAll ds).1, (r.feed d).2 :: ((r.feed d).1.feedAll ds).2) := rfl

theorem feedAll_append (r : Reassembler) (xs ys : List Bytes) :
    r.feedAll (xs ++ ys) =
      (((r.feedAll xs).1.feedAll ys).1, (r.feedAll xs).2 ++ ((r.feedAll xs).1.feedAll ys).2) := by
  induction xs generalizing r with
  | nil => rfl
  | cons d xs ih => simp [feedAll_cons, ih]

/-- The regular part that comes next extends the collection by its chunk. -/
theorem feed_part_next {r : Reassembler} {data : Bytes} {size n k : Nat}
    (hr : r.Collected data size k) (hkn : k + 1 < n) (hn : n ≤ maxParts) :
    r.feed (part data size n k) =
        ({ r with expected := r.expected + 1,
                  buffer := r.buffer ++ (data.drop (k * size)).take size }, none) ∧
      ({ r with expected := r.expected + 1,
                buffer := r.buffer ++ (data.drop (k * size)).take size } : Reassembler).Collected
        data size (k + 1) := by
  obtain ⟨hbuf, hexp⟩ := hr
  simp only [maxParts] at hn
  rw [part, if_neg (by omega)]
  refine ⟨feed_next (toUInt8_ne_lastPart (by omega)) hexp _, ?_, ?_⟩
  · simp [hbuf, Nat.succ_mul, List.take_add]
  · simp [hexp]

/-- Fed the parts of a message from part `k` on, a receiver that has collected the first `k`
chunks delivers, at the last part and not before, what it collected followed by the last chunk,
and comes back to rest. The induction runs over the parts still to come. -/
theorem feedAll_parts_from {data : Bytes} {size n : Nat} (hn : n ≤ maxParts) (m : Nat) :
    ∀ {k : Nat} {r : Reassembler}, k + m + 1 = n → r.Collected data size k →
      r.feedAll ((List.range' k (m + 1)).map (part data size n)) =
        ({ r with expected := 0, buffer := [] },
          List.replicate m none ++
            [some (data.take ((n - 1) * size) ++ (data.drop ((n - 1) * size)).take size)]) := by
  induction m with
  | zero =>
    intro k r hk hr
    obtain rfl : n = k + 1 := by omega
    -- the one part left is the last
    rw [Nat.add_sub_cancel, List.range'_one, List.map_singleton, part, if_pos rfl, feedAll_cons,
      feed_last, hr.1]
    rfl
  | succ m ih =>
    intro k r hk hr
    obtain ⟨hfeed, hr'⟩ := feed_part_next hr (by omega) hn
    rw [List.range'_succ, List.map_cons, feedAll_cons, hfeed, ih (by omega) hr']
    simp [List.replicate_succ]

/-- Fed all the parts of a message in order, a receiver at rest delivers the whole message at
the last part and nothing before, and comes back to rest. -/
theorem feedAll_split_parts {data : Bytes} {size : Nat} (hsize : 0 < size)
    (hmax : partCount data.length size ≤ maxParts) {r : Reassembler} (he : r.expected = 0)
    (hb : r.buffer = []) :
    r.feedAll ((List.range (partCount data.length size)).map
        (part data size (partCount data.length size))) =
      (r, List.replicate (partCount data.length size - 1) none ++ [some data]) := by
  have hpos : 1 ≤ partCount data.length size := by simp [partCount]
  have hrange : List.range (partCount data.length size) =
      List.range' 0 (partCount data.length size - 1 + 1) := by
    rw [List.range_eq_range', Nat.sub_add_cancel hpos]
  have hrest : ({ r with expected := 0, buffer := [] } : Reassembler) = r := by
    cases r
    simp_all
  rw [hrange, feedAll_parts_from hmax _ (by omega) (collected_zero data size hb he), hrest,
    take_append_lastChunk data hsize]

end Reassembler

/-- Without wrap-around, a message that needs more than 255 parts is refused. -/
theorem split_of_too_many {data : Bytes} {c : Int} (hc : 1 ≤ c) (hfit : data.length + c < 2 ^ 63)
    (hmax : maxParts < partCount data.length c.toNat) :
    split data c = .error (.because .tooManyParts) := by
  rw [split, if_neg (by omega)]
  simp only [count_of_fit hc hfit]
  rw [if_pos (by omega)]

/-- Without wrap-around, the parts `split` gives are the `partCount` chunks of the message. -/
theorem parts_of_fit {data : Bytes} {c : Int} {parts : List Bytes} (h : split data c = .ok parts)
    (hfit : data.length + c < 2 ^ 63) :
    partCount data.length c.toNat ≤ maxParts ∧
      parts = (List.range (partCount data.length c.toNat)).map
        (part data c.toNat (partCount data.length c.toNat)) := by
  have hc := (eq_parts_of_split h).1
  by_cases hmax : partCount data.length c.toNat ≤ maxParts
  · rw [split_eq_ok hc hfit hmax] at h
    exact ⟨hmax, (Except.ok.inj h).symm⟩
  · rw [split_of_too_many hc hfit (by omega)] at h
    cases h

/-- A notification among a message's parts is a regular part carrying the chunk its number
names, or the last part. -/
theorem mem_split {data : Bytes} {c : Int} {parts : List Bytes} (h : split data c = .ok parts)
    {p : Bytes} (hp : p ∈ parts) :
    (∃ j, j + 1 < parts.length ∧ p = j.toUInt8 :: (data.drop (j * c.toNat)).take c.toNat) ∨
      parts.getLast? = some p := by
  obtain ⟨-, hpos, -, hparts⟩ := eq_parts_of_split h
  rw [hparts] at hp ⊢
  obtain ⟨i, hi, rfl⟩ := List.mem_map.mp hp
  rw [List.mem_range] at hi
  simp only [List.length_map, List.length_range]
  by_cases hlast : i + 1 = parts.length
  · refine .inr ?_
    rw [getLast?_parts hpos, part, if_pos hlast, show i = parts.length - 1 by omega]
  · exact .inl ⟨i, by omega, by rw [part, if_neg hlast]⟩

/-! ## What a receiver that misses notifications delivers -/

/-- Chunks sent as the regular parts `0, 1, …`. -/
def numbered (cs : List Bytes) : List Bytes := cs.zipIdx.map fun x => x.2.toUInt8 :: x.1

@[simp] theorem numbered_nil : numbered [] = [] := rfl

theorem numbered_append_single (cs : List Bytes) (c : Bytes) :
    numbered (cs ++ [c]) = numbered cs ++ [cs.length.toUInt8 :: c] := by
  simp [numbered, List.zipIdx_append]

theorem getElem_mem_numbered {cs : List Bytes} {j : Nat} (hj : j < cs.length) :
    (j.toUInt8 :: cs[j]) ∈ numbered cs := by
  simp only [numbered, List.mem_map]
  exact ⟨(cs[j], j), List.mem_zipIdx_iff_getElem?.mpr (by simp [hj]), rfl⟩

/-- A message put together from the chunks `cs` of notifications numbered `0, 1, …` and the
chunk `f` of a last part, which came in this order among the notifications `fed`. -/
def SplicedFrom (fed : List Bytes) (m : Bytes) : Prop :=
  ∃ cs f, cs.length < 256 ∧ m = cs.flatten ++ f ∧ (numbered cs ++ [lastPart :: f]).Sublist fed

theorem SplicedFrom.mono {fed fed' : List Bytes} {m : Bytes} (h : SplicedFrom fed m)
    (hs : fed.Sublist fed') : SplicedFrom fed' m := by
  obtain ⟨cs, f, hlen, hm, hsub⟩ := h
  exact ⟨cs, f, hlen, hm, hsub.trans hs⟩

namespace Reassembler

/-- The receiver has collected the chunks `cs` of notifications numbered `0, 1, …`, which came
to it in this order among the notifications `fed`. -/
def Spliced (fed : List Bytes) (r : Reassembler) : Prop :=
  ∃ cs : List Bytes, r.expected.toNat = cs.length ∧ r.buffer = cs.flatten ∧
    (numbered cs).Sublist fed

/-- A receiver at rest has collected nothing. -/
theorem spliced_rest (fed : List Bytes) {r : Reassembler} (he : r.expected = 0)
    (hb : r.buffer = []) : r.Spliced fed :=
  ⟨[], by simp [he], by simp [hb], by simp⟩

/-- One notification keeps the description, and a message it delivers is a splice. A last part
delivers the collection and its chunk; the regular part that comes next adds its chunk to the
collection; any other regular part starts it again. -/
theorem Spliced.feed {fed : List Bytes} {r : Reassembler} (h : r.Spliced fed) (d : Bytes) :
    (r.feed d).1.Spliced (fed ++ [d]) ∧ ∀ m, (r.feed d).2 = some m → SplicedFrom (fed ++ [d]) m := by
  obtain ⟨cs, hexp, hbuf, hsub⟩ := h
  match d with
  | [] =>
    refine ⟨⟨cs, hexp, hbuf, hsub.trans (List.sublist_append_left _ _)⟩, ?_⟩
    simp [Multipart.Reassembler.feed]
  | b :: chunk =>
    by_cases hlast : b = lastPart
    · subst hlast
      rw [feed_last]
      refine ⟨spliced_rest _ rfl rfl, ?_⟩
      intro m hm
      obtain rfl := Option.some.inj hm
      have hlt := r.expected.toNat_lt
      refine ⟨cs, chunk, by omega, by rw [hbuf], hsub.append (List.Sublist.refl _)⟩
    by_cases hnext : b = r.expected
    · rw [feed_next hlast hnext.symm]
      refine ⟨⟨cs ++ [chunk], ?_, by simp [hbuf], ?_⟩, by simp⟩
      · -- the number that came is below `0xFF`, so the count of chunks does not wrap
        have hb := toNat_lt_of_ne_lastPart hlast
        have hcount : b.toNat = cs.length := hnext ▸ hexp
        rw [← hnext]
        simp only [UInt8.toNat_add, List.length_append, List.length_singleton]
        simp
        omega
      · have hnum : cs.length.toUInt8 = b := by
          rw [hnext, ← hexp]
          simp
        rw [numbered_append_single, hnum]
        exact hsub.append (List.Sublist.refl _)
    · rw [feed_skip hlast hnext]
      exact ⟨spliced_rest _ rfl rfl, by simp⟩

/-- Along any notifications, every message delivered is a splice of them. The induction runs
over the notifications, with the receiver's description carried from one to the next. -/
theorem Spliced.feedAll {fed : List Bytes} {r : Reassembler} (h : r.Spliced fed)
    (ds : List Bytes) : ∀ m, some m ∈ (r.feedAll ds).2 → SplicedFrom (fed ++ ds) m := by
  induction ds generalizing fed r with
  | nil => simp
  | cons d ds ih =>
    obtain ⟨hnext, hmsg⟩ := h.feed d
    intro m hm
    rw [feedAll_cons, List.mem_cons] at hm
    rcases hm with hm | hm
    · exact (hmsg m hm.symm).mono (by simp)
    · simpa using ih hnext m hm

/-- Fed the parts of whole messages, one message after another, a receiver at rest delivers
exactly those messages and comes back to rest. -/
theorem feedAll_whole_messages {c : Int} {keep : List (Bytes × List Bytes)}
    (hkeep : ∀ x ∈ keep, split x.1 c = .ok x.2 ∧ x.1.length + c < 2 ^ 63) {r : Reassembler}
    (he : r.expected = 0) (hb : r.buffer = []) :
    (r.feedAll (keep.map Prod.snd).flatten).1 = r ∧
      (r.feedAll (keep.map Prod.snd).flatten).2.filterMap id = keep.map Prod.fst := by
  induction keep with
  | nil => simp
  | cons x keep ih =>
    obtain ⟨hsplit, hfit⟩ := hkeep x List.mem_cons_self
    have hc := (eq_parts_of_split hsplit).1
    obtain ⟨hmax, hparts⟩ := parts_of_fit hsplit hfit
    have hone := feedAll_split_parts (by omega : 0 < c.toNat) hmax he hb
    rw [← hparts] at hone
    obtain ⟨hrest, hmsgs⟩ := ih (fun y hy => hkeep y (List.mem_cons_of_mem x hy))
    simpa [feedAll_append, hone, hrest] using hmsgs

end Reassembler

/-- The last of a message's parts is numbered `0xFF`. -/
theorem getLast?_split {data : Bytes} {c : Int} {parts : List Bytes}
    (h : split data c = .ok parts) : ∃ f, parts.getLast? = some (lastPart :: f) := by
  obtain ⟨-, hpos, -, hparts⟩ := eq_parts_of_split h
  rw [hparts]
  exact ⟨_, getLast?_parts hpos⟩

/-- A part of a split numbered `j` below `0xFF` is its regular part `j`. -/
theorem regular_of_mem_split {data : Bytes} {c : Int} {parts : List Bytes}
    (h : split data c = .ok parts) {j : Nat} (hj : j < 255) {ch : Bytes}
    (hp : j.toUInt8 :: ch ∈ parts) :
    j + 1 < parts.length ∧ ch = (data.drop (j * c.toNat)).take c.toNat := by
  have hmax := (eq_parts_of_split h).2.2.1
  rcases mem_split h hp with ⟨i, hi, heq⟩ | hlast
  · obtain ⟨hnum, hchunk⟩ := List.cons.inj heq
    obtain rfl : j = i := toUInt8_inj (by omega) (by simp only [maxParts] at hmax; omega) hnum
    exact ⟨hi, hchunk⟩
  · -- the last part is numbered `0xFF`, which `j` is not
    obtain ⟨f, hf⟩ := getLast?_split h
    rw [hf] at hlast
    exact absurd (List.cons.inj (Option.some.inj hlast)).1.symm (toUInt8_ne_lastPart hj)

/-- A part of a split numbered `0xFF` is its last part. -/
theorem last_of_mem_split {data : Bytes} {c : Int} {parts : List Bytes}
    (h : split data c = .ok parts) {f : Bytes} (hp : lastPart :: f ∈ parts) :
    parts.getLast? = some (lastPart :: f) := by
  have hmax := (eq_parts_of_split h).2.2.1
  rcases mem_split h hp with ⟨i, hi, heq⟩ | hlast
  · -- a regular part is numbered below `0xFF`
    exact absurd (List.cons.inj heq).1.symm
      (toUInt8_ne_lastPart (by simp only [maxParts] at hmax; omega))
  · exact hlast

/-- **What a receiver delivers when notifications are lost.** Messages are cut into parts of one
size and the parts are sent in order; any of them may be lost, none is reordered. Every message a
fresh receiver delivers is a splice: the chunks `cs` of notifications numbered `0, 1, …`, then the
chunk `f` of a last part, which came in this order. Each chunk is the chunk of that number of one
of the messages, and `f` is the chunk of the last part of one of them. When whole messages only
are lost, and no count of parts wraps around, the receiver delivers exactly the messages kept. -/
theorem delivered_messages_are_splices {c : Int} {sent : List (Bytes × List Bytes)}
    (hsent : ∀ x ∈ sent, split x.1 c = .ok x.2) {S : List Bytes}
    (hS : S.Sublist (sent.map Prod.snd).flatten) :
    (∀ m, some m ∈ (({} : Reassembler).feedAll S).2 →
      ∃ cs f, m = cs.flatten ++ f ∧ (numbered cs ++ [lastPart :: f]).Sublist S ∧
        (∀ j (hj : j < cs.length), ∃ x ∈ sent,
          j + 1 < x.2.length ∧ cs[j] = (x.1.drop (j * c.toNat)).take c.toNat) ∧
        ∃ x ∈ sent, x.2.getLast? = some (lastPart :: f)) ∧
      ((∀ x ∈ sent, x.1.length + c < 2 ^ 63) → ∀ keep : List (Bytes × List Bytes), keep.Sublist sent →
        S = (keep.map Prod.snd).flatten →
        (({} : Reassembler).feedAll S).2.filterMap id = keep.map Prod.fst) := by
  refine ⟨fun m hm => ?_, fun hfit keep hkeep hS' => ?_⟩
  · obtain ⟨cs, f, hlen, rfl, hsub⟩ := Reassembler.spliced_rest [] rfl rfl |>.feedAll S m hm
    rw [List.nil_append] at hsub
    -- every notification the splice is made of was sent as a part of one of the messages
    have hsent_part : ∀ p, p ∈ numbered cs ++ [lastPart :: f] → ∃ x ∈ sent, p ∈ x.2 := by
      intro p hp
      obtain ⟨ps, hps, hp⟩ := List.mem_flatten.mp (hS.subset (hsub.subset hp))
      obtain ⟨x, hx, rfl⟩ := List.mem_map.mp hps
      exact ⟨x, hx, hp⟩
    refine ⟨cs, f, rfl, hsub, fun j hj => ?_, ?_⟩
    · -- the notification numbered `j` is the regular part `j` of the message it was sent in
      obtain ⟨x, hx, hp⟩ := hsent_part _ (List.mem_append_left _ (getElem_mem_numbered hj))
      exact ⟨x, hx, regular_of_mem_split (hsent x hx) (by omega) hp⟩
    · obtain ⟨x, hx, hp⟩ := hsent_part _ (List.mem_append_right _ (List.mem_singleton_self _))
      exact ⟨x, hx, last_of_mem_split (hsent x hx) hp⟩
  · subst hS'
    exact (Reassembler.feedAll_whole_messages
      (fun x hx => ⟨hsent x (hkeep.subset hx), hfit x (hkeep.subset hx)⟩) rfl rfl).2

/-- The message `abc` with its parts of one byte. -/
def abcSent : Bytes × List Bytes := ([0x61, 0x62, 0x63], [[0, 0x61], [1, 0x62], [lastPart, 0x63]])

theorem delivered_messages_are_splices_abc :
    (∀ x ∈ [abcSent], split x.1 1 = .ok x.2) ∧
      ([[1, 0x62], [lastPart, 0x63]] : List Bytes).Sublist ([abcSent].map Prod.snd).flatten ∧
      (∀ m, some m ∈ (({} : Reassembler).feedAll [[1, 0x62], [lastPart, 0x63]]).2 →
        ∃ cs f, m = cs.flatten ++ f ∧
          (numbered cs ++ [lastPart :: f]).Sublist [[1, 0x62], [lastPart, 0x63]] ∧
          (∀ j (hj : j < cs.length), ∃ x ∈ [abcSent],
            j + 1 < x.2.length ∧ cs[j] = (x.1.drop (j * (1 : Int).toNat)).take (1 : Int).toNat) ∧
          ∃ x ∈ [abcSent], x.2.getLast? = some (lastPart :: f)) ∧
      ((∀ x ∈ [abcSent], x.1.length + (1 : Int) < 2 ^ 63) → ∀ keep : List (Bytes × List Bytes), keep.Sublist [abcSent] →
        ([[1, 0x62], [lastPart, 0x63]] : List Bytes) = (keep.map Prod.snd).flatten →
        (({} : Reassembler).feedAll [[1, 0x62], [lastPart, 0x63]]).2.filterMap id =
          keep.map Prod.fst) := by
  have hsent : ∀ x ∈ [abcSent], split x.1 1 = .ok x.2 := by decide
  have hS : ([[1, 0x62], [lastPart, 0x63]] : List Bytes).Sublist ([abcSent].map Prod.snd).flatten := by
    decide
  have h := delivered_messages_are_splices hsent hS
  exact ⟨hsent, hS, h⟩

/-- The message `abc`, cut into parts of one byte, loses its first part: the receiver delivers
`c`, which was never sent. -/
theorem lost_first_part_delivers_last_chunk :
    split [0x61, 0x62, 0x63] 1 = .ok [[0, 0x61], [1, 0x62], [lastPart, 0x63]] ∧
      ([[1, 0x62], [lastPart, 0x63]] : List Bytes).Sublist [[0, 0x61], [1, 0x62], [lastPart, 0x63]] ∧
      (({} : Reassembler).feedAll [[1, 0x62], [lastPart, 0x63]]).2 = [none, some [0x63]] ∧
      ([0x63] : Bytes) ≠ [0x61, 0x62, 0x63] := by
  refine ⟨by decide, by decide, by decide, by decide⟩

end StoneLink.Frame.Multipart
