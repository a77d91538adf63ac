import StoneLink.Frame.Packet
import StoneLink.Frame.Multipart
import StoneLink.Proofs.Bits

/-!
# What a receiver reads back

Two readers stand at the receiving end of a link.

The packet reader takes a packet from the front of some bytes. Given what a packet encodes to,
followed by anything, it gives the packet back, unless the packet's opcode is not one of the
four. Given a shorter copy that keeps the four header bytes, it stops at the header, because the
declared payload is not all there.

The part receiver collects the numbered parts of one message. Its state is described by how many
chunks it has collected in order (`Reassembler.Collected`). Each part keeps that description or
starts it again from zero, and only the last part delivers a message: what was collected,
followed by the last chunk.
-/

namespace StoneLink.Frame

namespace StreamPacket

/-- The bytes of a packet: type, opcode, payload length low byte first, payload. -/
theorem encode_eq_ok {p : StreamPacket} {out : Bytes} (h : p.encode = .ok out) :
    p.payload.length ≤ maxPayload ∧
      out = [p.type, p.opcode.code] ++ Bytes.ofUInt16 p.payload.length.toUInt16 ++ p.payload := by
  simp only [encode, frame] at h
  split at h
  · cases h
  · exact ⟨by omega, (Except.ok.inj h).symm⟩

theorem length_of_encode {p : StreamPacket} {out : Bytes} (h : p.encode = .ok out) :
    out.length = 4 + p.payload.length := by
  obtain ⟨-, rfl⟩ := encode_eq_ok h
  simp only [List.length_append, List.length_cons, List.length_nil, Bytes.length_ofUInt16]

/-- Reading a packet whose four header bytes are given: the opcode is checked before the
declared length. -/
theorem decode_header_append (t o : UInt8) {n : Nat} (hn : n ≤ maxPayload) (tail : Bytes) :
    decode ([t, o] ++ Bytes.ofUInt16 n.toUInt16 ++ tail) =
      if o > 3 then .error (.because .unknownVariant)
      else if n > tail.length then .error (.because .truncated)
      else .ok ⟨t, ⟨o⟩, tail.take n⟩ := by
  have hword : (Bytes.toUInt16 (Bytes.ofUInt16 n.toUInt16 ++ tail)).toNat = n := by
    simp only [maxPayload] at hn
    simp only [Bytes.toUInt16_ofUInt16_append, Nat.toUInt16_eq, UInt16.toNat_ofNat']
    omega
  have hbody : (Bytes.ofUInt16 n.toUInt16 ++ tail).drop 2 = tail := List.drop_left' (by simp)
  have hlen : (Bytes.ofUInt16 n.toUInt16 ++ tail).length = 2 + tail.length := by simp
  simp only [decode, unframe, List.cons_append, List.nil_append, List.getD_cons_succ,
    List.getD_cons_zero, List.drop_succ_cons, List.drop_zero, List.length_cons, hword, hbody, hlen]
  rw [if_neg (by omega)]
  split
  · rfl
  · simp only [show 2 + tail.length + 1 + 1 - 4 = tail.length by omega]
    split <;> rfl

/-- A packet read back from its bytes followed by anything. -/
theorem decode_encode_append {p : StreamPacket} {out : Bytes} (h : p.encode = .ok out)
    (rest : Bytes) :
    decode (out ++ rest) =
      if p.opcode.isValid then .ok p else .error (.because .unknownVariant) := by
  obtain ⟨hn, rfl⟩ := encode_eq_ok h
  rw [List.append_assoc, decode_header_append _ _ hn]
  by_cases hv : p.opcode.code ≤ 3
  · have hvalid : p.opcode.isValid = true := by simp [Opcode.isValid, hv]
    simp only [hvalid, if_true, List.length_append]
    rw [if_neg (UInt8.not_lt.mpr hv), if_neg (by omega), List.take_left]
  · have hvalid : p.opcode.isValid = false := by simp [Opcode.isValid, hv]
    simp only [hvalid, Bool.false_eq_true, if_false]
    rw [if_pos (UInt8.not_le.mp hv)]

/-- A copy of a packet's bytes that keeps its header but is shorter than the packet does not
read: the declared payload is not all there, unless the opcode is refused first. -/
theorem decode_of_header {p : StreamPacket} {out q : Bytes} (h : p.encode = .ok out)
    (hhead : q.take 4 = out.take 4) (hshort : q.length < out.length) :
    decode q =
      .error (.because (if p.opcode.isValid then .truncated else .unknownVariant)) := by
  obtain ⟨hn, rfl⟩ := encode_eq_ok h
  have hq : q = [p.type, p.opcode.code] ++ Bytes.ofUInt16 p.payload.length.toUInt16 ++ q.drop 4 := by
    rw [← List.take_append_drop 4 q, hhead]
    simp [Bytes.ofUInt16]
  have htail : (q.drop 4).length < p.payload.length := by
    have hlen := congrArg List.length hq
    simp only [List.length_append, List.length_cons, List.length_nil,
      Bytes.length_ofUInt16] at hlen hshort
    omega
  rw [hq, decode_header_append _ _ hn]
  by_cases hv : p.opcode.code ≤ 3
  · have hvalid : p.opcode.isValid = true := by simp [Opcode.isValid, hv]
    rw [if_neg (UInt8.not_lt.mpr hv), if_pos htail, hvalid, if_pos rfl]
  · have hvalid : p.opcode.isValid = false := by simp [Opcode.isValid, hv]
    rw [if_pos (UInt8.not_le.mp hv), hvalid]
    rfl

end StreamPacket

namespace Multipart

/-- The number of parts a message of `len` bytes is cut into, `size` bytes a part. -/
def partCount (len size : Nat) : Nat := max 1 ((len + size - 1) / size)

/-- Part `i` of the `n` parts of a message: its number, then its chunk. -/
def part (data : Bytes) (size n i : Nat) : Bytes :=
  (if i + 1 = n then lastPart else i.toUInt8) :: (data.drop (i * size)).take size

/-- While the length and the part size add up to less than `2 ^ 63`, the count of parts does
not wrap: it is the quotient rounded up. -/
theorem countParts_of_fit {len : Nat} {c : Int} (hc : 1 ≤ c) (hsum : len + c < 2 ^ 63) :
    countParts len c = (len + c - 1) / c := by
  have hlen : (Int64.ofNat len).toInt = len := Int64.toInt_ofNat_of_lt (by omega)
  have hsize : (Int64.ofInt c).toInt = c := Int64.toInt_ofInt_of_le (by omega) (by omega)
  -- the divisor is not `-1`, the one divisor that makes 64-bit division overflow
  have hne : Int64.ofInt c ≠ -1 := by
    intro h
    have h' := congrArg Int64.toInt h
    rw [hsize] at h'
    simp at h'
    omega
  rw [countParts, Int64.toInt_div_of_ne_right _ _ hne, Int64.toInt_sub, Int64.toInt_add, hlen,
    hsize, Int.bmod_sub_bmod, Int64.toInt_one, Int.bmod_eq_of_le (by omega) (by omega),
    Int.tdiv_eq_ediv_of_nonneg (by omega)]

/-- Without wrap-around, the number of parts `split` makes is `partCount`. -/
theorem count_of_fit {len : Nat} {c : Int} (hc : 1 ≤ c) (hsum : len + c < 2 ^ 63) :
    (if countParts len c = 0 then 1 else countParts len c) = (partCount len c.toNat : Int) := by
  obtain ⟨q, hq⟩ : ∃ q : Nat, (len + c.toNat - 1) / c.toNat = q := ⟨_, rfl⟩
  have hqi : ((len : Int) + c - 1) / c = q := by
    rw [← hq, Int.natCast_ediv]
    congr 1 <;> omega
  rw [countParts_of_fit hc hsum, hqi, partCount, hq]
  split <;> omega

/-- Once `split` has a count `n` of parts it can use, the parts are the message's chunks numbered
in order, the last `0xFF`. -/
theorem split_of_count {data : Bytes} {c : Int} {n : Nat} (hc : 1 ≤ c)
    (hn : (if countParts data.length c = 0 then 1 else countParts data.length c) = n)
    (hmax : n ≤ maxParts) :
    split data c = .ok ((List.range n).map (part data c.toNat n)) := by
  rw [split, if_neg (by omega)]
  simp only [hn]
  rw [if_neg (by simp only [maxParts] at hmax ⊢; omega), if_neg (by omega), Int.toNat_natCast]
  congr 1
  apply List.ext_getElem
  · simp [chunks]
  · intro i h₁ h₂
    simp [chunks, part, List.getElem_zipIdx]

/-- The parts of a message that fits: one per chunk, numbered in order, the last `0xFF`. -/
theorem split_eq_ok {data : Bytes} {chunkSize : Int} (hc : 1 ≤ chunkSize)
    (hsum : data.length + chunkSize < 2 ^ 63)
    (hn : partCount data.length chunkSize.toNat ≤ maxParts) :
    split data chunkSize = .ok ((List.range (partCount data.length chunkSize.toNat)).map
      (part data chunkSize.toNat (partCount data.length chunkSize.toNat))) :=
  split_of_count hc (count_of_fit hc hsum) hn

/-- Whatever count `split` computes, what it gives is between one and 255 parts of the message,
numbered in order, the last `0xFF`. -/
theorem eq_parts_of_split {data : Bytes} {c : Int} {parts : List Bytes}
    (h : split data c = .ok parts) :
    1 ≤ c ∧ 1 ≤ parts.length ∧ parts.length ≤ maxParts ∧
      parts = (List.range parts.length).map (part data c.toNat parts.length) := by
  have hc : 1 ≤ c := by
    by_contra hc
    rw [split, if_pos (by omega)] at h
    cases h
  obtain ⟨k, hk⟩ : ∃ k, (if countParts data.length c = 0 then 1 else countParts data.length c) = k :=
    ⟨_, rfl⟩
  -- the count is positive and at most 255, or `split` fails
  have hrange : 1 ≤ k ∧ k ≤ maxParts := by
    rw [split, if_neg (by omega)] at h
    simp only [hk] at h
    split at h
    · cases h
    · split at h
      · cases h
      · split at hk <;> omega
  have hsplit := split_of_count hc (n := k.toNat) (by rw [hk]; omega) (by omega)
  rw [hsplit] at h
  obtain rfl := Except.ok.inj h
  refine ⟨hc, by simp; omega, by simp; omega, by simp⟩

/-- A message of at least one byte fills all its parts but the last, and the last one
partly or wholly. -/
theorem partCount_bounds {len size : Nat} (hsize : 0 < size) (hlen : 0 < len) :
    (partCount len size - 1) * size < len ∧ len ≤ (partCount len size - 1) * size + size := by
  have hq := Nat.div_add_mod (len + size - 1) size
  have hr := Nat.mod_lt (len + size - 1) hsize
  have hpos : 0 < (len + size - 1) / size := Nat.div_pos (by omega) hsize
  have hmax : partCount len size = (len + size - 1) / size := by
    simp only [partCount]
    omega
  rw [hmax, Nat.sub_mul, Nat.one_mul, Nat.mul_comm]
  have hle : size ≤ size * ((len + size - 1) / size) := Nat.le_mul_of_pos_right size hpos
  constructor <;> omega

/-- A message of at most `N` full parts is cut into at most `N` parts. -/
theorem partCount_le {len size N : Nat} (hsize : 0 < size) (hN : 1 ≤ N) (h : len ≤ N * size) :
    partCount len size ≤ N := by
  have hlt : (len + size - 1) / size < N + 1 := by
    rw [Nat.div_lt_iff_lt_mul hsize, Nat.succ_mul]
    omega
  simp only [partCount]
  omega

/-- The last chunk is the rest of the message. -/
theorem take_lastChunk {data : Bytes} {size : Nat} (hsize : 0 < size) (hlen : 0 < data.length) :
    (data.drop ((partCount data.length size - 1) * size)).take size =
      data.drop ((partCount data.length size - 1) * size) := by
  have hb := partCount_bounds hsize hlen
  apply List.take_of_length_le
  simp only [List.length_drop]
  omega

namespace Reassembler

/-- The last part delivers what was collected followed by its chunk. -/
theorem feed_last (r : Reassembler) (chunk : Bytes) :
    r.feed (lastPart :: chunk) = ({ r with expected := 0, buffer := [] }, some (r.buffer ++ chunk)) := by
  simp [feed]

/-- The regular part that was expected extends the collection. -/
theorem feed_next {r : Reassembler} {b : UInt8} (hb : b ≠ lastPart) (he : r.expected = b)
    (chunk : Bytes) :
    r.feed (b :: chunk) =
      ({ r with expected := r.expected + 1, buffer := r.buffer ++ chunk }, none) := by
  simp [feed, hb, he]

/-- A regular part out of order throws the collection away. -/
theorem feed_skip {r : Reassembler} {b : UInt8} (hb : b ≠ lastPart) (he : b ≠ r.expected)
    (chunk : Bytes) :
    r.feed (b :: chunk) = ({ r with expected := 0, buffer := [], resets := r.resets + 1 }, none) := by
  simp [feed, hb, he]

/-- A receiver that has collected the first `k` chunks of a message, in order, and waits for
part `k`. -/
def Collected (data : Bytes) (size k : Nat) (r : Reassembler) : Prop :=
  r.buffer = data.take (k * size) ∧ r.expected = k.toUInt8

theorem collected_zero (data : Bytes) (size : Nat) {r : Reassembler} (hb : r.buffer = [])
    (he : r.expected = 0) : r.Collected data size 0 := by
  simp [Collected, hb, he]

/-- One part of a message, taken by a receiver that has collected fewer chunks than the part's
number: a regular part extends the collection if it is the next one and restarts it otherwise;
the last part delivers what was collected followed by the last chunk. -/
theorem feed_part {r : Reassembler} {data : Bytes} {size n j k : Nat}
    (hr : r.Collected data size k) (hkj : k ≤ j) (hjn : j < n) (hn : n ≤ maxParts) :
    ∃ k', (r.feed (part data size n j)).1.Collected data size k' ∧ k' ≤ j + 1 ∧
      (r.feed (part data size n j)).2 =
        if j + 1 = n then some (data.take (k * size) ++ (data.drop (j * size)).take size)
        else none := by
  obtain ⟨hbuf, hexp⟩ := hr
  simp only [maxParts] at hn
  by_cases hlast : j + 1 = n
  · rw [part, if_pos hlast, feed_last]
    exact ⟨0, collected_zero _ _ rfl rfl, by omega, by simp [hlast, hbuf]⟩
  rw [part, if_neg hlast]
  -- a regular part's number is below 254, so it is neither `0xFF` nor another part's number
  have hne : j.toUInt8 ≠ lastPart := by
    intro h
    have := congrArg UInt8.toNat h
    simp [lastPart] at this
    omega
  by_cases hnext : j = k
  · subst hnext
    rw [feed_next hne hexp]
    refine ⟨j + 1, ⟨?_, ?_⟩, le_refl _, by simp [hlast]⟩
    · simp [hbuf, Nat.succ_mul, List.take_add]
    · simp [hexp]
  · have hmiss : j.toUInt8 ≠ r.expected := by
      intro h
      have := congrArg UInt8.toNat (h.trans hexp)
      simp at this
      omega
    rw [feed_skip hne hmiss]
    exact ⟨0, collected_zero _ _ rfl rfl, by omega, by simp [hlast]⟩

end Reassembler

end Multipart

end StoneLink.Frame
