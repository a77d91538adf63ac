import StoneLink.Link.Connection
import StoneLink.Proofs.Session.Agreement
import StoneLink.Proofs.Frame.Receive

/-!
# A request hears only its own answer

A device answers a packet with a result packet, sealed at the level the packet came at and
notified in numbered parts. Notifications may be lost but are never reordered. The receiver of a
request then may deliver a message with a hole in it: the front of the answer, a whole number of
chunks, followed by the last chunk.

Main statement: every message the receiver delivers is the sealed answer itself, which opens to
the device's result packet, or a message that opens to no packet at all. Such a message fails
the length gate of an envelope, or it opens, because its first twelve bytes are intact, to a
packet header that declares more payload than follows it. The answer opens to the result packet
only when the packet's opcode is one of the four: a handler that sets another opcode is never
read back. All of this holds for any handler and whatever packet nonce the device draws.

The argument is arithmetic on lengths. A sealed envelope is four header bytes followed by whole
sixteen-byte blocks. A message that lost parts in the middle is shorter by a whole number of
chunks, and it passes the gate only if that is a whole number of blocks. Then the plain text it
opens to is at least a block short of the payload its header declares.
-/

namespace StoneLink.Link

open StoneLink.Frame

namespace Device

/-- A device that works encrypted seals an answer under the key its source has for the level,
with the packet nonce it draws. -/
theorem sealAnswer_of_key {d : Device} {out : Bytes} {lvl : AccessLevel} {key : Key}
    (hplain : d.config.plaintext = false) (hkey : d.source.key? lvl = some key) :
    (d.sealAnswer out lvl).1 = some (Envelope.encryptWithNonce d.nonce out d.config.sessionNonce
      d.validationKey key.bytes lvl) := by
  simp [sealAnswer, hplain, hkey]

/-- Drawing a nonce changes none of the device's set-up. -/
theorem config_sealAnswer (d : Device) (out : Bytes) (lvl : AccessLevel) :
    (d.sealAnswer out lvl).2.config = d.config := by
  unfold sealAnswer
  split
  · rfl
  · split <;> rfl

/-- Every nonce a device draws is three bytes long. -/
theorem length_nonce (d : Device) : d.nonce.length = Envelope.packetNonceSize := by
  simp [nonce]

/-- The notified parts of an answer that was sealed are the parts of the sealed bytes. -/
theorem answer_of_seal {d : Device} {pkt r : StreamPacket} {out e : Bytes} {lvl : AccessLevel}
    (hr : d.config.handler pkt = some r) (hout : r.encode = .ok out)
    (hseal : (d.sealAnswer out lvl).1 = some (.ok e)) :
    (d.answer pkt lvl).1 = Multipart.split e d.chunkSize := by
  have hchunk : (d.sealAnswer out lvl).2.chunkSize = d.chunkSize := by
    simp only [chunkSize, config_sealAnswer]
  rcases hs : d.sealAnswer out lvl with ⟨_ | sealed, d'⟩
  · rw [hs] at hseal
    cases hseal
  · rw [hs] at hseal hchunk
    cases hseal
    simp only [answer, hr, hout, hs, Except.bind, ← hchunk]

end Device

namespace Connection

/-- One notification taken by a request's receiver, which keeps the messages delivered so far. -/
def deliver (acc : Multipart.Reassembler × List Bytes) (part : Bytes) :
    Multipart.Reassembler × List Bytes :=
  ((acc.1.feed part).1, acc.2 ++ (acc.1.feed part).2.toList)

theorem reassemble_eq (parts : List Bytes) :
    reassemble parts = (parts.foldl deliver ({}, [])).2 := rfl

section Receiving

variable {data : Bytes} {size n : Nat} {m : Bytes}

/-- Fed parts of one message in the order of their numbers, the receiver delivers only the front
of the message, a whole number of chunks, followed by the last chunk. The induction runs over
the parts fed; the receiver's collection carries it, and it never counts past the next part. -/
theorem mem_foldl_deliver (hn : n ≤ Multipart.maxParts) {idx : List Nat}
    {r : Multipart.Reassembler} {out : List Bytes} {k : Nat} (hsorted : idx.Pairwise (· < ·))
    (hidx : ∀ j ∈ idx, k ≤ j ∧ j < n) (hr : r.Collected data size k)
    (hm : m ∈ ((idx.map (Multipart.part data size n)).foldl deliver (r, out)).2) :
    m ∈ out ∨ ∃ k, k + 1 ≤ n ∧ m = data.take (k * size) ++ (data.drop ((n - 1) * size)).take size := by
  induction idx generalizing r out k with
  | nil => exact .inl hm
  | cons j idx ih =>
    obtain ⟨hafter, hsorted⟩ := List.pairwise_cons.mp hsorted
    obtain ⟨hkj, hjn⟩ := hidx j List.mem_cons_self
    obtain ⟨k', hr', hk', hmsg⟩ := Multipart.Reassembler.feed_part hr hkj hjn hn
    have hrest : ∀ i ∈ idx, k' ≤ i ∧ i < n := fun i hi =>
      ⟨by have := hafter i hi; omega, (hidx i (List.mem_cons_of_mem j hi)).2⟩
    rw [List.map_cons, List.foldl_cons] at hm
    rcases ih hsorted hrest hr' hm with hm | hm
    · -- delivered before this part, or by it
      simp only [hmsg, List.mem_append] at hm
      rcases hm with hm | hm
      · exact .inl hm
      · split at hm
        · next hlast =>
          rw [Option.toList_some, List.mem_singleton] at hm
          exact .inr ⟨k, by omega, by rw [hm, show j = n - 1 by omega]⟩
        · simp at hm
    · exact .inr hm

/-- A request's receiver fed any of the parts of one message, in order, delivers only the front
of the message, a whole number of chunks, followed by the last chunk. -/
theorem mem_reassemble_of_sublist {S : List Bytes} (hn : n ≤ Multipart.maxParts)
    (hS : S.Sublist ((List.range n).map (Multipart.part data size n))) (hm : m ∈ reassemble S) :
    ∃ k, k + 1 ≤ n ∧ m = data.take (k * size) ++ (data.drop ((n - 1) * size)).take size := by
  obtain ⟨idx, hidx, rfl⟩ := List.sublist_map_iff.mp hS
  rw [reassemble_eq] at hm
  have hstart : ({} : Multipart.Reassembler).Collected data size 0 :=
    Multipart.Reassembler.collected_zero data size rfl rfl
  rcases mem_foldl_deliver hn (List.pairwise_lt_range.sublist hidx)
      (fun j hj => ⟨Nat.zero_le j, List.mem_range.mp (hidx.subset hj)⟩) hstart hm with hm | hm
  · simp at hm
  · exact hm

end Receiving

section Opening

variable {c : Connection} {nonce out sessionNonce validationKey e m : Bytes} {key : Key}
  {lvl level : AccessLevel} {r : StreamPacket}

/-- A sealed packet opens to the packet, when its opcode is one of the four. -/
theorem openMessage_sealed
    (he : Envelope.encryptWithNonce nonce out sessionNonce validationKey key.bytes lvl = .ok e)
    (hlvl : lvl ≠ .encryptionDisabled)
    (hconn : c.session.established = some ⟨sessionNonce, validationKey⟩)
    (hpeer : c.session.openSource.key? lvl = some key) (hlevel : level ≠ .encryptionDisabled)
    (hout : r.encode = .ok out) :
    c.openMessage e level = if r.opcode.isValid then some r else none := by
  rw [openMessage, if_neg hlevel, Session.decrypt_of_established hconn,
    Envelope.decrypt_of_encryptWithNonce he hlvl hpeer]
  dsimp only
  rw [StreamPacket.decode_encode_append hout]
  split <;> rfl

/-- A sealed packet with bytes cut out after its first twelve does not open to a packet: it fails
the length gate, or it opens to a header that declares more payload than follows. -/
theorem decode_of_cut {src : KeySource}
    (he : Envelope.encryptWithNonce nonce out sessionNonce validationKey key.bytes lvl = .ok e)
    (hlvl : lvl ≠ .encryptionDisabled) (hsrc : src.key? lvl = some key) (hout : r.encode = .ok out)
    (hpre : m.take 12 = e.take 12) (hshort : m.length < e.length) :
    (m.length < Envelope.headerSize + Envelope.blockSize ∨
        (m.length - Envelope.headerSize) % Envelope.blockSize ≠ 0) ∨
      ∃ p, Envelope.decrypt m sessionNonce validationKey (some src) = .ok p ∧
        StreamPacket.decode p =
          .error (.because (if r.opcode.isValid then .truncated else .unknownVariant)) := by
  by_cases hgate : m.length < Envelope.headerSize + Envelope.blockSize ∨
      (m.length - Envelope.headerSize) % Envelope.blockSize ≠ 0
  · exact .inl hgate
  right
  have hgate' : Envelope.headerSize + Envelope.blockSize ≤ m.length ∧
      (m.length - Envelope.headerSize) % Envelope.blockSize = 0 := by omega
  have hlen := StreamPacket.length_of_encode hout
  obtain ⟨p, hp, hhead, hplen⟩ := Envelope.decrypt_of_prefix he hlvl hsrc 4 (by omega) hpre hgate'
  refine ⟨p, hp, StreamPacket.decode_of_header hout hhead ?_⟩
  -- both lengths are four past a multiple of sixteen, so the cut took at least a block
  have helen := Envelope.length_of_encryptWithNonce he hlvl
  simp only [Envelope.paddedLength, Envelope.headerSize, Envelope.blockSize,
    Envelope.validationKeySize] at helen hgate'
  omega

/-- A message that does not open to a packet is passed over. -/
theorem openMessage_eq_none (hconn : c.session.established = some ⟨sessionNonce, validationKey⟩)
    (hlevel : level ≠ .encryptionDisabled)
    (h : (m.length < Envelope.headerSize + Envelope.blockSize ∨
        (m.length - Envelope.headerSize) % Envelope.blockSize ≠ 0) ∨
      ∃ p, Envelope.decrypt m sessionNonce validationKey (some c.session.openSource) = .ok p ∧
        ∃ f, StreamPacket.decode p = .error f) :
    c.openMessage m level = none := by
  rw [openMessage, if_neg hlevel, Session.decrypt_of_established hconn]
  rcases h with hgate | ⟨p, hp, f, hf⟩
  · rw [Envelope.decrypt_of_not_gate hgate]
  · simp only [hp, hf, Except.toOption]

/-- What a request's receiver delivers after collecting `k` chunks of a sealed packet and then
its last part: the sealed packet itself when no chunk is missing, and otherwise a message that
does not open to a packet. -/
theorem openMessage_delivered {size k : Nat}
    (he : Envelope.encryptWithNonce nonce out sessionNonce validationKey key.bytes lvl = .ok e)
    (hlvl : lvl ≠ .encryptionDisabled)
    (hconn : c.session.established = some ⟨sessionNonce, validationKey⟩)
    (hpeer : c.session.openSource.key? lvl = some key) (hlevel : level ≠ .encryptionDisabled)
    (hout : r.encode = .ok out) (hsize : 12 ≤ size ∧ size ≤ 19)
    (hk : k + 1 ≤ Multipart.partCount e.length size)
    (hm : m = e.take (k * size) ++
      (e.drop ((Multipart.partCount e.length size - 1) * size)).take size) :
    (m = e ∧ c.openMessage m level = if r.opcode.isValid then some r else none) ∨
      (c.openMessage m level = none ∧
        ((m.length < Envelope.headerSize + Envelope.blockSize ∨
            (m.length - Envelope.headerSize) % Envelope.blockSize ≠ 0) ∨
          ∃ p, c.session.decrypt m = .ok p ∧
            StreamPacket.decode p =
              .error (.because (if r.opcode.isValid then .truncated else .unknownVariant)))) := by
  have helen := Envelope.length_of_encryptWithNonce he hlvl
  have hlen := StreamPacket.length_of_encode hout
  have hpad := Envelope.length_paddedLength_ge (Envelope.validationKeySize + out.length)
  simp only [Envelope.headerSize, Envelope.validationKeySize] at helen hpad
  have hepos : 0 < e.length := by omega
  obtain ⟨hlo, hhi⟩ := Multipart.partCount_bounds (by omega : 0 < size) hepos
  rw [Multipart.take_lastChunk (by omega) hepos] at hm
  generalize Multipart.partCount e.length size = n at hk hm hlo hhi
  by_cases hkn : k + 1 = n
  · -- every chunk is there
    left
    rw [show k = n - 1 by omega, List.take_append_drop] at hm
    subst hm
    exact ⟨rfl, openMessage_sealed he hlvl hconn hpeer hlevel hout⟩
  right
  rcases Nat.eq_zero_or_pos k with rfl | hkpos
  · -- only the last chunk: shorter than a header and a block
    have hg : m.length < Envelope.headerSize + Envelope.blockSize := by
      rw [hm]
      simp only [Nat.zero_mul, List.take_zero, List.nil_append, List.length_drop,
        Envelope.headerSize, Envelope.blockSize]
      omega
    exact ⟨openMessage_eq_none hconn hlevel (.inl (.inl hg)), .inl (.inl hg)⟩
  · -- the first twelve bytes are intact, and at least one chunk is missing
    have hks : k * size + size ≤ (n - 1) * size := by
      have := Nat.mul_le_mul_right size (show k + 1 ≤ n - 1 by omega)
      rwa [Nat.succ_mul] at this
    have hfront : size ≤ k * size := Nat.le_mul_of_pos_left size hkpos
    have hcut : (e.take (k * size)).length = k * size := by
      simp only [List.length_take]
      omega
    have hpre : m.take 12 = e.take 12 := by
      rw [hm, List.take_append_of_le_length (by omega), List.take_take, Nat.min_eq_left (by omega)]
    have hshort : m.length < e.length := by
      rw [hm, List.length_append, hcut, List.length_drop]
      omega
    rcases decode_of_cut he hlvl hpeer hout hpre hshort with hg | ⟨p, hp, hdec⟩
    · exact ⟨openMessage_eq_none hconn hlevel (.inl hg), .inl hg⟩
    · refine ⟨openMessage_eq_none hconn hlevel (.inr ⟨p, hp, _, hdec⟩), .inr ⟨p, ?_, hdec⟩⟩
      rw [Session.decrypt_of_established hconn, hp]

end Opening

end Connection

/-- The messages a request's receiver makes of the notified answer to a packet, with any of the
parts lost but none reordered. The device seals its result packet at the level the packet came
at, under the key the connection opens that level with; parts carry 12 to 19 bytes, and the
answer fits in 255 of them. Every message delivered is the sealed answer, which opens to the
result packet when its opcode is one of the four, or a message that opens to no packet: it fails
the length gate of an envelope, or it opens to a header that declares more payload than follows
it (or names an opcode outside the four). -/
theorem delivered_messages_of_answer {d : Device} {c : Connection} {pkt r : StreamPacket}
    {out : Bytes} {lvl level : AccessLevel} {key : Key}
    (hplain : d.config.plaintext = false) (hchunk : 12 ≤ d.chunkSize ∧ d.chunkSize ≤ 19)
    (hnonce : d.config.sessionNonce.length = Envelope.sessionNonceSize)
    (hconn : c.session.established = some ⟨d.config.sessionNonce, d.validationKey⟩)
    (hdev : d.source.key? lvl = some key) (hpeer : c.session.openSource.key? lvl = some key)
    (hlvl : lvl ≠ .encryptionDisabled) (hlevel : level ≠ .encryptionDisabled)
    (hr : d.config.handler pkt = some r) (hout : r.encode = .ok out)
    (hfit : 4 + Envelope.paddedLength (8 + r.payload.length) ≤ 255 * d.chunkSize.toNat) :
    ∃ e parts, (d.sealAnswer out lvl).1 = some (.ok e) ∧
      e.length = 4 + Envelope.paddedLength (8 + r.payload.length) ∧
      (d.answer pkt lvl).1 = .ok parts ∧ Multipart.split e d.chunkSize = .ok parts ∧
      ∀ S, S.Sublist parts → ∀ m ∈ Connection.reassemble S,
        (m = e ∧ c.openMessage m level = if r.opcode.isValid then some r else none) ∨
        (c.openMessage m level = none ∧
          ((m.length < Envelope.headerSize + Envelope.blockSize ∨
              (m.length - Envelope.headerSize) % Envelope.blockSize ≠ 0) ∨
            ∃ p, c.session.decrypt m = .ok p ∧
              StreamPacket.decode p =
                .error (.because (if r.opcode.isValid then .truncated else .unknownVariant)))) := by
  have hvk : d.validationKey.length = Envelope.validationKeySize := by
    simp [Device.validationKey, hnonce, Envelope.sessionNonceSize, Envelope.validationKeySize]
  have hlen := StreamPacket.length_of_encode hout
  -- the sealed answer
  obtain ⟨e, he⟩ : ∃ e, Envelope.encryptWithNonce d.nonce out d.config.sessionNonce
      d.validationKey key.bytes lvl = .ok e :=
    ⟨_, Envelope.encryptWithNonce_of_fit hlvl d.length_nonce (List.ne_nil_of_length_pos (by omega))
      hnonce hvk key.length_eq⟩
  have hseal : (d.sealAnswer out lvl).1 = some (.ok e) := by
    rw [Device.sealAnswer_of_key hplain hdev, he]
  have helen : e.length = 4 + Envelope.paddedLength (8 + r.payload.length) := by
    rw [Envelope.length_of_encryptWithNonce he hlvl, hlen]
    simp only [Envelope.headerSize, Envelope.validationKeySize, ← Nat.add_assoc]
  -- its parts
  have hsize : 12 ≤ d.chunkSize.toNat ∧ d.chunkSize.toNat ≤ 19 := by omega
  have hn : Multipart.partCount e.length d.chunkSize.toNat ≤ Multipart.maxParts :=
    Multipart.partCount_le (by omega) (by decide) (by rw [helen]; exact hfit)
  have hsplit := Multipart.split_eq_ok (by omega) (by omega) hn
  refine ⟨e, _, hseal, helen, by rw [Device.answer_of_seal hr hout hseal, hsplit], hsplit, ?_⟩
  -- what the receiver delivers
  intro S hS m hm
  obtain ⟨k, hk, hm⟩ := Connection.mem_reassemble_of_sublist hn hS hm
  exact Connection.openMessage_delivered he hlvl hconn hpeer hlevel hout hsize hk hm

/-- A device in normal mode with a guest key, notifying in parts of twelve bytes. -/
def guestDevice : Device :=
  { config :=
      { keys := { guest := some Key.zero }
        sessionNonce := [1, 2, 3, 4, 5]
        chunkSize := 12 }
    random := fun i => i.toUInt8 }

/-- A connection established with `guestDevice`. -/
def guestConnection : Connection :=
  ⟨.normal,
    { keys := some (.keys { guest := some Key.zero })
      random := []
      established := some ⟨[1, 2, 3, 4, 5], [1, 2, 3, 4]⟩ }⟩

theorem delivered_messages_of_answer_guest :
    guestDevice.config.plaintext = false ∧
      (12 ≤ guestDevice.chunkSize ∧ guestDevice.chunkSize ≤ 19) ∧
      guestDevice.config.sessionNonce.length = Envelope.sessionNonceSize ∧
      guestConnection.session.established =
        some ⟨guestDevice.config.sessionNonce, guestDevice.validationKey⟩ ∧
      guestDevice.source.key? .guest = some Key.zero ∧
      guestConnection.session.openSource.key? .guest = some Key.zero ∧
      AccessLevel.guest ≠ .encryptionDisabled ∧
      guestDevice.config.handler ⟨5, .write, [1, 2, 3]⟩ = some ⟨5, .result, [0, 0, 1, 2, 3]⟩ ∧
      StreamPacket.encode ⟨5, .result, [0, 0, 1, 2, 3]⟩ = .ok [5, 3, 5, 0, 0, 0, 1, 2, 3] ∧
      4 + Envelope.paddedLength (8 + 5) ≤ 255 * guestDevice.chunkSize.toNat ∧
      ∃ e parts, (guestDevice.sealAnswer [5, 3, 5, 0, 0, 0, 1, 2, 3] .guest).1 = some (.ok e) ∧
        e.length = 4 + Envelope.paddedLength (8 + 5) ∧
        (guestDevice.answer ⟨5, .write, [1, 2, 3]⟩ .guest).1 = .ok parts ∧
        Multipart.split e guestDevice.chunkSize = .ok parts ∧
        ∀ S, S.Sublist parts → ∀ m ∈ Connection.reassemble S,
          (m = e ∧ guestConnection.openMessage m .guest = some ⟨5, .result, [0, 0, 1, 2, 3]⟩) ∨
          (guestConnection.openMessage m .guest = none ∧
            ((m.length < Envelope.headerSize + Envelope.blockSize ∨
                (m.length - Envelope.headerSize) % Envelope.blockSize ≠ 0) ∨
              ∃ p, guestConnection.session.decrypt m = .ok p ∧
                StreamPacket.decode p = .error (.because .truncated))) := by
  have hplain : guestDevice.config.plaintext = false := rfl
  have hchunk : 12 ≤ guestDevice.chunkSize ∧ guestDevice.chunkSize ≤ 19 := by decide
  have hnonce : guestDevice.config.sessionNonce.length = Envelope.sessionNonceSize := rfl
  have hconn : guestConnection.session.established =
      some ⟨guestDevice.config.sessionNonce, guestDevice.validationKey⟩ := rfl
  have hdev : guestDevice.source.key? .guest = some Key.zero := rfl
  have hpeer : guestConnection.session.openSource.key? .guest = some Key.zero := rfl
  have hlvl : AccessLevel.guest ≠ .encryptionDisabled := by decide
  have hr : guestDevice.config.handler ⟨5, .write, [1, 2, 3]⟩ =
      some ⟨5, .result, [0, 0, 1, 2, 3]⟩ := rfl
  have hout : StreamPacket.encode ⟨5, .result, [0, 0, 1, 2, 3]⟩ = .ok [5, 3, 5, 0, 0, 0, 1, 2, 3] :=
    rfl
  have hfit : 4 + Envelope.paddedLength (8 + 5) ≤ 255 * guestDevice.chunkSize.toNat := by decide
  have h := delivered_messages_of_answer hplain hchunk hnonce hconn hdev hpeer hlvl hlvl hr hout hfit
  exact ⟨hplain, hchunk, hnonce, hconn, hdev, hpeer, hlvl, hr, hout, hfit, h⟩

/-- A device whose handler answers with opcode 7 seals a packet that the connection opens to
no packet. -/
theorem opcode_seven_answer_unread :
    ({ guestDevice with config := { guestDevice.config with
        handler := fun req => some ⟨req.type, ⟨7⟩, [0, 0]⟩ } } : Device).config.handler
        ⟨5, .write, [1, 2, 3]⟩ = some ⟨5, ⟨7⟩, [0, 0]⟩ ∧
      StreamPacket.encode ⟨5, ⟨7⟩, [0, 0]⟩ = .ok [5, 7, 2, 0, 0, 0] ∧
      ∃ e, Envelope.encryptWithNonce [0, 1, 2] [5, 7, 2, 0, 0, 0] [1, 2, 3, 4, 5] [1, 2, 3, 4]
          Key.zero.bytes .guest = .ok e ∧
        guestConnection.openMessage e .guest = none := by
  have hout : StreamPacket.encode ⟨5, ⟨7⟩, [0, 0]⟩ = .ok [5, 7, 2, 0, 0, 0] := rfl
  have hlvl : AccessLevel.guest ≠ .encryptionDisabled := by decide
  refine ⟨rfl, hout, _, Envelope.encryptWithNonce_of_fit hlvl rfl (by simp) rfl rfl
    Key.zero.length_eq, ?_⟩
  rw [Connection.openMessage_sealed (Envelope.encryptWithNonce_of_fit hlvl rfl (by simp) rfl rfl
    Key.zero.length_eq) hlvl rfl rfl hlvl hout]
  rfl

end StoneLink.Link
