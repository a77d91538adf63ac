import StoneLink.Frame.Packet
import StoneLink.Proofs.Bits

/-!
# Packet framing

Both packet shapes go through one codec. `frame` writes a header, the payload length in two
bytes and the payload; `unframe` reads a header of `size` bytes whose opcode byte is at
`opcodeAt` and whose last two bytes declare the payload length. This module proves the codec's
laws once, for any such header, and reads them off for the stream and the indexed packets:

* a framed payload is read back whatever follows it (`unframe_frame_append`);
* framing refuses exactly the payloads longer than a 16-bit length can declare
  (`frame_eq_error_iff`);
* reading fails for a missing header, then for an unknown opcode, then for a missing payload,
  each exactly when it is the first thing wrong, and otherwise framing what was read again gives
  back the header and the declared payload (`decodeOrder_of_unframe`, stated as `DecodeOrder`).

The main statement is `packet_framing_round_trip`, which adds that a result packet reads back
its code and data.
-/

namespace StoneLink.Frame

/-- The payload length a header of `size` bytes declares in its last two bytes. -/
def declaredLength (size : Nat) (d : Bytes) : Nat := (Bytes.toUInt16 (d.drop (size - 2))).toNat

theorem declaredLength_lt (size : Nat) (d : Bytes) : declaredLength size d ≤ maxPayload := by
  have := (Bytes.toUInt16 (d.drop (size - 2))).toNat_lt
  simp only [declaredLength, maxPayload]
  omega

/-- Two bytes read as a word and written again are the two bytes. -/
theorem ofUInt16_toUInt16 {b : Bytes} (h : 2 ≤ b.length) :
    Bytes.ofUInt16 (Bytes.toUInt16 b) = b.take 2 := by
  match b, h with
  | x :: y :: rest, _ =>
    have hx := x.toNat_lt
    have hy := y.toNat_lt
    -- the word is `x + 256 y`, so its low byte is `x` and its high byte `y`
    have hw : (Bytes.toUInt16 (x :: y :: rest)).toNat = x.toNat + y.toNat * 256 := by
      simp only [Bytes.toUInt16, List.getD_cons_zero, List.getD_cons_succ, UInt16.toNat_or,
        UInt16.toNat_shiftLeft, UInt8.toNat_toUInt16, Nat.shiftLeft_eq, UInt16.reduceToNat,
        Nat.reduceMod, Nat.reducePow]
      rw [Nat.mod_eq_of_lt (by omega), Bits.or_eq_add_of_lt (k := 8) hx (by omega)]
    simp only [Bytes.ofUInt16, List.take_succ_cons, List.take_zero, List.cons.injEq, and_true]
    constructor
    · apply UInt8.toNat_inj.mp
      rw [UInt16.toNat_toUInt8, hw]
      omega
    · apply UInt8.toNat_inj.mp
      rw [UInt16.toNat_toUInt8, UInt16.toNat_shiftRight, hw]
      simp only [UInt16.reduceToNat, Nat.reduceMod, Nat.shiftRight_eq_div_pow, Nat.reducePow]
      omega

/-! ## Framing -/

theorem frame_eq_ok {header payload : Bytes} (h : payload.length ≤ maxPayload) :
    frame header payload = .ok (header ++ Bytes.ofUInt16 payload.length.toUInt16 ++ payload) := by
  rw [frame, if_neg (by omega)]

/-- Framing fails only for a payload too long for its 16-bit length. -/
theorem frame_eq_error_iff (header payload : Bytes) :
    frame header payload = .error (.because .payloadTooLarge) ↔ maxPayload < payload.length := by
  by_cases h : maxPayload < payload.length
  · simp [frame, h]
  · simp [frame, h]

/-- A framed payload is read back, whatever follows it, by a reader of the header's shape. -/
theorem unframe_frame_append {header payload : Bytes} {size opcodeAt : Nat}
    (hsize : header.length + 2 = size) (hat : opcodeAt < header.length)
    (hop : header.getD opcodeAt 0 ≤ 3) (hp : payload.length ≤ maxPayload) (t : Bytes) :
    unframe size opcodeAt (header ++ Bytes.ofUInt16 payload.length.toUInt16 ++ payload ++ t) =
      .ok payload := by
  have hword : (Bytes.toUInt16 (Bytes.ofUInt16 payload.length.toUInt16 ++ (payload ++ t))).toNat =
      payload.length := by
    simp only [maxPayload] at hp
    simp only [Bytes.toUInt16_ofUInt16_append, Nat.toUInt16_eq, UInt16.toNat_ofNat']
    omega
  have hdrop : (header ++ Bytes.ofUInt16 payload.length.toUInt16 ++ payload ++ t).drop (size - 2) =
      Bytes.ofUInt16 payload.length.toUInt16 ++ (payload ++ t) := by
    rw [show size - 2 = header.length by omega]
    simp
  have hbody : (header ++ Bytes.ofUInt16 payload.length.toUInt16 ++ payload ++ t).drop size =
      payload ++ t := by
    rw [List.append_assoc (header ++ _) payload t]
    exact List.drop_left' (by simp only [List.length_append, Bytes.length_ofUInt16]; omega)
  have hget : (header ++ Bytes.ofUInt16 payload.length.toUInt16 ++ payload ++ t).getD opcodeAt 0 =
      header.getD opcodeAt 0 := by
    simp only [List.append_assoc, List.getD_eq_getElem?_getD, List.getElem?_append_left hat]
  have hlen : (header ++ Bytes.ofUInt16 payload.length.toUInt16 ++ payload ++ t).length =
      size + payload.length + t.length := by
    simp only [List.length_append, Bytes.length_ofUInt16]
    omega
  simp only [unframe, hlen, hget, hdrop, hword, hbody]
  rw [if_neg (by omega), if_neg (UInt8.not_lt.mpr hop), if_neg (by omega), List.take_left]

/-! ## Reading any bytes -/

/-- How a reader of headers of `size` bytes, with the opcode at `opcodeAt`, treats any bytes: it
fails for a missing header, then for an opcode that is not one of the four, then for a declared
payload that is not all there, each exactly when it is the first thing wrong; otherwise it reads
a packet that encodes to the header and the declared payload, and nothing after. -/
def DecodeOrder {α : Type} (decode : Bytes → Except Fault α)
    (encode : α → Except Fault Bytes) (size opcodeAt : Nat) : Prop :=
  ∀ d : Bytes,
    (decode d = .error (.because .undersized) ↔ d.length < size) ∧
    (size ≤ d.length →
      (decode d = .error (.because .unknownVariant) ↔ 3 < d.getD opcodeAt 0)) ∧
    (size ≤ d.length → d.getD opcodeAt 0 ≤ 3 →
      (decode d = .error (.because .truncated) ↔ d.length - size < declaredLength size d)) ∧
    (size ≤ d.length → d.getD opcodeAt 0 ≤ 3 → declaredLength size d ≤ d.length - size →
      ∃ p, decode d = .ok p ∧ encode p = .ok (d.take (size + declaredLength size d)))

/-- What the codec makes of any bytes, in the order it checks them. -/
theorem unframe_eq (size opcodeAt : Nat) (d : Bytes) :
    unframe size opcodeAt d =
      if d.length < size then .error (.because .undersized)
      else if 3 < d.getD opcodeAt 0 then .error (.because .unknownVariant)
      else if d.length - size < declaredLength size d then .error (.because .truncated)
      else .ok ((d.drop size).take (declaredLength size d)) := rfl

/-- Framing again what was read gives back the header and the declared payload. -/
theorem frame_take_of_unframe {size : Nat} {d : Bytes} (hsize : 2 ≤ size)
    (hlen : size ≤ d.length)
    (hn : declaredLength size d ≤ d.length - size) :
    frame (d.take (size - 2)) ((d.drop size).take (declaredLength size d)) =
      .ok (d.take (size + declaredLength size d)) := by
  set n := declaredLength size d with hn_def
  have hplen : ((d.drop size).take n).length = n := by
    simp only [List.length_take, List.length_drop]
    omega
  have hword : Bytes.ofUInt16 n.toUInt16 = (d.drop (size - 2)).take 2 := by
    have hw : n.toUInt16 = Bytes.toUInt16 (d.drop (size - 2)) := by
      simp [hn_def, declaredLength]
    rw [hw, ofUInt16_toUInt16 (by simp only [List.length_drop]; omega)]
  have hp : ((d.drop size).take n).length ≤ maxPayload := by
    rw [hplen]
    exact declaredLength_lt size d
  rw [frame_eq_ok hp, hplen, hword]
  -- the header, its last two bytes and the payload are consecutive slices of `d`
  have hsplit : size + n = (size - 2) + (2 + n) := by omega
  rw [hsplit, List.take_add, List.take_add, List.drop_drop, show size - 2 + 2 = size by omega,
    List.append_assoc]

/-- A packet shape whose reader is the codec and whose writer frames the header bytes it was
read from reads any bytes in the order `DecodeOrder` states. -/
theorem decodeOrder_of_unframe {α : Type} {decode : Bytes → Except Fault α}
    {encode : α → Except Fault Bytes} {mk : Bytes → Bytes → α} {size opcodeAt : Nat}
    (hsize : 2 ≤ size) (hdec : ∀ d, decode d = (unframe size opcodeAt d).map (mk d))
    (henc : ∀ d payload, size ≤ d.length →
      encode (mk d payload) = frame (d.take (size - 2)) payload) :
    DecodeOrder decode encode size opcodeAt := by
  intro d
  have hd : decode d =
      if d.length < size then .error (.because .undersized)
      else if 3 < d.getD opcodeAt 0 then .error (.because .unknownVariant)
      else if d.length - size < declaredLength size d then .error (.because .truncated)
      else .ok (mk d ((d.drop size).take (declaredLength size d))) := by
    rw [hdec, unframe_eq]
    split_ifs <;> rfl
  refine ⟨?_, fun hlen => ?_, fun hlen hop => ?_, fun hlen hop hn => ?_⟩
  · rw [hd]
    split_ifs <;> simp_all
  · rw [hd, if_neg (by omega)]
    split_ifs <;> simp_all
  · rw [hd, if_neg (by omega), if_neg (UInt8.not_lt.mpr hop)]
    split_ifs <;> simp_all
  · rw [hd, if_neg (by omega), if_neg (UInt8.not_lt.mpr hop), if_neg (by omega)]
    exact ⟨_, rfl, by rw [henc d _ hlen, frame_take_of_unframe hsize hlen hn]⟩

/-! ## The two packet shapes -/

/-- The first bytes of a string with enough of them, one by one. -/
theorem take_two {d : Bytes} (h : 2 ≤ d.length) : d.take 2 = [d.getD 0 0, d.getD 1 0] := by
  match d, h with
  | a :: b :: _, _ => rfl

theorem take_three {d : Bytes} (h : 3 ≤ d.length) :
    d.take 3 = [d.getD 0 0, d.getD 1 0, d.getD 2 0] := by
  match d, h with
  | a :: b :: c :: _, _ => rfl

namespace StreamPacket

theorem decode_eq_map (d : Bytes) :
    decode d = (unframe 4 1 d).map fun payload => ⟨d.getD 0 0, ⟨d.getD 1 0⟩, payload⟩ := by
  simp only [decode]
  cases unframe 4 1 d <;> rfl

theorem decodeOrder : DecodeOrder decode encode 4 1 :=
  decodeOrder_of_unframe (by omega) decode_eq_map fun d payload h => by
    rw [take_two (by omega)]
    rfl

/-- A stream packet with one of the four opcodes is read back from its bytes followed by
anything. -/
theorem decode_encode_of_valid {p : StreamPacket} (hop : p.opcode.code ≤ 3)
    (hp : p.payload.length ≤ maxPayload) (t : Bytes) :
    ∃ out, p.encode = .ok out ∧ decode (out ++ t) = .ok p := by
  refine ⟨_, frame_eq_ok hp, ?_⟩
  have h := unframe_frame_append (show [p.type, p.opcode.code].length + 2 = 4 from rfl)
    (show 1 < [p.type, p.opcode.code].length by simp) (by simpa using hop) hp t
  rw [decode_eq_map, h]
  rfl

end StreamPacket

namespace IndexedPacket

theorem decode_eq_map (d : Bytes) :
    decode d = (unframe 5 2 d).map fun payload =>
      ⟨d.getD 0 0, d.getD 1 0, ⟨d.getD 2 0⟩, payload⟩ := by
  simp only [decode]
  cases unframe 5 2 d <;> rfl

theorem decodeOrder : DecodeOrder decode encode 5 2 :=
  decodeOrder_of_unframe (by omega) decode_eq_map fun d payload h => by
    rw [take_three (by omega)]
    rfl

/-- An indexed packet with one of the four opcodes is read back from its bytes followed by
anything. -/
theorem decode_encode_of_valid {p : IndexedPacket} (hop : p.opcode.code ≤ 3)
    (hp : p.payload.length ≤ maxPayload) (t : Bytes) :
    ∃ out, p.encode = .ok out ∧ decode (out ++ t) = .ok p := by
  refine ⟨_, frame_eq_ok hp, ?_⟩
  have h := unframe_frame_append (show [p.type, p.id, p.opcode.code].length + 2 = 5 from rfl)
    (show 2 < [p.type, p.id, p.opcode.code].length by simp) (by simpa using hop) hp t
  rw [decode_eq_map, h]
  rfl

end IndexedPacket

/-- A result packet reads back its code and data. -/
theorem result_resultPacket (type : UInt8) (code : ResultCode) (data : Bytes) :
    (resultPacket type code data).result = .ok (code, data) := by
  have hdrop : (Bytes.ofUInt16 code.code ++ data).drop 2 = data := List.drop_left' (by simp)
  simp only [StreamPacket.result, resultPacket, List.length_append, Bytes.length_ofUInt16,
    Bytes.toUInt16_ofUInt16_append, hdrop]
  rw [if_neg (by omega)]

/-- **Packets are framed and read back.** Both header shapes read back what they frame, with any
bytes after it; framing refuses exactly the payloads longer than 65535 bytes; reading any bytes
fails for a missing header, an unknown opcode or a missing payload, in that order and each
exactly when it is the first thing wrong, and otherwise framing the packet again gives the bytes
that were read; and a result packet with at most 65533 bytes of data is framed, read back, and
gives its code and data. -/
theorem packet_framing_round_trip :
    (∀ (type : UInt8) (op : Opcode) (payload t : Bytes), op.code ≤ 3 →
      payload.length ≤ maxPayload →
      ∃ out, (⟨type, op, payload⟩ : StreamPacket).encode = .ok out ∧
        StreamPacket.decode (out ++ t) = .ok ⟨type, op, payload⟩) ∧
    (∀ (type id : UInt8) (op : Opcode) (payload t : Bytes), op.code ≤ 3 →
      payload.length ≤ maxPayload →
      ∃ out, (⟨type, id, op, payload⟩ : IndexedPacket).encode = .ok out ∧
        IndexedPacket.decode (out ++ t) = .ok ⟨type, id, op, payload⟩) ∧
    (∀ p : StreamPacket,
      (p.encode = .error (.because .payloadTooLarge) ↔ maxPayload < p.payload.length) ∧
        (p.payload.length ≤ maxPayload → ∃ out, p.encode = .ok out)) ∧
    (∀ p : IndexedPacket,
      (p.encode = .error (.because .payloadTooLarge) ↔ maxPayload < p.payload.length) ∧
        (p.payload.length ≤ maxPayload → ∃ out, p.encode = .ok out)) ∧
    DecodeOrder StreamPacket.decode StreamPacket.encode 4 1 ∧
    DecodeOrder IndexedPacket.decode IndexedPacket.encode 5 2 ∧
    (∀ (type : UInt8) (code : ResultCode) (data : Bytes), data.length ≤ maxPayload - 2 →
      ∃ out, (resultPacket type code data).encode = .ok out ∧
        StreamPacket.decode out = .ok (resultPacket type code data) ∧
        (resultPacket type code data).result = .ok (code, data)) := by
  refine ⟨fun type op payload t hop hp => StreamPacket.decode_encode_of_valid hop hp t,
    fun type id op payload t hop hp => IndexedPacket.decode_encode_of_valid hop hp t,
    fun p => ⟨frame_eq_error_iff _ _, fun hp => ⟨_, frame_eq_ok hp⟩⟩,
    fun p => ⟨frame_eq_error_iff _ _, fun hp => ⟨_, frame_eq_ok hp⟩⟩,
    StreamPacket.decodeOrder, IndexedPacket.decodeOrder, fun type code data hd => ?_⟩
  -- the payload is the two-byte code and the data
  have hp : (resultPacket type code data).payload.length ≤ maxPayload := by
    simp only [resultPacket, List.length_append, Bytes.length_ofUInt16]
    simp only [maxPayload] at hd ⊢
    omega
  obtain ⟨out, henc, hdec⟩ := StreamPacket.decode_encode_of_valid
    (by simp [resultPacket, Opcode.result]) hp []
  rw [List.append_nil] at hdec
  exact ⟨out, henc, hdec, result_resultPacket type code data⟩

/-- The indexed packet of type 9, index 3 and opcode `read` with payload `de ad`, followed by two
bytes of padding. -/
theorem packet_framing_round_trip_indexed :
    (Opcode.read.code ≤ 3 ∧ [0xDE, 0xAD].length ≤ maxPayload) ∧
      ∃ out, (⟨9, 3, .read, [0xDE, 0xAD]⟩ : IndexedPacket).encode = .ok out ∧
        IndexedPacket.decode (out ++ [0, 0]) = .ok ⟨9, 3, .read, [0xDE, 0xAD]⟩ := by
  have h := packet_framing_round_trip.2.1 9 3 .read [0xDE, 0xAD] [0, 0] (by decide) (by decide)
  exact ⟨⟨by decide, by decide⟩, h⟩

end StoneLink.Frame
