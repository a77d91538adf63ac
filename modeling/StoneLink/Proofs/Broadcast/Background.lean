import StoneLink.Proofs.Broadcast.Codec

/-!
# The background word and its RSSI offset

The laws of the sixteen-bit background word beyond reading back a packed word
(`Background.unpack_of_pack`). The RSSI offset travels as four bits: half the offset, rounded
toward zero, plus 8, clamped. A receiver therefore sees twice the truncated half, clamped to
`-16 .. 14` (`decode_encodeRssiOffset`); the coding is monotone and every four-bit code stands
for an offset that is coded back to it. Packing is refused exactly for identifiers too large for
their bits, never sets the low bit, and packs every word a receiver can unpack back to itself,
low bit cleared (`Background.pack_unpack`). Under the RC5 subkeys of any key, decrypting the
encrypted background gives the unpacked word and the validation word of the time stamp.

The main statement is `background_codec_laws`.
-/

namespace StoneLink.Broadcast

open Bits

/-! ## The RSSI offset code -/

theorem toNat_encodeRssiOffset (offset : Int) :
    ((encodeRssiOffset offset).toNat : Int) = max 0 (min 15 (offset.tdiv 2 + 8)) := by
  simp only [encodeRssiOffset, Nat.toUInt8_eq, UInt8.toNat_ofNat']
  omega

/-- What a receiver makes of an offset: twice its truncated half, clamped to `-16 .. 14`. -/
theorem decode_encodeRssiOffset (offset : Int) :
    decodeRssiOffset (encodeRssiOffset offset) = max (-16) (min 14 (2 * offset.tdiv 2)) := by
  have hcode := toNat_encodeRssiOffset offset
  have hmask : (encodeRssiOffset offset &&& 0x0F).toNat = (encodeRssiOffset offset).toNat := by
    simp only [UInt8.toNat_and, UInt8.reduceToNat]
    rw [and_mask_eq_mod 4 _ rfl]
    have := toNat_encodeRssiOffset_le offset
    omega
  rw [decodeRssiOffset, hmask]
  omega

/-- Every four-bit code stands for an offset that is coded back to it. -/
theorem encode_decodeRssiOffset {e : UInt8} (he : e.toNat < 16) :
    encodeRssiOffset (decodeRssiOffset e) = e := by
  have hmask : (e &&& 0x0F).toNat = e.toNat := by
    simp only [UInt8.toNat_and, UInt8.reduceToNat]
    rw [and_mask_eq_mod 4 _ rfl]
    omega
  -- the offset is `2 (e - 8)`, whose truncated half is `e - 8`
  have hhalf : (decodeRssiOffset e).tdiv 2 = e.toNat - 8 := by
    rw [decodeRssiOffset, hmask, Int.mul_tdiv_cancel _ (by decide)]
  apply UInt8.toNat_inj.mp
  have hcode := toNat_encodeRssiOffset (decodeRssiOffset e)
  rw [hhalf] at hcode
  omega

/-- A larger offset never gets a smaller code. -/
theorem encodeRssiOffset_mono {a b : Int} (h : a ≤ b) :
    encodeRssiOffset a ≤ encodeRssiOffset b := by
  have hdiv : a.tdiv 2 ≤ b.tdiv 2 := Int.tdiv_le_tdiv (by decide) h
  have ha := toNat_encodeRssiOffset a
  have hb := toNat_encodeRssiOffset b
  rw [UInt8.le_iff_toNat_le]
  omega

/-! ## Packing -/

namespace Background

/-- Packing is refused, for a field out of range, exactly when an identifier is too large. -/
theorem pack_eq_error_iff (p : Background) :
    p.pack = .error (.because .fieldRange) ↔
      63 < p.locationId.toNat ∨ 7 < p.profileId.toNat := by
  by_cases h : 63 < p.locationId.toNat ∨ 7 < p.profileId.toNat
  · simp [pack, maxLocationId, maxProfileId, h]
  · simp [pack, maxLocationId, maxProfileId, h]

/-- A packed word never has its low bit set. -/
theorem and_one_of_pack {p : Background} {v : UInt16} (h : p.pack = .ok v) :
    v &&& (1 : UInt16) = 0 := by
  have hv := toNat_of_pack h
  apply UInt16.toNat_inj.mp
  simp only [UInt16.toNat_and, UInt16.reduceToNat, UInt16.toNat_zero]
  rw [and_mask_eq_mod 1 _ rfl, hv, packedValue]
  split <;> split <;> simp <;> omega

/-- Clearing the low bit of a word is shifting it out and back. -/
theorem and_fffe_eq (v : UInt16) : v &&& (0xFFFE : UInt16) = (v >>> 1) <<< 1 := by
  apply UInt16.toBitVec_inj.mp
  ext i hi
  simp only [UInt16.toBitVec_and, UInt16.toBitVec_shiftLeft, UInt16.toBitVec_shiftRight,
    BitVec.getElem_and]
  interval_cases i <;> simp

theorem toNat_and_fffe (v : UInt16) : (v &&& (0xFFFE : UInt16)).toNat = v.toNat / 2 * 2 := by
  have := v.toNat_lt
  rw [and_fffe_eq, UInt16.toNat_shiftLeft, UInt16.toNat_shiftRight]
  simp only [UInt16.reduceToNat, Nat.reduceMod, Nat.shiftLeft_eq, Nat.shiftRight_eq_div_pow,
    Nat.reducePow]
  omega

/-- Every word a receiver unpacks packs back to itself, its low bit cleared. -/
theorem pack_unpack (v : UInt16) : (unpack v).pack = .ok (v &&& (0xFFFE : UInt16)) := by
  have hv := v.toNat_lt
  have hloc : (unpack v).locationId.toNat = v.toNat / 1024 % 64 :=
    toNat_toUInt8_field 6 rfl (by omega) v 10
  have hprof : (unpack v).profileId.toNat = v.toNat / 128 % 8 :=
    toNat_toUInt8_field 3 rfl (by omega) v 7
  -- the four bits of the RSSI code come back unchanged through the offset they stand for
  have hcode : ((v >>> 3) &&& 0x0F).toUInt8.toNat = v.toNat / 8 % 16 :=
    toNat_toUInt8_field 4 rfl (by omega) v 3
  have hrssi : (encodeRssiOffset (unpack v).rssiOffset).toNat = v.toNat / 8 % 16 := by
    rw [unpack, encode_decodeRssiOffset (by omega), hcode]
  have htap : (unpack v).tapToToggle = decide (v.toNat / 2 ^ 2 % 2 = 1) :=
    and_bit_ne_zero 2 rfl v
  have hign : (unpack v).ignoreForBehaviour = decide (v.toNat / 2 ^ 1 % 2 = 1) :=
    and_bit_ne_zero 1 rfl v
  have hfits : (unpack v).Fits := by
    simp only [Fits, maxLocationId, maxProfileId, hloc, hprof]
    omega
  obtain ⟨w, hw⟩ := (pack_eq_ok_iff _).mpr hfits
  rw [hw]
  congr 1
  apply UInt16.toNat_inj.mp
  rw [toNat_of_pack hw, toNat_and_fffe, packedValue, hloc, hprof, hrssi, htap, hign]
  by_cases h2 : v.toNat / 2 ^ 2 % 2 = 1 <;> by_cases h1 : v.toNat / 2 ^ 1 % 2 = 1 <;>
    simp only [h1, h2, decide_true, decide_false, if_true, Bool.false_eq_true, if_false] <;>
    omega

end Background

/-- **The background codec.** Packing is refused, for a field out of range, exactly when the
location is above 63 or the profile above 7. Otherwise the packed word has its low bit clear
and unpacks to the background with its RSSI offset as a receiver sees it: twice the offset's
half rounded toward zero, clamped to `-16 .. 14`. Every word packs back from its unpacking with
the low bit cleared. Every four-bit code is the code of the offset it stands for, and a larger
offset never gets a smaller code. Under the RC5 subkeys of any key, an in-range background
encrypted with any time stamp decrypts to the unpacked word and bits 7 to 22 of the time stamp. -/
theorem background_codec_laws :
    (∀ p : Background, p.pack = .error (.because .fieldRange) ↔
      63 < p.locationId.toNat ∨ 7 < p.profileId.toNat) ∧
    (∀ p : Background, p.locationId.toNat ≤ 63 → p.profileId.toNat ≤ 7 →
      ∃ v, p.pack = .ok v ∧ v &&& (1 : UInt16) = 0 ∧
        Background.unpack v =
          { p with rssiOffset := max (-16) (min 14 (2 * p.rssiOffset.tdiv 2)) }) ∧
    (∀ v : UInt16, (Background.unpack v).pack = .ok (v &&& (0xFFFE : UInt16))) ∧
    (∀ e : UInt8, e.toNat < 16 → encodeRssiOffset (decodeRssiOffset e) = e) ∧
    (∀ a b : Int, a ≤ b → encodeRssiOffset a ≤ encodeRssiOffset b) ∧
    (∀ (key : Key) (p : Background) (ts : UInt32), p.locationId.toNat ≤ 63 →
      p.profileId.toNat ≤ 7 →
      ∃ v c, p.pack = .ok v ∧ encryptBackground p ts (Cipher.Rc5.expand key.bytes) = .ok c ∧
        decryptBackground c (Cipher.Rc5.expand key.bytes) =
          (Background.unpack v, (ts >>> 7).toUInt16)) := by
  refine ⟨Background.pack_eq_error_iff, fun p hl hp => ?_, Background.pack_unpack,
    fun e he => encode_decodeRssiOffset he, fun a b h => encodeRssiOffset_mono h,
    fun key p ts hl hp => ?_⟩
  · obtain ⟨v, hv⟩ := (Background.pack_eq_ok_iff p).mpr ⟨hl, hp⟩
    refine ⟨v, hv, Background.and_one_of_pack hv, ?_⟩
    rw [Background.unpack_of_pack hv, Background.normalize, decode_encodeRssiOffset]
  · obtain ⟨v, hv⟩ := (Background.pack_eq_ok_iff p).mpr ⟨hl, hp⟩
    -- the encryption is the packed word under the cipher, so it succeeds
    have henc : encryptBackground p ts (Cipher.Rc5.expand key.bytes) =
        .ok (Cipher.Rc5.encryptWord (Cipher.Rc5.expand key.bytes)
          ((validationWord ts).toUInt32 ||| (v.toUInt32 <<< 16))) := by
      simp only [encryptBackground, hv]
      rfl
    refine ⟨v, _, hv, henc, ?_⟩
    rw [decryptBackground_of_encrypt henc, Background.unpack_of_pack hv]
    rfl

/-- Location 5, profile 2 and an offset of `-5`, which a receiver sees as `-4`. -/
theorem background_codec_laws_odd_offset :
    ((5 : UInt8).toNat ≤ 63 ∧ (2 : UInt8).toNat ≤ 7) ∧
      ∃ v, ({ locationId := 5, profileId := 2, rssiOffset := -5 } : Background).pack = .ok v ∧
        v &&& (1 : UInt16) = 0 ∧
        Background.unpack v = { locationId := 5, profileId := 2, rssiOffset := -4 } := by
  have h := background_codec_laws.2.1 { locationId := 5, profileId := 2, rssiOffset := -5 }
    (by decide) (by decide)
  exact ⟨⟨by decide, by decide⟩, by simpa using h⟩

end StoneLink.Broadcast
