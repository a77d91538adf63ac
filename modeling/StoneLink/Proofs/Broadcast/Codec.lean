import StoneLink.Broadcast.Advert
import StoneLink.Proofs.Bits
import StoneLink.Proofs.Cipher

/-!
# Reading back what the broadcast codecs write

The background word, the four header words, the command block and the word UUIDs each pack
fields into bits. Reading a packed value gives the fields back as long as each fits its bits;
the RSSI offset comes back as its four-bit code can express it. The header words carry their
place in their top two bits, so they are read back in any order, and a list of service UUIDs is
sorted into its base UUIDs and its command block whatever order the radio reports them in.

Each packed word is described by its value as a number, a sum of the fields at their places;
the readers are division and remainder by powers of two, which `omega` evaluates.
-/

namespace StoneLink.Broadcast

open Bits

/-! ## The background word -/

theorem toNat_encodeRssiOffset_le (offset : Int) : (encodeRssiOffset offset).toNat ≤ 15 := by
  simp only [encodeRssiOffset, Nat.toUInt8, UInt8.toNat_ofNat']
  omega

namespace Background

/-- The background as a receiver sees it: the RSSI offset as its four-bit code carries it. -/
def normalize (p : Background) : Background :=
  { p with rssiOffset := decodeRssiOffset (encodeRssiOffset p.rssiOffset) }

/-- Whether the location and profile fit their bits. -/
def Fits (p : Background) : Prop :=
  p.locationId.toNat ≤ maxLocationId ∧ p.profileId.toNat ≤ maxProfileId

/-- The number the packed word of a background stands for. -/
def packedValue (p : Background) : Nat :=
  p.locationId.toNat * 1024 + p.profileId.toNat * 128 + (encodeRssiOffset p.rssiOffset).toNat * 8 +
    (if p.tapToToggle then 4 else 0) + (if p.ignoreForBehaviour then 2 else 0)

/-- Packing succeeds exactly when the identifiers fit their bits. -/
theorem pack_eq_ok_iff (p : Background) :
    (∃ v, p.pack = .ok v) ↔ p.Fits := by
  simp only [pack, Fits]
  by_cases hc : p.locationId.toNat > maxLocationId ∨ p.profileId.toNat > maxProfileId
  · rw [if_pos hc]
    simp only [reduceCtorEq, exists_false, false_iff]
    omega
  · rw [if_neg hc]
    simp only [Except.ok.injEq, exists_eq', true_iff]
    omega

theorem toNat_of_pack {p : Background} {v : UInt16} (h : p.pack = .ok v) :
    v.toNat = p.packedValue := by
  simp only [pack] at h
  split at h
  · cases h
  rename_i hfit
  cases h
  have hl : p.locationId.toNat ≤ 63 := by simp [maxLocationId] at hfit; omega
  have hp : p.profileId.toNat ≤ 7 := by simp [maxProfileId] at hfit; omega
  have hr := toNat_encodeRssiOffset_le p.rssiOffset
  have ht : (if p.tapToToggle then 4 else 0) < 8 := by split <;> omega
  have hi : (if p.ignoreForBehaviour then 2 else 0) < 4 := by split <;> omega
  simp only [packedValue, UInt16.toNat_or, UInt16.toNat_shiftLeft, UInt8.toNat_toUInt16,
    Nat.shiftLeft_eq, apply_ite UInt16.toNat, UInt16.reduceToNat, Nat.reduceMod, Nat.reducePow]
  rw [Nat.mod_eq_of_lt (by omega), Nat.mod_eq_of_lt (by omega), Nat.mod_eq_of_lt (by omega)]
  -- the fields are joined from the top: each `|||` adds a field below the bits used so far
  rw [or_eq_add_of_dvd (a := p.locationId.toNat * 1024) (k := 10) (by omega) (by omega),
    or_eq_add_of_dvd (a := _ + _) (k := 7) (by omega) (by omega),
    or_eq_add_of_dvd (a := _ + _ + _) (k := 3) (by omega) ht,
    or_eq_add_of_dvd (a := _ + _ + _ + _) (k := 2) (by split <;> omega) hi]

/-- Unpacking a packed background gives it back, its RSSI offset as the code carries it. -/
theorem unpack_of_pack {p : Background} {v : UInt16} (h : p.pack = .ok v) :
    unpack v = p.normalize := by
  have hv := toNat_of_pack h
  have hfit : p.Fits := (pack_eq_ok_iff p).mp ⟨v, h⟩
  have hl := hfit.1
  have hp := hfit.2
  have hr := toNat_encodeRssiOffset_le p.rssiOffset
  simp only [maxLocationId, maxProfileId, packedValue] at hv hl hp
  have hloc : ((v >>> 10) &&& 63).toUInt8 = p.locationId := by
    apply UInt8.toNat_inj.mp
    simp only [UInt16.toNat_toUInt8, UInt16.toNat_and, UInt16.toNat_shiftRight, UInt16.reduceToNat,
      Nat.reduceMod, Nat.shiftRight_eq_div_pow, Nat.reducePow, hv]
    rw [and_mask_eq_mod 6 _ rfl]
    split <;> split <;> omega
  have hprof : ((v >>> 7) &&& 7).toUInt8 = p.profileId := by
    apply UInt8.toNat_inj.mp
    simp only [UInt16.toNat_toUInt8, UInt16.toNat_and, UInt16.toNat_shiftRight, UInt16.reduceToNat,
      Nat.reduceMod, Nat.shiftRight_eq_div_pow, Nat.reducePow, hv]
    rw [and_mask_eq_mod 3 _ rfl]
    split <;> split <;> omega
  have hrssi : ((v >>> 3) &&& 0x0F).toUInt8 = encodeRssiOffset p.rssiOffset := by
    apply UInt8.toNat_inj.mp
    simp only [UInt16.toNat_toUInt8, UInt16.toNat_and, UInt16.toNat_shiftRight, UInt16.reduceToNat,
      Nat.reduceMod, Nat.shiftRight_eq_div_pow, Nat.reducePow, hv]
    rw [and_mask_eq_mod 4 _ rfl]
    split <;> split <;> omega
  have htap : (v &&& 4 != 0) = p.tapToToggle := by
    rw [and_bit_ne_zero 2 rfl, hv]
    cases p.tapToToggle <;> cases p.ignoreForBehaviour <;> simp <;> omega
  have hign : (v &&& 2 != 0) = p.ignoreForBehaviour := by
    rw [and_bit_ne_zero 1 rfl, hv]
    cases p.tapToToggle <;> cases p.ignoreForBehaviour <;> simp <;> omega
  simp only [unpack, normalize, hloc, hprof, hrssi, htap, hign]

end Background

/-- The background word and the validation word share one RC5 block, so the block splits back
into the two. -/
theorem decryptBackground_of_encrypt {p : Background} {timestamp : UInt32} {s : List UInt16}
    {c : UInt32} (h : encryptBackground p timestamp s = .ok c) :
    decryptBackground c s = (p.normalize, validationWord timestamp) := by
  simp only [encryptBackground] at h
  cases hp : p.pack with
  | error f => simp [hp] at h
  | ok packed =>
      simp only [hp] at h
      cases h
      -- the plain block is the RC5 join of the validation word (low) and the background (high)
      have hblock : (validationWord timestamp).toUInt32 ||| (packed.toUInt32 <<< 16) =
          Cipher.Rc5.join (validationWord timestamp, packed) := rfl
      have hsplit := Cipher.Rc5.split_join (validationWord timestamp, packed)
      simp only [Cipher.Rc5.split, Prod.mk.injEq] at hsplit
      simp only [decryptBackground, hblock, Cipher.Rc5.decryptWord_encryptWord, hsplit.1, hsplit.2,
        Background.unpack_of_pack hp]

/-! ## The header words -/

namespace Header

/-- Whether the protocol, access level and reserved fields fit their bits. -/
def Fits (h : Header) : Prop := h.protocol ≤ 7 ∧ h.accessLevel ≤ 7 ∧ h.reserved ≤ 3

/-- The tag in the top two bits of a word. -/
def tag (w : UInt16) : Nat := (w >>> 14).toNat

/-- Word 0: protocol, sphere short id and access level under tag 0. -/
def word0 (h : Header) : UInt16 :=
  (h.protocol.toUInt16 <<< 11) ||| (h.sphereShortId.toUInt16 <<< 3) ||| h.accessLevel.toUInt16

/-- Word 1: reserved bits, device token and background bits 28 to 31 under tag 1. -/
def word1 (h : Header) : UInt16 :=
  ((1 : UInt16) <<< 14) ||| (h.reserved.toUInt16 <<< 12) ||| (h.deviceToken.toUInt16 <<< 4) |||
    (h.encryptedBackground >>> 28).toUInt16

/-- Word 2: background bits 14 to 27 under tag 2. -/
def word2 (h : Header) : UInt16 :=
  ((2 : UInt16) <<< 14) ||| ((h.encryptedBackground >>> 14).toUInt16 &&& fieldMask)

/-- Word 3: background bits 0 to 13 under tag 3. -/
def word3 (h : Header) : UInt16 :=
  ((3 : UInt16) <<< 14) ||| (h.encryptedBackground.toUInt16 &&& fieldMask)

theorem words_eq_ok {h : Header} (hf : h.Fits) :
    h.words = .ok [word0 h, word1 h, word2 h, word3 h] := by
  have hp := hf.1
  have hl := hf.2.1
  have hr := hf.2.2
  simp only [words, word0, word1, word2, word3]
  rw [if_neg (by simp only [not_or, UInt8.not_lt]; exact ⟨hp, hl, hr⟩)]

section
variable {h : Header} (hf : h.Fits)
include hf

theorem toNat_word0 :
    (word0 h).toNat = h.protocol.toNat * 2048 + h.sphereShortId.toNat * 8 + h.accessLevel.toNat := by
  have hp : h.protocol.toNat ≤ 7 := UInt8.le_iff_toNat_le.mp hf.1
  have hl : h.accessLevel.toNat ≤ 7 := UInt8.le_iff_toNat_le.mp hf.2.1
  have hs := h.sphereShortId.toNat_lt
  simp only [word0, UInt16.toNat_or, UInt16.toNat_shiftLeft, UInt8.toNat_toUInt16,
    Nat.shiftLeft_eq, UInt16.reduceToNat, Nat.reduceMod, Nat.reducePow]
  rw [Nat.mod_eq_of_lt (by omega), Nat.mod_eq_of_lt (by omega),
    or_eq_add_of_dvd (a := h.protocol.toNat * 2048) (k := 11) (by omega) (by omega),
    or_eq_add_of_dvd (a := _ + _) (k := 3) (by omega) (by omega)]

theorem toNat_word1 :
    (word1 h).toNat = 16384 + h.reserved.toNat * 4096 + h.deviceToken.toNat * 16 +
      h.encryptedBackground.toNat / 2 ^ 28 := by
  have hr : h.reserved.toNat ≤ 3 := UInt8.le_iff_toNat_le.mp hf.2.2
  have ht := h.deviceToken.toNat_lt
  have hb := h.encryptedBackground.toNat_lt
  simp only [word1, UInt16.toNat_or, UInt16.toNat_shiftLeft, UInt8.toNat_toUInt16,
    UInt32.toNat_toUInt16, UInt32.toNat_shiftRight, Nat.shiftLeft_eq, Nat.shiftRight_eq_div_pow,
    UInt16.reduceToNat, UInt32.reduceToNat, Nat.reduceMod, Nat.reducePow]
  rw [Nat.mod_eq_of_lt (by omega), Nat.mod_eq_of_lt (by omega), Nat.mod_eq_of_lt (by omega),
    or_eq_add_of_dvd (a := 16384) (k := 14) (by omega) (by omega),
    or_eq_add_of_dvd (a := _ + _) (k := 12) (by omega) (by omega),
    or_eq_add_of_dvd (a := _ + _ + _) (k := 4) (by omega) (by omega)]
  omega

end

theorem toNat_word2 (h : Header) :
    (word2 h).toNat = 32768 + h.encryptedBackground.toNat / 2 ^ 14 % 2 ^ 14 := by
  have hb := h.encryptedBackground.toNat_lt
  simp only [word2, fieldMask, UInt16.toNat_or, UInt16.toNat_shiftLeft, UInt16.toNat_and,
    UInt32.toNat_toUInt16, UInt32.toNat_shiftRight, Nat.shiftLeft_eq, Nat.shiftRight_eq_div_pow,
    UInt16.reduceToNat, UInt32.reduceToNat, Nat.reduceMod, Nat.reducePow]
  rw [and_mask_eq_mod 14 _ rfl, or_eq_add_of_dvd (k := 14) (by omega) (by omega)]
  omega

theorem toNat_word3 (h : Header) :
    (word3 h).toNat = 49152 + h.encryptedBackground.toNat % 2 ^ 14 := by
  simp only [word3, fieldMask, UInt16.toNat_or, UInt16.toNat_shiftLeft, UInt16.toNat_and,
    UInt32.toNat_toUInt16, Nat.shiftLeft_eq, UInt16.reduceToNat, Nat.reduceMod, Nat.reducePow]
  rw [and_mask_eq_mod 14 _ rfl, or_eq_add_of_dvd (k := 14) (by omega) (by omega)]
  omega

theorem tag_word0 (hf : h.Fits) : tag (word0 h) = 0 := by
  have := h.sphereShortId.toNat_lt
  have hp : h.protocol.toNat ≤ 7 := UInt8.le_iff_toNat_le.mp hf.1
  have hl : h.accessLevel.toNat ≤ 7 := UInt8.le_iff_toNat_le.mp hf.2.1
  simp only [tag, UInt16.toNat_shiftRight, toNat_word0 hf, UInt16.reduceToNat, Nat.reduceMod,
    Nat.shiftRight_eq_div_pow]
  omega

theorem tag_word1 (hf : h.Fits) : tag (word1 h) = 1 := by
  have := h.deviceToken.toNat_lt
  have := h.encryptedBackground.toNat_lt
  have hr : h.reserved.toNat ≤ 3 := UInt8.le_iff_toNat_le.mp hf.2.2
  simp only [tag, UInt16.toNat_shiftRight, toNat_word1 hf, UInt16.reduceToNat, Nat.reduceMod,
    Nat.shiftRight_eq_div_pow]
  omega

theorem tag_word2 (h : Header) : tag (word2 h) = 2 := by
  simp only [tag, UInt16.toNat_shiftRight, toNat_word2, UInt16.reduceToNat, Nat.reduceMod,
    Nat.shiftRight_eq_div_pow]
  omega

theorem tag_word3 (h : Header) : tag (word3 h) = 3 := by
  simp only [tag, UInt16.toNat_shiftRight, toNat_word3, UInt16.reduceToNat, Nat.reduceMod,
    Nat.shiftRight_eq_div_pow]
  omega

/-- One step of `order`: a word goes to the slot its tag names, unless the tag was seen. -/
def orderStep : List UInt16 × List Nat → UInt16 → Except Fault (List UInt16 × List Nat) :=
  fun (slots, seen) w =>
    let tag := (w >>> 14).toNat
    if tag ∈ seen then .error (.because .badSequence)
    else .ok (slots.set tag (w &&& fieldMask), tag :: seen)

theorem order_eq (words : List UInt16) :
    order words = (do
      let (slots, _) ← words.foldlM orderStep (([0, 0, 0, 0] : List UInt16), ([] : List Nat))
      pure slots) := rfl

theorem orderStep_of_mem {slots : List UInt16} {seen : List Nat} {w : UInt16} (hw : tag w ∈ seen) :
    orderStep (slots, seen) w = .error (.because .badSequence) := by
  have hw' : (w >>> 14).toNat ∈ seen := hw
  simp only [orderStep]
  rw [if_pos hw']

/-- A word put in the slot its tag names, without its tag. -/
def place (slots : List UInt16) (w : UInt16) : List UInt16 := slots.set (tag w) (w &&& fieldMask)

theorem orderStep_of_not_mem {slots : List UInt16} {seen : List Nat} {w : UInt16}
    (hw : tag w ∉ seen) : orderStep (slots, seen) w = .ok (place slots w, tag w :: seen) := by
  have hw' : (w >>> 14).toNat ∉ seen := hw
  simp only [orderStep]
  rw [if_neg hw']
  rfl

/-- Words with distinct tags fill the same slots in any order: two words of one tag are one
word, and words of two tags go to two slots. -/
theorem foldl_place_perm {l l' : List UInt16} (hnd : (l.map tag).Nodup) (hl : l.Perm l')
    (slots : List UInt16) : l.foldl place slots = l'.foldl place slots := by
  refine hl.foldl_eq' ?_ slots
  intro x hx y hy z
  by_cases hxy : tag x = tag y
  · rw [List.inj_on_of_nodup_map hnd hx hy hxy]
  · exact List.set_comm _ _ hxy

/-- Words with distinct tags, none seen before, are all placed. -/
theorem foldlM_orderStep (l : List UInt16) (slots : List UInt16) (seen : List Nat)
    (hnd : (l.map tag).Nodup) (hfresh : ∀ w ∈ l, tag w ∉ seen) :
    l.foldlM orderStep (slots, seen) = .ok (l.foldl place slots, (l.map tag).reverse ++ seen) := by
  induction l generalizing slots seen with
  | nil => rfl
  | cons w l ih =>
      simp only [List.map_cons, List.nodup_cons, List.mem_map, not_exists, not_and] at hnd
      have hw : tag w ∉ seen := hfresh w List.mem_cons_self
      have hrest : ∀ v ∈ l, tag v ∉ tag w :: seen := by
        intro v hv hmem
        rcases List.mem_cons.mp hmem with heq | hs
        · exact hnd.1 v hv heq
        · exact hfresh v (List.mem_cons_of_mem w hv) hs
      rw [List.foldlM_cons, orderStep_of_not_mem hw]
      simp only [bind, Except.bind, ih (place slots w) (tag w :: seen) hnd.2 hrest,
        List.foldl_cons, List.map_cons, List.reverse_cons, List.append_assoc, List.singleton_append]

/-- Four words with the tags 0 to 3, in any order, fill the four slots. -/
theorem order_of_perm {ws l : List UInt16} (hws : ws.map tag = [0, 1, 2, 3]) (hl : l.Perm ws) :
    order l = .ok (ws.map (· &&& fieldMask)) := by
  have hnd : (ws.map tag).Nodup := by rw [hws]; decide
  have hndl : (l.map tag).Nodup := (hl.map tag).nodup_iff.mpr hnd
  have hfold := foldl_place_perm hndl hl [0, 0, 0, 0]
  obtain ⟨a, b, c, d, rfl⟩ : ∃ a b c d, ws = [a, b, c, d] := by
    rcases ws with _ | ⟨a, _ | ⟨b, _ | ⟨c, _ | ⟨d, _ | ⟨e, ws⟩⟩⟩⟩⟩ <;> simp at hws
    exact ⟨a, b, c, d, rfl⟩
  simp only [List.map_cons, List.map_nil, List.cons.injEq] at hws
  rw [order_eq, foldlM_orderStep l _ _ hndl (by simp), hfold]
  simp [place, hws]

/-- The header four slots stand for. -/
def ofSlots (w : List UInt16) : Header :=
  let w0 := w.getD 0 0
  let w1 := w.getD 1 0
  { protocol := ((w0 >>> 11) &&& 7).toUInt8
    sphereShortId := (w0 >>> 3).toUInt8
    accessLevel := (w0 &&& 7).toUInt8
    reserved := ((w1 >>> 12) &&& 3).toUInt8
    deviceToken := (w1 >>> 4).toUInt8
    encryptedBackground := ((w1 &&& 0x0F).toUInt32 <<< 28) ||| ((w.getD 2 0).toUInt32 <<< 14) |||
      (w.getD 3 0).toUInt32 }

theorem decode_eq (words : List UInt16) : decode words = ofSlots <$> order words := rfl

theorem toNat_and_fieldMask (w : UInt16) : (w &&& fieldMask).toNat = w.toNat % 2 ^ 14 := by
  simp only [fieldMask, UInt16.toNat_and, UInt16.reduceToNat]
  exact and_mask_eq_mod 14 _ rfl

/-! Each field of the header of four slots, as a number read from the slots' numbers. -/

section Slots

variable (x0 x1 x2 x3 : UInt16)

theorem toNat_protocol_ofSlots :
    (ofSlots [x0, x1, x2, x3]).protocol.toNat = x0.toNat / 2 ^ 11 % 8 := by
  simp only [ofSlots, List.getD_cons_zero, UInt16.toNat_toUInt8, UInt16.toNat_and,
    UInt16.toNat_shiftRight, UInt16.reduceToNat, Nat.reduceMod, Nat.shiftRight_eq_div_pow,
    and_mask_eq_mod 3 _ rfl]
  omega

theorem toNat_sphereShortId_ofSlots :
    (ofSlots [x0, x1, x2, x3]).sphereShortId.toNat = x0.toNat / 8 % 256 := by
  simp only [ofSlots, List.getD_cons_zero, UInt16.toNat_toUInt8, UInt16.toNat_shiftRight,
    UInt16.reduceToNat, Nat.reduceMod, Nat.shiftRight_eq_div_pow]

theorem toNat_accessLevel_ofSlots :
    (ofSlots [x0, x1, x2, x3]).accessLevel.toNat = x0.toNat % 8 := by
  simp only [ofSlots, List.getD_cons_zero, UInt16.toNat_toUInt8, UInt16.toNat_and,
    UInt16.reduceToNat, and_mask_eq_mod 3 _ rfl]
  omega

theorem toNat_reserved_ofSlots :
    (ofSlots [x0, x1, x2, x3]).reserved.toNat = x1.toNat / 2 ^ 12 % 4 := by
  simp only [ofSlots, List.getD_cons_zero, List.getD_cons_succ, UInt16.toNat_toUInt8,
    UInt16.toNat_and, UInt16.toNat_shiftRight, UInt16.reduceToNat, Nat.reduceMod,
    Nat.shiftRight_eq_div_pow, and_mask_eq_mod 2 _ rfl]
  omega

theorem toNat_deviceToken_ofSlots :
    (ofSlots [x0, x1, x2, x3]).deviceToken.toNat = x1.toNat / 16 % 256 := by
  simp only [ofSlots, List.getD_cons_zero, List.getD_cons_succ, UInt16.toNat_toUInt8,
    UInt16.toNat_shiftRight, UInt16.reduceToNat, Nat.reduceMod, Nat.shiftRight_eq_div_pow]

/-- The background joins the low four bits of slot 1 above slots 2 and 3, fourteen bits each. -/
theorem toNat_encryptedBackground_ofSlots (h2 : x2.toNat < 2 ^ 14) (h3 : x3.toNat < 2 ^ 14) :
    (ofSlots [x0, x1, x2, x3]).encryptedBackground.toNat =
      x1.toNat % 16 * 2 ^ 28 + x2.toNat * 2 ^ 14 + x3.toNat := by
  have e1 : ((x1 &&& 0x0F).toUInt32 <<< 28).toNat = x1.toNat % 16 * 2 ^ 28 := by
    simp only [UInt32.toNat_shiftLeft, UInt16.toNat_toUInt32, UInt16.toNat_and, Nat.shiftLeft_eq,
      UInt32.reduceToNat, UInt16.reduceToNat, Nat.reduceMod, and_mask_eq_mod 4 _ rfl]
    omega
  have e2 : (x2.toUInt32 <<< 14).toNat = x2.toNat * 2 ^ 14 := by
    simp only [UInt32.toNat_shiftLeft, UInt16.toNat_toUInt32, Nat.shiftLeft_eq,
      UInt32.reduceToNat, Nat.reduceMod]
    omega
  simp only [ofSlots, List.getD_cons_zero, List.getD_cons_succ]
  rw [UInt32.toNat_or, UInt32.toNat_or, e1, e2, UInt16.toNat_toUInt32,
    or_eq_add_of_dvd (k := 28) (Nat.dvd_mul_left _ _) (by omega),
    or_eq_add_of_dvd (k := 14) (by omega) h3]

end Slots

/-- The slots of the four words of a header, tags removed, stand for the header. -/
theorem ofSlots_words {h : Header} (hf : h.Fits) :
    ofSlots (([word0 h, word1 h, word2 h, word3 h] : List UInt16).map (· &&& fieldMask)) = h := by
  have hp : h.protocol.toNat ≤ 7 := UInt8.le_iff_toNat_le.mp hf.1
  have hl : h.accessLevel.toNat ≤ 7 := UInt8.le_iff_toNat_le.mp hf.2.1
  have hr : h.reserved.toNat ≤ 3 := UInt8.le_iff_toNat_le.mp hf.2.2
  have hs := h.sphereShortId.toNat_lt
  have ht := h.deviceToken.toNat_lt
  have hb := h.encryptedBackground.toNat_lt
  -- the fourteen bits under each tag, as numbers
  have m0 := toNat_and_fieldMask (word0 h)
  have m1 := toNat_and_fieldMask (word1 h)
  have m2 := toNat_and_fieldMask (word2 h)
  have m3 := toNat_and_fieldMask (word3 h)
  rw [toNat_word0 hf] at m0
  rw [toNat_word1 hf] at m1
  rw [toNat_word2] at m2
  rw [toNat_word3] at m3
  simp only [List.map_cons, List.map_nil]
  generalize word0 h &&& fieldMask = a0 at m0
  generalize word1 h &&& fieldMask = a1 at m1
  generalize word2 h &&& fieldMask = a2 at m2
  generalize word3 h &&& fieldMask = a3 at m3
  -- the slots hold the fields at their places, the tags cut off
  have v0 : a0.toNat = h.protocol.toNat * 2048 + h.sphereShortId.toNat * 8 + h.accessLevel.toNat := by
    omega
  have v1 : a1.toNat = h.reserved.toNat * 4096 + h.deviceToken.toNat * 16 +
      h.encryptedBackground.toNat / 2 ^ 28 := by
    omega
  have v2 : a2.toNat = h.encryptedBackground.toNat / 2 ^ 14 % 2 ^ 14 := by omega
  have v3 : a3.toNat = h.encryptedBackground.toNat % 2 ^ 14 := by omega
  clear m0 m1 m2 m3
  -- each field read from the slots is the field written
  have fp := toNat_protocol_ofSlots a0 a1 a2 a3
  have fs := toNat_sphereShortId_ofSlots a0 a1 a2 a3
  have fl := toNat_accessLevel_ofSlots a0 a1 a2 a3
  have fr := toNat_reserved_ofSlots a0 a1 a2 a3
  have ft := toNat_deviceToken_ofSlots a0 a1 a2 a3
  have fb := toNat_encryptedBackground_ofSlots a0 a1 a2 a3 (by omega) (by omega)
  generalize ofSlots [a0, a1, a2, a3] = h' at fp fs fl fr ft fb
  obtain ⟨protocol, sphereShortId, accessLevel, reserved, deviceToken, bg⟩ := h
  obtain ⟨protocol', sphereShortId', accessLevel', reserved', deviceToken', bg'⟩ := h'
  dsimp only at *
  simp only [Header.mk.injEq, ← UInt8.toNat_inj, ← UInt32.toNat_inj]
  refine ⟨?_, ?_, ?_, ?_, ?_, ?_⟩ <;> omega

/-- The four words of a header, in any order, decode to the header. -/
theorem decode_of_perm {h : Header} (hf : h.Fits) {l : List UInt16}
    (hl : l.Perm [word0 h, word1 h, word2 h, word3 h]) : decode l = .ok h := by
  have htags : ([word0 h, word1 h, word2 h, word3 h] : List UInt16).map tag = [0, 1, 2, 3] := by
    simp [tag_word0 hf, tag_word1 hf, tag_word2, tag_word3]
  rw [decode_eq, order_of_perm htags hl]
  exact congrArg Except.ok (ofSlots_words hf)

end Header

/-! ## The command block -/

namespace CommandPacket

theorem encode_eq_ok {p : CommandPacket} (h : p.payload.length ≤ maxPayload) :
    p.encode = .ok (Bytes.ofUInt32 p.validationTimestamp ++ [p.type.code] ++
      Bytes.padTo maxPayload p.payload) := by
  rw [encode, if_neg (by omega)]

theorem length_of_encode {p : CommandPacket} {b : Bytes} (h : p.encode = .ok b) : b.length = 16 := by
  simp only [encode] at h
  split at h
  · cases h
  · rename_i hlen
    cases h
    have : maxPayload = 11 := rfl
    simp only [List.length_append, Bytes.length_ofUInt32, List.length_singleton,
      Bytes.length_padTo]
    omega

/-- A command block reads back as its time stamp, its type and its payload padded to eleven bytes. -/
theorem decode_of_encode {p : CommandPacket} {b : Bytes} (h : p.encode = .ok b) :
    decode b = ⟨p.validationTimestamp, p.type, Bytes.padTo maxPayload p.payload⟩ := by
  simp only [encode] at h
  split at h
  · cases h
  rename_i hlen
  cases h
  have hpad : (Bytes.padTo maxPayload p.payload).length = maxPayload := by
    rw [Bytes.length_padTo]
    exact Nat.max_eq_left (by omega)
  simp only [decode, List.append_assoc, Bytes.toUInt32_ofUInt32_append, CommandPacket.mk.injEq,
    true_and]
  constructor
  · simp [Bytes.ofUInt32]
  · rw [← List.append_assoc, List.drop_left' (by simp), List.take_of_length_le (by omega),
      Bytes.padTo, hpad, Nat.sub_self, List.replicate_zero, List.append_nil]

end CommandPacket

/-! ## Word UUIDs and the order of service UUIDs -/

namespace Uuid

/-- A base UUID gives back the word it carries. -/
@[simp] theorem word_ofWord (w : UInt16) : (ofWord w).word = (w, true) := by
  have hw : ((((ofWord w).bytes.getD 2 0).toUInt16 <<< 8) ||| ((ofWord w).bytes.getD 3 0).toUInt16) =
      w := by
    apply UInt16.toNat_inj.mp
    have := w.toNat_lt
    simp only [ofWord, bluetoothBase, List.take, List.drop, List.cons_append, List.nil_append,
      List.getD_cons_succ, List.getD_cons_zero, UInt16.toNat_or, UInt16.toNat_shiftLeft,
      UInt8.toNat_toUInt16, UInt16.toNat_toUInt8, UInt16.toNat_shiftRight, Nat.shiftLeft_eq,
      Nat.shiftRight_eq_div_pow, UInt16.reduceToNat, Nat.reduceMod, Nat.reducePow]
    rw [or_eq_add_of_dvd (k := 8) (by omega) (by omega)]
    omega
  simp only [word, hw, beq_self_eq_true]

/-- Whether a UUID is the base UUID carrying a word. -/
def isWord (u : Uuid) : Bool := u.word.2

@[simp] theorem isWord_ofWord (w : UInt16) : (ofWord w).isWord = true := by
  simp [isWord]

/-- A UUID that carries no word is not read as one. -/
theorem isWord_eq_false {u : Uuid} (h : ∀ w, u ≠ ofWord w) : u.isWord = false := by
  simp only [isWord, word, beq_eq_false_iff_ne]
  exact fun heq => h _ heq.symm

end Uuid

/-- One step of `sortUuids`. -/
def sortStep : List UInt16 × Bytes × Nat → Uuid → List UInt16 × Bytes × Nat :=
  fun (words, cipher, n) u =>
    match u.word with
    | (w, true) => if words.length < 4 then (words ++ [w], cipher, n) else (words, u.bytes, n + 1)
    | (_, false) => (words, u.bytes, n + 1)

theorem sortUuids_eq (uuids : List Uuid) :
    sortUuids uuids = uuids.foldl sortStep ([], List.replicate 16 0, 0) := rfl

/-- With at most four base UUIDs, the words are those of the base UUIDs in order, the block is
the last other UUID, and the count is the number of other UUIDs. -/
theorem foldl_sortStep (l : List Uuid) (words : List UInt16) (cipher : Bytes) (n : Nat)
    (h : words.length + (l.filter (·.isWord)).length ≤ 4) :
    l.foldl sortStep (words, cipher, n) =
      (words ++ (l.filter (·.isWord)).map (·.word.1),
        (((l.filter (!·.isWord)).getLast?).map (·.bytes)).getD cipher,
        n + (l.filter (!·.isWord)).length) := by
  induction l generalizing words cipher n with
  | nil => simp
  | cons u l ih =>
      rcases hu : u.word with ⟨w, _ | _⟩
      · -- a UUID that is no base UUID becomes the block
        have hw : u.isWord = false := by simp [Uuid.isWord, hu]
        have hstep : sortStep (words, cipher, n) u = (words, u.bytes, n + 1) := by
          simp only [sortStep, hu]
        rw [List.foldl_cons, hstep, ih words u.bytes (n + 1) (by simpa [hw] using h)]
        rcases hlast : (l.filter (!·.isWord)).getLast? with _ | v <;>
          simp [hw, hlast, List.getLast?_cons, Nat.add_assoc, Nat.add_comm 1]
      · -- a base UUID adds its word while there are fewer than four
        have hw : u.isWord = true := by simp [Uuid.isWord, hu]
        have hlen : words.length < 4 := by simp [hw] at h; omega
        have hstep : sortStep (words, cipher, n) u = (words ++ [w], cipher, n) := by
          simp only [sortStep, hu, if_pos hlen]
        rw [List.foldl_cons, hstep, ih (words ++ [w]) cipher n (by simp [hw] at h ⊢; omega)]
        simp [hw, hu]

end StoneLink.Broadcast
