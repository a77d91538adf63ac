import StoneLink.Proofs.Broadcast.Codec
import StoneLink.Proofs.Envelope

/-!
# A broadcast reaches its receivers intact

The end-to-end property of the broadcast format. A sender whose store knows a sphere with a role
key and a localization key builds the five service UUIDs of any command of at most eleven bytes.
A receiver gets them in whatever order the radio reports; as long as the command block does not
itself look like a base UUID, it finds the four header words, reads the header the sender wrote,
opens the command block with the key of the header's level, and opens the background with the
localization key.

Each step rests on a reading-back lemma of its codec; the counter-mode block is opened by the same
operation that sealed it, from the same header bytes.
-/

namespace StoneLink.Broadcast

open Cipher

/-- The command block combined with counter mode from the header bytes. -/
theorem cryptBlock_eq_ok (key : Key) {nonce : Bytes} (hn : nonce.length = 8) (block : Bytes) :
    cryptBlock key nonce block =
      .ok (Ctr.apply (Aes.encryptBlock key.bytes) (Bytes.padTo 16 nonce) block) := by
  have hne : nonce.isEmpty = false := by
    cases nonce with
    | nil => simp at hn
    | cons _ _ => rfl
  have hiv : Envelope.ivOfNonce nonce = .ok (Bytes.padTo 16 nonce) := by
    rw [Envelope.ivOfNonce, if_neg (by simp [hne, hn, Envelope.blockSize])]
    rfl
  simp only [cryptBlock, hiv, bind, Except.bind, Envelope.aesCtr_eq_ok key.length_eq]

/-- The same operation opens the command block. -/
theorem cryptBlock_cryptBlock (key : Key) {nonce : Bytes} (hn : nonce.length = 8) (block : Bytes) :
    cryptBlock key nonce (Ctr.apply (Aes.encryptBlock key.bytes) (Bytes.padTo 16 nonce) block) =
      .ok block := by
  rw [cryptBlock_eq_ok key hn, Ctr.apply_apply (Aes.length_encryptBlock key.length_eq)]

namespace Header

/-- The eight header bytes of the four words. -/
def byteList (h : Header) : Bytes := [word0 h, word1 h, word2 h, word3 h].flatMap Bytes.ofUInt16

theorem bytes_eq_ok {h : Header} (hf : h.Fits) : h.bytes = .ok h.byteList := by
  simp only [bytes, words_eq_ok hf]
  rfl

@[simp] theorem length_byteList (h : Header) : h.byteList.length = 8 := rfl

end Header

/-- Four base UUIDs and one other UUID, in any order, are sorted into the words, in their
order, and the other UUID. -/
theorem sortUuids_of_perm {c : Uuid} (hc : c.isWord = false) {ws : List UInt16}
    (hws : ws.length = 4) {l : List Uuid} (hl : l.Perm (c :: ws.map Uuid.ofWord)) :
    ∃ words, words.Perm ws ∧ sortUuids l = (words, c.bytes, 1) := by
  have hwords : (l.filter (·.isWord)).Perm (ws.map Uuid.ofWord) := by
    have := hl.filter (·.isWord)
    rwa [List.filter_cons_of_neg (by simp [hc]),
      (List.filter_eq_self (l := ws.map Uuid.ofWord)).mpr (by simp)] at this
  have hother : l.filter (!·.isWord) = [c] := by
    have := hl.filter (!·.isWord)
    rwa [List.filter_cons_of_pos (by simp [hc]),
      (List.filter_eq_nil_iff (l := ws.map Uuid.ofWord)).mpr (by simp),
      List.perm_singleton] at this
  refine ⟨(l.filter (·.isWord)).map (·.word.1), ?_, ?_⟩
  · have := hwords.map (·.word.1)
    rwa [List.map_map, show ((·.word.1) ∘ Uuid.ofWord) = id by funext w; simp, List.map_id] at this
  · rw [sortUuids_eq, foldl_sortStep l [] _ 0 (by simp [hwords.length_eq, hws]), hother]
    simp

/-- The five UUIDs of a header and a block, in any order, parse to the header and the block. -/
theorem parse_of_perm {h : Header} (hf : h.Fits) {c : Uuid} (hc : c.isWord = false)
    {l : List Uuid} (hl : l.Perm (c :: [h.word0, h.word1, h.word2, h.word3].map Uuid.ofWord)) :
    parse l = .ok ⟨h, c.bytes⟩ := by
  obtain ⟨words, hperm, hsort⟩ := sortUuids_of_perm hc rfl hl
  have hlen : l.length = advertisementUuids := by simp [hl.length_eq, advertisementUuids]
  have hwords : words.length = 4 := by simp [hperm.length_eq]
  simp only [parse, hlen, ne_eq, not_true_eq_false, if_false, hsort, hwords, or_self,
    Header.decode_of_perm hf hperm]
  rfl

/-- A sphere with a role key and a localization key gets a broadcast for every command of at most
eleven bytes; a receiver that gets its five UUIDs in any order, its command block not looking
like a base UUID, reads the header the sender wrote, the command padded to eleven bytes, and the
background as its code carries it with the validation word of the time stamp. -/
theorem encode_parse_decrypt (e : Encoder) (store : Store) (sphereId : String) (sphere : Sphere)
    (level : AccessLevel) (key loc : Key) (type : CommandType) (payload : Bytes)
    (hstore : e.store = some store) (hsphere : store.get? (.ofString sphereId) = some sphere)
    (hrole : sphere.keys.highest? = some (level, key))
    (hloc : sphere.keys.localization = some loc)
    (hlocation : e.background.locationId.toNat ≤ maxLocationId)
    (hprofile : e.background.profileId.toNat ≤ maxProfileId)
    (hpayload : payload.length ≤ maxPayload) :
    ∃ adv, e.encode sphereId type payload = .ok adv ∧
      ∀ uuids, uuids.Perm adv → (∀ w, adv.head? ≠ some (Uuid.ofWord w)) →
        ∃ p, parse uuids = .ok p ∧
          p.header.protocol = 1 ∧ p.header.sphereShortId = sphere.shortId ∧
          p.header.accessLevel = level.code ∧ p.header.reserved = 0 ∧
          p.header.deviceToken = e.deviceToken ∧
          p.decrypt sphere.keys = .ok ⟨timestampOf e.now, type, Bytes.padTo maxPayload payload⟩ ∧
          store.rc5Subkeys (.ofString sphereId) = .ok (Rc5.expand loc.bytes) ∧
          decryptBackground p.header.encryptedBackground (Rc5.expand loc.bytes) =
            ({ e.background with
                rssiOffset := decodeRssiOffset (encodeRssiOffset e.background.rssiOffset) },
              validationWord (timestampOf e.now)) := by
  have hsub : store.rc5Subkeys (.ofString sphereId) = .ok (Rc5.expand loc.bytes) := by
    simp [Store.rc5Subkeys, hsphere, hloc]
  obtain ⟨packed, hpack⟩ := (Background.pack_eq_ok_iff e.background).mpr ⟨hlocation, hprofile⟩
  obtain ⟨bg, hbg⟩ : ∃ bg, encryptBackground e.background (timestampOf e.now)
      (Rc5.expand loc.bytes) = .ok bg := ⟨_, by simp [encryptBackground, hpack]; rfl⟩
  -- the header the sender writes, and the block it encrypts from the header bytes
  obtain ⟨hdr, hhdr⟩ : ∃ hdr : Header, hdr =
      { protocol := Header.protocolVersion, sphereShortId := sphere.shortId,
        accessLevel := level.code, deviceToken := e.deviceToken, encryptedBackground := bg } :=
    ⟨_, rfl⟩
  have hlevel := KeySet.code_le_of_highest? hrole
  have hfits : hdr.Fits := by
    subst hhdr
    exact ⟨show Header.protocolVersion ≤ 7 by decide,
      show level.code ≤ 7 from UInt8.le_iff_toNat_le.mpr (by simp; omega),
      show (0 : UInt8) ≤ 3 by decide⟩
  have hblock := CommandPacket.encode_eq_ok (p := ⟨timestampOf e.now, type, payload⟩) hpayload
  generalize Bytes.ofUInt32 (timestampOf e.now) ++ [type.code] ++ Bytes.padTo maxPayload payload =
    block at hblock
  have henc : e.encode sphereId type payload = .ok
      (⟨Ctr.apply (Aes.encryptBlock key.bytes) (Bytes.padTo 16 hdr.byteList) block⟩ ::
        [hdr.word0, hdr.word1, hdr.word2, hdr.word3].map Uuid.ofWord) := by
    simp only [Encoder.encode, hstore, hsphere, hrole, hsub]
    rw [if_neg (by omega)]
    simp only [pure, Except.pure, bind, Except.bind, hbg, ← hhdr, Header.words_eq_ok hfits,
      Header.bytes_eq_ok hfits, hblock, cryptBlock_eq_ok key (Header.length_byteList hdr)]
  refine ⟨_, henc, ?_⟩
  intro uuids hperm hhead
  -- the receiver sorts the UUIDs back into the header and the block
  have hc : (⟨Ctr.apply (Aes.encryptBlock key.bytes) (Bytes.padTo 16 hdr.byteList) block⟩ :
      Uuid).isWord = false :=
    Uuid.isWord_eq_false fun w hw => hhead w (by simp [hw])
  refine ⟨⟨hdr, _⟩, parse_of_perm hfits hc hperm, ?_⟩
  have hkey : sphere.keys.key? ⟨hdr.accessLevel⟩ = some key := by
    rw [hhdr]
    exact KeySet.key?_of_highest? hrole
  have hdecrypt : Parsed.decrypt
      ⟨hdr, Ctr.apply (Aes.encryptBlock key.bytes) (Bytes.padTo 16 hdr.byteList) block⟩ sphere.keys =
      .ok ⟨timestampOf e.now, type, Bytes.padTo maxPayload payload⟩ := by
    simp only [Parsed.decrypt, hkey, Header.bytes_eq_ok hfits, bind, Except.bind,
      cryptBlock_cryptBlock key (Header.length_byteList hdr), CommandPacket.decode_of_encode hblock]
    rfl
  subst hhdr
  exact ⟨rfl, rfl, rfl, rfl, rfl, hdecrypt, hsub, decryptBackground_of_encrypt hbg⟩

/-- A sphere `home` with an admin key and a localization key. -/
def homeSphere : Sphere :=
  ⟨.ofString "home", 7, { admin := some Key.zero, localization := some Key.zero }⟩

/-- A sender that knows the sphere `home`. -/
def homeEncoder : Encoder :=
  { store := some ⟨[homeSphere]⟩, deviceToken := 5, background := { locationId := 12 },
    now := 1700000000 }

theorem encode_parse_decrypt_home :
    homeEncoder.store = some ⟨[homeSphere]⟩ ∧
      Store.get? ⟨[homeSphere]⟩ (.ofString "home") = some homeSphere ∧
      homeSphere.keys.highest? = some (.admin, Key.zero) ∧
      homeSphere.keys.localization = some Key.zero ∧
      homeEncoder.background.locationId.toNat ≤ maxLocationId ∧
      homeEncoder.background.profileId.toNat ≤ maxProfileId ∧
      (setTimePayload 1700000000).length ≤ maxPayload ∧
    ∃ adv, homeEncoder.encode "home" .setTime (setTimePayload 1700000000) = .ok adv ∧
      ∀ uuids, uuids.Perm adv → (∀ w, adv.head? ≠ some (Uuid.ofWord w)) →
        ∃ p, parse uuids = .ok p ∧
          p.header.protocol = 1 ∧ p.header.sphereShortId = homeSphere.shortId ∧
          p.header.accessLevel = AccessLevel.admin.code ∧ p.header.reserved = 0 ∧
          p.header.deviceToken = homeEncoder.deviceToken ∧
          p.decrypt homeSphere.keys = .ok ⟨timestampOf homeEncoder.now, .setTime,
            Bytes.padTo maxPayload (setTimePayload 1700000000)⟩ ∧
          Store.rc5Subkeys ⟨[homeSphere]⟩ (.ofString "home") = .ok (Rc5.expand Key.zero.bytes) ∧
          decryptBackground p.header.encryptedBackground (Rc5.expand Key.zero.bytes) =
            ({ homeEncoder.background with
                rssiOffset := decodeRssiOffset (encodeRssiOffset homeEncoder.background.rssiOffset) },
              validationWord (timestampOf homeEncoder.now)) := by
  have hget : Store.get? ⟨[homeSphere]⟩ (.ofString "home") = some homeSphere := by
    simp [Store.get?, homeSphere]
  exact ⟨rfl, hget, rfl, rfl, by decide, by decide, by decide,
    encode_parse_decrypt homeEncoder ⟨[homeSphere]⟩ "home" homeSphere .admin Key.zero Key.zero
      .setTime (setTimePayload 1700000000) rfl hget rfl rfl (by decide) (by decide) (by decide)⟩

end StoneLink.Broadcast
