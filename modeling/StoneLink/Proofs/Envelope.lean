import StoneLink.Envelope
import StoneLink.Proofs.Cipher

/-!
# Opening what was sealed

An envelope is opened with the key its level byte names, so opening works when the receiver's
key source serves, for that byte, the key the sender used. A key set serves its strongest role
key under the level `highest?` reports, and a setup source serves its key under every level.

Given the key, opening undoes sealing: counter mode is its own inverse under a sixteen-byte AES
key, the validation key comes back in front, and the payload comes back followed by the zeros
that padded it to whole blocks. The validation key that comes back is compared whole, so opening
under any other validation key of the same size fails the check.

Opening also reads an envelope front to back. The length gate comes first; past it, counter
mode maps the first bytes of a message to the first bytes of its plain text, so a message that
keeps the front of a sealed envelope opens to plain text that keeps the front of the payload.
-/

namespace StoneLink

namespace KeySet

theorem key?_of_highest? {ks : KeySet} {level : AccessLevel} {key : Key}
    (h : ks.highest? = some (level, key)) : ks.key? level = some key := by
  unfold highest? at h
  split at h <;> cases h <;> simp_all [key?, AccessLevel.admin, AccessLevel.member, AccessLevel.guest]

/-- The strongest level of a key set is one of the three roles. -/
theorem code_le_of_highest? {ks : KeySet} {level : AccessLevel} {key : Key}
    (h : ks.highest? = some (level, key)) : level.code.toNat ≤ 2 := by
  unfold highest? at h
  split at h <;> cases h <;> decide

end KeySet

theorem KeySource.key?_of_highest? {src : KeySource} {level : AccessLevel} {key : Key}
    (h : src.highest? = some (level, key)) : src.key? level = some key := by
  cases src with
  | keys ks => exact KeySet.key?_of_highest? h
  | setup k => cases h; rfl

/-- A key source's strongest level is a role, or `setup` for a setup key. -/
theorem KeySource.level_of_highest? {src : KeySource} {lvl : AccessLevel} {key : Key}
    (h : src.highest? = some (lvl, key)) : lvl.isRole ∨ lvl = .setup := by
  cases src with
  | keys ks =>
    have hle := KeySet.code_le_of_highest? h
    left
    simp only [AccessLevel.isRole, decide_eq_true_eq]
    exact UInt8.le_iff_toNat_le.mpr hle
  | setup k =>
    cases h
    exact .inr rfl

namespace Envelope

open Cipher

theorem aesCtr_eq_ok {key : Bytes} (hk : key.length = blockSize) (iv data : Bytes) :
    aesCtr key iv data = .ok (Ctr.apply (Aes.encryptBlock key) iv data) := by
  rw [aesCtr, if_pos hk]

theorem length_aesBlock {key : Bytes} (hk : key.length = blockSize) (b : Bytes) :
    (Aes.encryptBlock key b).length = 16 :=
  Aes.length_encryptBlock hk b

theorem length_paddedLength_ge (n : Nat) : n ≤ paddedLength n := by
  simp only [paddedLength, blockSize]
  omega

/-- The padding of `n` bytes to whole blocks adds `(16 - n % 16) % 16` bytes. -/
theorem paddedLength_sub (n : Nat) : paddedLength n - n = (16 - n % 16) % 16 := by
  simp only [paddedLength, blockSize]
  omega

/-- The shape of a sealed envelope: the packet nonce, the level byte, and the encrypted
validation key and payload padded to whole blocks. -/
theorem encryptWithNonce_eq_ok {nonce payload sessionNonce validationKey key : Bytes}
    {level : AccessLevel} {env : Bytes}
    (h : encryptWithNonce nonce payload sessionNonce validationKey key level = .ok env)
    (hlevel : level ≠ .encryptionDisabled) :
    nonce.length = packetNonceSize ∧ sessionNonce.length = sessionNonceSize ∧
      validationKey.length = validationKeySize ∧ key.length = blockSize ∧ payload ≠ [] ∧
      env = nonce ++ [level.code] ++
        Ctr.apply (Aes.encryptBlock key) (Bytes.padTo blockSize (nonce ++ sessionNonce))
          (Bytes.padTo (paddedLength (validationKey ++ payload).length) (validationKey ++ payload)) := by
  simp only [encryptWithNonce, if_neg hlevel] at h
  cases hfit : inputsFit payload sessionNonce validationKey key with
  | false => simp [hfit] at h
  | true =>
      simp only [hfit, Bool.not_true, Bool.false_eq_true, if_false] at h
      simp only [inputsFit, Bool.and_eq_true, Bool.not_eq_true', List.isEmpty_eq_false_iff,
        beq_iff_eq] at hfit
      obtain ⟨⟨⟨hp, hs⟩, hv⟩, hk⟩ := hfit
      simp only [buildIV] at h
      by_cases hn : nonce.length = packetNonceSize
      · rw [if_pos ⟨hn, hs⟩] at h
        simp only [bind, Except.bind, aesCtr_eq_ok hk, pure, Except.pure, Except.ok.injEq] at h
        exact ⟨hn, hs, hv, hk, hp, h.symm⟩
      · rw [if_neg (fun hc => hn hc.1)] at h
        cases h

/-- A seal that draws its packet nonce from a byte source seals with some nonce. -/
theorem encrypt_eq_ok {source payload sessionNonce validationKey key env rest : Bytes}
    {level : AccessLevel}
    (h : encrypt source payload sessionNonce validationKey key level = (.ok env, rest))
    (hlevel : level ≠ .encryptionDisabled) :
    ∃ nonce, encryptWithNonce nonce payload sessionNonce validationKey key level = .ok env := by
  rw [encrypt, if_neg hlevel] at h
  split at h
  · cases h
  · split at h
    · next nonce _ _ => exact ⟨nonce, (Prod.mk.inj h).1⟩
    · cases h

/-- A sealed envelope names the level it was sealed at. -/
theorem levelOf_of_encryptWithNonce {nonce payload sessionNonce validationKey key env : Bytes}
    {level : AccessLevel}
    (h : encryptWithNonce nonce payload sessionNonce validationKey key level = .ok env)
    (hlevel : level ≠ .encryptionDisabled) : levelOf env = .ok level := by
  obtain ⟨hn, -, -, -, -, rfl⟩ := encryptWithNonce_eq_ok h hlevel
  simp only [packetNonceSize] at hn
  rw [levelOf, if_neg (by simp [hn, headerSize]; omega)]
  simp [List.getD_eq_getElem?_getD, hn, packetNonceSize]

/-- The zeros after the payload once the validation key and payload are padded to whole blocks. -/
theorem padTo_validation (validationKey payload : Bytes) :
    Bytes.padTo (paddedLength (validationKey ++ payload).length) (validationKey ++ payload) =
      validationKey ++ (payload ++
        List.replicate (paddedLength (validationKey.length + payload.length) -
          (validationKey.length + payload.length)) 0) := by
  simp [Bytes.padTo, List.append_assoc]

/-- Sealing succeeds as soon as the sizes fit: a three-byte packet nonce, a non-empty payload, a
five-byte session nonce, a four-byte validation key and a sixteen-byte key. -/
theorem encryptWithNonce_of_fit {nonce payload sessionNonce validationKey key : Bytes}
    {level : AccessLevel} (hlevel : level ≠ .encryptionDisabled)
    (hn : nonce.length = packetNonceSize) (hp : payload ≠ [])
    (hs : sessionNonce.length = sessionNonceSize) (hv : validationKey.length = validationKeySize)
    (hk : key.length = blockSize) :
    encryptWithNonce nonce payload sessionNonce validationKey key level =
      .ok (nonce ++ [level.code] ++
        Ctr.apply (Aes.encryptBlock key) (Bytes.padTo blockSize (nonce ++ sessionNonce))
          (Bytes.padTo (paddedLength (validationKey ++ payload).length) (validationKey ++ payload))) := by
  have hfit : inputsFit payload sessionNonce validationKey key = true := by
    simp [inputsFit, hp, hs, hv, hk]
  rw [encryptWithNonce, if_neg hlevel, hfit, Bool.not_true, if_neg Bool.false_ne_true, buildIV,
    if_pos ⟨hn, hs⟩]
  simp only [bind, Except.bind, aesCtr_eq_ok hk, pure, Except.pure]

/-- A sealed envelope is the four header bytes and the validation key and payload padded to
whole blocks. -/
theorem length_of_encryptWithNonce {nonce payload sessionNonce validationKey key env : Bytes}
    {level : AccessLevel}
    (h : encryptWithNonce nonce payload sessionNonce validationKey key level = .ok env)
    (hlevel : level ≠ .encryptionDisabled) :
    env.length = headerSize + paddedLength (validationKeySize + payload.length) := by
  obtain ⟨hn, -, hv, hk, -, rfl⟩ := encryptWithNonce_eq_ok h hlevel
  have hpad := length_paddedLength_ge (validationKey ++ payload).length
  simp only [List.length_append, List.length_cons, List.length_nil, Ctr.length_apply
    (length_aesBlock hk), Bytes.length_padTo, hn, hv] at hpad ⊢
  simp only [headerSize, packetNonceSize]
  omega

/-- An envelope too short for a block, or not whole blocks after its header, does not open. -/
theorem decrypt_of_not_gate {m sessionNonce validationKey : Bytes} {src : Option KeySource}
    (h : m.length < headerSize + blockSize ∨ (m.length - headerSize) % blockSize ≠ 0) :
    decrypt m sessionNonce validationKey src = .error (.because .badInput) := by
  rw [decrypt, if_pos h]

/-- How an envelope that passes the length gate is opened: under the key its level byte names,
from the counter block of its packet nonce, keeping what follows the validation key. -/
theorem decrypt_eq_of_gate {m sessionNonce validationKey : Bytes} {src : KeySource} {key : Key}
    (hgate : headerSize + blockSize ≤ m.length ∧ (m.length - headerSize) % blockSize = 0)
    (hs : sessionNonce.length = sessionNonceSize) (hv : validationKey.length = validationKeySize)
    (hkey : src.key? ⟨m.getD packetNonceSize 0⟩ = some key) :
    decrypt m sessionNonce validationKey (some src) =
      let plain := Ctr.apply (Aes.encryptBlock key.bytes)
        (Bytes.padTo blockSize (m.take packetNonceSize ++ sessionNonce)) (m.drop headerSize)
      if plain.take validationKeySize = validationKey then .ok (plain.drop validationKeySize)
      else .error (.because .validationMismatch) := by
  have hnonce : (m.take packetNonceSize).length = packetNonceSize := by
    simp only [List.length_take, packetNonceSize, headerSize, blockSize] at hgate ⊢
    omega
  rw [decrypt, if_neg (by omega), if_neg (by simp [hv]), buildIV, if_pos ⟨hnonce, hs⟩]
  simp only [bind, Except.bind, hkey, aesCtr_eq_ok key.length_eq]
  split <;> rfl

/-- Opening a sealed envelope under a validation key of four bytes checks it against the one the
envelope was sealed with: the same key gives the payload back, followed by the zeros that padded
it to whole blocks, and any other key fails the validation check. -/
theorem decrypt_of_encryptWithNonce_checks {nonce payload sessionNonce validationKey vk : Bytes}
    {key : Key} {level : AccessLevel} {env : Bytes} {src : KeySource}
    (h : encryptWithNonce nonce payload sessionNonce validationKey key.bytes level = .ok env)
    (hlevel : level ≠ .encryptionDisabled) (hsrc : src.key? level = some key)
    (hvk : vk.length = validationKeySize) :
    decrypt env sessionNonce vk (some src) =
      if validationKey = vk then
        .ok (payload ++ List.replicate ((16 - (4 + payload.length) % 16) % 16) 0)
      else .error (.because .validationMismatch) := by
  have hgate : headerSize + blockSize ≤ env.length ∧ (env.length - headerSize) % blockSize = 0 := by
    rw [length_of_encryptWithNonce h hlevel]
    simp only [paddedLength, headerSize, blockSize, validationKeySize]
    omega
  obtain ⟨hn, hs, hv, hk, -, rfl⟩ := encryptWithNonce_eq_ok h hlevel
  have hblock := length_aesBlock hk
  have hhead : (nonce ++ [level.code]).length = headerSize := by
    simp [hn, headerSize, packetNonceSize]
  have hkey : src.key? ⟨(nonce ++ [level.code] ++ Ctr.apply (Aes.encryptBlock key.bytes)
      (Bytes.padTo blockSize (nonce ++ sessionNonce)) (Bytes.padTo (paddedLength
        (validationKey ++ payload).length) (validationKey ++ payload))).getD packetNonceSize 0⟩ =
      some key := by
    simpa [List.getD_eq_getElem?_getD, hn, packetNonceSize] using hsrc
  rw [decrypt_eq_of_gate hgate hs hvk hkey]
  dsimp only
  -- the header is the packet nonce and the level byte, and the body opens to what was sealed
  rw [List.append_assoc, List.take_left' hn, ← List.append_assoc, List.drop_left' hhead,
    Ctr.apply_apply hblock, padTo_validation, List.take_left' hv]
  by_cases hsame : validationKey = vk
  · rw [if_pos hsame, if_pos hsame, List.drop_left' hv, hv, validationKeySize, paddedLength_sub]
  · rw [if_neg hsame, if_neg hsame]

/-- Opening a sealed envelope with the key it was sealed with gives the payload back, followed by
the zeros that padded it to whole blocks. -/
theorem decrypt_of_encryptWithNonce {nonce payload sessionNonce validationKey : Bytes} {key : Key}
    {level : AccessLevel} {env : Bytes} {src : KeySource}
    (h : encryptWithNonce nonce payload sessionNonce validationKey key.bytes level = .ok env)
    (hlevel : level ≠ .encryptionDisabled) (hsrc : src.key? level = some key) :
    decrypt env sessionNonce validationKey (some src) =
      .ok (payload ++ List.replicate ((16 - (4 + payload.length) % 16) % 16) 0) := by
  obtain ⟨-, -, hv, -⟩ := encryptWithNonce_eq_ok h hlevel
  rw [decrypt_of_encryptWithNonce_checks h hlevel hsrc hv, if_pos rfl]

/-- **Sealing with a given packet nonce, and opening the envelope.** Sealing succeeds for every
three-byte packet nonce, non-empty payload, five-byte session nonce, four-byte validation key,
key and level above plain text. The envelope is the packet nonce and the level byte followed by
the validation key and payload padded to whole blocks, and it names its level. A key source that
serves the sealing key for that level opens it, under a validation key of four bytes, to the
payload and the zeros up to the block boundary when the validation key is the sealing one, and
fails the validation check when the two differ in any byte. -/
theorem seal_open_with_validation (nonce payload sessionNonce validationKey : Bytes) (key : Key)
    (level : AccessLevel) (src : KeySource)
    (hn : nonce.length = packetNonceSize) (hp : payload ≠ [])
    (hs : sessionNonce.length = sessionNonceSize) (hv : validationKey.length = validationKeySize)
    (hlevel : level ≠ .encryptionDisabled) (hsrc : src.key? level = some key) :
    ∃ env, encryptWithNonce nonce payload sessionNonce validationKey key.bytes level = .ok env ∧
      env.length = headerSize + paddedLength (validationKeySize + payload.length) ∧
      env.take headerSize = nonce ++ [level.code] ∧ levelOf env = .ok level ∧
      ∀ vk, vk.length = validationKeySize →
        decrypt env sessionNonce vk (some src) =
          if vk = validationKey then
            .ok (payload ++ List.replicate
              (paddedLength (validationKeySize + payload.length) -
                (validationKeySize + payload.length)) 0)
          else .error (.because .validationMismatch) := by
  have hseal := encryptWithNonce_of_fit hlevel hn hp hs hv key.length_eq
  have hhead : (nonce ++ [level.code]).length = headerSize := by
    simp [hn, headerSize, packetNonceSize]
  refine ⟨_, hseal, length_of_encryptWithNonce hseal hlevel, List.take_left' hhead,
    levelOf_of_encryptWithNonce hseal hlevel, ?_⟩
  intro vk hvk
  rw [decrypt_of_encryptWithNonce_checks hseal hlevel hsrc hvk, paddedLength_sub,
    validationKeySize]
  by_cases hsame : vk = validationKey
  · rw [if_pos hsame.symm, if_pos hsame]
  · rw [if_neg (Ne.symm hsame), if_neg hsame]

/-- A guest envelope of one byte, opened by a key set with the guest key. -/
theorem seal_open_with_validation_guest :
    ([1, 2, 3] : Bytes).length = packetNonceSize ∧ ([42] : Bytes) ≠ [] ∧
      ([5, 6, 7, 8, 9] : Bytes).length = sessionNonceSize ∧
      ([5, 6, 7, 8] : Bytes).length = validationKeySize ∧
      AccessLevel.guest ≠ .encryptionDisabled ∧
      (KeySource.keys { guest := some Key.zero }).key? .guest = some Key.zero ∧
      ∃ env, encryptWithNonce [1, 2, 3] [42] [5, 6, 7, 8, 9] [5, 6, 7, 8] Key.zero.bytes .guest =
          .ok env ∧
        env.length = headerSize + paddedLength (validationKeySize + [42].length) ∧
        env.take headerSize = [1, 2, 3] ++ [AccessLevel.guest.code] ∧
        levelOf env = .ok .guest ∧
        ∀ vk, vk.length = validationKeySize →
          decrypt env [5, 6, 7, 8, 9] vk (some (.keys { guest := some Key.zero })) =
            if vk = [5, 6, 7, 8] then
              .ok ([42] ++ List.replicate
                (paddedLength (validationKeySize + [42].length) -
                  (validationKeySize + [42].length)) 0)
            else .error (.because .validationMismatch) := by
  have hlevel : AccessLevel.guest ≠ .encryptionDisabled := by decide
  have hsrc : (KeySource.keys { guest := some Key.zero }).key? .guest = some Key.zero := rfl
  have h := seal_open_with_validation [1, 2, 3] [42] [5, 6, 7, 8, 9] [5, 6, 7, 8] Key.zero .guest
    (.keys { guest := some Key.zero }) rfl (List.cons_ne_nil 42 []) rfl rfl hlevel hsrc
  exact ⟨rfl, List.cons_ne_nil 42 [], rfl, rfl, hlevel, hsrc, h⟩

/-- Opening reads an envelope front to back: a message that shares its first `8 + j` bytes with a
sealed envelope and passes the length gate opens, to bytes that start with the first `j` bytes of
the sealed payload. -/
theorem decrypt_of_prefix {nonce payload sessionNonce validationKey env m : Bytes} {key : Key}
    {level : AccessLevel} {src : KeySource}
    (h : encryptWithNonce nonce payload sessionNonce validationKey key.bytes level = .ok env)
    (hlevel : level ≠ .encryptionDisabled) (hsrc : src.key? level = some key)
    (j : Nat) (hj : j ≤ payload.length) (hpre : m.take (8 + j) = env.take (8 + j))
    (hgate : headerSize + blockSize ≤ m.length ∧ (m.length - headerSize) % blockSize = 0) :
    ∃ p, decrypt m sessionNonce validationKey (some src) = .ok p ∧ p.take j = payload.take j ∧
      p.length = m.length - 8 := by
  obtain ⟨hn, hs, hv, hk, -, rfl⟩ := encryptWithNonce_eq_ok h hlevel
  have hblock := length_aesBlock hk
  simp only [packetNonceSize] at hn
  simp only [validationKeySize] at hv
  generalize hiv : Bytes.padTo blockSize (nonce ++ sessionNonce) = iv at hpre
  generalize hx : Bytes.padTo (paddedLength (validationKey ++ payload).length)
    (validationKey ++ payload) = x at hpre
  have hhead : (nonce ++ [level.code]).length = 4 := by simp [hn]
  -- the header and the first bytes of the body are those of the envelope
  have hfront : ∀ i ≤ 8 + j, m.take i = (nonce ++ [level.code] ++ Ctr.apply (Aes.encryptBlock
      key.bytes) iv x).take i := fun i hi => by
    rw [← Nat.min_eq_left hi, ← List.take_take, hpre, List.take_take]
  have hnonce : m.take packetNonceSize = nonce := by
    rw [packetNonceSize, hfront 3 (by omega), List.append_assoc, List.take_left' hn]
  have hlevelByte : (⟨m.getD packetNonceSize 0⟩ : AccessLevel) = level := by
    have h4 := hfront 4 (by omega)
    rw [← List.take_append_drop 4 m, h4]
    simp [List.getD_eq_getElem?_getD, hn, packetNonceSize, List.getElem?_append_left]
  have hbody : (m.drop headerSize).take (4 + j) =
      (Ctr.apply (Aes.encryptBlock key.bytes) iv x).take (4 + j) := by
    have hd := congrArg (List.drop 4) hpre
    rw [List.drop_take, List.drop_take, show 8 + j - 4 = 4 + j by omega,
      List.drop_left' hhead] at hd
    exact hd
  -- opening undoes counter mode on the front of the body
  have hplain : (Ctr.apply (Aes.encryptBlock key.bytes) iv (m.drop headerSize)).take (4 + j) =
      validationKey ++ payload.take j := by
    rw [Ctr.take_apply hblock, hbody, Ctr.take_apply hblock, Ctr.apply_apply hblock, ← hx,
      padTo_validation, List.take_append, List.take_of_length_le (by omega), hv,
      show 4 + j - 4 = j by omega, List.take_append_of_le_length hj]
  generalize hP : Ctr.apply (Aes.encryptBlock key.bytes) iv (m.drop headerSize) = P at hplain
  have hvk : P.take 4 = validationKey := by
    rw [← Nat.min_eq_left (Nat.le_add_right 4 j), ← List.take_take, hplain, List.take_left' hv]
  refine ⟨P.drop 4, ?_, ?_, ?_⟩
  · rw [decrypt_eq_of_gate hgate hs (by simp [hv, validationKeySize])
      (by rw [hlevelByte]; exact hsrc), hnonce, hiv]
    simp only [hP, validationKeySize, hvk, if_true]
  · rw [List.take_drop, hplain, List.drop_left' hv]
  · have hlen := Ctr.length_apply hblock iv (m.drop headerSize)
    rw [hP] at hlen
    simp only [List.length_drop, hlen, headerSize]
    omega

end Envelope

end StoneLink
