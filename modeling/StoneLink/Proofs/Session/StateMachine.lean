import StoneLink.Proofs.Session.Agreement

/-!
# The session as a state machine

A session is in one of two states. Without a session its data reads as all zero, and nothing can
be sealed above plain text or opened; an established session holds the five-byte session nonce
and, as validation key, the first four bytes of it. Each call changes as little as it can: a
handshake or a setup key that is refused changes nothing, sealing changes only the byte source,
opening changes nothing, and clearing forgets the session and the setup key. Reading the state
or the data is no call at all, since it changes nothing.

A seal draws its packet nonce only once every other check has passed. So along every run from
a new session, the envelopes sealed above plain text carry, in order, the consecutive three-byte
chunks of the byte source from its start, and the one failing seal that uses up bytes is a nonce
read that runs into the end of the source.
-/

namespace StoneLink

namespace Envelope

/-- A sealed envelope starts with its packet nonce. -/
theorem take_of_encryptWithNonce {nonce payload sessionNonce validationKey key env : Bytes}
    {level : AccessLevel}
    (h : encryptWithNonce nonce payload sessionNonce validationKey key level = .ok env)
    (hlevel : level ≠ .encryptionDisabled) : env.take packetNonceSize = nonce := by
  obtain ⟨hn, -, -, -, -, rfl⟩ := encryptWithNonce_eq_ok h hlevel
  rw [List.append_assoc, List.take_left' hn]

/-- What a seal above plain text does to its byte source: a seal refused before the nonce is
drawn, or by an empty source, leaves the source as it was; a seal that draws a nonce takes the
first three bytes, succeeds, and puts them at the front of the envelope; and a source with one
or two bytes is used up by a read that fails. -/
theorem encrypt_draws (source payload sessionNonce validationKey key : Bytes) {level : AccessLevel}
    (hlevel : level ≠ .encryptionDisabled) :
    (∃ f, encrypt source payload sessionNonce validationKey key level = (.error f, source)) ∨
      (packetNonceSize ≤ source.length ∧
        ∃ env, encrypt source payload sessionNonce validationKey key level =
            (.ok env, source.drop packetNonceSize) ∧
          env.take packetNonceSize = source.take packetNonceSize) ∨
      encrypt source payload sessionNonce validationKey key level =
        (.error (.because .unexpectedEnd), []) := by
  rw [encrypt, if_neg hlevel]
  cases hfit : inputsFit payload sessionNonce validationKey key with
  | false => exact .inl ⟨.because .badInput, by simp⟩
  | true =>
    simp only [Bool.not_true, Bool.false_eq_true, if_false]
    simp only [inputsFit, Bool.and_eq_true, Bool.not_eq_true', List.isEmpty_eq_false_iff,
      beq_iff_eq] at hfit
    obtain ⟨⟨⟨hp, hs⟩, hv⟩, hk⟩ := hfit
    by_cases hlen : packetNonceSize ≤ source.length
    · -- the sizes fit, so the nonce of the first three bytes seals
      have hn : (source.take packetNonceSize).length = packetNonceSize := by simp [hlen]
      have hseal := encryptWithNonce_of_fit hlevel hn hp hs hv hk
      refine .inr (.inl ⟨hlen, _, ?_, take_of_encryptWithNonce hseal hlevel⟩)
      simp only [readExactly, if_pos hlen, hseal]
    · by_cases hempty : source.isEmpty
      · exact .inl ⟨.because .endOfInput, by simp [readExactly, hlen, hempty]⟩
      · exact .inr (.inr (by simp [readExactly, hlen, hempty]))

end Envelope

namespace Session

/-! ## What the state shows -/

theorem state_eq_noSession_iff (s : Session) : s.state = "NoSession" ↔ s.established = none := by
  cases h : s.established <;> simp [state, stateName, h]

theorem state_eq_established_iff (s : Session) :
    s.state = "Established" ↔ s.established.isSome := by
  cases h : s.established <;> simp [state, stateName, h]

/-- The data reports no session exactly in state `NoSession`, and reads as zero there. -/
theorem data_of_noSession (s : Session) :
    (s.state = "NoSession" ↔ s.data.2 = false) ∧
      (s.state = "NoSession" → s.data.1 = SessionData.zero) := by
  rw [state_eq_noSession_iff]
  cases h : s.established <;> simp [data, h]

/-- In every established state a run reaches, the validation key is the front of the nonce. -/
theorem validationKey_of_established {s : Session} (hs : s.DataValid)
    (h : s.state = "Established") :
    s.data.1.validationKey = s.data.1.sessionNonce.take Envelope.validationKeySize := by
  rw [state_eq_established_iff, Option.isSome_iff_exists] at h
  obtain ⟨d, hd⟩ := h
  simpa [data, hd] using (hs d hd).2

/-! ## What each call changes -/

theorem Call.apply_establish_of_error {s : Session} {raw : Bytes} {encrypted : Bool} {f : Fault}
    (h : s.establish raw encrypted = .error f) : (Call.establish raw encrypted).apply s = s := by
  simp [Call.apply, h]

theorem Call.apply_setSetupKey_of_error {s : Session} {raw : Bytes} {f : Fault}
    (h : s.setSetupKey raw = .error f) : (Call.setSetupKey raw).apply s = s := by
  simp [Call.apply, h]

/-- Sealing keeps the state, the data and the setup key. -/
theorem encrypt_keeps (s : Session) (payload : Bytes) (level : AccessLevel) :
    (s.encrypt payload level).2.state = s.state ∧ (s.encrypt payload level).2.data = s.data ∧
      (s.encrypt payload level).2.setupKey = s.setupKey := by
  obtain ⟨r, hr⟩ := encrypt_snd s payload level
  simp [hr, state, data]

theorem clear_noSession (s : Session) : s.clear.state = "NoSession" ∧ s.clear.setupKey = none :=
  ⟨(state_eq_noSession_iff _).mpr rfl, rfl⟩

/-- Without a session nothing is sealed above plain text, and the session stays as it is. -/
theorem encrypt_of_noSession {s : Session} (h : s.established = none) (payload : Bytes)
    {level : AccessLevel} (hlevel : level ≠ .encryptionDisabled) :
    s.encrypt payload level = (.error (.because .noSession), s) := by
  simp [encrypt, hlevel, h]

theorem decrypt_of_noSession {s : Session} (h : s.established = none) (env : Bytes) :
    s.decrypt env = .error (.because .noSession) := by
  simp [decrypt, h]

/-! ## Packet nonces -/

/-- What a seal does to the byte source: it changes nothing, or it seals above plain text with
the first three bytes as packet nonce and drops them, or a nonce read uses up a source of one or
two bytes and fails. -/
theorem encrypt_draws (s : Session) (payload : Bytes) (level : AccessLevel) :
    ((s.encrypt payload level).2 = s ∧
        ∀ env, (s.encrypt payload level).1 = .ok env → level = .encryptionDisabled) ∨
      (level ≠ .encryptionDisabled ∧ Envelope.packetNonceSize ≤ s.random.length ∧
        ∃ env, s.encrypt payload level =
            (.ok env, { s with random := s.random.drop Envelope.packetNonceSize }) ∧
          env.take Envelope.packetNonceSize = s.random.take Envelope.packetNonceSize) ∨
      s.encrypt payload level = (.error (.because .unexpectedEnd), { s with random := [] }) := by
  unfold encrypt
  split
  · next hdis => exact .inl ⟨rfl, fun _ _ => hdis⟩
  · next hdis =>
    split
    · exact .inl ⟨rfl, fun _ h => by cases h⟩
    · next d hd =>
      split
      · exact .inl ⟨rfl, fun _ h => by cases h⟩
      · next lvl key hres =>
        rcases Envelope.encrypt_draws s.random payload d.sessionNonce d.validationKey key.bytes
          (resolve_ne_encryptionDisabled hres) with ⟨f, hf⟩ | ⟨hlen, env, henv, htake⟩ | hend
        · rw [hf]
          exact .inl ⟨rfl, fun _ h => by cases h⟩
        · rw [henv]
          exact .inr (.inl ⟨hdis, hlen, env, rfl, htake⟩)
        · rw [hend]
          exact .inr (.inr rfl)

/-- A seal that fails for any reason but a nonce read cut short leaves the session as it was. -/
theorem encrypt_snd_of_error {s : Session} {payload : Bytes} {level : AccessLevel} {f : Fault}
    (h : (s.encrypt payload level).1 = .error f) (hf : f ≠ .because .unexpectedEnd) :
    (s.encrypt payload level).2 = s := by
  rcases encrypt_draws s payload level with ⟨hs, -⟩ | ⟨-, -, env, henv, -⟩ | hend
  · exact hs
  · rw [henv] at h
    cases h
  · rw [hend] at h
    cases h
    exact absurd rfl hf

/-- The envelope a call seals above plain text, if it is a seal that succeeds. -/
def Call.sealed : Call → Session → Option Bytes
  | .encrypt payload level, s =>
    if level = .encryptionDisabled then none
    else match (s.encrypt payload level).1 with
      | .ok env => some env
      | .error _ => none
  | _, _ => none

/-- The envelopes a sequence of calls seals above plain text, in order. -/
def sealedBy : Session → List Call → List Bytes
  | _, [] => []
  | s, c :: calls => (c.sealed s).toList ++ sealedBy (c.apply s) calls

/-- Every call but a seal leaves the byte source alone. -/
theorem Call.random_apply (c : Call) (s : Session)
    (hc : ∀ payload level, c ≠ .encrypt payload level) : (c.apply s).random = s.random := by
  cases c with
  | establish raw encrypted =>
    simp only [Call.apply]
    split
    · next s' h =>
      obtain ⟨d, -, rfl⟩ := establish_eq_ok h
      rfl
    · rfl
  | setSetupKey raw =>
    simp only [Call.apply]
    split
    · next s' h =>
      obtain ⟨k, rfl⟩ := setSetupKey_eq_ok h
      rfl
    · rfl
  | clear => rfl
  | encrypt payload level => exact absurd rfl (hc payload level)
  | decrypt envelope => rfl

/-- One call either seals nothing, leaving the byte source or using it up, or seals one envelope
whose packet nonce is the first three bytes of the source, and drops them. -/
theorem Call.sealed_draws (c : Call) (s : Session) :
    (c.sealed s = none ∧ ((c.apply s).random = s.random ∨ (c.apply s).random = [])) ∨
      (Envelope.packetNonceSize ≤ s.random.length ∧
        (c.apply s).random = s.random.drop Envelope.packetNonceSize ∧
        ∃ env, c.sealed s = some env ∧
          env.take Envelope.packetNonceSize = s.random.take Envelope.packetNonceSize) := by
  cases c with
  | encrypt payload level =>
    simp only [Call.sealed, Call.apply]
    rcases encrypt_draws s payload level with ⟨hs, hok⟩ | ⟨hdis, hlen, env, henv, htake⟩ | hend
    · refine .inl ⟨?_, .inl (by rw [hs])⟩
      split
      · rfl
      · split
        · next env h => exact absurd (hok env h) ‹_›
        · rfl
    · refine .inr ⟨hlen, by rw [henv], env, ?_, htake⟩
      rw [if_neg hdis, henv]
    · refine .inl ⟨?_, .inr (by rw [hend])⟩
      split
      · rfl
      · rw [hend]
  | establish raw encrypted =>
    exact .inl ⟨rfl, .inl (Call.random_apply _ s (fun _ _ h => by cases h))⟩
  | setSetupKey raw => exact .inl ⟨rfl, .inl (Call.random_apply _ s (fun _ _ h => by cases h))⟩
  | clear => exact .inl ⟨rfl, .inl rfl⟩
  | decrypt envelope => exact .inl ⟨rfl, .inl rfl⟩

/-- The first `n + 1` chunks of `k` bytes are the first chunk and `n` chunks of the rest. -/
theorem chunks_succ (r : Bytes) (k n : Nat) :
    (List.range (n + 1)).map (fun i => (r.drop (k * i)).take k) =
      r.take k :: (List.range n).map (fun i => ((r.drop k).drop (k * i)).take k) := by
  simp only [List.range_succ_eq_map, List.map_cons, List.map_map, Nat.mul_zero, List.drop_zero,
    List.cons.injEq, true_and]
  apply List.map_congr_left
  intro i _
  simp only [Function.comp, List.drop_drop, Nat.mul_succ, Nat.add_comm]

/-- Along every run the sealed envelopes carry, in order, consecutive three-byte chunks of the
byte source from its start. -/
theorem sealedBy_nonces (s : Session) (calls : List Call) :
    Envelope.packetNonceSize * (sealedBy s calls).length ≤ s.random.length ∧
      (sealedBy s calls).map (·.take Envelope.packetNonceSize) =
        (List.range (sealedBy s calls).length).map fun i =>
          (s.random.drop (Envelope.packetNonceSize * i)).take Envelope.packetNonceSize := by
  -- induction on the calls, from whatever session the first call meets
  induction calls generalizing s with
  | nil => simp [sealedBy]
  | cons c calls ih =>
    obtain ⟨ihlen, ihmap⟩ := ih (c.apply s)
    rcases Call.sealed_draws c s with ⟨hnone, hsame | hempty⟩ | ⟨hlen, hrest, env, hsome, htake⟩
    · simp only [sealedBy, hnone, Option.toList_none, List.nil_append]
      rw [hsame] at ihlen ihmap
      exact ⟨ihlen, ihmap⟩
    · -- the source is used up, so nothing after this call is sealed
      have hnil : sealedBy (c.apply s) calls = [] := by
        rw [hempty, List.length_nil, Nat.le_zero, Nat.mul_eq_zero] at ihlen
        exact List.eq_nil_of_length_eq_zero (ihlen.resolve_left (by decide))
      simp [sealedBy, hnone, hnil]
    · simp only [sealedBy, hsome, Option.toList_some, List.singleton_append, List.length_cons,
        List.map_cons]
      rw [hrest, List.length_drop] at ihlen
      rw [hrest] at ihmap
      refine ⟨by rw [Nat.mul_succ]; omega, ?_⟩
      rw [chunks_succ, htake, ihmap]

/-- **The session state machine.** Along every sequence of calls from a new session, over any
key source and any byte source: the state is `NoSession` exactly when the data reports no
session, and the data is all zero then; in an established state the validation key is the first
four bytes of the session nonce; a refused handshake or setup key changes nothing, sealing keeps
the state, the data and the setup key, opening changes nothing, and clearing leaves no session
and no setup key; without a session every seal above plain text and every opening fails with
`noSession`; the envelopes sealed above plain text carry, in order, consecutive three-byte chunks
of the byte source from its start; and a seal that fails for another reason than a nonce read
cut short leaves the session, its byte source included, as it was. -/
theorem session_machine_invariants (keys : Option KeySource) (random : Bytes) (calls : List Call) :
    let s := run { keys, random } calls
    let sealed := sealedBy { keys, random } calls
    ((s.state = "NoSession" ↔ s.data.2 = false) ∧
      (s.state = "NoSession" → s.data.1 = SessionData.zero)) ∧
    (s.state = "Established" →
      s.data.1.validationKey = s.data.1.sessionNonce.take Envelope.validationKeySize) ∧
    ((∀ raw encrypted f, s.establish raw encrypted = .error f →
        (Call.establish raw encrypted).apply s = s) ∧
      (∀ raw f, s.setSetupKey raw = .error f → (Call.setSetupKey raw).apply s = s) ∧
      (∀ payload level, ((Call.encrypt payload level).apply s).state = s.state ∧
        ((Call.encrypt payload level).apply s).data = s.data ∧
        ((Call.encrypt payload level).apply s).setupKey = s.setupKey) ∧
      (∀ envelope, (Call.decrypt envelope).apply s = s) ∧
      (Call.clear.apply s).state = "NoSession" ∧ (Call.clear.apply s).setupKey = none) ∧
    (s.state = "NoSession" →
      (∀ payload level, level ≠ .encryptionDisabled →
        (s.encrypt payload level).1 = .error (.because .noSession)) ∧
      ∀ envelope, s.decrypt envelope = .error (.because .noSession)) ∧
    (Envelope.packetNonceSize * sealed.length ≤ random.length ∧
      sealed.map (·.take Envelope.packetNonceSize) =
        (List.range sealed.length).map fun i =>
          (random.drop (Envelope.packetNonceSize * i)).take Envelope.packetNonceSize) ∧
    (∀ payload level f, (s.encrypt payload level).1 = .error f → f ≠ .because .unexpectedEnd →
      (s.encrypt payload level).2 = s) := by
  intro s sealed
  have hvalid : s.DataValid := Reachable.dataValid ⟨random, calls, rfl⟩
  refine ⟨data_of_noSession s, validationKey_of_established hvalid,
    ⟨fun _ _ _ h => Call.apply_establish_of_error h, fun _ _ h => Call.apply_setSetupKey_of_error h,
      fun payload level => encrypt_keeps s payload level, fun _ => rfl, clear_noSession s⟩,
    fun h => ?_, sealedBy_nonces _ calls, fun _ _ _ h hf => encrypt_snd_of_error h hf⟩
  rw [state_eq_noSession_iff] at h
  exact ⟨fun payload _ hlevel => by rw [encrypt_of_noSession h payload hlevel],
    decrypt_of_noSession h⟩

end Session

end StoneLink
