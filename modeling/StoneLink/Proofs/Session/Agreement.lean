import StoneLink.Session
import StoneLink.Proofs.Envelope

/-!
# Sessions open what is sealed for them

A session seals a message with the level and key that `resolve` picks, and opens an envelope
with the key that its opening source serves for the level byte the envelope names. The two
choices agree: a setup key seals at level `setup` and serves itself for every level,
`highestAvailable` seals at the strongest level of the key source, which serves that level's
key, and any other role seals under the key the source serves for it. So a session opens every
envelope it seals and gets the payload back, followed by the zeros that padded it to whole
blocks.

A peer seals with the session nonce and, as validation key, the first four bytes of that nonce.
Every handshake reads the session nonce and the validation key from the same five bytes, so in
every state that a sequence of calls reaches from a new session the validation key is that
prefix, and the session opens what the peer seals under a key its source serves.
-/

namespace StoneLink

namespace SessionData

/-- Session data as a handshake reads it: a five-byte nonce whose first four bytes are the
validation key. -/
def Valid (d : SessionData) : Prop :=
  d.sessionNonce.length = Envelope.sessionNonceSize ∧
    d.validationKey = d.sessionNonce.take Envelope.validationKeySize

end SessionData

namespace Session

/-! ## One call at a time -/

theorem readData_valid {raw : Bytes} {offset : Nat} {d : SessionData}
    (h : readData raw offset = .ok d) : d.Valid := by
  unfold readData at h
  split at h
  · cases h
  next hlen =>
    cases h
    refine ⟨?_, ?_⟩
    · simp only [Envelope.sessionNonceSize] at hlen ⊢
      simp only [List.length_take, List.length_drop]
      omega
    · simp [Envelope.sessionNonceSize, Envelope.validationKeySize, List.take_take]

/-- A handshake changes only the session data, to valid data. -/
theorem establish_eq_ok {s s' : Session} {raw : Bytes} {encrypted : Bool}
    (h : s.establish raw encrypted = .ok s') :
    ∃ d, d.Valid ∧ s' = { s with established := some d } := by
  cases hest : s.established.isSome with
  | true => simp [establish, hest, bind, Except.bind, throw, throwThe, MonadExceptOf.throw] at h
  | false =>
    simp only [establish, hest, bind, Except.bind, pure, Except.pure, throw, throwThe,
      MonadExceptOf.throw, Bool.false_eq_true, if_false] at h
    -- each path that succeeds ends by reading the session data from some bytes
    repeat' split at h
    all_goals first
      | exact ⟨_, readData_valid ‹_›, (Except.ok.inj h).symm⟩
      | cases h

theorem setSetupKey_eq_ok {s s' : Session} {raw : Bytes} (h : s.setSetupKey raw = .ok s') :
    ∃ k, s' = { s with setupKey := some k } := by
  unfold setSetupKey at h
  split at h
  · next k _ => exact ⟨k, (Except.ok.inj h).symm⟩
  · cases h

/-- Sealing changes only the byte source the packet nonces are drawn from. -/
theorem encrypt_snd (s : Session) (payload : Bytes) (level : AccessLevel) :
    ∃ r, (s.encrypt payload level).2 = { s with random := r } := by
  unfold encrypt
  split
  · exact ⟨s.random, rfl⟩
  · split
    · exact ⟨s.random, rfl⟩
    · split
      · exact ⟨s.random, rfl⟩
      · exact ⟨_, rfl⟩

/-- What a resolution that succeeds can be: the setup key at level `setup`, the strongest level
of the key source for `highestAvailable`, or a role under the key the source serves for it. -/
theorem resolve_eq_ok {s : Session} {level lvl : AccessLevel} {key : Key}
    (h : s.resolve level = .ok (lvl, key)) :
    (s.setupKey = some key ∧ lvl = .setup) ∨
      (s.setupKey = none ∧ level = .highestAvailable ∧
        ∃ src, s.keys = some src ∧ src.highest? = some (lvl, key)) ∨
      (s.setupKey = none ∧ level ≠ .highestAvailable ∧ lvl = level ∧ level.isRole ∧
        ∃ src, s.keys = some src ∧ src.key? level = some key) := by
  unfold resolve at h
  split at h
  · next k _ hk =>
    cases h
    exact .inl ⟨hk, rfl⟩
  · cases h
  · next src hk hsrc =>
    split at h
    · next hha =>
      split at h
      · next r hr =>
        cases h
        exact .inr (.inl ⟨hk, hha, src, hsrc, hr⟩)
      · cases h
    · next hha =>
      split at h
      · cases h
      · next hrole =>
        split at h
        · next k hkey =>
          cases h
          simp only [Bool.not_eq_true', Bool.not_eq_false] at hrole
          exact .inr (.inr ⟨hk, hha, rfl, hrole, src, hsrc, hkey⟩)
        · cases h

/-- The key a session seals with is the key its opening source serves for the level it seals
at. -/
theorem openSource_key?_of_resolve {s : Session} {level lvl : AccessLevel} {key : Key}
    (h : s.resolve level = .ok (lvl, key)) : s.openSource.key? lvl = some key := by
  rcases resolve_eq_ok h with ⟨hk, -⟩ | ⟨hk, -, src, hsrc, hr⟩ | ⟨hk, -, rfl, -, src, hsrc, hkey⟩
  · simp [openSource, hk, KeySource.key?]
  · simpa [openSource, hk, hsrc] using KeySource.key?_of_highest? hr
  · simpa [openSource, hk, hsrc] using hkey

/-- A session never seals at level `encryptionDisabled`: it seals at a role or at `setup`. -/
theorem resolve_ne_encryptionDisabled {s : Session} {level lvl : AccessLevel} {key : Key}
    (h : s.resolve level = .ok (lvl, key)) : lvl ≠ .encryptionDisabled := by
  have hlvl : lvl.isRole ∨ lvl = .setup := by
    rcases resolve_eq_ok h with ⟨-, rfl⟩ | ⟨-, -, src, -, hr⟩ | ⟨-, -, rfl, hrole, -⟩
    · exact .inr rfl
    · exact KeySource.level_of_highest? hr
    · exact .inl hrole
  rintro rfl
  rcases hlvl with hrole | hsetup
  · simp [AccessLevel.isRole, AccessLevel.encryptionDisabled] at hrole
  · cases hsetup

/-- The level an envelope sealed at `level` names: `setup` while a setup key is installed, the
strongest level of the key source for `highestAvailable`, and `level` itself otherwise. -/
def SealsAt (s : Session) (level sealed : AccessLevel) : Prop :=
  match s.setupKey with
  | some _ => sealed = .setup
  | none =>
    if level = .highestAvailable then
      ∃ src key, s.keys = some src ∧ src.highest? = some (sealed, key)
    else sealed = level

theorem sealsAt_of_resolve {s : Session} {level lvl : AccessLevel} {key : Key}
    (h : s.resolve level = .ok (lvl, key)) : s.SealsAt level lvl := by
  rcases resolve_eq_ok h with ⟨hk, rfl⟩ | ⟨hk, hha, src, hsrc, hr⟩ | ⟨hk, hha, rfl, -⟩
  · simp [SealsAt, hk]
  · simp only [SealsAt, hk, if_pos hha]
    exact ⟨src, key, hsrc, hr⟩
  · simp [SealsAt, hk, hha]

/-- A seal that succeeds above plain text is an envelope of the established session data, under
the level and key that `resolve` picks. -/
theorem encrypt_eq_ok {s s' : Session} {payload env : Bytes} {level : AccessLevel}
    (h : s.encrypt payload level = (.ok env, s')) (hlevel : level ≠ .encryptionDisabled) :
    ∃ d lvl key nonce, s.established = some d ∧ s.resolve level = .ok (lvl, key) ∧
      Envelope.encryptWithNonce nonce payload d.sessionNonce d.validationKey key.bytes lvl =
        .ok env := by
  rw [encrypt, if_neg hlevel] at h
  split at h
  · cases h
  · next d hd =>
    split at h
    · cases h
    · next lvl key hres =>
      cases he : Envelope.encrypt s.random payload d.sessionNonce d.validationKey key.bytes lvl
      with
      | mk r rest =>
        rw [he] at h
        cases h
        obtain ⟨nonce, hnonce⟩ := Envelope.encrypt_eq_ok he (resolve_ne_encryptionDisabled hres)
        exact ⟨d, lvl, key, nonce, hd, hres, hnonce⟩

theorem decrypt_of_established {s : Session} {d : SessionData} (hd : s.established = some d)
    (env : Bytes) :
    s.decrypt env = Envelope.decrypt env d.sessionNonce d.validationKey (some s.openSource) := by
  simp [decrypt, hd]

/-! ## Runs of calls -/

/-- A call a connection makes on its session. -/
inductive Call where
  /-- Reads the device's session data, encrypted or bare. -/
  | establish (raw : Bytes) (encrypted : Bool)
  /-- Installs a setup key. -/
  | setSetupKey (raw : Bytes)
  /-- Forgets the session data and the setup key. -/
  | clear
  /-- Seals a message at a level. -/
  | encrypt (payload : Bytes) (level : AccessLevel)
  /-- Opens an envelope. -/
  | decrypt (envelope : Bytes)

/-- The session after a call. A handshake or a setup key that is refused leaves the session as
it was; a seal keeps what is left of the byte source, whether it succeeds or not. -/
def Call.apply : Call → Session → Session
  | .establish raw encrypted, s =>
    match s.establish raw encrypted with
    | .ok s' => s'
    | .error _ => s
  | .setSetupKey raw, s =>
    match s.setSetupKey raw with
    | .ok s' => s'
    | .error _ => s
  | .clear, s => s.clear
  | .encrypt payload level, s => (s.encrypt payload level).2
  | .decrypt _, s => s

/-- The session after a sequence of calls. -/
def run (s : Session) (calls : List Call) : Session := calls.foldl (fun s c => c.apply s) s

theorem run_cons (s : Session) (c : Call) (calls : List Call) :
    run s (c :: calls) = run (c.apply s) calls := rfl

/-- The sessions that a sequence of calls reaches from a new session over a key source. -/
def Reachable (keys : Option KeySource) (s : Session) : Prop :=
  ∃ random calls, s = run { keys, random } calls

/-- Every session data the session holds is valid. -/
def DataValid (s : Session) : Prop := ∀ d, s.established = some d → d.Valid

theorem Call.dataValid_apply (c : Call) {s : Session} (hs : s.DataValid) :
    (c.apply s).DataValid := by
  cases c with
  | establish raw encrypted =>
    simp only [Call.apply]
    split
    · next s' h =>
      obtain ⟨d, hd, rfl⟩ := establish_eq_ok h
      intro d' hd'
      cases hd'
      exact hd
    · exact hs
  | setSetupKey raw =>
    simp only [Call.apply]
    split
    · next s' h =>
      obtain ⟨k, rfl⟩ := setSetupKey_eq_ok h
      exact hs
    · exact hs
  | clear =>
    intro d hd
    cases hd
  | encrypt payload level =>
    obtain ⟨r, hr⟩ := encrypt_snd s payload level
    simp only [Call.apply, hr]
    exact hs
  | decrypt envelope => exact hs

theorem dataValid_run (calls : List Call) {s : Session} (hs : s.DataValid) :
    (run s calls).DataValid := by
  induction calls generalizing s with
  | nil => exact hs
  | cons c calls ih =>
    rw [run_cons]
    exact ih (c.dataValid_apply hs)

theorem Reachable.dataValid {keys : Option KeySource} {s : Session} (h : Reachable keys s) :
    s.DataValid := by
  obtain ⟨random, calls, rfl⟩ := h
  apply dataValid_run
  intro d hd
  cases hd

/-! ## Sealing and opening agree -/

/-- **A session opens what it seals and what its peer seals.** In every established state that
a sequence of calls reaches from a new session over any key source, an envelope the session
seals above plain text names the level `SealsAt` gives and opens, in the same state, to the
payload followed by the zeros that pad the validation key and payload to whole blocks; and an envelope a peer seals
with the session nonce, its first four bytes as validation key, and a key the session's opening
source serves for the level opens to the same. -/
theorem opens_own_and_peer_seals {src : Option KeySource} {s : Session} {d : SessionData}
    (hs : Reachable src s) (hd : s.established = some d) :
    (∀ payload level env s', level ≠ .encryptionDisabled →
      s.encrypt payload level = (.ok env, s') →
        s.decrypt env =
            .ok (payload ++ List.replicate ((16 - (4 + payload.length) % 16) % 16) 0) ∧
          ∃ lvl, Envelope.levelOf env = .ok lvl ∧ s.SealsAt level lvl) ∧
    (∀ nonce payload lvl key env, lvl ≠ .encryptionDisabled → s.openSource.key? lvl = some key →
      Envelope.encryptWithNonce nonce payload d.sessionNonce (d.sessionNonce.take 4) key.bytes
          lvl = .ok env →
        s.decrypt env =
          .ok (payload ++ List.replicate ((16 - (4 + payload.length) % 16) % 16) 0)) := by
  refine ⟨?_, ?_⟩
  · intro payload level env s' hlevel henc
    obtain ⟨d', lvl, key, nonce, hd', hres, hseal⟩ := encrypt_eq_ok henc hlevel
    rw [hd] at hd'
    cases hd'
    have hlvl := resolve_ne_encryptionDisabled hres
    refine ⟨?_, lvl, Envelope.levelOf_of_encryptWithNonce hseal hlvl, sealsAt_of_resolve hres⟩
    rw [decrypt_of_established hd]
    exact Envelope.decrypt_of_encryptWithNonce hseal hlvl (openSource_key?_of_resolve hres)
  · intro nonce payload lvl key env hlvl hkey hseal
    obtain ⟨-, hvalid⟩ := hs.dataValid d hd
    rw [decrypt_of_established hd, hvalid]
    exact Envelope.decrypt_of_encryptWithNonce hseal hlvl hkey

/-- A session over a key set with only a guest key: a setup key comes and goes before the
handshake reads a bare nonce. -/
def guestSession : Session :=
  run { keys := some (.keys { guest := some Key.zero }), random := [9, 8, 7] }
    [.setSetupKey (List.replicate 16 1), .clear, .establish [1, 2, 3, 4, 5] false]

theorem opens_own_and_peer_seals_guest :
    Reachable (some (.keys { guest := some Key.zero })) guestSession ∧
      guestSession.established = some ⟨[1, 2, 3, 4, 5], [1, 2, 3, 4]⟩ ∧
      (∀ payload level env s', level ≠ .encryptionDisabled →
        guestSession.encrypt payload level = (.ok env, s') →
          guestSession.decrypt env =
              .ok (payload ++ List.replicate ((16 - (4 + payload.length) % 16) % 16) 0) ∧
            ∃ lvl, Envelope.levelOf env = .ok lvl ∧ guestSession.SealsAt level lvl) ∧
      (∀ nonce payload lvl key env, lvl ≠ .encryptionDisabled →
        guestSession.openSource.key? lvl = some key →
        Envelope.encryptWithNonce nonce payload [1, 2, 3, 4, 5] ([1, 2, 3, 4, 5].take 4) key.bytes
            lvl = .ok env →
          guestSession.decrypt env =
            .ok (payload ++ List.replicate ((16 - (4 + payload.length) % 16) % 16) 0)) := by
  have hreach : Reachable (some (.keys { guest := some Key.zero })) guestSession := ⟨_, _, rfl⟩
  have hest : guestSession.established = some ⟨[1, 2, 3, 4, 5], [1, 2, 3, 4]⟩ := rfl
  exact ⟨hreach, hest, opens_own_and_peer_seals hreach hest⟩

end Session

end StoneLink
