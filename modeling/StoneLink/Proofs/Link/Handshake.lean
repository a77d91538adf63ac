import StoneLink.Link.Connection
import StoneLink.Proofs.Cipher.Aes
import StoneLink.Proofs.Session.Agreement

/-!
# The handshake

A device hands out its five-byte session nonce in one of two forms. In normal mode it puts the
nonce behind the magic word `0xCAFEBABE`, pads the nine bytes with zeros to a block and encrypts
the block under its guest key; in setup mode it hands out the bare nonce. A session without a
session reads either form back. It decrypts a block under its setup key, or without one under the
guest key its key source serves, checks the magic word and takes the five bytes behind it as the
session nonce and their first four as the validation key; the bare nonce it reads at offset zero.
The block comes back because AES decryption undoes encryption (`Aes.decryptBlock_encryptBlock`).
The two forms put the nonce at different offsets, and each reader looks at the right one.

A connection's handshake reads the session characteristic and establishes the session; in setup
mode it then reads the setup key and installs it, clearing the session if either fails. On a
connection with no session and no setup key, whatever the peripheral answers, the handshake
either establishes valid session data (with a setup key exactly in setup mode) or fails and
leaves the connection as it was: no session and no setup key survive a failure half installed.
Against a device serving the connection's mode it succeeds: in normal mode when both hold the
same guest key, in setup mode installing the device's setup key.

The main statement is `handshake_contract`.
-/

namespace StoneLink

open Bytes

/-! ## The session block -/

theorem Key.isEmpty_bytes (k : Key) : k.bytes.isEmpty = false := by
  rw [List.isEmpty_eq_false_iff, ← List.length_pos_iff, k.length_eq]
  decide

namespace Envelope

/-- Under a key, the block mode runs AES on a block. -/
theorem ecb_key (encrypt : Bool) (k : Key) {block : Bytes} (hb : block.length = blockSize) :
    ecb encrypt k.bytes block =
      .ok (if encrypt then Cipher.Aes.encryptBlock k.bytes block
        else Cipher.Aes.decryptBlock k.bytes block) := by
  cases encrypt <;> simp [ecb, hb, k.length_eq, k.isEmpty_bytes, blockSize]

end Envelope

/-- The session data a handshake reads from a nonce: the nonce, and its first four bytes as the
validation key. -/
def SessionData.ofNonce (n : Bytes) : SessionData := ⟨n, n.take Envelope.validationKeySize⟩

namespace Session

open Envelope

/-- The plain handshake block: the magic word, the session nonce, zero padding. -/
theorem padTo_sessionBlock {n : Bytes} (hn : n.length = sessionNonceSize) :
    padTo blockSize (ofUInt32 magic ++ n) = ofUInt32 magic ++ n ++ List.replicate 7 0 := by
  simp [padTo, hn, blockSize, sessionNonceSize]

theorem length_padTo_sessionBlock {n : Bytes} (hn : n.length = sessionNonceSize) :
    (padTo blockSize (ofUInt32 magic ++ n)).length = blockSize := by
  simp [hn, blockSize, sessionNonceSize]

/-- Session data is read from wherever the nonce stands, whatever surrounds it. -/
theorem readData_append (pre : Bytes) {n : Bytes} (hn : n.length = sessionNonceSize)
    (rest : Bytes) :
    readData (pre ++ n ++ rest) pre.length = .ok (.ofNonce n) := by
  have hlen : ¬ (pre ++ n ++ rest).length < pre.length + sessionNonceSize := by
    simp [hn]
  have hdrop : (pre ++ n ++ rest).drop pre.length = n ++ rest := by
    rw [List.append_assoc, List.drop_left]
  simp only [readData, if_neg hlen, hdrop, List.take_left' hn, SessionData.ofNonce,
    List.take_append_of_le_length (show validationKeySize ≤ n.length by simp [hn]; decide)]

/-- A device's handshake block under a key: the plain block, encrypted. -/
theorem buildSessionBlock_key {n : Bytes} (hn : n.length = sessionNonceSize) (k : Key) :
    buildSessionBlock n k.bytes =
      .ok (Cipher.Aes.encryptBlock k.bytes (padTo blockSize (ofUInt32 magic ++ n))) := by
  rw [buildSessionBlock, if_neg (by simp [hn]), if_neg (by simp [k.isEmpty_bytes]),
    ecb_key true k (length_padTo_sessionBlock hn), if_pos rfl]

theorem buildSessionBlock_nil {n : Bytes} (hn : n.length = sessionNonceSize) :
    buildSessionBlock n [] = .ok n := by
  simp [buildSessionBlock, hn]

/-- The key of an encrypted handshake: the setup key, or without one the guest key. -/
theorem handshakeKey_eq_some {s : Session} {k : Key} :
    s.handshakeKey = some k ↔
      s.setupKey = some k ∨ s.setupKey = none ∧ ∃ src, s.keys = some src ∧ src.key? .guest = some k := by
  cases h : s.setupKey <;> simp [handshakeKey, h, Option.bind_eq_some_iff]

section Establish

variable {s : Session} (hs : s.established = none)
include hs

/-- The bare nonce establishes it as the session nonce. -/
theorem establish_bare {n : Bytes} (hn : n.length = sessionNonceSize) :
    s.establish n false = .ok { s with established := some (.ofNonce n) } := by
  have hread := readData_append [] hn []
  simp only [List.nil_append, List.append_nil, List.length_nil] at hread
  simp [establish, hs, hread, bind, Except.bind, pure, Except.pure]

/-- A block encrypted under the key of the handshake establishes the nonce behind its magic
word. -/
theorem establish_sealed {k : Key} (hk : s.handshakeKey = some k) {n : Bytes}
    (hn : n.length = sessionNonceSize) :
    s.establish (Cipher.Aes.encryptBlock k.bytes (padTo blockSize (ofUInt32 magic ++ n))) true =
      .ok { s with established := some (.ofNonce n) } := by
  have hplain := length_padTo_sessionBlock hn
  have hraw : (Cipher.Aes.encryptBlock k.bytes (padTo blockSize (ofUInt32 magic ++ n))).length =
      blockSize := Cipher.Aes.length_encryptBlock k.length_eq _
  -- the block decrypts back to the plain block, which starts with the magic word
  have hdec : ecb false k.bytes
      ((Cipher.Aes.encryptBlock k.bytes (padTo blockSize (ofUInt32 magic ++ n))).take blockSize) =
        .ok (padTo blockSize (ofUInt32 magic ++ n)) := by
    rw [List.take_of_length_le hraw.le, ecb_key false k hraw,
      if_neg Bool.false_ne_true, Cipher.Aes.decryptBlock_encryptBlock k.length_eq hplain]
  have hmagic : toUInt32 (padTo blockSize (ofUInt32 magic ++ n)) = magic := by
    rw [padTo_sessionBlock hn, List.append_assoc, toUInt32_ofUInt32_append]
  have hread : readData (padTo blockSize (ofUInt32 magic ++ n)) 4 = .ok (.ofNonce n) := by
    rw [padTo_sessionBlock hn]
    exact readData_append (ofUInt32 magic) hn _
  simp [establish, hs, hk, hraw, hdec, hmagic, hread, bind, Except.bind, pure, Except.pure]

end Establish

end Session

/-! ## The handshake of a connection -/

namespace Link

namespace Device

variable {d : Device}

theorem check_eq_ok (hd : d.disconnected = false) {mode : Mode} (hm : d.config.mode = mode) :
    d.check mode = .ok () := by
  simp [check, hd, hm]

/-- A device in normal mode hands out its nonce encrypted under its guest key. -/
theorem read_session_normal (hd : d.disconnected = false) (hm : d.config.mode = .normal)
    {k : Key} (hk : d.config.keys.key? .guest = some k) :
    d.read .normal .session = buildSessionBlock d.config.sessionNonce k.bytes := by
  simp [read, check_eq_ok hd hm, hm, hk, bind, Except.bind]

/-- A device in setup mode hands out its nonce bare. -/
theorem read_session_setup (hd : d.disconnected = false) (hm : d.config.mode = .setup) :
    d.read .setup .session = buildSessionBlock d.config.sessionNonce [] := by
  simp [read, check_eq_ok hd hm, hm, bind, Except.bind]

theorem read_setupKey_setup (hd : d.disconnected = false) (hm : d.config.mode = .setup) :
    d.read .setup .setupKey = .ok d.config.setupKey.bytes := by
  simp [read, check_eq_ok hd hm, hm, bind, Except.bind]

end Device

namespace Connection

variable {c : Connection}

/-- What a handshake can do: fail with the connection as it was; establish the session in normal
mode; or in setup mode establish it and then fail with the session cleared, or install the setup
key it reads. -/
theorem handshake_cases (c : Connection) (read : Characteristic → Except Fault Bytes) :
    (∃ f, c.handshake read = (c, .error f)) ∨
    (∃ raw s, c.mode = .normal ∧ read .session = .ok raw ∧ c.session.establish raw true = .ok s ∧
      c.handshake read = ({ c with session := s }, .ok ())) ∨
    (∃ raw s, c.mode = .setup ∧ read .session = .ok raw ∧ c.session.establish raw false = .ok s ∧
      ((∃ f, c.handshake read = ({ c with session := s.clear }, .error f)) ∨
        ∃ key s', read .setupKey = .ok key ∧ s.setSetupKey key = .ok s' ∧
          c.handshake read = ({ c with session := s' }, .ok ()))) := by
  cases hr : read .session with
  | error f => exact .inl ⟨.within "connection: read session data" f, by simp [handshake, hr]⟩
  | ok raw =>
    cases hs : c.session.establish raw (c.mode = .normal) with
    | error f => exact .inl ⟨.within "connection: handshake" f, by simp [handshake, hr, hs]⟩
    | ok s =>
      cases hm : c.mode with
      | normal =>
        simp only [hm, decide_true] at hs
        exact .inr (.inl ⟨raw, s, rfl, rfl, hs, by simp [handshake, hr, hm, hs]⟩)
      | setup =>
        simp only [hm, reduceCtorEq, decide_false] at hs
        refine .inr (.inr ⟨raw, s, rfl, rfl, hs, ?_⟩)
        cases hk : read .setupKey with
        | error f =>
          exact .inl ⟨.within "connection: read setup key" f, by simp [handshake, hr, hm, hs, hk]⟩
        | ok key =>
          cases hs' : s.setSetupKey key with
          | error f =>
            exact .inl ⟨.within "connection" f, by simp [handshake, hr, hm, hs, hk, hs']⟩
          | ok s' => exact .inr ⟨key, s', rfl, hs', by simp [handshake, hr, hm, hs, hk, hs']⟩

/-- Clearing a session established on a connection with no session and no setup key gives the
connection's session back. -/
theorem clear_established (he : c.session.established = none) (hk : c.session.setupKey = none)
    (d : SessionData) : ({ c.session with established := some d } : Session).clear = c.session := by
  obtain ⟨mode, ⟨keys, random, established, setupKey⟩⟩ := c
  simp only at he hk
  simp [Session.clear, he, hk]

/-- On a connection with no session and no setup key, a handshake establishes valid session data,
with a setup key exactly in setup mode, or fails and leaves the connection as it was. -/
theorem handshake_of_fresh (he : c.session.established = none) (hk : c.session.setupKey = none)
    (read : Characteristic → Except Fault Bytes) :
    (∃ d key, d.Valid ∧ (c.mode = .setup ↔ key.isSome) ∧
      c.handshake read =
        ({ c with session := { c.session with established := some d, setupKey := key } }, .ok ())) ∨
    ∃ f, c.handshake read = (c, .error f) := by
  rcases handshake_cases c read with hfail | ⟨raw, s, hm, -, hs, h⟩ | ⟨raw, s, hm, -, hs, hsetup⟩
  · exact .inr hfail
  · obtain ⟨d, hd, rfl⟩ := Session.establish_eq_ok hs
    refine .inl ⟨d, none, hd, by simp [hm], ?_⟩
    rw [h, ← hk]
  · obtain ⟨d, hd, rfl⟩ := Session.establish_eq_ok hs
    rcases hsetup with ⟨f, h⟩ | ⟨key, s', -, hs', h⟩
    · -- the session is cleared, which undoes the handshake
      exact .inr ⟨f, by rw [h, clear_established he hk]⟩
    · obtain ⟨k, rfl⟩ := Session.setSetupKey_eq_ok hs'
      exact .inl ⟨d, some k, hd, by simp [hm], h⟩

/-- Against a device in normal mode, a connection in normal mode with no session and no setup key
that holds the device's guest key establishes the device's nonce. -/
theorem connect_normal {d : Device} (hm : c.mode = .normal) (hdm : d.config.mode = .normal)
    (hd : d.disconnected = false) (hn : d.config.sessionNonce.length = Envelope.sessionNonceSize)
    (he : c.session.established = none) (hsk : c.session.setupKey = none) {k : Key}
    {src : KeySource} (hsrc : c.session.keys = some src) (hk : src.key? .guest = some k)
    (hdk : d.config.keys.key? .guest = some k) :
    c.connect d =
      ({ c with session := { c.session with established := some (.ofNonce d.config.sessionNonce) } },
        .ok ()) := by
  have hkey : c.session.handshakeKey = some k :=
    Session.handshakeKey_eq_some.mpr (.inr ⟨hsk, src, hsrc, hk⟩)
  have hread : d.read .normal .session = .ok (Cipher.Aes.encryptBlock k.bytes
      (padTo Envelope.blockSize (ofUInt32 Session.magic ++ d.config.sessionNonce))) := by
    rw [Device.read_session_normal hd hdm hdk, Session.buildSessionBlock_key hn]
  simp [connect, handshake, hm, hread, Session.establish_sealed he hkey hn]

/-- Against a device in setup mode, a connection in setup mode with no session establishes the
device's nonce and installs the device's setup key. -/
theorem connect_setup {d : Device} (hm : c.mode = .setup) (hdm : d.config.mode = .setup)
    (hd : d.disconnected = false) (hn : d.config.sessionNonce.length = Envelope.sessionNonceSize)
    (he : c.session.established = none) :
    c.connect d = ({ c with session := { c.session with
      established := some (.ofNonce d.config.sessionNonce), setupKey := some d.config.setupKey } },
        .ok ()) := by
  have hread : d.read .setup .session = .ok d.config.sessionNonce := by
    rw [Device.read_session_setup hd hdm, Session.buildSessionBlock_nil hn]
  simp [connect, handshake, hm, hread, Device.read_setupKey_setup hd hdm,
    Session.establish_bare he hn, Session.setSetupKey, Key.ofBytes?_bytes]

end Connection

end Link

open Link in
/-- **The handshake.** A device's handshake data, encrypted under a key or bare, establishes
the device's nonce on a session without a session: the encrypted block when the session's setup
key is that key, or it has no setup key and its key source serves that key as guest key; the bare
nonce always. A connection with no session and no setup key therefore connects to a device
serving its mode with the device's nonce, in normal mode when both hold one guest key, in setup
mode installing the device's setup key. Whatever a peripheral answers, the handshake of such a
connection establishes valid session data, with a setup key exactly in setup mode, or fails and
leaves the connection as it was. -/
theorem handshake_contract :
    (∀ (n : Bytes) (k : Key) (s : Session), n.length = Envelope.sessionNonceSize →
      s.established = none →
      (s.setupKey = some k ∨ s.setupKey = none ∧ ∃ src, s.keys = some src ∧ src.key? .guest = some k) →
      ∃ raw, buildSessionBlock n k.bytes = .ok raw ∧
        s.establish raw true = .ok { s with established := some (.ofNonce n) }) ∧
    (∀ (n : Bytes) (s : Session), n.length = Envelope.sessionNonceSize → s.established = none →
      buildSessionBlock n [] = .ok n ∧
        s.establish n false = .ok { s with established := some (.ofNonce n) }) ∧
    (∀ (c : Connection) (d : Device) (k : Key) (src : KeySource), c.mode = .normal →
      d.config.mode = .normal → d.disconnected = false →
      d.config.sessionNonce.length = Envelope.sessionNonceSize → c.session.established = none →
      c.session.setupKey = none → c.session.keys = some src → src.key? .guest = some k →
      d.config.keys.key? .guest = some k →
      c.connect d = ({ c with session :=
        { c.session with established := some (.ofNonce d.config.sessionNonce) } }, .ok ())) ∧
    (∀ (c : Connection) (d : Device), c.mode = .setup → d.config.mode = .setup →
      d.disconnected = false → d.config.sessionNonce.length = Envelope.sessionNonceSize →
      c.session.established = none →
      c.connect d = ({ c with session := { c.session with
        established := some (.ofNonce d.config.sessionNonce),
        setupKey := some d.config.setupKey } }, .ok ())) ∧
    (∀ (c : Connection) (read : Characteristic → Except Fault Bytes),
      c.session.established = none → c.session.setupKey = none →
      (∃ d key, d.Valid ∧ (c.mode = .setup ↔ key.isSome) ∧
        c.handshake read = ({ c with session :=
          { c.session with established := some d, setupKey := key } }, .ok ())) ∨
      ∃ f, c.handshake read = (c, .error f)) := by
  refine ⟨fun n k s hn hs hk => ?_, fun n s hn hs => ?_,
    fun c d k src hm hdm hd hn he hsk hsrc hk hdk => Connection.connect_normal hm hdm hd hn he hsk
      hsrc hk hdk,
    fun c d hm hdm hd hn he => Connection.connect_setup hm hdm hd hn he,
    fun c read he hsk => Connection.handshake_of_fresh he hsk read⟩
  · exact ⟨_, Session.buildSessionBlock_key hn k,
      Session.establish_sealed hs (Session.handshakeKey_eq_some.mpr hk) hn⟩
  · exact ⟨Session.buildSessionBlock_nil hn, Session.establish_bare hs hn⟩

/-- A connection in setup mode without a session, against a device in setup mode with nonce
`1 2 3 4 5` and the zero setup key: the nonce is established and the setup key installed. -/
theorem handshake_contract_setup_device :
    ([1, 2, 3, 4, 5] : Bytes).length = Envelope.sessionNonceSize ∧
      Link.Connection.connect ⟨.setup, { keys := none, random := [] }⟩
          { config := { mode := .setup, sessionNonce := [1, 2, 3, 4, 5] }, random := fun _ => 0 } =
        (⟨.setup,
          { keys := none, random := [], setupKey := some Key.zero,
            established := some ⟨[1, 2, 3, 4, 5], [1, 2, 3, 4]⟩ }⟩, .ok ()) := by
  have h := handshake_contract.2.2.2.1 ⟨.setup, { keys := none, random := [] }⟩
    { config := { mode := .setup, sessionNonce := [1, 2, 3, 4, 5] }, random := fun _ => 0 } rfl rfl rfl
    rfl rfl
  exact ⟨rfl, h⟩

end StoneLink
