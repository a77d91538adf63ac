import StoneLink.Cipher.Aes
import StoneLink.Cipher.Ctr
import StoneLink.Key.Basic

/-!
# Session envelopes

An envelope carries one encrypted message of a connection:

  packet nonce (3) | access level (1) | AES-CTR(validation key (4) ++ payload, zero padded)

The counter starts at the packet nonce followed by the session nonce and zeros. The validation
key is a secret of the session; a receiver checks it to tell a good key from a wrong one. The
padding brings the encrypted part to a whole number of blocks and is not removed on opening,
since the envelope does not say how long the payload was. Level `encryptionDisabled` sends the
payload as it is.
-/

namespace StoneLink.Envelope

/-- The bytes of a cipher block and of a key. -/
def blockSize : Nat := 16
/-- The bytes of the session nonce. -/
def sessionNonceSize : Nat := 5
/-- The bytes of the validation key. -/
def validationKeySize : Nat := 4
/-- The bytes of the packet nonce. -/
def packetNonceSize : Nat := 3
/-- The bytes in front of the encrypted part. -/
def headerSize : Nat := 4

/-- AES-128 in counter mode from a sixteen-byte initial block. -/
def aesCtr (key iv data : Bytes) : Except Fault Bytes :=
  if key.length = blockSize then .ok (Cipher.Ctr.apply (Cipher.Aes.encryptBlock key) iv data)
  else .error (.because .badInput)

/-- One block through AES, encrypting or decrypting; an empty key leaves the block as it is. -/
def ecb (encrypt : Bool) (key block : Bytes) : Except Fault Bytes :=
  if block.length ≠ blockSize then .error (.because .badInput)
  else if key.isEmpty then .ok block
  else if key.length ≠ blockSize then .error (.because .badInput)
  else if encrypt then .ok (Cipher.Aes.encryptBlock key block)
  else .ok (Cipher.Aes.decryptBlock key block)

/-- The initial counter block of an envelope: packet nonce, session nonce, zeros. -/
def buildIV (packetNonce sessionNonce : Bytes) : Except Fault Bytes :=
  if packetNonce.length = packetNonceSize ∧ sessionNonce.length = sessionNonceSize then
    .ok (Bytes.padTo blockSize (packetNonce ++ sessionNonce))
  else .error (.because .badInput)

/-- The initial counter block of a nonce of one to sixteen bytes, zero padded. -/
def ivOfNonce (nonce : Bytes) : Except Fault Bytes :=
  if nonce.isEmpty ∨ blockSize < nonce.length then .error (.because .badInput)
  else .ok (Bytes.padTo blockSize nonce)

/-- The plain-text envelope: the payload itself, which must not be empty. -/
def passthrough (payload : Bytes) : Except Fault Bytes :=
  if payload.isEmpty then .error (.because .badInput) else .ok payload

/-- The length rounded up to a whole number of blocks. -/
def paddedLength (n : Nat) : Nat := (n + blockSize - 1) / blockSize * blockSize

/-- Whether the inputs of an encryption have their sizes. -/
def inputsFit (payload sessionNonce validationKey key : Bytes) : Bool :=
  !payload.isEmpty && sessionNonce.length == sessionNonceSize &&
    validationKey.length == validationKeySize && key.length == blockSize

/-- Encrypts a payload with a given packet nonce. -/
def encryptWithNonce (packetNonce payload sessionNonce validationKey key : Bytes)
    (level : AccessLevel) : Except Fault Bytes :=
  if level = .encryptionDisabled then passthrough payload
  else if !inputsFit payload sessionNonce validationKey key then .error (.because .badInput)
  else do
    let iv ← buildIV packetNonce sessionNonce
    let plain := validationKey ++ payload
    let body ← aesCtr key iv (Bytes.padTo (paddedLength plain.length) plain)
    pure (packetNonce ++ [level.code] ++ body)

/-- Reads exactly `n` bytes from the front of a byte source, returning the rest. An empty source
ends the input; a source with fewer bytes is used up and ends in the middle. -/
def readExactly (n : Nat) (source : Bytes) : Except Fault Bytes × Bytes :=
  if n ≤ source.length then (.ok (source.take n), source.drop n)
  else if source.isEmpty then (.error (.because .endOfInput), source)
  else (.error (.because .unexpectedEnd), [])

/-- Encrypts a payload, drawing the packet nonce from a byte source; returns the envelope and
what is left of the source. Plain text and bad inputs draw nothing. -/
def encrypt (source payload sessionNonce validationKey key : Bytes) (level : AccessLevel) :
    Except Fault Bytes × Bytes :=
  if level = .encryptionDisabled then (passthrough payload, source)
  else if !inputsFit payload sessionNonce validationKey key then
    (.error (.because .badInput), source)
  else
    match readExactly packetNonceSize source with
    | (.ok nonce, rest) =>
      (encryptWithNonce nonce payload sessionNonce validationKey key level, rest)
    | (.error e, rest) => (.error e, rest)

/-- Opens an envelope with the key its level names in a key source, checks the validation key,
and returns the padded payload. -/
def decrypt (envelope sessionNonce validationKey : Bytes) (source : Option KeySource) :
    Except Fault Bytes :=
  if envelope.length < headerSize + blockSize ∨
      (envelope.length - headerSize) % blockSize ≠ 0 then
    .error (.because .badInput)
  else if validationKey.length ≠ validationKeySize then .error (.because .badInput)
  else do
    let iv ← buildIV (envelope.take packetNonceSize) sessionNonce
    let level : AccessLevel := ⟨envelope.getD packetNonceSize 0⟩
    let some src := source | .error (.because .noKeyForLevel)
    let some key := src.key? level | .error (.because .noKeyForLevel)
    let plain ← aesCtr key.bytes iv (envelope.drop headerSize)
    if plain.take validationKeySize = validationKey then pure (plain.drop validationKeySize)
    else .error (.because .validationMismatch)

/-- The access level an envelope names. -/
def levelOf (envelope : Bytes) : Except Fault AccessLevel :=
  if envelope.length < headerSize then .error (.because .badInput)
  else .ok ⟨envelope.getD packetNonceSize 0⟩

end StoneLink.Envelope
