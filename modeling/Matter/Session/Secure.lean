import Matter.Message.Codec
import Matter.Message.ReplayWindow

/-!
# Secure session contexts (`pkg/session/secure.go`)

A `SecureContext` is one side of a PASE or CASE session: the two session IDs, the two
direction keys, a codec for each direction, the outgoing message counter and the replay window
of incoming counters.

* `newSecureContext` is `NewSecureContext` (`secure.go:103-200`): it checks the configuration
  in the source's order, then picks the keys by role (the initiator encrypts with the I2R key
  and decrypts with the R2I key, the responder the other way round) and the node IDs that go
  into nonces (zero for PASE). `NewSessionCounter` starts at a random value in `[1, 2^28]`; the
  model takes that value as the argument `initialCounter`.
* `encrypt` and `decrypt` are `Encrypt` and `Decrypt` (`secure.go:264-326`). Both mutate the
  context, so they return the new context with the result, also on failure: `Encrypt` has used
  up a counter value once `Next` succeeded, whatever happens after.

Timestamps, MRP parameters and the resumption ID are left out: nothing modelled reads them.

Results:
* `decrypt_error`: a message `Decrypt` rejects, for a failed authentication or as a replay,
  leaves the reception state as it was.
-/

namespace Matter.Session

open Matter.Message

/-- `SessionType`. -/
inductive SessionType
  | unknown
  | pase
  | case
  deriving DecidableEq, Repr

/-- `SessionType.IsValid()`. -/
def SessionType.isValid (t : SessionType) : Bool := t == .pase || t == .case

/-- `SessionRole`. -/
inductive SessionRole
  | unknown
  | initiator
  | responder
  deriving DecidableEq, Repr

/-- `SessionRole.IsValid()`. -/
def SessionRole.isValid (r : SessionRole) : Bool := r == .initiator || r == .responder

/-- The errors of `errors.go`, and those of the codec that `NewSecureContext` and `Encrypt`
pass on. -/
inductive SessionError
  | invalidSessionType
  | invalidRole
  | invalidKey
  | invalidSessionID
  | sessionNotFound
  | sessionTableFull
  | sessionIDExhausted
  | duplicateSession
  | counterExhausted
  | replayDetected
  | decryptionFailed
  | groupPeerTableFull
  | invalidNodeID
  | codec (e : CodecError)
  deriving DecidableEq, Repr

/-- `SessionKeySize`. -/
def sessionKeySize : Nat := 16

/-- `MaxCATCount`. -/
def maxCATCount : Nat := 3

/-- `SecureContextConfig`. -/
structure SecureContextConfig where
  sessionType : SessionType
  role : SessionRole
  localSessionID : UInt16
  peerSessionID : UInt16
  i2rKey : List UInt8
  r2iKey : List UInt8
  sharedSecret : List UInt8
  fabricIndex : UInt8
  peerNodeID : UInt64
  localNodeID : UInt64
  caseAuthTags : List UInt32
  deriving DecidableEq, Repr

/-- `SecureContext`. -/
structure SecureContext where
  sessionType : SessionType
  role : SessionRole
  localSessionID : UInt16
  peerSessionID : UInt16
  i2rKey : List UInt8
  r2iKey : List UInt8
  sharedSecret : List UInt8
  encryptCodec : Codec
  decryptCodec : Codec
  localCounter : SessionCounter
  receptionState : ReceptionState
  fabricIndex : UInt8
  peerNodeID : UInt64
  localNodeID : UInt64
  caseAuthTags : List UInt32
  deriving DecidableEq, Repr

/-- `NewSecureContext(config)`, the outgoing counter starting at `initialCounter`. -/
def newSecureContext (kdf : Crypto.HKDF) (config : SecureContextConfig) (initialCounter : UInt32) :
    Except SessionError SecureContext :=
  if !config.sessionType.isValid then .error .invalidSessionType
  else if !config.role.isValid then .error .invalidRole
  else if config.localSessionID = 0 then .error .invalidSessionID
  else if config.i2rKey.length ≠ sessionKeySize then .error .invalidKey
  else if config.r2iKey.length ≠ sessionKeySize then .error .invalidKey
  else
    let localNodeIDForNonce := if config.sessionType = .pase then 0 else config.localNodeID
    let peerNodeIDForNonce := if config.sessionType = .pase then 0 else config.peerNodeID
    let codecs : Except CodecError (Codec × Codec) :=
      if config.role = .initiator then do
        let encryptCodec ← newCodec kdf config.i2rKey localNodeIDForNonce
        let decryptCodec ← newCodec kdf config.r2iKey peerNodeIDForNonce
        pure (encryptCodec, decryptCodec)
      else do
        let encryptCodec ← newCodec kdf config.r2iKey localNodeIDForNonce
        let decryptCodec ← newCodec kdf config.i2rKey peerNodeIDForNonce
        pure (encryptCodec, decryptCodec)
    match codecs with
    | .error e => .error (.codec e)
    | .ok (encryptCodec, decryptCodec) =>
      .ok { sessionType := config.sessionType
            role := config.role
            localSessionID := config.localSessionID
            peerSessionID := config.peerSessionID
            i2rKey := config.i2rKey
            r2iKey := config.r2iKey
            sharedSecret := config.sharedSecret
            encryptCodec, decryptCodec
            localCounter := newSessionCounterWithValue initialCounter
            receptionState := newReceptionStateEmpty
            fabricIndex := config.fabricIndex
            peerNodeID := config.peerNodeID
            localNodeID := config.localNodeID
            caseAuthTags := config.caseAuthTags.take maxCATCount }

namespace SecureContext

variable (E : Crypto.BlockCipher) (s : SecureContext)

/-- `Encrypt(header, protocol, payload, privacy)`: the next counter and the peer's session ID
go into the header, then the encrypting codec runs. -/
def encrypt (header : MessageHeader) (protocol : ProtocolHeader) (payload : List UInt8)
    (privacy : Bool) : Except SessionError (List UInt8) × SecureContext :=
  match s.localCounter.next with
  | none => (.error .counterExhausted, s)
  | some (counter, localCounter) =>
    let header := { header with sessionID := s.peerSessionID, messageCounter := counter }
    ((s.encryptCodec.encode E header protocol payload privacy).mapError .codec,
      { s with localCounter })

/-- `Decrypt(data)`: the decrypting codec with the peer's node ID for the nonce (zero for
PASE), then the replay check. -/
def decrypt (data : List UInt8) : Except SessionError Frame × SecureContext :=
  let peerNodeIDForNonce := if s.sessionType = .pase then 0 else s.peerNodeID
  match s.decryptCodec.decode E data peerNodeIDForNonce with
  | .error _ => (.error .decryptionFailed, s)
  | .ok frame =>
    let (accepted, receptionState) := s.receptionState.checkAndAccept frame.header.messageCounter false
    if !accepted then (.error .replayDetected, { s with receptionState })
    else (.ok frame, { s with receptionState })

/-! ## One call -/

variable {E s}

/-- What `NewSecureContext` builds from a configuration it accepts: the configuration's fields,
a codec per direction keyed by role, a fresh counter at `initialCounter` and an empty replay
window. -/
theorem newSecureContext_eq {kdf : Crypto.HKDF} {config : SecureContextConfig} {v : UInt32}
    {s : SecureContext} (h : newSecureContext kdf config v = .ok s) :
    config.sessionType ≠ .unknown ∧ config.localSessionID ≠ 0 ∧
      s.sessionType = config.sessionType ∧ s.localSessionID = config.localSessionID ∧
      s.peerSessionID = config.peerSessionID ∧ s.peerNodeID = config.peerNodeID ∧
      s.localCounter = newSessionCounterWithValue v ∧ s.receptionState = newReceptionStateEmpty ∧
      s.encryptCodec = Codec.ofKey kdf
        (if config.role = .initiator then config.i2rKey else config.r2iKey)
        (if config.sessionType = .pase then 0 else config.localNodeID) ∧
      s.decryptCodec = Codec.ofKey kdf
        (if config.role = .initiator then config.r2iKey else config.i2rKey)
        (if config.sessionType = .pase then 0 else config.peerNodeID) := by
  -- each check passed, or `h` would be an error
  have ht : config.sessionType.isValid = true := by
    cases hv : config.sessionType.isValid with
    | true => rfl
    | false => simp [newSecureContext, hv] at h
  have hr : config.role.isValid = true := by
    cases hv : config.role.isValid with
    | true => rfl
    | false => simp [newSecureContext, ht, hv] at h
  have hl : config.localSessionID ≠ 0 := by
    intro hc
    simp [newSecureContext, ht, hr, hc] at h
  have hi' : config.i2rKey.length = sessionKeySize := by
    by_contra hc
    simp [newSecureContext, ht, hr, hl, hc] at h
  have hr2' : config.r2iKey.length = sessionKeySize := by
    by_contra hc
    simp [newSecureContext, ht, hr, hl, hi', hc] at h
  have hvalid : config.sessionType ≠ .unknown := by
    intro hu
    simp [hu, SessionType.isValid] at ht
  have hi : config.i2rKey.length = Crypto.symmetricKeySize := hi'
  have hr2 : config.r2iKey.length = Crypto.symmetricKeySize := hr2'
  simp only [newSecureContext, ht, hr, hl, hi', hr2', Bool.not_true, Bool.false_eq_true, if_false,
    ne_eq, not_true_eq_false] at h
  -- the codecs are keyed by role
  by_cases hrole : config.role = .initiator
  · simp only [hrole, if_true, newCodec_of_length hi, newCodec_of_length hr2, Except.ok_bind,
      Except.pure_eq_ok] at h
    cases h
    exact ⟨hvalid, hl, rfl, rfl, rfl, rfl, rfl, rfl, by simp [hrole], by simp [hrole]⟩
  · simp only [hrole, if_false, newCodec_of_length hi, newCodec_of_length hr2, Except.ok_bind,
      Except.pure_eq_ok] at h
    cases h
    exact ⟨hvalid, hl, rfl, rfl, rfl, rfl, rfl, rfl, by simp [hrole], by simp [hrole]⟩

/-- `NewSecureContext` keeps the configuration's role and keys. -/
theorem newSecureContext_fields {kdf : Crypto.HKDF} {config : SecureContextConfig} {v : UInt32}
    {s : SecureContext} (h : newSecureContext kdf config v = .ok s) :
    s.role = config.role ∧ s.i2rKey = config.i2rKey ∧ s.r2iKey = config.r2iKey := by
  unfold newSecureContext at h
  dsimp only at h
  -- past the checks, only the codecs can fail; the context is built from the configuration
  split_ifs at h
  all_goals
    split at h
    · cases h
    · cases h
      exact ⟨rfl, rfl, rfl⟩

/-- `NewSecureContext` accepts a configuration of a valid type and role, with a nonzero local
session ID and 16-byte keys. -/
theorem newSecureContext_isOk {kdf : Crypto.HKDF} {config : SecureContextConfig} (v : UInt32)
    (ht : config.sessionType.isValid = true) (hr : config.role.isValid = true)
    (hl : config.localSessionID ≠ 0) (hi : config.i2rKey.length = sessionKeySize)
    (hr2 : config.r2iKey.length = sessionKeySize) :
    ∃ s, newSecureContext kdf config v = .ok s := by
  have hi' : config.i2rKey.length = Crypto.symmetricKeySize := hi
  have hr2' : config.r2iKey.length = Crypto.symmetricKeySize := hr2
  simp only [newSecureContext, ht, hr, hl, hi, hr2, Bool.not_true, Bool.false_eq_true, if_false,
    ne_eq, not_true_eq_false]
  -- both codecs are built, whichever key each direction takes
  by_cases hrole : config.role = .initiator
  · simp only [hrole, if_true, newCodec_of_length hi', newCodec_of_length hr2', Except.ok_bind,
      Except.pure_eq_ok]
    exact ⟨_, rfl⟩
  · simp only [hrole, if_false, newCodec_of_length hi', newCodec_of_length hr2', Except.ok_bind,
      Except.pure_eq_ok]
    exact ⟨_, rfl⟩

/-- `Encrypt` after a successful `Next`: the codec's output for the header with the peer's
session ID and the counter, and the counter moved on. -/
theorem encrypt_of_next {counter : UInt32} {localCounter : SessionCounter}
    (h : s.localCounter.next = some (counter, localCounter)) (header : MessageHeader)
    (protocol : ProtocolHeader) (payload : List UInt8) (privacy : Bool) :
    s.encrypt E header protocol payload privacy =
      ((s.encryptCodec.encode E { header with sessionID := s.peerSessionID, messageCounter := counter }
          protocol payload privacy).mapError .codec, { s with localCounter }) := by
  simp only [encrypt, h]

/-- An exhausted counter fails `Encrypt` and changes nothing. -/
theorem encrypt_of_exhausted (h : s.localCounter.exhausted = true) (header : MessageHeader)
    (protocol : ProtocolHeader) (payload : List UInt8) (privacy : Bool) :
    s.encrypt E header protocol payload privacy = (.error .counterExhausted, s) := by
  simp only [encrypt, SessionCounter.next, h, if_true]

/-- `Decrypt` of bytes the codec authenticates: the replay check decides, and only the
reception state changes. -/
theorem decrypt_of_decode {data : List UInt8} {frame : Frame}
    (h : s.decryptCodec.decode E data (if s.sessionType = .pase then 0 else s.peerNodeID) =
      .ok frame) :
    s.decrypt E data =
      (if (s.receptionState.checkAndAccept frame.header.messageCounter false).1 then .ok frame
        else .error .replayDetected,
       { s with receptionState :=
          (s.receptionState.checkAndAccept frame.header.messageCounter false).2 }) := by
  simp only [decrypt, h]
  cases (s.receptionState.checkAndAccept frame.header.messageCounter false).1 <;> rfl

/-- `Decrypt` changes nothing but the reception state. -/
theorem decrypt_keeps (data : List UInt8) :
    (s.decrypt E data).2.decryptCodec = s.decryptCodec ∧
      (s.decrypt E data).2.sessionType = s.sessionType ∧
      (s.decrypt E data).2.peerNodeID = s.peerNodeID := by
  cases hd : s.decryptCodec.decode E data (if s.sessionType = .pase then 0 else s.peerNodeID) with
  | error _ => simp only [decrypt, hd, and_self]
  | ok frame =>
    rw [decrypt_of_decode hd]
    exact ⟨rfl, rfl, rfl⟩

/-- **A rejected message leaves the reception state as it was**, whether it failed to
authenticate or was a replay. -/
theorem decrypt_error {data : List UInt8} {e : SessionError} (h : (s.decrypt E data).1 = .error e) :
    (s.decrypt E data).2.receptionState = s.receptionState := by
  cases hd : s.decryptCodec.decode E data (if s.sessionType = .pase then 0 else s.peerNodeID) with
  | error _ => simp only [decrypt, hd]
  | ok frame =>
    rw [decrypt_of_decode hd] at h ⊢
    cases hacc : (s.receptionState.checkAndAccept frame.header.messageCounter false).1 with
    | true =>
      rw [hacc] at h
      cases h
    | false => exact checkAndAccept_refused hacc

/-! ## Replays -/

/-- A successful `Decrypt` authenticated the bytes, and its counter counts as seen afterwards. -/
theorem decrypt_ok {data : List UInt8} {frame : Frame} {s' : SecureContext}
    (h : s.decrypt E data = (.ok frame, s')) :
    s.decryptCodec.decode E data (if s.sessionType = .pase then 0 else s.peerNodeID) = .ok frame ∧
      s'.receptionState.Seen frame.header.messageCounter := by
  cases hd : s.decryptCodec.decode E data (if s.sessionType = .pase then 0 else s.peerNodeID) with
  | error _ =>
    simp only [decrypt, hd] at h
    cases h
  | ok frame' =>
    rw [decrypt_of_decode hd] at h
    cases hacc : (s.receptionState.checkAndAccept frame'.header.messageCounter false).1 with
    | false =>
      rw [hacc] at h
      cases h
    | true =>
      rw [hacc, if_pos rfl, Prod.mk.injEq] at h
      obtain ⟨hf, rfl⟩ := h
      cases hf
      exact ⟨rfl, seen_checkAndAccept_self hacc⟩

/-- A counter seen stays seen through every `Decrypt`. -/
theorem seen_decrypt {c : UInt32} (h : s.receptionState.Seen c) (data : List UInt8) :
    (s.decrypt E data).2.receptionState.Seen c := by
  cases hd : s.decryptCodec.decode E data (if s.sessionType = .pase then 0 else s.peerNodeID) with
  | error _ =>
    simp only [decrypt, hd]
    exact h
  | ok frame =>
    rw [decrypt_of_decode hd]
    exact seen_checkAndAccept h _

/-- **A replay is refused, and changes nothing**: bytes that authenticate to a frame whose
counter was seen. -/
theorem decrypt_of_seen {data : List UInt8} {frame : Frame}
    (hd : s.decryptCodec.decode E data (if s.sessionType = .pase then 0 else s.peerNodeID) =
      .ok frame)
    (h : s.receptionState.Seen frame.header.messageCounter) :
    s.decrypt E data = (.error .replayDetected, s) := by
  have hacc := checkAndAccept_of_seen h
  rw [decrypt_of_decode hd, hacc, checkAndAccept_refused hacc]
  rfl

/-! ## How a session changes -/

/-- `s'` is `s` after encryptions and decryptions: it decrypts as `s` does, and every counter
`s` has seen it has seen too. -/
structure Evolves (s s' : SecureContext) : Prop where
  decryptCodec : s'.decryptCodec = s.decryptCodec
  sessionType : s'.sessionType = s.sessionType
  peerNodeID : s'.peerNodeID = s.peerNodeID
  seen : ∀ c, s.receptionState.Seen c → s'.receptionState.Seen c

theorem Evolves.refl (s : SecureContext) : s.Evolves s := ⟨rfl, rfl, rfl, fun _ h => h⟩

theorem Evolves.trans {s₁ s₂ s₃ : SecureContext} (h₁ : s₁.Evolves s₂) (h₂ : s₂.Evolves s₃) :
    s₁.Evolves s₃ :=
  ⟨h₂.decryptCodec.trans h₁.decryptCodec, h₂.sessionType.trans h₁.sessionType,
    h₂.peerNodeID.trans h₁.peerNodeID, fun c h => h₂.seen c (h₁.seen c h)⟩

/-- `Encrypt` moves only the outgoing counter. -/
theorem evolves_encrypt (header : MessageHeader) (protocol : ProtocolHeader)
    (payload : List UInt8) (privacy : Bool) : s.Evolves (s.encrypt E header protocol payload privacy).2 := by
  unfold encrypt
  split
  · exact Evolves.refl s
  · exact ⟨rfl, rfl, rfl, fun _ h => h⟩

/-- `Decrypt` moves only the replay window, which keeps what it has seen. -/
theorem evolves_decrypt (data : List UInt8) : s.Evolves (s.decrypt E data).2 :=
  let ⟨hc, ht, hp⟩ := decrypt_keeps (E := E) (s := s) data
  ⟨hc, ht, hp, fun _ h => seen_decrypt h data⟩

end SecureContext

end Matter.Session
