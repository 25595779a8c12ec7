import Matter.Crypto.AesCtr
import Matter.Message.RoundTrip

/-!
# The secure message codec (`pkg/message/codec.go`)

`Codec` encrypts and decrypts the messages of one session direction: AES-128-CCM over the
protocol header and payload with the message header as AAD and the nonce of
`BuildAEADNonce` (Spec 4.8.2, 4.8.3), and optionally privacy obfuscation of the header's
counter and node fields with AES-CTR under the derived privacy key (Spec 4.9.3, 4.9.4).

* `encode` is `Encode` (`codec.go:48-100`), `applyPrivacy` is `applyPrivacy`
  (`codec.go:104-132`); `Encode` also sets the caller's `header.Privacy`, which no modelled
  caller reads back, so `encode` only returns the bytes.
* `decode` is `Decode` (`codec.go:143-196`), split at the point where both privacy paths meet:
  `openFrame` is its second half (nonce, ciphertext, `AESCCM128Decrypt`, protocol header).
  `removePrivacy` is `codec.go:200-226`; Go writes the deobfuscated bytes into `headerBytes`,
  the model returns them.
* The errors `Codec` passes on from `pkg/crypto` are `CodecError.crypto`, its own
  `CodecError.message`.

Results:
* `decode_encode`: for every block cipher, header, protocol header, payload and privacy choice,
  a codec with the same encryption and privacy keys decodes what `encode` produced, given the
  source node ID of the encoder, to the same headers (as the wire carries them) and payload;
* `encode_ok`: `Encode` succeeds for 16-byte keys whenever the protocol header and payload fit
  CCM's two-byte length field; with `decode_encode` this is `secure_codec_round_trip`, for the
  codec `NewCodec` builds.
-/

namespace Matter.Message

open Bytes

/-- The errors of `Codec`: its own, and those of `pkg/crypto` it returns as they are. -/
inductive CodecError
  | message (e : MessageError)
  | crypto (e : Crypto.CryptoError)
  deriving DecidableEq, Repr

/-- `Codec`: the encryption key, the privacy key derived from it, and the node ID the nonces
of outgoing messages carry. -/
structure Codec where
  encryptionKey : List UInt8
  privacyKey : List UInt8
  sourceNodeID : UInt64
  deriving DecidableEq, Repr

/-- `NewCodec(encryptionKey, sourceNodeID)`. -/
def newCodec (kdf : Crypto.HKDF) (encryptionKey : List UInt8) (sourceNodeID : UInt64) :
    Except CodecError Codec :=
  if encryptionKey.length ≠ Crypto.symmetricKeySize then .error (.message .invalidKey)
  else do
    let privacyKey ← (Crypto.derivePrivacyKey kdf encryptionKey).mapError .crypto
    pure { encryptionKey, privacyKey, sourceNodeID }

/-- The codec `NewCodec` builds for a key: the privacy key is HKDF of the key with info
`"PrivacyKey"`. -/
def Codec.ofKey (kdf : Crypto.HKDF) (encryptionKey : List UInt8) (sourceNodeID : UInt64) : Codec :=
  { encryptionKey, sourceNodeID
    privacyKey := kdf encryptionKey [] Crypto.privacyKeyInfo Crypto.symmetricKeySize }

/-- `NewCodec` accepts exactly the 16-byte keys. -/
theorem newCodec_of_length {kdf : Crypto.HKDF} {encryptionKey : List UInt8}
    (h : encryptionKey.length = Crypto.symmetricKeySize) (sourceNodeID : UInt64) :
    newCodec kdf encryptionKey sourceNodeID = .ok (Codec.ofKey kdf encryptionKey sourceNodeID) := by
  simp only [newCodec, h, ne_eq, not_true_eq_false, if_false, Crypto.derivePrivacyKey,
    Except.mapError_ok, Except.ok_bind, Except.pure_eq_ok]
  rfl

namespace Codec

variable (E : Crypto.BlockCipher) (c : Codec)

/-- `applyPrivacy(header, mic)`: the header bytes with the counter and node fields encrypted
by AES-CTR under the privacy nonce. -/
def applyPrivacy (header : MessageHeader) (mic : List UInt8) : Except CodecError (List UInt8) := do
  let headerBytes := header.encode
  let privacyNonce ← (Crypto.buildPrivacyNonce header.sessionID mic).mapError .crypto
  let privacyOffset := header.privacyHeaderOffset
  let privacyLen := header.privacyObfuscatedSize
  if privacyLen = 0 then pure headerBytes
  else do
    let obfuscated ← (Crypto.aesctrEncrypt E c.privacyKey privacyNonce
      ((headerBytes.drop privacyOffset).take privacyLen)).mapError .crypto
    pure (copyAt headerBytes privacyOffset obfuscated)

/-- `Encode(header, protocol, payload, privacy)`: header (obfuscated if `privacy`), then the
AES-CCM ciphertext of protocol header and payload, then the MIC. -/
def encode (header : MessageHeader) (protocol : ProtocolHeader) (payload : List UInt8)
    (privacy : Bool) : Except CodecError (List UInt8) := do
  let header := { header with privacy }
  let plaintext := protocol.encode ++ payload
  let aad := header.encode
  let nonce := Crypto.buildAEADNonce header.securityFlags header.messageCounter c.sourceNodeID
  let ciphertext ← (Crypto.aesccm128Encrypt E c.encryptionKey nonce plaintext aad).mapError
    fun _ => .message .decryptionFailed
  let encryptedPayload := ciphertext.take (ciphertext.length - micSize)
  let mic := ciphertext.drop (ciphertext.length - micSize)
  let headerBytes ← if privacy then c.applyPrivacy E header mic else pure aad
  pure (headerBytes ++ encryptedPayload ++ mic)

/-- `removePrivacy(headerBytes, header, mic)`: the header bytes with the obfuscated fields
decrypted again. -/
def removePrivacy (headerBytes : List UInt8) (header : MessageHeader) (mic : List UInt8) :
    Except CodecError (List UInt8) := do
  let privacyNonce ← (Crypto.buildPrivacyNonce header.sessionID mic).mapError .crypto
  let privacyOffset := header.privacyHeaderOffset
  let privacyLen := header.privacyObfuscatedSize
  if privacyLen = 0 then pure headerBytes
  else do
    let deobfuscated ← (Crypto.aesctrDecrypt E c.privacyKey privacyNonce
      ((headerBytes.drop privacyOffset).take privacyLen)).mapError .crypto
    pure (copyAt headerBytes privacyOffset deobfuscated)

/-- The second half of `Decode` (`codec.go:162-195`): the nonce from the decoded header, AES-CCM
open with the header bytes as AAD, then the protocol header and the payload after it. -/
def openFrame (header : MessageHeader) (headerBytes : List UInt8) (raw : RawFrame)
    (sourceNodeID : UInt64) : Except CodecError Frame := do
  let nonce := Crypto.buildAEADNonce header.securityFlags header.messageCounter sourceNodeID
  let ciphertext := raw.encryptedPayload ++ raw.mic
  let plaintext ← (Crypto.aesccm128Decrypt E c.encryptionKey nonce ciphertext headerBytes).mapError
    fun _ => .message .decryptionFailed
  let (protocol, protocolLen) ← (ProtocolHeader.decode plaintext).mapError .message
  pure { header, protocol,
         payload := if plaintext.length > protocolLen then plaintext.drop protocolLen else [] }

/-- `Decode(data, sourceNodeID)`. With privacy the header is decoded again from its
deobfuscated bytes, which are then the AAD; without, the AAD is the re-encoded header. -/
def decode (data : List UInt8) (sourceNodeID : UInt64) : Except CodecError Frame := do
  let raw ← (decodeRaw data).mapError .message
  if !raw.header.isSecure then throw (.message .decryptionFailed)
  if raw.header.privacy then
    let headerBytes ← c.removePrivacy E (data.take raw.header.size) raw.header raw.mic
    let (header, _) ← (MessageHeader.decode headerBytes).mapError .message
    c.openFrame E header headerBytes raw sourceNodeID
  else
    c.openFrame E raw.header raw.header.encode raw sourceNodeID

/-! ## Privacy round trip -/

variable {E c}

theorem privacyObfuscatedSize_pos (header : MessageHeader) : header.privacyObfuscatedSize ≠ 0 := by
  unfold MessageHeader.privacyObfuscatedSize
  omega

/-- The obfuscated bytes are the header's counter and optional fields, encrypted. -/
theorem drop_take_encode (header : MessageHeader) :
    (header.encode.drop header.privacyHeaderOffset).take header.privacyObfuscatedSize =
      header.obfuscatedFields := by
  conv => lhs; rw [MessageHeader.encode_eq_take_append]
  rw [MessageHeader.privacyHeaderOffset, List.drop_left' (MessageHeader.length_take_encode header),
    ← MessageHeader.length_obfuscatedFields, List.take_length]

/-- What `applyPrivacy` returns: the first four header bytes, then the encrypted fields. -/
theorem applyPrivacy_eq {header : MessageHeader} {mic headerBytes : List UInt8}
    (h : c.applyPrivacy E header mic = .ok headerBytes) :
    ∃ privacyNonce obfuscated,
      Crypto.buildPrivacyNonce header.sessionID mic = .ok privacyNonce ∧
      Crypto.aesctrEncrypt E c.privacyKey privacyNonce header.obfuscatedFields = .ok obfuscated ∧
      headerBytes = header.encode.take 4 ++ obfuscated := by
  unfold applyPrivacy at h
  obtain ⟨privacyNonce, hn, h⟩ := Except.bind_eq_ok.mp h
  simp only [if_neg (privacyObfuscatedSize_pos header)] at h
  obtain ⟨obfuscated, ho, h⟩ := Except.bind_eq_ok.mp h
  rw [Except.mapError_eq_ok] at hn ho
  rw [drop_take_encode] at ho
  cases h
  have hlen := (Crypto.aesctrDecrypt_of_encrypt ho).2
  refine ⟨privacyNonce, obfuscated, hn, ho, copyAt_of_length ?_⟩
  rw [hlen, MessageHeader.length_obfuscatedFields, MessageHeader.length_encode]
  simp [MessageHeader.privacyHeaderOffset, MessageHeader.size, MessageHeader.privacyObfuscatedSize,
    minHeaderSize]
  omega

/-- `removePrivacy` undoes `applyPrivacy` under the same privacy key, for any header read with
the same session ID and flags. -/
theorem removePrivacy_applyPrivacy {c' : Codec} (hkey : c'.privacyKey = c.privacyKey)
    {header header' : MessageHeader} {mic headerBytes : List UInt8}
    (hsid : header'.sessionID = header.sessionID)
    (hsize : header'.privacyObfuscatedSize = header.privacyObfuscatedSize)
    (h : c.applyPrivacy E header mic = .ok headerBytes) :
    c'.removePrivacy E headerBytes header' mic = .ok header.encode := by
  obtain ⟨privacyNonce, obfuscated, hn, ho, rfl⟩ := applyPrivacy_eq h
  obtain ⟨hdec, hlen⟩ := Crypto.aesctrDecrypt_of_encrypt ho
  have h4 := MessageHeader.length_take_encode header
  have hfield : ((header.encode.take 4 ++ obfuscated).drop 4).take header'.privacyObfuscatedSize =
      obfuscated := by
    rw [List.drop_left' h4, hsize, ← MessageHeader.length_obfuscatedFields, ← hlen, List.take_length]
  unfold removePrivacy
  simp only [MessageHeader.privacyHeaderOffset]
  rw [hsid, hn, Except.mapError_ok, Except.ok_bind, if_neg (privacyObfuscatedSize_pos header'),
    hfield, hkey, hdec, Except.mapError_ok, Except.ok_bind, Except.pure_eq_ok]
  -- the decrypted fields go back where they were, after the four clear bytes
  rw [copyAt_of_length (by rw [List.length_append, h4, hlen]), List.take_left' h4,
    ← MessageHeader.encode_eq_take_append]

/-! ## Codec round trip -/

/-- The payload `Decode` cuts off after the protocol header is the one `Encode` put there. -/
theorem payload_after_protocol (protocol : ProtocolHeader) (payload : List UInt8) :
    (if (protocol.encode ++ payload).length > protocol.size then
        (protocol.encode ++ payload).drop protocol.size else []) = payload := by
  rw [← ProtocolHeader.length_encode, List.drop_left]
  split
  · rfl
  · rename_i hlen
    simp only [List.length_append, gt_iff_lt, Nat.lt_add_right_iff_pos, Nat.not_lt,
      Nat.le_zero, List.length_eq_zero_iff] at hlen
    exact hlen.symm

/-- The second half of `Decode` opens what `Encode` sealed, given the AAD it was sealed with
and the header it was sealed for. -/
theorem openFrame_of_encrypt (hE : E.Sized) {c' : Codec} (hkey : c'.encryptionKey = c.encryptionKey)
    {hdr : MessageHeader} {protocol : ProtocolHeader} {payload ct : List UInt8} {raw : RawFrame}
    {sourceNodeID : UInt64}
    (hct : Crypto.aesccm128Encrypt E c.encryptionKey
      (Crypto.buildAEADNonce hdr.securityFlags hdr.messageCounter sourceNodeID)
      (protocol.encode ++ payload) hdr.encode = .ok ct)
    (hraw : raw.encryptedPayload ++ raw.mic = ct) :
    c'.openFrame E hdr.normalize hdr.encode raw sourceNodeID =
      .ok { header := hdr.normalize, protocol := protocol.normalize, payload } := by
  simp only [openFrame, MessageHeader.securityFlags_normalize,
    MessageHeader.messageCounter_normalize, hraw, hkey]
  rw [(Crypto.aesccm128Decrypt_of_encrypt hE hct).1, Except.mapError_ok, Except.ok_bind,
    ProtocolHeader.decode_encode_append, Except.mapError_ok, Except.ok_bind,
    payload_after_protocol, Except.pure_eq_ok]

/-- **The codec round trip.** A codec with the same encryption and privacy keys decodes what
`Encode` produced, with the encoder's source node ID for the nonce, to the header it sent (with
its privacy flag, as the wire carries it), the protocol header as the wire carries it, and the
payload: with and without privacy, for every block cipher. -/
theorem decode_encode (hE : E.Sized) {c' : Codec} (hkey : c'.encryptionKey = c.encryptionKey)
    (hpriv : c'.privacyKey = c.privacyKey) {header : MessageHeader} {protocol : ProtocolHeader}
    {payload wire : List UInt8} {privacy : Bool} (hs : header.isSecure = true)
    (h : c.encode E header protocol payload privacy = .ok wire) :
    c'.decode E wire c.sourceNodeID =
      .ok { header := { header with privacy }.normalize, protocol := protocol.normalize,
            payload } := by
  simp only [encode] at h
  obtain ⟨ct, hct, h⟩ := Except.bind_eq_ok.mp h
  rw [Except.mapError_eq_ok] at hct
  generalize hhdr : ({ header with privacy } : MessageHeader) = hdr at hct h
  have hsec : hdr.isSecure = true := by
    rw [← hhdr]
    exact hs
  have hctr : header.messageCounter = hdr.messageCounter := by rw [← hhdr]
  rw [hctr] at hct
  -- the last `MICSize` bytes of the ciphertext are the MIC
  have hmic : (ct.drop (ct.length - micSize)).length = micSize := by
    have hlen := (Crypto.aesccm128Decrypt_of_encrypt hE hct).2
    simp only [List.length_drop, micSize]
    omega
  have hraw := List.take_append_drop (ct.length - micSize) ct
  cases privacy with
  | false =>
    -- without privacy the header goes out as its encoding and is re-encoded as the AAD
    have hp : hdr.privacy = false := by rw [← hhdr]
    simp only [Bool.false_eq_true, if_false, Except.pure_eq_ok, Except.ok_bind] at h
    cases h
    unfold decode
    rw [decodeRaw_encode_append hdr hsec _ _ hmic, Except.mapError_ok, Except.ok_bind]
    simp only [MessageHeader.isSecure_normalize, hsec, Bool.not_true, Bool.false_eq_true, if_false,
      MessageHeader.privacy_normalize, hp, MessageHeader.encode_normalize]
    exact openFrame_of_encrypt hE hkey hct hraw
  | true =>
    -- with privacy the obfuscated bytes still parse as a header of the same shape
    have hp : hdr.privacy = true := by rw [← hhdr]
    simp only [if_true] at h
    obtain ⟨headerBytes, hhb, h⟩ := Except.bind_eq_ok.mp h
    cases h
    obtain ⟨privacyNonce, obfuscated, hn, ho, rfl⟩ := applyPrivacy_eq hhb
    have hlen := (Crypto.aesctrDecrypt_of_encrypt ho).2
    have hwo : hdr.encode.take 4 ++ obfuscated = (hdr.withObfuscated obfuscated).encode :=
      (MessageHeader.encode_withObfuscated
        (by rw [hlen, MessageHeader.length_obfuscatedFields])).symm
    have htake : ((hdr.withObfuscated obfuscated).encode ++ ct.take (ct.length - micSize) ++
        ct.drop (ct.length - micSize)).take (hdr.withObfuscated obfuscated).normalize.size =
          hdr.encode.take 4 ++ obfuscated := by
      rw [MessageHeader.size_normalize, ← MessageHeader.length_encode, List.append_assoc,
        List.take_left, hwo]
    have hremove := @removePrivacy_applyPrivacy E c c' hpriv hdr
      (hdr.withObfuscated obfuscated).normalize _ _ rfl rfl hhb
    unfold decode
    rw [hwo, decodeRaw_encode_append _ (by simp [hsec]) _ _ hmic, Except.mapError_ok,
      Except.ok_bind]
    simp only [MessageHeader.isSecure_normalize, MessageHeader.isSecure_withObfuscated, hsec,
      Bool.not_true, Bool.false_eq_true, if_false, MessageHeader.privacy_normalize,
      MessageHeader.privacy_withObfuscated, hp, if_true]
    rw [htake, hremove, Except.ok_bind, MessageHeader.decode_encode, Except.mapError_ok,
      Except.ok_bind]
    exact openFrame_of_encrypt hE hkey hct hraw

/-! ## `Encode` succeeds -/

/-- `BuildAEADNonce` is the 13-byte CCM nonce. -/
theorem length_buildAEADNonce (securityFlags : UInt8) (messageCounter : UInt32)
    (sourceNodeID : UInt64) :
    (Crypto.buildAEADNonce securityFlags messageCounter sourceNodeID).length =
      Crypto.aesccmNonceSize := by
  simp [Crypto.buildAEADNonce, Crypto.aesccmNonceSize]

/-- `applyPrivacy` succeeds under a 16-byte privacy key for every 16-byte MIC. -/
theorem applyPrivacy_ok (hpriv : c.privacyKey.length = Crypto.aesctrKeySize)
    (header : MessageHeader) {mic : List UInt8} (hmic : mic.length = Crypto.micSize) :
    ∃ headerBytes, c.applyPrivacy E header mic = .ok headerBytes := by
  obtain ⟨nonce, hn, hnlen⟩ := Crypto.buildPrivacyNonce_ok header.sessionID hmic
  obtain ⟨obfuscated, ho⟩ := Crypto.aesctrEncrypt_ok E hpriv hnlen
    ((header.encode.drop header.privacyHeaderOffset).take header.privacyObfuscatedSize)
  simp only [applyPrivacy, hn, Except.mapError_ok, Except.ok_bind,
    if_neg (privacyObfuscatedSize_pos header), ho]
  exact ⟨_, rfl⟩

/-- `Encode` succeeds for a codec with 16-byte keys whenever the protocol header and the
payload fit CCM's two-byte length field. -/
theorem encode_ok (hE : E.Sized) (hkey : c.encryptionKey.length = Crypto.aesccmKeySize)
    (hpriv : c.privacyKey.length = Crypto.aesctrKeySize) (header : MessageHeader)
    (protocol : ProtocolHeader) (payload : List UInt8) (privacy : Bool)
    (hlen : (protocol.encode ++ payload).length < 2 ^ 16) :
    ∃ wire, c.encode E header protocol payload privacy = .ok wire := by
  obtain ⟨ct, hct, hctlen⟩ := Crypto.aesccm128Encrypt_ok hE hkey
    (length_buildAEADNonce ({ header with privacy } : MessageHeader).securityFlags
      header.messageCounter c.sourceNodeID) hlen ({ header with privacy } : MessageHeader).encode
  -- the MIC is the last 16 bytes of the CCM output
  have hmic : (ct.drop (ct.length - micSize)).length = Crypto.micSize := by
    simp only [List.length_drop, hctlen, micSize, Crypto.micSize]
    omega
  simp only [encode, hct, Except.mapError_ok, Except.ok_bind]
  cases privacy with
  | false => exact ⟨_, rfl⟩
  | true =>
    obtain ⟨headerBytes, hhb⟩ :=
      applyPrivacy_ok hpriv ({ header with privacy := true } : MessageHeader) hmic
    simp only [if_true]
    rw [hhb]
    exact ⟨_, rfl⟩

end Codec

end Matter.Message
