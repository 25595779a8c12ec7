import Matter.Crypto.AesCcm
import Matter.Crypto.AesCtr
import Matter.Lib.Bytes

/-!
# CASE key schedule (`pkg/securechannel/case/keys.go`, `destinationid.go`)

The keys of a CASE handshake are HKDF-SHA256 of the ECDH shared secret, salted with the IPK and
a hash of the transcript. Everything here is the repository's own code except the primitives
it calls from Go's standard library and `x/crypto`, which are the fields of `Primitives`:
SHA-256, HMAC-SHA256, HKDF-SHA256, the AES block and P-256. AES-128-CCM is the repository's
own (`Crypto.aesccm128Encrypt`), so that `DecryptTBEData` inverts `EncryptTBEData` is proved
here, not assumed.

* A P-256 key pair is its private key: `p256PublicKey` is `P256PublicKey()`, the 65-byte
  uncompressed point, which each `copy` into a `[65]byte` keeps whole; `p256Verify` is true when
  `P256Verify` returns no error and `valid`.
* `hkdf` returns the bytes asked for (its reader fails only past 255 blocks), so the derivations
  return their key, and `DeriveSessionKeys` cuts its 48 bytes in three.
* `operationalIPK` is what both roles do with `DeriveGroupOperationalKeyV1`
  (`crypto/group.go:53-63`): its error is ignored and the `[16]byte` stays zero.

Results:
* `decryptTBEData_of_encrypt`: `DecryptTBEData` recovers what `EncryptTBEData` sealed.
* `computeResumeMIC_ok`, `verifyResumeMIC_of_eq`: under a 16-byte key the MIC is computed, and
  `VerifyResumeMIC` accepts the MIC the other side computed from the same key.
-/

namespace Matter.Case

open Crypto

/-- The primitives CASE takes from outside the repository. -/
structure Primitives where
  /-- The AES block function (`crypto/aes`). -/
  aes : BlockCipher
  /-- `crypto.HKDFSHA256(inputKey, salt, info, length)`. -/
  hkdf : HKDF
  /-- `crypto.SHA256(message)`. -/
  sha256 : List UInt8 → List UInt8
  /-- `crypto.HMACSHA256(key, message)`. -/
  hmacSHA256 : List UInt8 → List UInt8 → List UInt8
  /-- `P256PublicKey()` of the key pair with this private key. -/
  p256PublicKey : List UInt8 → List UInt8
  /-- `P256ECDH(keyPair, peerPublicKey)`. -/
  p256ECDH : List UInt8 → List UInt8 → Option (List UInt8)
  /-- `P256Sign(keyPair, message)`. -/
  p256Sign : List UInt8 → List UInt8 → Option (List UInt8)
  /-- `P256Verify(publicKey, message, signature)` returned `true` and no error. -/
  p256Verify : List UInt8 → List UInt8 → List UInt8 → Bool

/-- The output sizes the primitives document, on which the fixed-size fields of the messages
rest. -/
structure Primitives.Sized (P : Primitives) : Prop where
  aes : P.aes.Sized
  hkdf : ∀ key salt info n, (P.hkdf key salt info n).length = n
  hmacSHA256 : ∀ key message, (P.hmacSHA256 key message).length = 32
  p256PublicKey : ∀ k, (P.p256PublicKey k).length = 65
  p256Sign : ∀ k message signature, P.p256Sign k message = some signature → signature.length = 64

/-! ## Sizes, nonces and info strings (`case.go`) -/

/-- `RandomSize`. -/
def randomSize : Nat := 32

/-- `ResumptionIDSize`. -/
def resumptionIDSize : Nat := 16

/-- `MICSize`. -/
def micSize : Nat := 16

/-- `DestinationIDSize`. -/
def destinationIDSize : Nat := 32

/-- `SessionKeySize`. -/
def sessionKeySize : Nat := 16

/-- `Sigma2Nonce`. -/
def sigma2Nonce : List UInt8 := "NCASE_Sigma2N".toUTF8.toList

/-- `Sigma3Nonce`. -/
def sigma3Nonce : List UInt8 := "NCASE_Sigma3N".toUTF8.toList

/-- `Resume1Nonce`. -/
def resume1Nonce : List UInt8 := "NCASE_SigmaS1".toUTF8.toList

/-- `Resume2Nonce`. -/
def resume2Nonce : List UInt8 := "NCASE_SigmaS2".toUTF8.toList

/-- `S2KInfo`. -/
def s2kInfo : List UInt8 := "Sigma2".toUTF8.toList

/-- `S3KInfo`. -/
def s3kInfo : List UInt8 := "Sigma3".toUTF8.toList

/-- `S1RKInfo`. -/
def s1rkInfo : List UInt8 := "Sigma1_Resume".toUTF8.toList

/-- `S2RKInfo`. -/
def s2rkInfo : List UInt8 := "Sigma2_Resume".toUTF8.toList

/-- `SEKeysInfo`. -/
def seKeysInfo : List UInt8 := "SessionKeys".toUTF8.toList

/-- `groupKeyInfo` of `crypto/group.go`. -/
def groupKeyInfo : List UInt8 := "GroupKey v1.0".toUTF8.toList

/-- `CompressedFabricIDSize`. -/
def compressedFabricIDSize : Nat := 8

variable (P : Primitives)

/-! ## The IPK and the destination identifier -/

/-- `DeriveGroupOperationalKeyV1(epochKey, compressedFabricID)`. -/
def deriveGroupOperationalKeyV1 (epochKey compressedFabricID : List UInt8) :
    Except CryptoError (List UInt8) :=
  if epochKey.length ≠ symmetricKeySize then .error .invalidEpochKeySize
  else if compressedFabricID.length ≠ compressedFabricIDSize then .error .invalidCompressedFabricIDSize
  else .ok (P.hkdf epochKey compressedFabricID groupKeyInfo symmetricKeySize)

/-- `ipkSlice, _ := DeriveGroupOperationalKeyV1(...)` copied into a zero `[16]byte`. -/
def operationalIPK (epochKey compressedFabricID : List UInt8) : List UInt8 :=
  match deriveGroupOperationalKeyV1 P epochKey compressedFabricID with
  | .ok ipk => ipk
  | .error _ => List.replicate symmetricKeySize 0

/-- `GenerateDestinationID(initiatorRandom, rootPublicKey, fabricID, nodeID, ipk)`: HMAC under
the IPK of the random, the root key and both IDs little-endian. -/
def generateDestinationID (initiatorRandom rootPublicKey : List UInt8) (fabricID nodeID : UInt64)
    (ipk : List UInt8) : List UInt8 :=
  P.hmacSHA256 ipk
    (initiatorRandom ++ rootPublicKey ++ Bytes.toLE 8 fabricID.toNat ++ Bytes.toLE 8 nodeID.toNat)

/-! ## `keys.go` -/

/-- `DeriveS2K`: the salt is the IPK, the responder's random and ephemeral key, and the hash
of Sigma1. -/
def deriveS2K (sharedSecret ipk responderRandom responderEphPubKey msg1Bytes : List UInt8) :
    List UInt8 :=
  let transcriptHash := P.sha256 msg1Bytes
  let salt := ipk ++ responderRandom ++ responderEphPubKey ++ transcriptHash
  P.hkdf sharedSecret salt s2kInfo symmetricKeySize

/-- `DeriveS3K`: the salt is the IPK and the hash of Sigma1 and Sigma2. -/
def deriveS3K (sharedSecret ipk msg1Bytes msg2Bytes : List UInt8) : List UInt8 :=
  let transcriptHash := P.sha256 (msg1Bytes ++ msg2Bytes)
  let salt := ipk ++ transcriptHash
  P.hkdf sharedSecret salt s3kInfo symmetricKeySize

/-- `DeriveS1RK`: the salt is the initiator's random and the resumption ID. -/
def deriveS1RK (sharedSecret initiatorRandom resumptionID : List UInt8) : List UInt8 :=
  P.hkdf sharedSecret (initiatorRandom ++ resumptionID) s1rkInfo symmetricKeySize

/-- `DeriveS2RK`: the salt is the initiator's random and the new resumption ID. -/
def deriveS2RK (sharedSecret initiatorRandom newResumptionID : List UInt8) : List UInt8 :=
  P.hkdf sharedSecret (initiatorRandom ++ newResumptionID) s2rkInfo symmetricKeySize

/-- `SessionKeys`. -/
structure SessionKeys where
  i2rKey : List UInt8
  r2iKey : List UInt8
  attestationChallenge : List UInt8
  deriving DecidableEq, Repr

/-- The three keys cut from 48 bytes of key material (`keys[0:16]`, `[16:32]`, `[32:48]`). -/
def SessionKeys.ofBytes (keys : List UInt8) : SessionKeys :=
  ⟨keys.take 16, (keys.drop 16).take 16, (keys.drop 32).take 16⟩

/-- `DeriveSessionKeys`: the salt is the IPK and the hash of the three Sigma messages. -/
def deriveSessionKeys (sharedSecret ipk msg1Bytes msg2Bytes msg3Bytes : List UInt8) :
    SessionKeys :=
  let transcriptHash := P.sha256 (msg1Bytes ++ msg2Bytes ++ msg3Bytes)
  let salt := ipk ++ transcriptHash
  SessionKeys.ofBytes (P.hkdf sharedSecret salt seKeysInfo 48)

/-- `DeriveResumptionSessionKeys`: as `DeriveSessionKeys`, over Sigma1 and Sigma2_Resume. -/
def deriveResumptionSessionKeys (sharedSecret ipk msg1Bytes sigma2ResumeBytes : List UInt8) :
    SessionKeys :=
  let transcriptHash := P.sha256 (msg1Bytes ++ sigma2ResumeBytes)
  let salt := ipk ++ transcriptHash
  SessionKeys.ofBytes (P.hkdf sharedSecret salt seKeysInfo 48)

/-- `EncryptTBEData(key, plaintext, nonce, aad)`. -/
def encryptTBEData (key plaintext nonce aad : List UInt8) : Except CryptoError (List UInt8) :=
  aesccm128Encrypt P.aes key nonce plaintext aad

/-- `DecryptTBEData(key, ciphertext, nonce, aad)`. -/
def decryptTBEData (key ciphertext nonce aad : List UInt8) : Except CryptoError (List UInt8) :=
  aesccm128Decrypt P.aes key nonce ciphertext aad

/-- `ComputeResumeMIC(key, nonce)`: the CCM tag over nothing, copied into a `[16]byte`. -/
def computeResumeMIC (key nonce : List UInt8) : Except CryptoError (List UInt8) := do
  let ciphertext ← aesccm128Encrypt P.aes key nonce [] []
  pure (ciphertext.take micSize)

/-- `VerifyResumeMIC(key, nonce, mic)`. -/
def verifyResumeMIC (key nonce mic : List UInt8) : Bool :=
  match computeResumeMIC P key nonce with
  | .ok expected => expected == mic
  | .error _ => false

/-! ## What the other side can recompute -/

variable {P}

/-- **`DecryptTBEData` inverts `EncryptTBEData`** under the same key and nonce. -/
theorem decryptTBEData_of_encrypt (hE : P.aes.Sized) {key plaintext nonce ct : List UInt8}
    (h : encryptTBEData P key plaintext nonce [] = .ok ct) :
    decryptTBEData P key ct nonce [] = .ok plaintext :=
  (aesccm128Decrypt_of_encrypt hE h).1

/-- The three CASE nonces have CCM's 13 bytes. -/
theorem length_resume1Nonce : resume1Nonce.length = aesccmNonceSize := by decide +kernel

theorem length_resume2Nonce : resume2Nonce.length = aesccmNonceSize := by decide +kernel

theorem length_sigma2Nonce : sigma2Nonce.length = aesccmNonceSize := by decide +kernel

theorem length_sigma3Nonce : sigma3Nonce.length = aesccmNonceSize := by decide +kernel

/-- `EncryptTBEData` succeeds under a 16-byte key with a CASE nonce, adding the 16-byte tag. -/
theorem encryptTBEData_ok (hE : P.aes.Sized) {key plaintext nonce : List UInt8}
    (hkey : key.length = symmetricKeySize) (hnonce : nonce.length = aesccmNonceSize)
    (hlen : plaintext.length < 2 ^ 16) :
    ∃ ct, encryptTBEData P key plaintext nonce [] = .ok ct ∧ ct.length = plaintext.length + 16 :=
  aesccm128Encrypt_ok hE hkey hnonce hlen []

/-- Under a 16-byte key, `ComputeResumeMIC` returns a 16-byte MIC. -/
theorem computeResumeMIC_ok (hE : P.aes.Sized) {key nonce : List UInt8}
    (hkey : key.length = symmetricKeySize) (hnonce : nonce.length = aesccmNonceSize) :
    ∃ mic, computeResumeMIC P key nonce = .ok mic ∧ mic.length = micSize := by
  obtain ⟨ct, hct, hlen⟩ := aesccm128Encrypt_ok hE hkey hnonce
    (show ([] : List UInt8).length < 2 ^ 16 by decide) []
  refine ⟨ct.take micSize, ?_, ?_⟩
  · unfold computeResumeMIC
    rw [hct]
    rfl
  · rw [List.length_take, hlen]
    rfl

/-- `VerifyResumeMIC` accepts the MIC `ComputeResumeMIC` gives for the same key and nonce. -/
theorem verifyResumeMIC_of_eq {key nonce mic : List UInt8}
    (h : computeResumeMIC P key nonce = .ok mic) : verifyResumeMIC P key nonce mic = true := by
  simp [verifyResumeMIC, h]

/-- `DeriveSessionKeys` cuts two 16-byte direction keys from the 48 bytes of HKDF. -/
theorem length_deriveSessionKeys (hP : P.Sized) (sharedSecret ipk msg1Bytes msg2Bytes
    msg3Bytes : List UInt8) :
    (deriveSessionKeys P sharedSecret ipk msg1Bytes msg2Bytes msg3Bytes).i2rKey.length = 16 ∧
      (deriveSessionKeys P sharedSecret ipk msg1Bytes msg2Bytes msg3Bytes).r2iKey.length = 16 := by
  have h48 := hP.hkdf sharedSecret (ipk ++ P.sha256 (msg1Bytes ++ msg2Bytes ++ msg3Bytes))
    seKeysInfo 48
  simp only [deriveSessionKeys, SessionKeys.ofBytes, List.length_take, List.length_drop, h48]
  omega

end Matter.Case
