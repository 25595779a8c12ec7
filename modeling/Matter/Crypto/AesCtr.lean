import Matter.Crypto.AesCcm
import Matter.Lib.Bytes

/-!
# AES-CTR and the message nonces (`pkg/crypto/aesctr.go`, `nonce.go`)

The privacy layer's AES-CTR (`aesctr.go:55-122`) runs Go's `cipher.NewCTR` over the AES block
`E`: the counter block `[L - 1] ‖ nonce ‖ 0x00 0x01` is enciphered and XORed into the data, and
the standard library's `ctr` stream increments the whole 16-byte block big-endian for each
next block (`incrementCounter`). `nonce.go` builds the CCM nonce of a message
(`BuildAEADNonce`), the privacy nonce (`BuildPrivacyNonce`) and the privacy key
(`DerivePrivacyKey`). The last goes through HKDF-SHA256 of `x/crypto/hkdf`, outside the
repository, which is the parameter `kdf : HKDF`; its reader cannot fail for the 16 bytes asked
here, so `kdf` returns the key.

Results:
* `aesctrDecrypt_of_encrypt`: AES-CTR decryption with the same key and nonce inverts
  encryption and keeps the length.
-/

namespace Matter.Crypto

open BlockMode

/-- HKDF-SHA256: input key, salt, info and output length ↦ output key material. -/
abbrev HKDF := List UInt8 → List UInt8 → List UInt8 → Nat → List UInt8

/-- HKDF-SHA256 reads as many bytes as it is asked for, up to `255` hash blocks. -/
def HKDF.Sized (kdf : HKDF) : Prop :=
  ∀ key salt info length, length ≤ 255 * 32 → (kdf key salt info length).length = length

/-- `NonceSize`. -/
def nonceSize : Nat := 13

/-- `SymmetricKeySize`. -/
def symmetricKeySize : Nat := 16

/-- `MICSize`. -/
def micSize : Nat := 16

/-- `PrivacyNonceMICOffset`. -/
def privacyNonceMICOffset : Nat := 5

/-- `PrivacyNonceMICLength`. -/
def privacyNonceMICLength : Nat := 11

/-- `privacyKeyInfo`: the bytes of `"PrivacyKey"`. -/
def privacyKeyInfo : List UInt8 := "PrivacyKey".toUTF8.toList

/-- `AESCTRKeySize`. -/
def aesctrKeySize : Nat := 16

/-- `AESCTRNonceSize`. -/
def aesctrNonceSize : Nat := 13

/-- `aesCTRLenSize`: the CCM length-field size the counter block is laid out for. -/
def aesCTRLenSize : Nat := 2

/-! ## `nonce.go` -/

/-- `BuildAEADNonce(securityFlags, messageCounter, sourceNodeID)`: the flags, the counter and
the source node ID, both little-endian. -/
def buildAEADNonce (securityFlags : UInt8) (messageCounter : UInt32) (sourceNodeID : UInt64) :
    List UInt8 :=
  [securityFlags] ++ Bytes.toLE 4 messageCounter.toNat ++ Bytes.toLE 8 sourceNodeID.toNat

/-- `DerivePrivacyKey(encryptionKey)`. -/
def derivePrivacyKey (kdf : HKDF) (encryptionKey : List UInt8) : Except CryptoError (List UInt8) :=
  if encryptionKey.length ≠ symmetricKeySize then .error .invalidKeySize
  else .ok (kdf encryptionKey [] privacyKeyInfo symmetricKeySize)

/-- `BuildPrivacyNonce(sessionID, mic)`: the session ID big-endian, then `mic[5:16]`. -/
def buildPrivacyNonce (sessionID : UInt16) (mic : List UInt8) : Except CryptoError (List UInt8) :=
  if mic.length ≠ micSize then .error .invalidMICSize
  else .ok ((Bytes.toLE 2 sessionID.toNat).reverse ++
    (mic.drop privacyNonceMICOffset).take privacyNonceMICLength)

/-! ## `aesctr.go` -/

/-- `AESCTR`: the cipher's key. -/
structure AESCTR where
  key : List UInt8
  deriving DecidableEq, Repr

/-- `NewAESCTR(key)`. -/
def newAESCTR (key : List UInt8) : Except CryptoError AESCTR :=
  if key.length ≠ aesctrKeySize then .error .aesctrInvalidKeySize else .ok ⟨key⟩

namespace AESCTR

variable (E : BlockCipher) (c : AESCTR)

/-- `ctrXOR(nonce, dst, src)`: counter mode from `[L - 1] ‖ nonce ‖ 0x00 0x01`. -/
def ctrXOR (nonce src : List UInt8) : List UInt8 :=
  if src = [] then []
  else ctrXor (E c.key) incrementCounter
    ([UInt8.ofNat (aesCTRLenSize - 1)] ++ nonce ++ [0, 1]) src

/-- `Encrypt(nonce, plaintext)`. -/
def encrypt (nonce plaintext : List UInt8) : Except CryptoError (List UInt8) :=
  if nonce.length ≠ aesctrNonceSize then .error .aesctrInvalidNonceSize
  else .ok (c.ctrXOR E nonce plaintext)

/-- `Decrypt(nonce, ciphertext)`. -/
def decrypt (nonce ciphertext : List UInt8) : Except CryptoError (List UInt8) :=
  if nonce.length ≠ aesctrNonceSize then .error .aesctrInvalidNonceSize
  else .ok (c.ctrXOR E nonce ciphertext)

theorem ctrXOR_of_ne_nil {nonce src : List UInt8} (h : src ≠ []) :
    c.ctrXOR E nonce src =
      ctrXor (E c.key) incrementCounter ([UInt8.ofNat (aesCTRLenSize - 1)] ++ nonce ++ [0, 1]) src :=
  if_neg h

@[simp] theorem length_ctrXOR (nonce src : List UInt8) : (c.ctrXOR E nonce src).length = src.length := by
  by_cases h : src = []
  · subst h
    rfl
  · rw [ctrXOR_of_ne_nil E c h, length_ctrXor]

/-- The keystream XOR undoes itself. -/
theorem ctrXOR_ctrXOR (nonce src : List UInt8) : c.ctrXOR E nonce (c.ctrXOR E nonce src) = src := by
  by_cases h : src = []
  · subst h
    rfl
  · have hne : c.ctrXOR E nonce src ≠ [] := by
      rw [← List.length_pos_iff, length_ctrXOR]
      exact List.length_pos_iff.mpr h
    rw [ctrXOR_of_ne_nil E c hne, ctrXOR_of_ne_nil E c h, ctrXor_ctrXor]

end AESCTR

/-- `AESCTREncrypt(key, nonce, plaintext)`. -/
def aesctrEncrypt (E : BlockCipher) (key nonce plaintext : List UInt8) :
    Except CryptoError (List UInt8) := do
  let ctr ← newAESCTR key
  ctr.encrypt E nonce plaintext

/-- `AESCTRDecrypt(key, nonce, ciphertext)`. -/
def aesctrDecrypt (E : BlockCipher) (key nonce ciphertext : List UInt8) :
    Except CryptoError (List UInt8) := do
  let ctr ← newAESCTR key
  ctr.decrypt E nonce ciphertext

/-- **AES-CTR round trip**: decryption with the key and nonce of a successful encryption
returns the plaintext, and the ciphertext has its length. -/
theorem aesctrDecrypt_of_encrypt {E : BlockCipher} {key nonce plaintext ct : List UInt8}
    (h : aesctrEncrypt E key nonce plaintext = .ok ct) :
    aesctrDecrypt E key nonce ct = .ok plaintext ∧ ct.length = plaintext.length := by
  unfold aesctrEncrypt at h
  obtain ⟨c, hc, henc⟩ := Except.bind_eq_ok.mp h
  unfold AESCTR.encrypt at henc
  split at henc
  · cases henc
  · rename_i hn
    cases henc
    refine ⟨?_, AESCTR.length_ctrXOR E c nonce plaintext⟩
    unfold aesctrDecrypt AESCTR.decrypt
    rw [hc, Except.ok_bind, if_neg hn, AESCTR.ctrXOR_ctrXOR]

/-- `AESCTREncrypt` succeeds under a 16-byte key and a 13-byte nonce. -/
theorem aesctrEncrypt_ok (E : BlockCipher) {key nonce : List UInt8}
    (hkey : key.length = aesctrKeySize) (hnonce : nonce.length = aesctrNonceSize)
    (plaintext : List UInt8) : ∃ ct, aesctrEncrypt E key nonce plaintext = .ok ct := by
  unfold aesctrEncrypt newAESCTR
  rw [if_neg (by omega), Except.ok_bind]
  unfold AESCTR.encrypt
  rw [if_neg (by omega)]
  exact ⟨_, rfl⟩

/-- `BuildPrivacyNonce` takes every 16-byte MIC, to a 13-byte nonce. -/
theorem buildPrivacyNonce_ok (sessionID : UInt16) {mic : List UInt8} (hmic : mic.length = micSize) :
    ∃ nonce, buildPrivacyNonce sessionID mic = .ok nonce ∧ nonce.length = aesctrNonceSize := by
  unfold buildPrivacyNonce
  rw [if_neg (by omega)]
  refine ⟨_, rfl, ?_⟩
  simp [hmic, micSize, privacyNonceMICOffset, privacyNonceMICLength, aesctrNonceSize]

end Matter.Crypto
