import Matter.Lib.BlockMode
import Matter.Lib.Except

/-!
# AES-128-CCM (`pkg/crypto/aesccm.go`)

Model of the repository's own CCM mode (NIST 800-38C, RFC 3610). The AES block function is
Go's `crypto/aes`, outside the repository: it is the parameter `E : BlockCipher`, with
`E key block` the 16-byte `Encrypt` of `block`. The one fact about it the proofs use is its
documented output size (`BlockCipher.Sized`).

* `computeTag` is the CBC-MAC over `B_0`, the length-prefixed AAD and the plaintext
  (`aesccm.go:189-278`); `generateS0` and `ctrEncrypt` are the counter blocks `A_0` and
  `A_1, A_2, …` (`aesccm.go:282-324`), the counter incremented big-endian in its last `L`
  bytes (`incrementCounter`).
* `seal` and `open` are `Seal` and `Open` (`aesccm.go:114-185`); `open` compares the
  decrypted tag with the recomputed one as `subtle.ConstantTimeCompare` does, equal length
  and equal bytes.

`open_seal`: for every admitted parameter set, `open` recovers what `seal` encrypted, under
the same key, nonce and AAD.
-/

namespace Matter.Crypto

open BlockMode

/-- The block function of `crypto/aes`: key, 16-byte block ↦ 16-byte block. -/
abbrev BlockCipher := List UInt8 → List UInt8 → List UInt8

/-- `cipher.Block.Encrypt` writes one whole block. -/
def BlockCipher.Sized (E : BlockCipher) : Prop := ∀ key block, (E key block).length = 16

/-- The errors of `aesccm.go`, `aesctr.go`, `nonce.go` and `group.go`. -/
inductive CryptoError
  | aesccmInvalidKeySize
  | aesccmInvalidNonceSize
  | aesccmInvalidTagSize
  | aesccmPlaintextTooLong
  | aesccmCiphertextTooShort
  | aesccmAuthFailed
  | aesctrInvalidKeySize
  | aesctrInvalidNonceSize
  | invalidKeySize
  | invalidMICSize
  | invalidEpochKeySize
  | invalidCompressedFabricIDSize
  deriving DecidableEq, Repr

/-- `AESCCMKeySize`. -/
def aesccmKeySize : Nat := 16

/-- `AESCCMTagSize`. -/
def aesccmTagSize : Nat := 16

/-- `AESCCMNonceSize`. -/
def aesccmNonceSize : Nat := 13

/-- `AESCCM`: the cipher's key, the tag size `M` and the length-field size `L`. -/
structure AESCCM where
  key : List UInt8
  tagSize : Nat
  lenSize : Nat
  deriving DecidableEq, Repr

/-- `NewAESCCMWithParams(key, nonceSize, tagSize)`. -/
def newAESCCMWithParams (key : List UInt8) (nonceSize tagSize : Nat) : Except CryptoError AESCCM :=
  if key.length ≠ aesccmKeySize then .error .aesccmInvalidKeySize
  else
    let lenSize := 15 - nonceSize
    if lenSize < 2 ∨ lenSize > 8 then .error .aesccmInvalidNonceSize
    else if tagSize < 4 ∨ tagSize > 16 ∨ tagSize % 2 ≠ 0 then .error .aesccmInvalidTagSize
    else .ok { key, tagSize, lenSize }

/-- `NewAESCCM(key)`: Matter's 13-byte nonce and 16-byte tag. -/
def newAESCCM (key : List UInt8) : Except CryptoError AESCCM :=
  newAESCCMWithParams key aesccmNonceSize aesccmTagSize

/-- `incrementCounter`: add one to a big-endian counter, wrapping. -/
def incrementCounter (ctr : List UInt8) : List UInt8 :=
  let rec incLE : List UInt8 → List UInt8
    | [] => []
    | b :: bs => if b + 1 = 0 then 0 :: incLE bs else (b + 1) :: bs
  (incLE ctr.reverse).reverse

namespace AESCCM

variable (E : BlockCipher) (c : AESCCM)

/-- `NonceSize()`. -/
def nonceSize : Nat := 15 - c.lenSize

/-- `putLength(dst, length)`: `length` big-endian in `L` bytes. -/
def putLength (length : Nat) : List UInt8 := (Bytes.toLE c.lenSize length).reverse

/-- The AAD length prefix of the first AAD block (`aesccm.go:222-235`). -/
def aadLengthHeader (aadLen : Nat) : List UInt8 :=
  if aadLen < 2 ^ 16 - 2 ^ 8 then (Bytes.toLE 2 aadLen).reverse
  else if aadLen < 2 ^ 32 then [0xFF, 0xFE] ++ (Bytes.toLE 4 aadLen).reverse
  else [0xFF, 0xFF] ++ (Bytes.toLE 8 aadLen).reverse

/-- The flags byte of `B_0`: Adata, `M' = (M - 2) / 2`, `L' = L - 1`. -/
def b0Flags (aad : List UInt8) : UInt8 :=
  (if aad ≠ [] then (1 : UInt8) <<< 6 else 0) ||| (UInt8.ofNat ((c.tagSize - 2) / 2) <<< 3) |||
    UInt8.ofNat (c.lenSize - 1)

/-- `computeTag(nonce, plaintext, aad)`: the CBC-MAC, cut to `M` bytes. -/
def computeTag (nonce plaintext aad : List UInt8) : List UInt8 :=
  let b0 := [c.b0Flags aad] ++ nonce ++ c.putLength plaintext.length
  let mac := E c.key b0
  let mac := if aad = [] then mac
    else
      let header := aadLengthHeader aad.length
      let firstBlockAAD := min (16 - header.length) aad.length
      cbcChain (E c.key) (E c.key (xorWith (header ++ aad.take firstBlockAAD) mac))
        (aad.drop firstBlockAAD)
  (cbcChain (E c.key) mac plaintext).take c.tagSize

/-- `generateS0(nonce)`: `E(A_0)`, counter 0. -/
def generateS0 (nonce : List UInt8) : List UInt8 :=
  E c.key ([UInt8.ofNat (c.lenSize - 1)] ++ nonce ++ List.replicate c.lenSize 0)

/-- The counter block after `ctr`: the last `L` bytes incremented. -/
def nextCounter (ctr : List UInt8) : List UInt8 :=
  ctr.take (16 - c.lenSize) ++ incrementCounter (ctr.drop (16 - c.lenSize))

/-- `ctrEncrypt(nonce, dst, src)`: counter mode from `A_1`. -/
def ctrEncrypt (nonce src : List UInt8) : List UInt8 :=
  ctrXor (E c.key) c.nextCounter
    ([UInt8.ofNat (c.lenSize - 1)] ++ nonce ++ List.replicate (c.lenSize - 1) 0 ++ [1]) src

/-- `maxPlaintextLen := (1 << (8 * c.lenSize)) - 1` as Go computes it in an `int`: a shift
count of 64 or more leaves `0`, so at `L = 8` the bound is `-1`. -/
def maxPlaintextLen : Int := (if 8 * c.lenSize < 64 then 2 ^ (8 * c.lenSize) else 0) - 1

/-- `Seal(nonce, plaintext, aad)`: ciphertext, then the tag encrypted with `S_0`. -/
def «seal» (nonce plaintext aad : List UInt8) : Except CryptoError (List UInt8) :=
  if nonce.length ≠ c.nonceSize then .error .aesccmInvalidNonceSize
  else if (plaintext.length : Int) > c.maxPlaintextLen then .error .aesccmPlaintextTooLong
  else
    let tag := computeTag E c nonce plaintext aad
    let s0 := generateS0 E c nonce
    .ok (ctrEncrypt E c nonce plaintext ++ xorWith s0 tag)

/-- `Open(nonce, ciphertext, aad)`. -/
def «open» (nonce ciphertext aad : List UInt8) : Except CryptoError (List UInt8) :=
  if nonce.length ≠ c.nonceSize then .error .aesccmInvalidNonceSize
  else if ciphertext.length < c.tagSize then .error .aesccmCiphertextTooShort
  else
    let encryptedData := ciphertext.take (ciphertext.length - c.tagSize)
    let encryptedTag := ciphertext.drop (ciphertext.length - c.tagSize)
    let receivedTag := xorWith (generateS0 E c nonce) encryptedTag
    let plaintext := ctrEncrypt E c nonce encryptedData
    if receivedTag ≠ (computeTag E c nonce plaintext aad).take c.tagSize then
      .error .aesccmAuthFailed
    else .ok plaintext

/-! ## `Open` inverts `Seal` -/

variable {E c}

/-- An admitted cipher has a tag of at most one block. -/
theorem tagSize_le_of_new {key : List UInt8} {nonceSize tagSize : Nat} {c : AESCCM}
    (h : newAESCCMWithParams key nonceSize tagSize = .ok c) : c.tagSize ≤ 16 := by
  unfold newAESCCMWithParams at h
  split at h
  · cases h
  · dsimp only at h
    split at h
    · cases h
    · split at h
      · cases h
      · rename_i htag
        cases h
        dsimp only
        omega

/-- The tag is `M` bytes: the MAC is a whole block. -/
theorem length_computeTag (hE : E.Sized) (hc : c.tagSize ≤ 16) (nonce plaintext aad : List UInt8) :
    (computeTag E c nonce plaintext aad).length = c.tagSize := by
  have hmac : ∀ b, (E c.key b).length = 16 := hE c.key
  unfold computeTag
  rw [List.length_take, length_cbcChain hmac]
  · omega
  -- the MAC after `B_0` and the AAD blocks is still one block
  · split
    · exact hmac _
    · exact length_cbcChain hmac (hmac _) _

/-- **`Open` inverts `Seal`** under the same key, nonce and AAD, for every AES block function
and every admitted tag size. -/
theorem open_seal (hE : E.Sized) (hc : c.tagSize ≤ 16) {nonce plaintext aad ct : List UInt8}
    (h : c.«seal» E nonce plaintext aad = .ok ct) : c.open E nonce ct aad = .ok plaintext := by
  unfold «seal» at h
  split at h
  · cases h
  · rename_i hn
    split at h
    · cases h
    · cases h
      have htag := length_computeTag hE hc nonce plaintext aad
      have hlen : (ctrEncrypt E c nonce plaintext ++
          xorWith (generateS0 E c nonce) (computeTag E c nonce plaintext aad)).length =
            plaintext.length + c.tagSize := by
        simp [ctrEncrypt, htag]
      -- the ciphertext splits at its last `M` bytes into the encrypted data and tag
      have htake : (ctrEncrypt E c nonce plaintext ++
          xorWith (generateS0 E c nonce) (computeTag E c nonce plaintext aad)).take
            (plaintext.length + c.tagSize - c.tagSize) = ctrEncrypt E c nonce plaintext := by
        rw [Nat.add_sub_cancel]
        exact List.take_left' (by simp [ctrEncrypt])
      have hdrop : (ctrEncrypt E c nonce plaintext ++
          xorWith (generateS0 E c nonce) (computeTag E c nonce plaintext aad)).drop
            (plaintext.length + c.tagSize - c.tagSize) =
            xorWith (generateS0 E c nonce) (computeTag E c nonce plaintext aad) := by
        rw [Nat.add_sub_cancel]
        exact List.drop_left' (by simp [ctrEncrypt])
      have hpt : ctrEncrypt E c nonce (ctrEncrypt E c nonce plaintext) = plaintext :=
        ctrXor_ctrXor _ _ _ _
      have hcut : (computeTag E c nonce plaintext aad).take c.tagSize =
          computeTag E c nonce plaintext aad := List.take_of_length_le (by omega)
      unfold «open»
      simp only [hn, if_false, hlen, htake, hdrop, xorWith_xorWith, hpt, hcut, ne_eq,
        not_true_eq_false]
      split
      · rename_i hlt
        omega
      · rfl

/-- `Seal` appends the `M`-byte tag to a ciphertext as long as the plaintext. -/
theorem length_seal (hE : E.Sized) (hc : c.tagSize ≤ 16) {nonce plaintext aad ct : List UInt8}
    (h : c.«seal» E nonce plaintext aad = .ok ct) : ct.length = plaintext.length + c.tagSize := by
  unfold «seal» at h
  split at h
  · cases h
  · split at h
    · cases h
    · cases h
      simp [ctrEncrypt, length_computeTag hE hc]

/-! ## The length bound -/

/-- An admitted cipher has the length field `L = 15 - n` of its nonce size, `2 ≤ L ≤ 8`. -/
theorem lenSize_of_new {key : List UInt8} {nonceSize tagSize : Nat} {c : AESCCM}
    (h : newAESCCMWithParams key nonceSize tagSize = .ok c) :
    c.lenSize = 15 - nonceSize ∧ 2 ≤ c.lenSize ∧ c.lenSize ≤ 8 := by
  unfold newAESCCMWithParams at h
  split at h
  · cases h
  · dsimp only at h
    split at h
    · cases h
    · rename_i hlen
      split at h
      · cases h
      · cases h
        dsimp only
        omega

/-- Below `L = 8` the bound is the intended `2^(8L) - 1`. -/
theorem maxPlaintextLen_of_lt (h : c.lenSize < 8) :
    c.maxPlaintextLen = 2 ^ (8 * c.lenSize) - 1 := by
  unfold maxPlaintextLen
  rw [if_pos (by omega)]

/-- From `L = 8` on, the shift count reaches 64 and the bound is `-1`. -/
theorem maxPlaintextLen_of_le (h : 8 ≤ c.lenSize) : c.maxPlaintextLen = -1 := by
  unfold maxPlaintextLen
  rw [if_neg (by omega)]
  rfl

/-- `Seal` succeeds on a nonce of the configured size and a plaintext within the bound. -/
theorem seal_ok {nonce plaintext : List UInt8} (hn : nonce.length = c.nonceSize)
    (hlen : (plaintext.length : Int) ≤ c.maxPlaintextLen) (aad : List UInt8) :
    ∃ ct, c.«seal» E nonce plaintext aad = .ok ct := by
  unfold «seal»
  rw [if_neg (by omega), if_neg (by omega)]
  exact ⟨_, rfl⟩

/-- `Open` rejects a ciphertext shorter than the tag. -/
theorem open_short {nonce ct : List UInt8} (hn : nonce.length = c.nonceSize)
    (hct : ct.length < c.tagSize) (aad : List UInt8) :
    c.open E nonce ct aad = .error .aesccmCiphertextTooShort := by
  unfold «open»
  rw [if_neg (by omega), if_pos hct]

/-- **CCM round trip for nonce sizes 8 to 13.** A cipher `NewAESCCMWithParams` admits with
such a nonce seals every plaintext that fits its `L`-byte length field, and opens the result. -/
theorem seal_open_of_new (hE : E.Sized) {key : List UInt8} {nonceSize tagSize : Nat}
    (hc : newAESCCMWithParams key nonceSize tagSize = .ok c) (h8 : 8 ≤ nonceSize)
    {nonce plaintext : List UInt8} (hn : nonce.length = nonceSize)
    (hlen : plaintext.length < 2 ^ (8 * (15 - nonceSize))) (aad : List UInt8) :
    ∃ ct, c.«seal» E nonce plaintext aad = .ok ct ∧ c.open E nonce ct aad = .ok plaintext := by
  obtain ⟨hL, hL2, -⟩ := lenSize_of_new hc
  have hbound : c.maxPlaintextLen = 2 ^ (8 * c.lenSize) - 1 := maxPlaintextLen_of_lt (by omega)
  have hfits : (plaintext.length : Int) ≤ c.maxPlaintextLen := by
    rw [hbound, hL]
    have : ((plaintext.length : ℕ) : Int) < ((2 ^ (8 * (15 - nonceSize)) : ℕ) : Int) := by
      exact_mod_cast hlen
    push_cast at this
    omega
  obtain ⟨ct, hct⟩ := seal_ok (E := E) (show nonce.length = c.nonceSize by
    unfold AESCCM.nonceSize; omega) hfits aad
  exact ⟨ct, hct, open_seal hE (tagSize_le_of_new hc) hct⟩

/-- **At nonce size 7 `Seal` refuses every plaintext.** `NewAESCCMWithParams` admits a 7-byte
nonce, whose length field is `L = 8` bytes; Go's `1 << 64` in an `int` is `0`, so the bound is
`-1` and `Seal` returns `ErrAESCCMPlaintextTooLong` for every plaintext, the empty one
included. -/
theorem seal_fails_at_nonceSize_seven {key : List UInt8} {tagSize : Nat}
    (hc : newAESCCMWithParams key 7 tagSize = .ok c) {nonce : List UInt8}
    (hn : nonce.length = 7) (plaintext aad : List UInt8) :
    c.«seal» E nonce plaintext aad = .error .aesccmPlaintextTooLong := by
  obtain ⟨hL, -, -⟩ := lenSize_of_new hc
  have hbound : c.maxPlaintextLen = -1 := maxPlaintextLen_of_le (by omega)
  unfold «seal»
  rw [if_neg (by unfold nonceSize; omega), if_pos (by rw [hbound]; omega)]

/-- A zero key with a 7-byte nonce and a 16-byte tag: the empty plaintext is refused. -/
theorem seal_fails_at_nonceSize_seven_zero_key :
    newAESCCMWithParams (List.replicate 16 0) 7 16 = .ok ⟨List.replicate 16 0, 16, 8⟩ ∧
      (List.replicate 7 (0 : UInt8)).length = 7 ∧
      AESCCM.«seal» (fun _ block => block) ⟨List.replicate 16 0, 16, 8⟩ (List.replicate 7 0) []
        [] = .error .aesccmPlaintextTooLong :=
  have hc : newAESCCMWithParams (List.replicate 16 0) 7 16 = .ok ⟨List.replicate 16 0, 16, 8⟩ :=
    rfl
  ⟨hc, rfl, seal_fails_at_nonceSize_seven hc rfl [] []⟩

end AESCCM

/-- `AESCCM128Encrypt(key, nonce, plaintext, aad)`. -/
def aesccm128Encrypt (E : BlockCipher) (key nonce plaintext aad : List UInt8) :
    Except CryptoError (List UInt8) := do
  let ccm ← newAESCCM key
  ccm.«seal» E nonce plaintext aad

/-- `AESCCM128Decrypt(key, nonce, ciphertext, aad)`. -/
def aesccm128Decrypt (E : BlockCipher) (key nonce ciphertext aad : List UInt8) :
    Except CryptoError (List UInt8) := do
  let ccm ← newAESCCM key
  ccm.open E nonce ciphertext aad

/-- Matter's cipher: `NewAESCCM` admits a key only with a 16-byte tag. -/
theorem tagSize_of_newAESCCM {key : List UInt8} {c : AESCCM} (h : newAESCCM key = .ok c) :
    c.tagSize = 16 := by
  unfold newAESCCM newAESCCMWithParams at h
  split at h
  · cases h
  · dsimp only at h
    split at h
    · cases h
    · split at h
      · cases h
      · cases h
        rfl

/-- **AES-128-CCM round trip**: what `AESCCM128Encrypt` produced, `AESCCM128Decrypt` opens
under the same key, nonce and AAD; the ciphertext is the plaintext's length plus the MIC. -/
theorem aesccm128Decrypt_of_encrypt {E : BlockCipher} (hE : E.Sized)
    {key nonce plaintext aad ct : List UInt8}
    (h : aesccm128Encrypt E key nonce plaintext aad = .ok ct) :
    aesccm128Decrypt E key nonce ct aad = .ok plaintext ∧ ct.length = plaintext.length + 16 := by
  unfold aesccm128Encrypt at h
  obtain ⟨c, hc, hseal⟩ := Except.bind_eq_ok.mp h
  have htag := tagSize_of_newAESCCM hc
  refine ⟨?_, ?_⟩
  · unfold aesccm128Decrypt
    rw [hc, Except.ok_bind]
    exact AESCCM.open_seal hE (by omega) hseal
  · rw [AESCCM.length_seal hE (by omega) hseal, htag]

/-- Under a 16-byte key and Matter's 13-byte nonce, `AESCCM128Encrypt` seals every plaintext
shorter than `2^16` bytes, to a ciphertext 16 bytes longer. -/
theorem aesccm128Encrypt_ok {E : BlockCipher} (hE : E.Sized) {key nonce plaintext : List UInt8}
    (hkey : key.length = aesccmKeySize) (hnonce : nonce.length = aesccmNonceSize)
    (hlen : plaintext.length < 2 ^ 16) (aad : List UInt8) :
    ∃ ct, aesccm128Encrypt E key nonce plaintext aad = .ok ct ∧
      ct.length = plaintext.length + 16 := by
  have hnew : newAESCCM key = .ok ⟨key, 16, 2⟩ := by
    unfold newAESCCM newAESCCMWithParams
    simp [hkey, aesccmNonceSize, aesccmTagSize]
  have hbound : AESCCM.maxPlaintextLen ⟨key, 16, 2⟩ = 65535 := by
    rw [AESCCM.maxPlaintextLen_of_lt (by simp)]
    rfl
  obtain ⟨ct, hct⟩ := AESCCM.seal_ok (E := E) (c := ⟨key, 16, 2⟩) hnonce
    (show (plaintext.length : Int) ≤ _ by rw [hbound]; omega) aad
  have henc : aesccm128Encrypt E key nonce plaintext aad = .ok ct := by
    unfold aesccm128Encrypt
    rw [hnew, Except.ok_bind]
    exact hct
  exact ⟨ct, henc, (aesccm128Decrypt_of_encrypt hE henc).2⟩

end Matter.Crypto
