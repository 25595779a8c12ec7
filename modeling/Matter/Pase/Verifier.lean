import Matter.Crypto.Spake2p
import Matter.Pase.Messages

/-!
# PASE verifiers (`pkg/securechannel/pase/pase.go`, `verifier.go`)

The constants and errors of `pase.go`, and the verifier a commissionee stores: `w0` and
`L = w1·P`, both derived from the passcode by PBKDF2 (`ComputeW0W1`). PBKDF2 is a parameter
of the model (`PBKDF2`), as SHA-256 and HMAC are in `Spake2p.Hashes`; `Primitives` bundles what
PASE runs over.

`reduceModP` writes `ws mod N` into 32 bytes with `FillBytes`, which panics on a number that
does not fit: the model truncates, and `ofBE_reduceModP` needs `N ≤ 256^32`, as P-256's order
is.

Results:
* `ofBE_reduceModP`, `computeW0W1_sized`: the scalars are `ws mod N`, in 32 bytes.
* `generateVerifier_ok`: what `GenerateVerifier` accepts, and the verifier it builds.
* `deserializeVerifier_serialize`, `serialize_deserializeVerifier`: the 97-byte form round trips
  both ways.
-/

namespace Matter.Pase

open Bytes
open Crypto.Spake2p (Curve Hashes encodePoint)

/-- `ContextPrefix`: "CHIP PAKE V1 Commissioning". -/
def contextPrefix : List UInt8 := "CHIP PAKE V1 Commissioning".toUTF8.toList

/-- `DefaultPasscodeID`. -/
def defaultPasscodeID : UInt16 := 0

/-- `PBKDFMinSaltLength`. -/
def pbkdfMinSaltLength : Nat := 16

/-- `PBKDFMaxSaltLength`. -/
def pbkdfMaxSaltLength : Nat := 32

/-- `PBKDFMinIterations`. -/
def pbkdfMinIterations : UInt32 := 1000

/-- `PBKDFMaxIterations`. -/
def pbkdfMaxIterations : UInt32 := 100000

/-- `spake2p.WsSizeBytes`. -/
def wsSizeBytes : Nat := 40

/-- The errors of `pase.go`, the reads' `io` errors, the errors of `spake2p` and of the TLV
writer that a handler passes on, and a nil dereference. -/
inductive Error
  /-- `ErrInvalidState`: "pase: invalid protocol state". -/
  | invalidState
  /-- `ErrInvalidMessage`: "pase: invalid message". -/
  | invalidMessage
  /-- `ErrInvalidPasscode`: "pase: invalid passcode". -/
  | invalidPasscode
  /-- `ErrInvalidSalt`: "pase: invalid salt length". -/
  | invalidSalt
  /-- `ErrInvalidIterations`: "pase: invalid iteration count". -/
  | invalidIterations
  /-- `ErrInvalidPasscodeID`: "pase: invalid passcode ID". -/
  | invalidPasscodeID
  /-- `ErrInvalidRandom`: "pase: invalid random value". -/
  | invalidRandom
  /-- `ErrRandomMismatch`: "pase: initiator random mismatch". -/
  | randomMismatch
  /-- `ErrConfirmationFailed`: "pase: key confirmation failed". -/
  | confirmationFailed
  /-- `ErrSessionNotReady`: "pase: session not ready". -/
  | sessionNotReady
  /-- `ErrInvalidStatusReport`: "pase: invalid status report". -/
  | invalidStatusReport
  /-- `io.EOF`: the random source had nothing left. -/
  | eof
  /-- `io.ErrUnexpectedEOF`: the random source ran out part-way. -/
  | unexpectedEOF
  /-- An error of the TLV writer or reader. -/
  | tlv (e : Tlv.TlvError)
  /-- An error of the SPAKE2+ instance. -/
  | spake2p (e : Crypto.Spake2p.Error)
  /-- Where Go would dereference a nil pointer. -/
  | nilPointer
  deriving DecidableEq, Repr

/-- A decoder's error, as the handler returns it. -/
def Error.ofCodecError : Case.CodecError → Error
  | .tlv e => .tlv e
  | .invalidMessage => .invalidMessage
  | .invalidRandom => .invalidRandom

/-- `crypto.PBKDF2SHA256(password, salt, iterations, keyLen)`. -/
abbrev PBKDF2 := List UInt8 → List UInt8 → Nat → Nat → List UInt8

/-- What PASE runs over: P-256 as a group, the hashes of `spake2p` and `crypto`, and PBKDF2. -/
structure Primitives (Pt : Type) where
  curve : Curve Pt
  hashes : Hashes
  pbkdf2 : PBKDF2

/-- `Verifier`: `W0`, 32 bytes, and `L`, an uncompressed point. -/
structure Verifier where
  w0 : List UInt8
  L : List UInt8
  deriving DecidableEq, Repr

/-! ## Validation -/

/-- The passcodes `ValidatePasscode` refuses besides those over eight digits. -/
def invalidPasscodes : List UInt32 :=
  [00000000, 11111111, 22222222, 33333333, 44444444, 55555555, 66666666, 77777777, 88888888,
    99999999, 12345678, 87654321]

/-- `ValidatePasscode(passcode)`. -/
def validatePasscode (passcode : UInt32) : Except Error Unit :=
  if passcode > 99999999 then .error .invalidPasscode
  else if invalidPasscodes.any (· == passcode) then .error .invalidPasscode
  else .ok ()

/-- `validatePBKDFParams(salt, iterations)`. -/
def validatePBKDFParams (salt : List UInt8) (iterations : UInt32) : Except Error Unit :=
  if salt.length < pbkdfMinSaltLength ∨ salt.length > pbkdfMaxSaltLength then .error .invalidSalt
  else if iterations < pbkdfMinIterations ∨ iterations > pbkdfMaxIterations then
    .error .invalidIterations
  else .ok ()

/-- What `validatePBKDFParams` accepts: a salt of 16 to 32 bytes, and 1000 to 100000
iterations. -/
theorem validatePBKDFParams_ok {salt : List UInt8} {iterations : UInt32}
    (h : validatePBKDFParams salt iterations = .ok ()) :
    pbkdfMinSaltLength ≤ salt.length ∧ salt.length ≤ pbkdfMaxSaltLength ∧
      pbkdfMinIterations ≤ iterations ∧ iterations ≤ pbkdfMaxIterations := by
  unfold validatePBKDFParams at h
  split_ifs at h with hsalt hiter
  simp only [not_or, not_lt] at hsalt
  simp only [not_or, UInt32.not_lt] at hiter
  exact ⟨hsalt.1, hsalt.2, hiter.1, hiter.2⟩

/-! ## The verifier -/

variable {Pt : Type} (P : Primitives Pt)

/-- `reduceModP(ws)`: `ws mod N`, big-endian in 32 bytes. -/
def reduceModP (ws : List UInt8) : List UInt8 := toBE Crypto.Spake2p.groupSizeBytes (ofBE ws % P.curve.order)

/-- `ComputeW0W1(passcode, salt, iterations)`: 80 bytes of PBKDF2 over the little-endian
passcode, each half reduced mod `N`. -/
def computeW0W1 (passcode : UInt32) (salt : List UInt8) (iterations : UInt32) :
    List UInt8 × List UInt8 :=
  let passcodeBytes := toLE 4 passcode.toNat
  let ws := P.pbkdf2 passcodeBytes salt iterations.toNat (2 * wsSizeBytes)
  (reduceModP P (ws.take wsSizeBytes), reduceModP P (ws.drop wsSizeBytes))

/-! ## What the derivations give -/

@[simp] theorem length_reduceModP (ws : List UInt8) :
    (reduceModP P ws).length = Crypto.Spake2p.groupSizeBytes := by
  simp [reduceModP]

/-- The 32 bytes of `reduceModP` read back as `ws mod N`. -/
theorem ofBE_reduceModP (hN : 0 < P.curve.order ∧ P.curve.order ≤ 256 ^ 32) (ws : List UInt8) :
    ofBE (reduceModP P ws) = ofBE ws % P.curve.order := by
  have hlt : ofBE ws % P.curve.order < 256 ^ 32 :=
    (Nat.mod_lt _ hN.1).trans_le hN.2
  exact ofBE_toBE_of_lt hlt

/-- `w0` and `w1` are 32 bytes each: `NewProver` takes them. -/
theorem computeW0W1_sized (passcode : UInt32) (salt : List UInt8) (iterations : UInt32) :
    (computeW0W1 P passcode salt iterations).1.length = Crypto.Spake2p.groupSizeBytes ∧
      (computeW0W1 P passcode salt iterations).2.length = Crypto.Spake2p.groupSizeBytes := by
  simp [computeW0W1]

variable [AddCommGroup Pt]

/-- `computeL(w1)`: `w1·P`, uncompressed. -/
def computeL (w1 : List UInt8) : List UInt8 := encodePoint P.curve (ofBE w1 • P.curve.base)

/-- `GenerateVerifier(passcode, salt, iterations)`. -/
def generateVerifier (passcode : UInt32) (salt : List UInt8) (iterations : UInt32) :
    Except Error Verifier := do
  validatePasscode passcode
  validatePBKDFParams salt iterations
  let (w0, w1) := computeW0W1 P passcode salt iterations
  pure ⟨w0, computeL P w1⟩

/-- **`GenerateVerifier`.** It accepts a passcode and PBKDF parameters that pass their checks,
and its verifier is `w0` and the encoding of `w1·P`. -/
theorem generateVerifier_ok {passcode : UInt32} {salt : List UInt8} {iterations : UInt32}
    {v : Verifier} :
    generateVerifier P passcode salt iterations = .ok v ↔
      validatePasscode passcode = .ok () ∧ validatePBKDFParams salt iterations = .ok () ∧
        v = ⟨(computeW0W1 P passcode salt iterations).1,
          computeL P (computeW0W1 P passcode salt iterations).2⟩ := by
  unfold generateVerifier
  cases hp : validatePasscode passcode with
  | error e => simp [bind, Except.bind]
  | ok u =>
    cases hs : validatePBKDFParams salt iterations with
    | error e => simp [bind, Except.bind]
    | ok u' =>
      simp only [bind, Except.bind, pure, Except.pure, Except.ok.injEq, true_and]
      exact eq_comm

/-! ## The 97-byte form -/

/-- `Verifier.Serialize()`: `W0 ‖ L` in 97 bytes. -/
def Verifier.serialize (v : Verifier) : List UInt8 :=
  copyAt (copyAt (List.replicate (Crypto.Spake2p.groupSizeBytes + Crypto.Spake2p.pointSizeBytes) 0)
    0 (v.w0.take Crypto.Spake2p.groupSizeBytes)) Crypto.Spake2p.groupSizeBytes v.L

/-- `DeserializeVerifier(data)`. -/
def deserializeVerifier (data : List UInt8) : Except Error Verifier :=
  if data.length ≠ Crypto.Spake2p.groupSizeBytes + Crypto.Spake2p.pointSizeBytes then
    .error .invalidMessage
  else .ok ⟨data.take Crypto.Spake2p.groupSizeBytes, data.drop Crypto.Spake2p.groupSizeBytes⟩

/-- A verifier of the declared sizes reads back from its serialization. -/
theorem deserializeVerifier_serialize {v : Verifier}
    (hw0 : v.w0.length = Crypto.Spake2p.groupSizeBytes)
    (hL : v.L.length = Crypto.Spake2p.pointSizeBytes) :
    deserializeVerifier v.serialize = .ok v := by
  obtain ⟨w0, L⟩ := v
  simp only [Crypto.Spake2p.groupSizeBytes, Crypto.Spake2p.pointSizeBytes] at hw0 hL
  have hser : Verifier.serialize ⟨w0, L⟩ = w0 ++ L := by
    simp only [Verifier.serialize, Crypto.Spake2p.groupSizeBytes, Crypto.Spake2p.pointSizeBytes,
      List.take_of_length_le (le_of_eq hw0)]
    -- `W0` fills the first 32 bytes, then `L` the other 65
    have hfirst : copyAt (List.replicate 97 (0 : UInt8)) 0 w0 = w0 ++ List.replicate 65 0 := by
      rw [copyAt_of_le (by simp [hw0])]
      simp [hw0]
    rw [hfirst, copyAt_of_le (by simp [hw0, hL])]
    simp [hw0, hL]
  simp [deserializeVerifier, hser, hw0, hL, Crypto.Spake2p.groupSizeBytes,
    Crypto.Spake2p.pointSizeBytes]

/-- The serialization of a deserialized verifier is the data it came from. -/
theorem serialize_deserializeVerifier {data : List UInt8} {v : Verifier}
    (h : deserializeVerifier data = .ok v) : v.serialize = data := by
  unfold deserializeVerifier at h
  split_ifs at h with hlen
  cases h
  simp only [ne_eq, not_not, Crypto.Spake2p.groupSizeBytes, Crypto.Spake2p.pointSizeBytes] at hlen
  simp only [Verifier.serialize, Crypto.Spake2p.groupSizeBytes, Crypto.Spake2p.pointSizeBytes,
    List.take_take, min_self]
  have hfirst : copyAt (List.replicate 97 (0 : UInt8)) 0 (data.take 32) =
      data.take 32 ++ List.replicate 65 0 := by
    rw [copyAt_of_le (by simp [hlen])]
    simp [hlen]
  rw [hfirst, copyAt_of_le (by simp [hlen])]
  simp [hlen]

end Matter.Pase
