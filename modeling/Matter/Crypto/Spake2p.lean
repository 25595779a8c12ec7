import Mathlib.Algebra.Group.Basic
import Matter.Crypto.AesCtr
import Matter.Lib.Bytes

/-!
# SPAKE2+ (`pkg/crypto/spake2p/spake2p.go`)

`SPAKE2P` is one party of SPAKE2+ (RFC 9383) with the P256-SHA256-HKDF-HMAC suite. The prover
knows the scalars `w0` and `w1`, the verifier `w0` and the point `L = w1·P`. Each sends a share,
`X = x·P + w0·M` or `Y = y·P + w0·N`, computes the Diffie-Hellman value `Z` and the
verification value `V` from the other's share, and hashes the transcript into the confirmation
keys `KcA`, `KcB` and the shared secret `Ke`.

* The points of P-256 are any commutative group `Pt`. `crypto/elliptic`'s `Add` is `+`,
  `ScalarMult` of the big-endian scalar `k` is `k • p`, and negating `y` is the group's
  negation. A `Curve` gives the base point `P`, the order `N`, and the affine coordinates of a
  point and back (`IsOnCurve`); `encodePoint` and `decodePoint` are the repository's, over them.
* SHA-256, HMAC-SHA256 and HKDF-SHA256 are `Hashes`; HKDF returns the 32 bytes asked for.
* `rand` is what the random reader returns, in order: `generateRandomScalar` reads 32 bytes at a
  time until it has a scalar in `(0, N)`, and fails when the reader runs out.
* `mustDecodePoint` panics on a constant that does not decode. On P-256 `M` and `N` decode; the
  model takes `0` where it would panic.
* A prover's `L` and a verifier's `w1` are nil pointers the role never reads: `0` here.

Results:
* `spake2p_agree`: in any commutative group the prover's `Z` and `V` are the verifier's.
* `decodePoint_encodePoint`: the encoding of a finite point decodes back to it.
* `spake2p_exchange`: a prover and a verifier holding `L = w1·P`, whose shares are finite points,
  run the exchange in the order of the package comment: every step succeeds, each accepts the
  other's confirmation, and both hold the same `Ke`.
-/

namespace Matter.Crypto.Spake2p

open Bytes

/-! ## The algebra of the exchange -/

section Algebra

variable {Pt : Type} [AddCommGroup Pt]

/-- **SPAKE2+ agreement.** With `X = x·P + w0·M`, `Y = y·P + w0·N` and `L = w1·P`, the prover's
`x·(Y − w0·N)` and `w1·(Y − w0·N)` are the verifier's `y·(X − w0·M)` and `y·L`: both are
`(xy)·P` and `(w1 y)·P`. -/
theorem spake2p_agree (P M N : Pt) (x y w0 w1 : Nat) :
    x • ((y • P + w0 • N) + -(w0 • N)) = y • ((x • P + w0 • M) + -(w0 • M)) ∧
      w1 • ((y • P + w0 • N) + -(w0 • N)) = y • (w1 • P) := by
  simp only [← sub_eq_add_neg, add_sub_cancel_right]
  constructor
  · rw [← mul_nsmul', ← mul_nsmul', Nat.mul_comm]
  · rw [← mul_nsmul', ← mul_nsmul', Nat.mul_comm]

end Algebra

/-! ## Constants and errors -/

/-- `GroupSizeBytes`: a scalar. -/
def groupSizeBytes : Nat := 32

/-- `PointSizeBytes`: an uncompressed point. -/
def pointSizeBytes : Nat := 65

/-- The errors of `spake2p.go`, and the random reader's. -/
inductive Error
  /-- `ErrInvalidW0Size`: "spake2p: w0 must be 32 bytes". -/
  | invalidW0Size
  /-- `ErrInvalidW1Size`: "spake2p: w1 must be 32 bytes". -/
  | invalidW1Size
  /-- `ErrInvalidLSize`: "spake2p: L must be 65 bytes (uncompressed point)". -/
  | invalidLSize
  /-- `ErrInvalidShareSize`: "spake2p: share must be 65 bytes (uncompressed point)". -/
  | invalidShareSize
  /-- `ErrInvalidPointOnCurve`: "spake2p: point is not on the curve". -/
  | invalidPointOnCurve
  /-- `ErrInvalidState`: "spake2p: invalid protocol state for this operation". -/
  | invalidState
  /-- `ErrConfirmationFailed`: "spake2p: key confirmation failed". -/
  | confirmationFailed
  /-- `io.ReadFull` on a random reader that ran out. -/
  | unexpectedEOF
  deriving DecidableEq, Repr

/-- The serialized `M`: `pointMBytes`. -/
def pointMBytes : List UInt8 :=
  [0x04, 0x88, 0x6e, 0x2f, 0x97, 0xac, 0xe4, 0x6e, 0x55, 0xba, 0x9d, 0xd7, 0x24, 0x25, 0x79, 0xf2,
    0x99, 0x3b, 0x64, 0xe1, 0x6e, 0xf3, 0xdc, 0xab, 0x95, 0xaf, 0xd4, 0x97, 0x33, 0x3d, 0x8f,
    0xa1, 0x2f, 0x5f, 0xf3, 0x55, 0x16, 0x3e, 0x43, 0xce, 0x22, 0x4e, 0x0b, 0x0e, 0x65, 0xff,
    0x02, 0xac, 0x8e, 0x5c, 0x7b, 0xe0, 0x94, 0x19, 0xc7, 0x85, 0xe0, 0xca, 0x54, 0x7d, 0x55,
    0xa1, 0x2e, 0x2d, 0x20]

/-- The serialized `N`: `pointNBytes`. -/
def pointNBytes : List UInt8 :=
  [0x04, 0xd8, 0xbb, 0xd6, 0xc6, 0x39, 0xc6, 0x29, 0x37, 0xb0, 0x4d, 0x99, 0x7f, 0x38, 0xc3, 0x77,
    0x07, 0x19, 0xc6, 0x29, 0xd7, 0x01, 0x4d, 0x49, 0xa2, 0x4b, 0x4f, 0x98, 0xba, 0xa1, 0x29,
    0x2b, 0x49, 0x07, 0xd6, 0x0a, 0xa6, 0xbf, 0xad, 0xe4, 0x50, 0x08, 0xa6, 0x36, 0x33, 0x7f,
    0x51, 0x68, 0xc6, 0x4d, 0x9b, 0xd3, 0x60, 0x34, 0x80, 0x8c, 0xd5, 0x64, 0x49, 0x0b, 0x1e,
    0x65, 0x6e, 0xdb, 0xe7]

/-- The `info` of the confirmation keys. -/
def confirmationKeysInfo : List UInt8 := "ConfirmationKeys".toUTF8.toList

/-! ## The curve and the hashes -/

/-- P-256 as `crypto/elliptic` gives it: the base point, the order, and the affine coordinates of
a point (`(0, 0)` for the point at infinity) and the point on the curve with given coordinates. -/
structure Curve (Pt : Type) where
  /-- The base point `P`. -/
  base : Pt
  /-- `p256.Params().N`. -/
  order : Nat
  /-- The affine coordinates of a point. -/
  coordinates : Pt → Nat × Nat
  /-- The point with these coordinates, when `IsOnCurve` holds. -/
  ofCoordinates : Nat → Nat → Option Pt

/-- What the exchange needs of the curve: coordinates fit 32 bytes, and a finite point is the
point of its coordinates. -/
structure Curve.Valid {Pt : Type} [AddCommGroup Pt] (G : Curve Pt) : Prop where
  coordinates_lt : ∀ p, (G.coordinates p).1 < 256 ^ 32 ∧ (G.coordinates p).2 < 256 ^ 32
  ofCoordinates_coordinates : ∀ p : Pt, p ≠ 0 →
    G.ofCoordinates (G.coordinates p).1 (G.coordinates p).2 = some p

/-- The hashes `spake2p.go` calls. -/
structure Hashes where
  /-- `sha256.Sum256`. -/
  sha256 : List UInt8 → List UInt8
  /-- `hmacSHA256(key, data)`. -/
  hmacSHA256 : List UInt8 → List UInt8 → List UInt8
  /-- `crypto.HKDFSHA256`. -/
  hkdf : HKDF

/-- HMAC-SHA256 gives its 32 bytes, and HKDF the bytes asked for. -/
structure Hashes.Sized (H : Hashes) : Prop where
  hmacSHA256 : ∀ key data, (H.hmacSHA256 key data).length = 32
  hkdf : ∀ secret salt info n, (H.hkdf secret salt info n).length = n

variable {Pt : Type} [AddCommGroup Pt] (G : Curve Pt) (H : Hashes)

/-! ## Points -/

/-- `decodePoint`: 65 bytes, the prefix `0x04`, and big-endian coordinates on the curve. -/
def decodePoint (data : List UInt8) : Except Error Pt :=
  if data.length ≠ pointSizeBytes then .error .invalidShareSize
  else if data.head? ≠ some 0x04 then .error .invalidPointOnCurve
  else
    match G.ofCoordinates (ofBE ((data.drop 1).take 32)) (ofBE ((data.drop 33).take 32)) with
    | some p => .ok p
    | none => .error .invalidPointOnCurve

/-- `encodePoint`: `0x04 ‖ x ‖ y`, each coordinate in 32 big-endian bytes. -/
def encodePoint (p : Pt) : List UInt8 :=
  0x04 :: (toBE 32 (G.coordinates p).1 ++ toBE 32 (G.coordinates p).2)

/-- `mustDecodePoint`, `0` where it panics. -/
def mustDecodePoint (data : List UInt8) : Pt :=
  match decodePoint G data with
  | .ok p => p
  | .error _ => 0

/-- `pointM`. -/
def pointM : Pt := mustDecodePoint G pointMBytes

/-- `pointN`. -/
def pointN : Pt := mustDecodePoint G pointNBytes

/-- `scalarMult(p, k)`. -/
def scalarMult (p : Pt) (k : Nat) : Pt := k • p

/-- `pointSub(p1, p2)`: `p1` plus `p2` with `y` negated. -/
def pointSub (p1 p2 : Pt) : Pt := p1 + -p2

/-- `computeShare(random, w0, generator)`: `random·P + w0·generator`. -/
def computeShare (random w0 : Nat) (generator : Pt) : Pt :=
  random • G.base + scalarMult generator w0

omit [AddCommGroup Pt] in
@[simp] theorem length_encodePoint (p : Pt) : (encodePoint G p).length = pointSizeBytes := by
  simp [encodePoint, pointSizeBytes]

/-- **A finite point's encoding decodes back to it.** -/
theorem decodePoint_encodePoint (hG : G.Valid) {p : Pt} (hp : p ≠ 0) :
    decodePoint G (encodePoint G p) = .ok p := by
  obtain ⟨hx, hy⟩ := hG.coordinates_lt p
  have hxs : ((encodePoint G p).drop 1).take 32 = toBE 32 (G.coordinates p).1 := by
    simp [encodePoint]
  have hys : ((encodePoint G p).drop 33).take 32 = toBE 32 (G.coordinates p).2 := by
    simp only [encodePoint, List.drop_succ_cons]
    rw [List.drop_append_of_le_length (by simp), List.drop_of_length_le (by simp), List.nil_append,
      List.take_of_length_le (by simp)]
  have hhead : (encodePoint G p).head? = some 0x04 := rfl
  rw [decodePoint, if_neg (by simp), if_neg (by simp [hhead]), hxs, hys, ofBE_toBE_of_lt hx,
    ofBE_toBE_of_lt hy, hG.ofCoordinates_coordinates p hp]

/-! ## The party -/

/-- `Role`. -/
inductive Role
  | prover
  | verifier
  deriving DecidableEq, Repr

/-- `state`. -/
inductive State
  | init
  | shareGenerated
  | sharedSecretComputed
  | confirmed
  deriving DecidableEq, Repr

/-- `SPAKE2P`, the scalars as numbers (`big.Int`), the values it computes as bytes. -/
structure SPAKE2P (Pt : Type) where
  role : Role
  context : List UInt8
  idProver : List UInt8
  idVerifier : List UInt8
  w0 : Nat
  w1 : Nat
  L : Pt
  myRandom : Nat := 0
  myShare : List UInt8 := []
  peerShare : List UInt8 := []
  Z : List UInt8 := []
  V : List UInt8 := []
  Ka : List UInt8 := []
  Ke : List UInt8 := []
  KcA : List UInt8 := []
  KcB : List UInt8 := []
  state : State
  rand : List UInt8

/-- `generateRandomScalar(r)`: 32 bytes at a time until `0 < k < N`. -/
def generateRandomScalar (n : Nat) (rand : List UInt8) : Except Error Nat × List UInt8 :=
  if rand.length < groupSizeBytes then (.error .unexpectedEOF, [])
  else
    let k := ofBE (rand.take groupSizeBytes)
    if 0 < k ∧ k < n then (.ok k, rand.drop groupSizeBytes)
    else generateRandomScalar n (rand.drop groupSizeBytes)
termination_by rand.length
decreasing_by simp only [groupSizeBytes] at *; simp only [List.length_drop]; omega

/-- The first block of the stream is the scalar drawn when it lies in `(0, n)`. -/
theorem generateRandomScalar_of_lt {n : Nat} {rand : List UInt8}
    (hlen : groupSizeBytes ≤ rand.length)
    (hk : 0 < ofBE (rand.take groupSizeBytes) ∧ ofBE (rand.take groupSizeBytes) < n) :
    generateRandomScalar n rand =
      (.ok (ofBE (rand.take groupSizeBytes)), rand.drop groupSizeBytes) := by
  rw [generateRandomScalar, if_neg (Nat.not_lt.mpr hlen), if_pos hk]

/-- `NewProver(context, idProver, idVerifier, w0, w1)`, reading `rand`. -/
def newProver (context idProver idVerifier w0 w1 rand : List UInt8) : Except Error (SPAKE2P Pt) :=
  if w0.length ≠ groupSizeBytes then .error .invalidW0Size
  else if w1.length ≠ groupSizeBytes then .error .invalidW1Size
  else .ok { role := .prover, context, idProver, idVerifier, w0 := ofBE w0, w1 := ofBE w1, L := 0,
             state := .init, rand }

/-- `NewVerifier(context, idProver, idVerifier, w0, L)`, reading `rand`. -/
def newVerifier (context idProver idVerifier w0 L rand : List UInt8) : Except Error (SPAKE2P Pt) :=
  if w0.length ≠ groupSizeBytes then .error .invalidW0Size
  else if L.length ≠ pointSizeBytes then .error .invalidLSize
  else
    match decodePoint G L with
    | .error e => .error e
    | .ok Lpoint =>
      .ok { role := .verifier, context, idProver, idVerifier, w0 := ofBE w0, w1 := 0, L := Lpoint,
            state := .init, rand }

/-- `GenerateShare()`: `X = x·P + w0·M` for the prover, `Y = y·P + w0·N` for the verifier. -/
def generateShare (s : SPAKE2P Pt) : Except Error (List UInt8) × SPAKE2P Pt :=
  if s.state ≠ .init then (.error .invalidState, s)
  else
    match generateRandomScalar G.order s.rand with
    | (.error e, rand) => (.error e, { s with rand })
    | (.ok myRandom, rand) =>
      let share := if s.role = .prover then computeShare G myRandom s.w0 (pointM G)
        else computeShare G myRandom s.w0 (pointN G)
      let myShare := encodePoint G share
      (.ok myShare, { s with rand, myRandom, myShare, state := .shareGenerated })

/-- `computeProverSecrets(Y)`: `Z = x·(Y − w0·N)`, `V = w1·(Y − w0·N)`. -/
def computeProverSecrets (s : SPAKE2P Pt) (Y : Pt) : List UInt8 × List UInt8 :=
  let w0N := scalarMult (pointN G) s.w0
  let YminusW0N := pointSub Y w0N
  (encodePoint G (scalarMult YminusW0N s.myRandom), encodePoint G (scalarMult YminusW0N s.w1))

/-- `computeVerifierSecrets(X)`: `Z = y·(X − w0·M)`, `V = y·L`. -/
def computeVerifierSecrets (s : SPAKE2P Pt) (X : Pt) : List UInt8 × List UInt8 :=
  let w0M := scalarMult (pointM G) s.w0
  let XminusW0M := pointSub X w0M
  (encodePoint G (scalarMult XminusW0M s.myRandom), encodePoint G (scalarMult s.L s.myRandom))

/-- `appendWithLen64(dst, data)`: an 8-byte little-endian length, then the data. -/
def appendWithLen64 (dst data : List UInt8) : List UInt8 := dst ++ toLE 8 data.length ++ data

/-- `buildTranscript()`: `TT`, with `X` the prover's share and `Y` the verifier's. -/
def buildTranscript (s : SPAKE2P Pt) : List UInt8 :=
  let X := if s.role = .prover then s.myShare else s.peerShare
  let Y := if s.role = .prover then s.peerShare else s.myShare
  let w0Bytes := toBE groupSizeBytes s.w0
  let tt := appendWithLen64 [] s.context
  let tt := appendWithLen64 tt s.idProver
  let tt := appendWithLen64 tt s.idVerifier
  let tt := appendWithLen64 tt pointMBytes
  let tt := appendWithLen64 tt pointNBytes
  let tt := appendWithLen64 tt X
  let tt := appendWithLen64 tt Y
  let tt := appendWithLen64 tt s.Z
  let tt := appendWithLen64 tt s.V
  appendWithLen64 tt w0Bytes

/-- `make([]byte, 16)` and `copy` into it. -/
def copyKey (src : List UInt8) : List UInt8 := copyAt (List.replicate 16 0) 0 src

/-- `deriveKeys()`: `Ka ‖ Ke = SHA256(TT)`, `KcA ‖ KcB = HKDF(Ka, nil, "ConfirmationKeys", 32)`. -/
def deriveKeys (s : SPAKE2P Pt) : SPAKE2P Pt :=
  let Kae := H.sha256 (buildTranscript s)
  let Ka := copyKey (Kae.take 16)
  let Kcab := H.hkdf Ka [] confirmationKeysInfo 32
  { s with Ka, Ke := copyKey (Kae.drop 16), KcA := copyKey (Kcab.take 16),
           KcB := copyKey (Kcab.drop 16) }

/-- `ProcessPeerShare(peerShare)`: `Z`, `V` and the keys from the other's share. -/
def processPeerShare (s : SPAKE2P Pt) (peerShare : List UInt8) : Except Error Unit × SPAKE2P Pt :=
  if s.state ≠ .shareGenerated then (.error .invalidState, s)
  else if peerShare.length ≠ pointSizeBytes then (.error .invalidShareSize, s)
  else
    match decodePoint G peerShare with
    | .error e => (.error e, s)
    | .ok peer =>
      let s := { s with peerShare }
      let secrets := if s.role = .prover then computeProverSecrets G s peer
        else computeVerifierSecrets G s peer
      let s := deriveKeys H { s with Z := secrets.1, V := secrets.2 }
      (.ok (), { s with state := .sharedSecretComputed })

/-- `Confirmation()`: `MAC(KcA, Y)` for the prover, `MAC(KcB, X)` for the verifier. -/
def confirmation (s : SPAKE2P Pt) : Except Error (List UInt8) :=
  if s.state ≠ .sharedSecretComputed ∧ s.state ≠ .confirmed then .error .invalidState
  else if s.role = .prover then .ok (H.hmacSHA256 s.KcA s.peerShare)
  else .ok (H.hmacSHA256 s.KcB s.peerShare)

/-- `VerifyPeerConfirmation(peerConfirm)`: `hmac.Equal` with the MAC the other side sends. -/
def verifyPeerConfirmation (s : SPAKE2P Pt) (peerConfirm : List UInt8) :
    Except Error Unit × SPAKE2P Pt :=
  if s.state ≠ .sharedSecretComputed ∧ s.state ≠ .confirmed then (.error .invalidState, s)
  else
    let expected := if s.role = .prover then H.hmacSHA256 s.KcB s.myShare
      else H.hmacSHA256 s.KcA s.myShare
    if expected ≠ peerConfirm then (.error .confirmationFailed, s)
    else (.ok (), { s with state := .confirmed })

/-- `SharedSecret()`. -/
def sharedSecret (s : SPAKE2P Pt) : List UInt8 := s.Ke

/-! ## The exchange -/

section Exchange

variable {G} {H}

omit [AddCommGroup Pt] in
theorem length_of_decodePoint {data : List UInt8} {p : Pt} (h : decodePoint G data = .ok p) :
    data.length = pointSizeBytes := by
  unfold decodePoint at h
  by_contra hlen
  rw [if_pos hlen] at h
  cases h

/-- What `NewProver` builds. -/
theorem newProver_ok {context idProver idVerifier w0 w1 rand : List UInt8} {s : SPAKE2P Pt}
    (h : newProver context idProver idVerifier w0 w1 rand = .ok s) :
    s.role = .prover ∧ s.context = context ∧ s.idProver = idProver ∧ s.idVerifier = idVerifier ∧
      s.w0 = ofBE w0 ∧ s.w1 = ofBE w1 ∧ s.state = .init := by
  unfold newProver at h
  split_ifs at h
  cases h
  exact ⟨rfl, rfl, rfl, rfl, rfl, rfl, rfl⟩

/-- What `NewVerifier` builds from the encoding of a finite point `L`. -/
theorem newVerifier_ok (hG : G.Valid) {context idProver idVerifier w0 rand : List UInt8} {L : Pt}
    {s : SPAKE2P Pt} (hL : L ≠ 0)
    (h : newVerifier G context idProver idVerifier w0 (encodePoint G L) rand = .ok s) :
    s.role = .verifier ∧ s.context = context ∧ s.idProver = idProver ∧
      s.idVerifier = idVerifier ∧ s.w0 = ofBE w0 ∧ s.L = L ∧ s.state = .init := by
  unfold newVerifier at h
  rw [decodePoint_encodePoint G hG hL] at h
  split_ifs at h
  cases h
  exact ⟨rfl, rfl, rfl, rfl, rfl, rfl, rfl⟩

/-- What `GenerateShare` leaves: the scalar it drew, and the encoding of the share. -/
theorem generateShare_ok {s s' : SPAKE2P Pt} {share : List UInt8}
    (h : generateShare G s = (.ok share, s')) :
    ∃ k rand, s' = { s with rand, myRandom := k, myShare := share, state := .shareGenerated } ∧
      share = encodePoint G (if s.role = .prover then computeShare G k s.w0 (pointM G)
        else computeShare G k s.w0 (pointN G)) := by
  unfold generateShare at h
  by_cases hst : s.state ≠ .init
  · rw [if_pos hst] at h
    cases h
  · rw [if_neg hst] at h
    split at h
    · cases h
    · rename_i k rand _
      simp only [Prod.mk.injEq, Except.ok.injEq] at h
      obtain ⟨rfl, rfl⟩ := h
      exact ⟨k, rand, rfl, rfl⟩

/-- `NewProver` on scalars of 32 bytes. -/
theorem newProver_eq {context idProver idVerifier w0 w1 rand : List UInt8}
    (hw0 : w0.length = groupSizeBytes) (hw1 : w1.length = groupSizeBytes) :
    (newProver context idProver idVerifier w0 w1 rand : Except Error (SPAKE2P Pt)) =
      .ok { role := .prover, context, idProver, idVerifier, w0 := ofBE w0, w1 := ofBE w1, L := 0,
            state := .init, rand } := by
  simp [newProver, hw0, hw1]

/-- `NewVerifier` on a 32-byte `w0` and the encoding of a finite point. -/
theorem newVerifier_eq (hG : G.Valid) {context idProver idVerifier w0 rand : List UInt8} {L : Pt}
    (hw0 : w0.length = groupSizeBytes) (hL : L ≠ 0) :
    newVerifier G context idProver idVerifier w0 (encodePoint G L) rand =
      .ok { role := .verifier, context, idProver, idVerifier, w0 := ofBE w0, w1 := 0, L,
            state := .init, rand } := by
  simp [newVerifier, hw0, decodePoint_encodePoint G hG hL]

/-- `GenerateShare` in state `init`, with the scalar the stream gives. -/
theorem generateShare_eq {s : SPAKE2P Pt} {k : Nat} {rest : List UInt8} (hs : s.state = .init)
    (hk : generateRandomScalar G.order s.rand = (.ok k, rest)) :
    generateShare G s =
      (.ok (encodePoint G (if s.role = .prover then computeShare G k s.w0 (pointM G)
          else computeShare G k s.w0 (pointN G))),
        { s with rand := rest, myRandom := k,
                 myShare := encodePoint G (if s.role = .prover then computeShare G k s.w0 (pointM G)
                   else computeShare G k s.w0 (pointN G)),
                 state := .shareGenerated }) := by
  simp [generateShare, hs, hk]

/-- `ProcessPeerShare` after `GenerateShare`, on a share that decodes, succeeds. -/
theorem processPeerShare_exists {s0 s : SPAKE2P Pt} {share peerShare : List UInt8} {peer : Pt}
    (hgen : generateShare G s0 = (.ok share, s)) (hpeer : decodePoint G peerShare = .ok peer) :
    ∃ s', processPeerShare G H s peerShare = (.ok (), s') := by
  obtain ⟨k, rand, rfl, -⟩ := generateShare_ok hgen
  have hlen := length_of_decodePoint hpeer
  simp [processPeerShare, hlen, hpeer]

/-- **What `ProcessPeerShare` does**: on a share that decodes, it computes `Z` and `V` for its
role into the party, keeps the rest, and derives the keys from that party's transcript. -/
theorem processPeerShare_ok {s s' : SPAKE2P Pt} {peerShare : List UInt8}
    (h : processPeerShare G H s peerShare = (.ok (), s')) :
    ∃ peer t, decodePoint G peerShare = .ok peer ∧
      s' = { deriveKeys H t with state := .sharedSecretComputed } ∧
      t.role = s.role ∧ t.context = s.context ∧ t.idProver = s.idProver ∧
      t.idVerifier = s.idVerifier ∧ t.w0 = s.w0 ∧ t.myShare = s.myShare ∧
      t.peerShare = peerShare ∧
      t.Z = encodePoint G (s.myRandom •
        (peer + -(s.w0 • if s.role = .prover then pointN G else pointM G))) ∧
      t.V = encodePoint G (if s.role = .prover then s.w1 • (peer + -(s.w0 • pointN G))
        else s.myRandom • s.L) := by
  unfold processPeerShare at h
  split_ifs at h
  · simp at h
  · simp at h
  split at h
  · simp at h
  rename_i peer hpeer
  simp only [Prod.mk.injEq] at h
  obtain ⟨-, rfl⟩ := h
  refine ⟨peer, _, hpeer, rfl, rfl, rfl, rfl, rfl, rfl, rfl, rfl, ?_, ?_⟩ <;>
    by_cases hr : s.role = .prover <;>
    simp [hr, computeProverSecrets, computeVerifierSecrets, scalarMult, pointSub]

omit [AddCommGroup Pt] in
/-- `Confirmation` once the secrets are computed. -/
theorem confirmation_eq {s : SPAKE2P Pt}
    (hs : s.state = .sharedSecretComputed ∨ s.state = .confirmed) :
    confirmation H s = .ok (if s.role = .prover then H.hmacSHA256 s.KcA s.peerShare
      else H.hmacSHA256 s.KcB s.peerShare) := by
  have hs' : ¬(s.state ≠ .sharedSecretComputed ∧ s.state ≠ .confirmed) := by tauto
  by_cases hr : s.role = .prover <;> simp only [confirmation, hs', hr, if_false, if_true]

omit [AddCommGroup Pt] in
/-- `VerifyPeerConfirmation` accepts the MAC it expects. -/
theorem verifyPeerConfirmation_eq {s : SPAKE2P Pt} {peerConfirm : List UInt8}
    (hs : s.state = .sharedSecretComputed)
    (h : (if s.role = .prover then H.hmacSHA256 s.KcB s.myShare
      else H.hmacSHA256 s.KcA s.myShare) = peerConfirm) :
    verifyPeerConfirmation H s peerConfirm = (.ok (), { s with state := .confirmed }) := by
  simp [verifyPeerConfirmation, hs, h]

/-- After `ProcessPeerShare`, `Ke` is the 16 bytes `SharedSecret` returns. -/
theorem length_Ke_of_processPeerShare {s s' : SPAKE2P Pt} {peerShare : List UInt8}
    (h : processPeerShare G H s peerShare = (.ok (), s')) : s'.Ke.length = 16 := by
  obtain ⟨peer, t, -, rfl, -⟩ := processPeerShare_ok h
  simp [deriveKeys, copyKey]

omit [AddCommGroup Pt] in
/-- A confirmation is an HMAC: 32 bytes. -/
theorem length_of_confirmation (hH : H.Sized) {s : SPAKE2P Pt} {c : List UInt8}
    (h : confirmation H s = .ok c) : c.length = 32 := by
  unfold confirmation at h
  split_ifs at h <;> cases h <;> exact hH.hmacSHA256 _ _

omit [AddCommGroup Pt] in
/-- `VerifyPeerConfirmation` only moves the instance to `confirmed`. -/
theorem verifyPeerConfirmation_ok {s s' : SPAKE2P Pt} {peerConfirm : List UInt8}
    (h : verifyPeerConfirmation H s peerConfirm = (.ok (), s')) :
    s' = { s with state := .confirmed } := by
  unfold verifyPeerConfirmation at h
  by_cases hst : s.state ≠ .sharedSecretComputed ∧ s.state ≠ .confirmed
  · rw [if_pos hst] at h
    cases h
  · rw [if_neg hst] at h
    dsimp only at h
    by_cases hc : (if s.role = .prover then H.hmacSHA256 s.KcB s.myShare
        else H.hmacSHA256 s.KcA s.myShare) ≠ peerConfirm
    · rw [if_pos hc] at h
      cases h
    · rw [if_neg hc] at h
      simp only [Prod.mk.injEq] at h
      exact h.2.symm

omit [AddCommGroup Pt] in
/-- A prover's and a verifier's transcripts agree when they hold the same context, identities,
`Z`, `V` and `w0`, and each holds the other's share. -/
theorem buildTranscript_eq {p v : SPAKE2P Pt} (hp : p.role = .prover) (hv : v.role = .verifier)
    (hctx : p.context = v.context) (hidP : p.idProver = v.idProver)
    (hidV : p.idVerifier = v.idVerifier) (hX : p.myShare = v.peerShare)
    (hY : p.peerShare = v.myShare) (hZ : p.Z = v.Z) (hV : p.V = v.V) (hw0 : p.w0 = v.w0) :
    buildTranscript p = buildTranscript v := by
  simp only [buildTranscript, hp, hv, if_true, reduceCtorEq, if_false, hctx, hidP, hidV, hX, hY,
    hZ, hV, hw0]

/-- **The SPAKE2+ exchange completes.** A prover and a verifier built with the same context,
identities and `w0`, the verifier's `L` the encoding of `w1·P`, each draw a share; when the
shares are finite points, the verifier takes `X` and confirms, the prover takes `Y`, accepts the
verifier's confirmation and confirms, and the verifier accepts the prover's confirmation. Both
then hold the same shared secret `Ke`. -/
theorem spake2p_exchange (hG : G.Valid)
    {context idProver idVerifier w0 w1 randP randV X Y : List UInt8} {p0 p1 v0 v1 : SPAKE2P Pt}
    (hp : newProver context idProver idVerifier w0 w1 randP = .ok p0)
    (hL : ofBE w1 • G.base ≠ 0)
    (hv : newVerifier G context idProver idVerifier w0 (encodePoint G (ofBE w1 • G.base)) randV =
      .ok v0)
    (hX : generateShare G p0 = (.ok X, p1)) (hY : generateShare G v0 = (.ok Y, v1))
    (hXne : computeShare G p1.myRandom p1.w0 (pointM G) ≠ 0)
    (hYne : computeShare G v1.myRandom v1.w0 (pointN G) ≠ 0) :
    ∃ v2 cB p2 p3 cA v3,
      processPeerShare G H v1 X = (.ok (), v2) ∧ confirmation H v2 = .ok cB ∧
      processPeerShare G H p1 Y = (.ok (), p2) ∧ verifyPeerConfirmation H p2 cB = (.ok (), p3) ∧
      confirmation H p3 = .ok cA ∧ verifyPeerConfirmation H v2 cA = (.ok (), v3) ∧
      sharedSecret p3 = sharedSecret v3 := by
  obtain ⟨hpr, hpc, hpi, hpv, hpw0, hpw1, hps⟩ := newProver_ok hp
  obtain ⟨hvr, hvc, hvi, hvv, hvw0, hvL, hvs⟩ := newVerifier_ok hG hL hv
  obtain ⟨x, randP', rfl, hXeq⟩ := generateShare_ok hX
  obtain ⟨y, randV', rfl, hYeq⟩ := generateShare_ok hY
  rw [if_pos hpr] at hXeq
  rw [hvr, if_neg (by decide)] at hYeq
  dsimp only at hXne hYne
  -- each share decodes to its point
  have hXdec : decodePoint G X = .ok (computeShare G x p0.w0 (pointM G)) := by
    rw [hXeq]
    exact decodePoint_encodePoint G hG hXne
  have hYdec : decodePoint G Y = .ok (computeShare G y v0.w0 (pointN G)) := by
    rw [hYeq]
    exact decodePoint_encodePoint G hG hYne
  -- the verifier takes X, the prover takes Y
  obtain ⟨v2, hv2⟩ := processPeerShare_exists (H := H) hY hXdec
  obtain ⟨p2, hp2⟩ := processPeerShare_exists (H := H) hX hYdec
  obtain ⟨Xpt, vT, hXpt, rfl, hvTr, hvTc, hvTi, hvTv, hvTw, hvTm, hvTp, hvTZ, hvTV⟩ :=
    processPeerShare_ok hv2
  obtain ⟨Ypt, pT, hYpt, rfl, hpTr, hpTc, hpTi, hpTv, hpTw, hpTm, hpTp, hpTZ, hpTV⟩ :=
    processPeerShare_ok hp2
  obtain rfl := Except.ok.inj (hXpt.symm.trans hXdec)
  obtain rfl := Except.ok.inj (hYpt.symm.trans hYdec)
  -- both compute the same `Z` and `V`, hence the same transcript
  have hw0 : p0.w0 = v0.w0 := hpw0.trans hvw0.symm
  obtain ⟨hagZ, hagV⟩ := spake2p_agree G.base (pointM G) (pointN G) x y v0.w0 (ofBE w1)
  have hZ : pT.Z = vT.Z := by
    rw [hpTZ, hvTZ]
    simp only [hpr, hvr, if_true, reduceCtorEq, if_false, hw0, computeShare, scalarMult]
    rw [hagZ]
  have hV : pT.V = vT.V := by
    rw [hpTV, hvTV]
    simp only [hpr, hvr, if_true, reduceCtorEq, if_false, hw0, computeShare, scalarMult, hvL,
      hpw1]
    rw [hagV]
  have htt : buildTranscript pT = buildTranscript vT :=
    buildTranscript_eq (hpTr.trans hpr) (hvTr.trans hvr)
      (by rw [hpTc, hvTc]; exact hpc.trans hvc.symm) (by rw [hpTi, hvTi]; exact hpi.trans hvi.symm)
      (by rw [hpTv, hvTv]; exact hpv.trans hvv.symm) (hpTm.trans hvTp.symm)
      (hpTp.trans hvTm.symm) hZ hV (by rw [hpTw, hvTw]; exact hw0)
  -- so the same keys: each side's MAC is the one the other expects
  refine ⟨_, _, _, _, _, _, hv2, confirmation_eq (.inl rfl), hp2,
    verifyPeerConfirmation_eq rfl ?_, confirmation_eq (.inr rfl), verifyPeerConfirmation_eq rfl ?_,
    ?_⟩
  · simp [deriveKeys, htt, hpTr, hvTr, hpr, hvr, hpTm, hvTp]
  · simp [deriveKeys, htt, hpTr, hvTr, hpr, hvr, hpTp, hvTm]
  · simp [sharedSecret, deriveKeys, htt]

end Exchange

end Matter.Crypto.Spake2p
