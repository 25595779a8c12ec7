import Mathlib.Algebra.Group.Fin.Basic
import Matter.Pase.Session

/-!
# An honest PASE handshake (`session.go`)

`handshake` is two sessions with every message delivered unmodified, the way
`securechannel.Manager` drives them: `Start`, `HandlePBKDFParamRequest`,
`HandlePBKDFParamResponse`, `HandlePake1`, `HandlePake2`, `HandlePake3`, and the initiator's
`HandleStatusReport` on the verdict `HandlePake3` returned.

The success path of each handler is one lemma (`start_eq`, `handlePBKDFParamRequest_eq`, …):
given what the decoder and the SPAKE2+ calls return, the handler's result and the fields it
writes. The SPAKE2+ part of the run is `Spake2p.spake2p_exchange`.

Results:
* `pase_handshake_agrees`: an initiator built from a passcode and a responder built from the
  verifier `GenerateVerifier` derives from that passcode, salt and iteration count, both with
  random streams long enough for their draws, complete the handshake with the same session
  keys, each holding the other's session ID and MRP parameters; the only premises are that
  `L` and the two shares are not the point at infinity.
* `pase_handshake_steps`: the same run step by step, for callers that drive the sessions
  themselves (`securechannel.Manager`).
* `pase_handshake_agrees_sample`: such a run over a curve of seven points.
-/

namespace Matter.Pase

open Bytes
open Crypto.Spake2p (SPAKE2P newProver newVerifier generateShare processPeerShare confirmation
  verifyPeerConfirmation sharedSecret encodePoint computeShare pointM pointN
  generateRandomScalar generateRandomScalar_of_lt Curve)
open Case (MRPParameters SessionKeys)

variable {Pt : Type} [AddCommGroup Pt] (P : Primitives Pt)

/-- An initiator and a responder with every message delivered unmodified, the initiator
handling the verdict of `HandlePake3` as its status report. -/
def handshake (i r : Session Pt) (sidI sidR : UInt16) : Except Error (Session Pt × Session Pt) :=
  match i.start sidI with
  | (.error e, _) => .error e
  | (.ok req, i) =>
    match r.handlePBKDFParamRequest P req sidR with
    | (.error e, _) => .error e
    | (.ok resp, r) =>
      match i.handlePBKDFParamResponse P resp with
      | (.error e, _) => .error e
      | (.ok pake1, i) =>
        match r.handlePake1 P pake1 with
        | (.error e, _) => .error e
        | (.ok pake2, r) =>
          match i.handlePake2 P pake2 with
          | (.error e, _) => .error e
          | (.ok pake3, i) =>
            match r.handlePake3 P pake3 with
            | (.error e, _) => .error e
            | (.ok success, r) =>
              match i.handleStatusReport P success with
              | (.error e, _) => .error e
              | (.ok (), i) => .ok (i, r)

/-- Two sides that completed in agreement: the same session keys, and each holding the other's
session ID and MRP parameters. -/
structure Agree (i r : Session Pt) : Prop where
  initiator_role : i.role = .initiator
  responder_role : r.role = .responder
  initiator_complete : i.state = .complete
  responder_complete : r.state = .complete
  sessionKeys_eq : i.getSessionKeys = r.getSessionKeys
  sessionKeys_isSome : i.getSessionKeys.isSome
  initiator_peerSessionID : i.peerSessionID = r.localSessionID
  responder_peerSessionID : r.peerSessionID = i.localSessionID
  initiator_peerMRPParams : i.peerMRPParams = r.localMRPParams
  responder_peerMRPParams : r.peerMRPParams = i.localMRPParams

/-! ## One lemma per handler, on its success path -/

namespace Session

omit [AddCommGroup Pt] in
/-- `Start` with a random source of 32 bytes at least. -/
theorem start_eq (sid : UInt16) {s : Session Pt} (hrole : s.role = .initiator)
    (hstate : s.state = .init) (hlen : randomSize ≤ s.rand.length) :
    ∃ data, decodePBKDFParamRequest data = .ok ⟨s.rand.take randomSize, sid, defaultPasscodeID,
        decide (s.salt ≠ [] ∧ 0 < s.iterations), s.localMRPParams⟩ ∧
      s.start sid = (.ok data,
        { s with localSessionID := sid, localRandom := s.rand.take randomSize,
                 rand := s.rand.drop randomSize, pbkdfReqBytes := data,
                 state := .waitingPBKDFResponse }) := by
  obtain ⟨data, henc, hdec⟩ := PBKDFParamRequest.roundTrip
    (show PBKDFParamRequest.Sized ⟨s.rand.take randomSize, sid, defaultPasscodeID,
      decide (s.salt ≠ [] ∧ 0 < s.iterations), s.localMRPParams⟩ by
      simp [PBKDFParamRequest.Sized, hlen])
  have hshort : ¬s.rand.length < randomSize := by omega
  refine ⟨data, hdec, ?_⟩
  -- in the form `simp` gives `HasPBKDFParameters`
  simp only [ne_eq, Bool.decide_and, decide_not] at henc
  simp [start, hrole, hstate, readRandom, hshort, henc]

omit [AddCommGroup Pt] in
/-- `HandlePBKDFParamRequest` on a request with the default passcode ID, with a random source
of 32 bytes at least: its response, and, once `NewVerifier` succeeds on the context of the two
messages, the session it leaves. -/
theorem handlePBKDFParamRequest_eq (sid : UInt16) {s : Session Pt} {data : List UInt8}
    {req : PBKDFParamRequest} {v : Verifier} (hrole : s.role = .responder)
    (hstate : s.state = .init) (hdec : decodePBKDFParamRequest data = .ok req)
    (hpid : req.passcodeID = defaultPasscodeID) (hreq : req.Sized)
    (hlen : randomSize ≤ s.rand.length) (hsalt : s.salt.length < 2 ^ 63)
    (hver : s.verifier = some v) :
    ∃ respData, decodePBKDFParamResponse respData = .ok ⟨req.initiatorRandom,
        s.rand.take randomSize, sid,
        if !req.hasPBKDFParameters then some ⟨s.iterations, s.salt⟩ else none,
        s.localMRPParams⟩ ∧
      ∀ spake, newVerifier P.curve (P.hashes.sha256 (contextPrefix ++ data ++ respData)) [] []
          v.w0 v.L (s.rand.drop randomSize) = .ok spake →
        s.handlePBKDFParamRequest P data sid = (.ok respData,
          { s with pbkdfReqBytes := data, localSessionID := sid,
                   peerSessionID := req.initiatorSessionID, peerRandom := req.initiatorRandom,
                   peerMRPParams := req.mrpParams, localRandom := s.rand.take randomSize,
                   rand := s.rand.drop randomSize, pbkdfRespBytes := respData,
                   commissioningHash := P.hashes.sha256 (contextPrefix ++ data ++ respData),
                   spake := some spake, state := .waitingPake1 }) := by
  have hsized : PBKDFParamResponse.Sized ⟨req.initiatorRandom, s.rand.take randomSize, sid,
      if !req.hasPBKDFParameters then some ⟨s.iterations, s.salt⟩ else none,
      s.localMRPParams⟩ := by
    refine ⟨hreq, by simp [hlen], ?_⟩
    intro p hp
    split at hp
    · cases hp
      exact hsalt
    · cases hp
  obtain ⟨respData, henc, hresp⟩ := PBKDFParamResponse.roundTrip hsized
  have hshort : ¬s.rand.length < randomSize := by omega
  refine ⟨respData, hresp, fun spake hnv => ?_⟩
  -- `simp` writes `!b = true` as `b = false` and reassociates the context's bytes
  simp only [Bool.not_eq_eq_eq_not, Bool.not_true, List.append_assoc] at henc hnv
  simp [handlePBKDFParamRequest, hrole, hstate, hdec, hpid, readRandom, hshort, henc,
    computeContext, hver, hnv]

/-- `HandlePBKDFParamResponse` for an initiator without PBKDF parameters, on a response that
echoes its random and carries them: with the prover `NewProver` builds on the context of the
two messages and the share it draws, the Pake1 and the session it leaves. -/
theorem handlePBKDFParamResponse_eq {s : Session Pt} {data X : List UInt8}
    {resp : PBKDFParamResponse} {params : PBKDFParameters} {p0 p1 : SPAKE2P Pt}
    (hrole : s.role = .initiator) (hstate : s.state = .waitingPBKDFResponse)
    (hdec : decodePBKDFParamResponse data = .ok resp) (hrandom : resp.initiatorRandom = s.localRandom)
    (hsalt0 : s.salt = []) (hparams : resp.pbkdfParams = some params) (hsalt : params.salt ≠ [])
    (hiter : params.iterations ≠ 0)
    (hp : newProver (P.hashes.sha256 (contextPrefix ++ s.pbkdfReqBytes ++ data)) [] []
      (computeW0W1 P s.passcode params.salt params.iterations).1
      (computeW0W1 P s.passcode params.salt params.iterations).2 s.rand = .ok p0)
    (hX : generateShare P.curve p0 = (.ok X, p1)) (hXsized : (Pake1.mk X).Sized) :
    ∃ pake1Data, decodePake1 pake1Data = .ok ⟨X⟩ ∧
      s.handlePBKDFParamResponse P data = (.ok pake1Data,
        { s with pbkdfRespBytes := data, peerSessionID := resp.responderSessionID,
                 peerRandom := resp.responderRandom, peerMRPParams := resp.mrpParams,
                 salt := params.salt, iterations := params.iterations,
                 commissioningHash := P.hashes.sha256 (contextPrefix ++ s.pbkdfReqBytes ++ data),
                 spake := some p1, state := .waitingPake2 }) := by
  obtain ⟨pake1Data, henc, hpake1⟩ := Pake1.roundTrip hXsized
  refine ⟨pake1Data, hpake1, ?_⟩
  simp only [List.append_assoc] at hp
  simp [handlePBKDFParamResponse, hrole, hstate, hdec, hrandom, hsalt0, hparams, hsalt, hiter,
    computeContext, hp, hX, henc]

/-- `HandlePake1`: with the share the verifier draws, its `ProcessPeerShare` of the initiator's
share and its confirmation, the Pake2 and the session it leaves. -/
theorem handlePake1_eq {s : Session Pt} {data X Y cB : List UInt8} {v0 v1 v2 : SPAKE2P Pt}
    (hrole : s.role = .responder) (hstate : s.state = .waitingPake1)
    (hdec : decodePake1 data = .ok ⟨X⟩) (hspake : s.spake = some v0)
    (hY : generateShare P.curve v0 = (.ok Y, v1))
    (hproc : processPeerShare P.curve P.hashes v1 X = (.ok (), v2))
    (hconf : confirmation P.hashes v2 = .ok cB) (hsized : (Pake2.mk Y cB).Sized) :
    ∃ pake2Data, decodePake2 pake2Data = .ok ⟨Y, cB⟩ ∧
      s.handlePake1 P data = (.ok pake2Data, { s with spake := some v2, state := .waitingPake3 }) := by
  obtain ⟨pake2Data, henc, hpake2⟩ := Pake2.roundTrip hsized
  refine ⟨pake2Data, hpake2, ?_⟩
  simp [handlePake1, hrole, hstate, hdec, hspake, hY, hproc, hconf, henc]

/-- `HandlePake2`: with the prover's `ProcessPeerShare` of the verifier's share, its check of
the verifier's confirmation and its own confirmation, the Pake3 and the session it leaves. -/
theorem handlePake2_eq {s : Session Pt} {data Y cB cA : List UInt8} {p1 p2 p3 : SPAKE2P Pt}
    (hrole : s.role = .initiator) (hstate : s.state = .waitingPake2)
    (hdec : decodePake2 data = .ok ⟨Y, cB⟩) (hspake : s.spake = some p1)
    (hproc : processPeerShare P.curve P.hashes p1 Y = (.ok (), p2))
    (hverify : verifyPeerConfirmation P.hashes p2 cB = (.ok (), p3))
    (hconf : confirmation P.hashes p3 = .ok cA) (hsized : (Pake3.mk cA).Sized) :
    ∃ pake3Data, decodePake3 pake3Data = .ok ⟨cA⟩ ∧
      s.handlePake2 P data =
        (.ok pake3Data, { s with spake := some p3, state := .waitingStatusReport }) := by
  obtain ⟨pake3Data, henc, hpake3⟩ := Pake3.roundTrip hsized
  refine ⟨pake3Data, hpake3, ?_⟩
  simp [handlePake2, hrole, hstate, hdec, hspake, hproc, hverify, hconf, henc]

omit [AddCommGroup Pt] in
/-- `HandlePake3`: once the verifier's check of the prover's confirmation passes, the session
completes with its keys. -/
theorem handlePake3_eq {s : Session Pt} {data cA : List UInt8} {v2 v3 : SPAKE2P Pt}
    (hrole : s.role = .responder) (hstate : s.state = .waitingPake3)
    (hdec : decodePake3 data = .ok ⟨cA⟩) (hspake : s.spake = some v2)
    (hverify : verifyPeerConfirmation P.hashes v2 cA = (.ok (), v3))
    (hke : (sharedSecret v3).length ≠ 0) :
    s.handlePake3 P data =
      (.ok true, { s with spake := some v3,
                          sessionKeys := some (SessionKeys.ofBytes
                            (P.hashes.hkdf (sharedSecret v3) [] sessionKeysInfo 48)),
                          state := .complete }) := by
  simp [handlePake3, hrole, hstate, hdec, hspake, hverify, deriveSessionKeys, hke]

omit [AddCommGroup Pt] in
/-- `HandleStatusReport` on a success report completes the initiator with its keys. -/
theorem handleStatusReport_eq {s : Session Pt} {spake : SPAKE2P Pt} (hrole : s.role = .initiator)
    (hstate : s.state = .waitingStatusReport) (hspake : s.spake = some spake)
    (hke : (sharedSecret spake).length ≠ 0) :
    s.handleStatusReport P true =
      (.ok (), { s with sessionKeys := some (SessionKeys.ofBytes
                          (P.hashes.hkdf (sharedSecret spake) [] sessionKeysInfo 48)),
                        state := .complete }) := by
  simp [handleStatusReport, hrole, hstate, deriveSessionKeys_eq P hspake hke]

end Session

/-! ## The run -/

/-- The run, from the success of each of its steps. -/
theorem handshake_of_steps {i r i1 r1 i2 r2 i3 r3 i4 : Session Pt} {sidI sidR : UInt16}
    {req resp pake1 pake2 pake3 : List UInt8} {success : Bool}
    (h1 : i.start sidI = (.ok req, i1))
    (h2 : r.handlePBKDFParamRequest P req sidR = (.ok resp, r1))
    (h3 : i1.handlePBKDFParamResponse P resp = (.ok pake1, i2))
    (h4 : r1.handlePake1 P pake1 = (.ok pake2, r2))
    (h5 : i2.handlePake2 P pake2 = (.ok pake3, i3))
    (h6 : r2.handlePake3 P pake3 = (.ok success, r3))
    (h7 : i3.handleStatusReport P success = (.ok (), i4)) :
    handshake P i r sidI sidR = .ok (i4, r3) := by
  simp [handshake, h1, h2, h3, h4, h5, h6, h7]

omit [AddCommGroup Pt] in
/-- A share is a non-empty Go slice. -/
theorem encodePoint_sized (p : Pt) :
    encodePoint P.curve p ≠ [] ∧ (encodePoint P.curve p).length < 2 ^ 63 := by
  simp [← List.length_pos_iff, Crypto.Spake2p.pointSizeBytes]

/-- The steps of an honest PASE handshake (see `pase_handshake_agrees`): each succeeds, the
responder records the initiator's session ID from the request and the initiator the responder's
from the response, and the verdict reaches an initiator waiting for it. -/
theorem pase_handshake_steps (hG : P.curve.Valid) (hH : P.hashes.Sized)
    {passcode : UInt32} {salt : List UInt8} {iterations : UInt32} {v : Verifier}
    {randI randR restI restR : List UInt8} {x y : Nat} {i r : Session Pt}
    {sidI sidR : UInt16} {mrpI mrpR : Option MRPParameters}
    (hv : generateVerifier P passcode salt iterations = .ok v)
    (hi : newInitiator passcode randI = .ok i)
    (hr : newResponder (some v) salt iterations randR = .ok r)
    (hlenI : randomSize ≤ randI.length) (hlenR : randomSize ≤ randR.length)
    (hx : generateRandomScalar P.curve.order (randI.drop randomSize) = (.ok x, restI))
    (hy : generateRandomScalar P.curve.order (randR.drop randomSize) = (.ok y, restR))
    (hL : ofBE (computeW0W1 P passcode salt iterations).2 • P.curve.base ≠ 0)
    (hX : computeShare P.curve x (ofBE (computeW0W1 P passcode salt iterations).1)
      (pointM P.curve) ≠ 0)
    (hY : computeShare P.curve y (ofBE (computeW0W1 P passcode salt iterations).1)
      (pointN P.curve) ≠ 0) :
    ∃ req i1 resp r1 pake1 i2 pake2 r2 pake3 i3 r3 i4,
      (i.setLocalMRPParams mrpI).start sidI = (.ok req, i1) ∧
      (r.setLocalMRPParams mrpR).handlePBKDFParamRequest P req sidR = (.ok resp, r1) ∧
      i1.handlePBKDFParamResponse P resp = (.ok pake1, i2) ∧
      r1.handlePake1 P pake1 = (.ok pake2, r2) ∧
      i2.handlePake2 P pake2 = (.ok pake3, i3) ∧
      r2.handlePake3 P pake3 = (.ok true, r3) ∧
      i3.handleStatusReport P true = (.ok (), i4) ∧
      r1.peerSessionID = sidI ∧ i2.peerSessionID = sidR ∧
      i3.role = .initiator ∧ i3.state = .waitingStatusReport ∧ Agree i4 r3 ∧
      ∃ ke, r3.getSessionKeys = some (SessionKeys.ofBytes (P.hashes.hkdf ke [] sessionKeysInfo 48)) := by
  obtain ⟨-, hparams, rfl⟩ := (generateVerifier_ok P).mp hv
  obtain rfl := newInitiator_ok hi
  obtain ⟨-, rfl⟩ := newResponder_ok hr
  obtain ⟨hsaltMin, hsaltMax, hiterMin, -⟩ := validatePBKDFParams_ok hparams
  obtain ⟨hw0, hw1⟩ := computeW0W1_sized P passcode salt iterations
  set w0 := (computeW0W1 P passcode salt iterations).1
  set w1 := (computeW0W1 P passcode salt iterations).2
  set i0 : Session Pt :=
    ({ role := .initiator, passcode, rand := randI } : Session Pt).setLocalMRPParams mrpI
  set r0 : Session Pt :=
    ({ role := .responder, verifier := some ⟨w0, computeL P w1⟩, salt, iterations,
       rand := randR } : Session Pt).setLocalMRPParams mrpR
  -- the initiator's request, and the responder's answer
  obtain ⟨reqData, hreqDec, h1⟩ := Session.start_eq sidI (show i0.role = .initiator from rfl) rfl
    (show randomSize ≤ i0.rand.length from hlenI)
  obtain ⟨respData, hrespDec, h2⟩ := Session.handlePBKDFParamRequest_eq P sidR
    (show r0.role = .responder from rfl) rfl hreqDec rfl (by simp [PBKDFParamRequest.Sized, i0, Session.setLocalMRPParams, hlenI])
    (show randomSize ≤ r0.rand.length from hlenR) (show r0.salt.length < 2 ^ 63 by
      simp only [r0, Session.setLocalMRPParams]; simp only [pbkdfMaxSaltLength] at hsaltMax; omega)
    (show r0.verifier = some ⟨w0, computeL P w1⟩ from rfl)
  -- both SPAKE2+ instances, on the same context
  set ctx := P.hashes.sha256 (contextPrefix ++ reqData ++ respData)
  set p0 : SPAKE2P Pt := { role := .prover, context := ctx, idProver := [], idVerifier := [],
                           w0 := ofBE w0, w1 := ofBE w1, L := 0, state := .init,
                           rand := randI.drop randomSize }
  set v0 : SPAKE2P Pt := { role := .verifier, context := ctx, idProver := [], idVerifier := [],
                           w0 := ofBE w0, w1 := 0, L := ofBE w1 • P.curve.base, state := .init,
                           rand := randR.drop randomSize }
  have hp0 : newProver ctx [] [] w0 w1 (randI.drop randomSize) = .ok p0 :=
    Crypto.Spake2p.newProver_eq hw0 hw1
  have hv0 : newVerifier P.curve ctx [] [] w0 (encodePoint P.curve (ofBE w1 • P.curve.base))
      (randR.drop randomSize) = .ok v0 :=
    Crypto.Spake2p.newVerifier_eq hG hw0 hL
  set X := encodePoint P.curve (computeShare P.curve x (ofBE w0) (pointM P.curve))
  set Y := encodePoint P.curve (computeShare P.curve y (ofBE w0) (pointN P.curve))
  set p1 : SPAKE2P Pt := { p0 with rand := restI, myRandom := x, myShare := X,
                                   state := .shareGenerated }
  set v1 : SPAKE2P Pt := { v0 with rand := restR, myRandom := y, myShare := Y,
                                   state := .shareGenerated }
  have hX1 : generateShare P.curve p0 = (.ok X, p1) :=
    Crypto.Spake2p.generateShare_eq (show p0.state = .init from rfl) hx
  have hY1 : generateShare P.curve v0 = (.ok Y, v1) :=
    Crypto.Spake2p.generateShare_eq (show v0.state = .init from rfl) hy
  obtain ⟨v2, cB, p2, p3, cA, v3, hprocV, hconfV, hprocP, hverP, hconfP, hverV, hsecret⟩ :=
    @Crypto.Spake2p.spake2p_exchange Pt _ P.curve P.hashes hG _ _ _ _ _ _ _ _ _ _ _ _ _
      hp0 hL hv0 hX1 hY1 hX hY
  -- what the confirmations and the shared secrets measure
  have hcB := Crypto.Spake2p.length_of_confirmation hH hconfV
  have hcA := Crypto.Spake2p.length_of_confirmation hH hconfP
  have hkeV := Crypto.Spake2p.length_Ke_of_processPeerShare hprocV
  have hkeP := Crypto.Spake2p.length_Ke_of_processPeerShare hprocP
  obtain rfl := Crypto.Spake2p.verifyPeerConfirmation_ok hverP
  obtain rfl := Crypto.Spake2p.verifyPeerConfirmation_ok hverV
  -- the initiator's Pake1
  set i1 : Session Pt := { i0 with localSessionID := sidI, localRandom := i0.rand.take randomSize,
                                   rand := i0.rand.drop randomSize, pbkdfReqBytes := reqData,
                                   state := .waitingPBKDFResponse }
  have hsalt : salt ≠ [] := by
    rintro rfl
    simp [pbkdfMinSaltLength] at hsaltMin
  have hiter : iterations ≠ 0 := by
    rintro rfl
    simp [pbkdfMinIterations] at hiterMin
  obtain ⟨pake1Data, hpake1Dec, h3⟩ := Session.handlePBKDFParamResponse_eq P
    (show i1.role = .initiator from rfl) rfl hrespDec rfl rfl
    (show _ = some (⟨iterations, salt⟩ : PBKDFParameters) by rfl) hsalt hiter hp0 hX1
    (encodePoint_sized P _)
  -- the responder's Pake2
  set r1 : Session Pt := { r0 with pbkdfReqBytes := reqData, localSessionID := sidR,
                                   peerSessionID := sidI, peerRandom := i0.rand.take randomSize,
                                   peerMRPParams := i0.localMRPParams,
                                   localRandom := r0.rand.take randomSize,
                                   rand := r0.rand.drop randomSize, pbkdfRespBytes := respData,
                                   commissioningHash := ctx, spake := some v0,
                                   state := .waitingPake1 }
  have h2' : r0.handlePBKDFParamRequest P reqData sidR = (.ok respData, r1) := h2 v0 hv0
  obtain ⟨pake2Data, hpake2Dec, h4⟩ := Session.handlePake1_eq P
    (show r1.role = .responder from rfl) rfl hpake1Dec rfl hY1 hprocV hconfV
    ⟨(encodePoint_sized P _).1, (encodePoint_sized P _).2, by simp [← List.length_pos_iff, hcB],
      by simp [hcB]⟩
  -- the initiator's Pake3
  set i2 : Session Pt := { i1 with pbkdfRespBytes := respData, peerSessionID := sidR,
                                   peerRandom := r0.rand.take randomSize,
                                   peerMRPParams := r0.localMRPParams, salt, iterations,
                                   commissioningHash := ctx, spake := some p1,
                                   state := .waitingPake2 }
  obtain ⟨pake3Data, hpake3Dec, h5⟩ := Session.handlePake2_eq P
    (show i2.role = .initiator from rfl) rfl hpake2Dec rfl hprocP hverP hconfP
    ⟨by simp [← List.length_pos_iff, hcA], by simp [hcA]⟩
  -- the responder's verdict, and the initiator's status report
  set r2 : Session Pt := { r1 with spake := some v2, state := .waitingPake3 }
  have h6 := Session.handlePake3_eq P (show r2.role = .responder from rfl) rfl hpake3Dec rfl hverV
    (by simp [sharedSecret, hkeV])
  set i3 : Session Pt := { i2 with spake := some { p2 with state := .confirmed },
                                   state := .waitingStatusReport }
  have h7 := Session.handleStatusReport_eq P (show i3.role = .initiator from rfl) rfl rfl
    (by simp [sharedSecret, hkeP])
  refine ⟨_, _, _, _, _, _, _, _, _, _, _, _, h1, h2', h3, h4, h5, h6, h7, rfl, rfl, rfl, rfl,
    ⟨rfl, rfl, rfl, rfl, ?_, ?_, rfl, rfl, rfl, rfl⟩, _, rfl⟩
  · simp [Session.getSessionKeys, hsecret]
  · simp [Session.getSessionKeys]

/-- **A PASE handshake agrees.** An initiator built by `NewInitiator` from a passcode and a
responder built by `NewResponder` from the verifier `GenerateVerifier` derives from the same
passcode, salt and iteration count, each with its MRP parameters set and a random stream that
holds its 32-byte random and then the scalar its SPAKE2+ instance draws, complete every step and
agree, provided `L = w1·P` and the two shares are not the point at infinity. -/
theorem pase_handshake_agrees (hG : P.curve.Valid) (hH : P.hashes.Sized)
    {passcode : UInt32} {salt : List UInt8} {iterations : UInt32} {v : Verifier}
    {randI randR restI restR : List UInt8} {x y : Nat} {i r : Session Pt}
    {sidI sidR : UInt16} {mrpI mrpR : Option MRPParameters}
    (hv : generateVerifier P passcode salt iterations = .ok v)
    (hi : newInitiator passcode randI = .ok i)
    (hr : newResponder (some v) salt iterations randR = .ok r)
    (hlenI : randomSize ≤ randI.length) (hlenR : randomSize ≤ randR.length)
    (hx : generateRandomScalar P.curve.order (randI.drop randomSize) = (.ok x, restI))
    (hy : generateRandomScalar P.curve.order (randR.drop randomSize) = (.ok y, restR))
    (hL : ofBE (computeW0W1 P passcode salt iterations).2 • P.curve.base ≠ 0)
    (hX : computeShare P.curve x (ofBE (computeW0W1 P passcode salt iterations).1)
      (pointM P.curve) ≠ 0)
    (hY : computeShare P.curve y (ofBE (computeW0W1 P passcode salt iterations).1)
      (pointN P.curve) ≠ 0) :
    ∃ i' r', handshake P (i.setLocalMRPParams mrpI) (r.setLocalMRPParams mrpR) sidI sidR =
      .ok (i', r') ∧ Agree i' r' := by
  obtain ⟨_, _, _, _, _, _, _, _, _, _, r', i', h1, h2, h3, h4, h5, h6, h7, -, -, -, -, hagree, -⟩ :=
    pase_handshake_steps P hG hH hv hi hr hlenI hlenR hx hy hL hX hY
  exact ⟨i', r', handshake_of_steps P h1 h2 h3 h4 h5 h6 h7, hagree⟩

/-- A curve of seven points: `Fin 7` with base `1`, a point's coordinates `(k, 0)`. -/
def sampleCurve : Curve (Fin 7) where
  base := 1
  order := 7
  coordinates p := (p.val, 0)
  ofCoordinates x y := if h : y = 0 ∧ x < 7 then some ⟨x, h.2⟩ else none

theorem sampleCurve_valid : sampleCurve.Valid where
  coordinates_lt p := ⟨p.isLt.trans (by decide), show 0 < 256 ^ 32 by decide⟩
  ofCoordinates_coordinates p _ := by
    simp [sampleCurve, p.isLt]

/-- PASE over `sampleCurve`, with hashes that ignore their input and a PBKDF2 of ones. -/
def samplePrimitives : Primitives (Fin 7) where
  curve := sampleCurve
  hashes := { sha256 _ := List.replicate 32 1
              hmacSHA256 _ _ := List.replicate 32 2
              hkdf _ _ _ n := List.replicate n 3 }
  pbkdf2 _ _ _ n := List.replicate n 1

theorem pase_handshake_agrees_sample :
    ∃ v i r,
      generateVerifier samplePrimitives 20202021 (List.replicate 16 0x53) 1000 = .ok v ∧
      newInitiator 20202021 (List.replicate 32 9 ++ toBE 32 3) = .ok i ∧
      newResponder (some v) (List.replicate 16 0x53) 1000 (List.replicate 32 8 ++ toBE 32 5) =
        .ok r ∧
      ∃ i' r', handshake samplePrimitives (i.setLocalMRPParams none) (r.setLocalMRPParams none)
        1 2 = .ok (i', r') ∧ Agree i' r' := by
  obtain ⟨v, hv⟩ : ∃ v, generateVerifier samplePrimitives 20202021 (List.replicate 16 0x53) 1000 =
      .ok v := ⟨_, rfl⟩
  have hi : newInitiator 20202021 (List.replicate 32 9 ++ toBE 32 3) =
      .ok (_ : Session (Fin 7)) := rfl
  have hr : newResponder (some v) (List.replicate 16 0x53) 1000 (List.replicate 32 8 ++ toBE 32 5) =
      .ok (_ : Session (Fin 7)) := rfl
  -- `generateRandomScalar` recurses on the stream's length: each scalar is its first block
  refine ⟨_, _, _, hv, hi, hr, pase_handshake_agrees samplePrimitives sampleCurve_valid
    ⟨fun _ _ => List.length_replicate, fun _ _ _ _ => List.length_replicate⟩ hv hi hr (by decide) (by decide)
    (generateRandomScalar_of_lt (by decide) (by decide))
    (generateRandomScalar_of_lt (by decide) (by decide)) (by decide) (by decide) (by decide)⟩

end Matter.Pase
