import Matter.Pase.Verifier

/-!
# The PASE handshake state machine (`pkg/securechannel/pase/session.go`)

A `Session` is one side of a PASE handshake: the commissioner that knows the passcode
(initiator, the SPAKE2+ prover) or the commissionee that holds its verifier (responder, the
SPAKE2+ verifier). Each handler is the Go method of the same name, returning its result and the
session as the method leaves it: the Go code writes fields of `s` as it goes, and `s.spake` is a
pointer whose instance the SPAKE2+ calls change, so a handler that fails part-way keeps what it
wrote before the failure.

* `crypto/rand.Reader` is one stream (`rand`): the session reads its random from it, and the
  SPAKE2+ instance a handler creates (which reads `rand.Reader` too) reads on from where the
  session stopped. No handler reads the session's reader after it created the instance.
* A nil `salt` is the empty list: `NewInitiatorWithParams` and `NewResponder` keep only salts of
  16 to 32 bytes, and the TLV reader returns `nil` for an empty string.
* `pase.SessionKeys` has the fields of `case.SessionKeys`; HKDF returns the 48 bytes asked for.

The mutex, the logger, `SetRandom` and the `State.String` texts are left out.

Results:
* `newInitiator_ok`, `newResponder_ok`: the session each constructor builds.
* `deriveSessionKeys_eq`: the keys, once the instance holds a shared secret.
-/

namespace Matter.Pase

open Bytes
open Crypto.Spake2p (SPAKE2P newProver newVerifier generateShare processPeerShare confirmation
  verifyPeerConfirmation sharedSecret)
open Case (MRPParameters SessionKeys)

/-- `Role`. -/
inductive Role
  | initiator
  | responder
  deriving DecidableEq, Repr

/-- `State`. -/
inductive State
  | init
  | waitingPBKDFResponse
  | waitingPake1
  | waitingPake2
  | waitingPake3
  | waitingStatusReport
  | complete
  | failed
  deriving DecidableEq, Repr

/-- The `info` of the session keys: "SessionKeys". -/
def sessionKeysInfo : List UInt8 := "SessionKeys".toUTF8.toList

/-- `Session`, its fields starting at Go's zero values. -/
structure Session (Pt : Type) where
  role : Role
  state : State := .init
  passcode : UInt32 := 0
  verifier : Option Verifier := none
  salt : List UInt8 := []
  iterations : UInt32 := 0
  localSessionID : UInt16 := 0
  peerSessionID : UInt16 := 0
  localRandom : List UInt8 := List.replicate randomSize 0
  peerRandom : List UInt8 := List.replicate randomSize 0
  commissioningHash : List UInt8 := []
  spake : Option (SPAKE2P Pt) := none
  pbkdfReqBytes : List UInt8 := []
  pbkdfRespBytes : List UInt8 := []
  sessionKeys : Option SessionKeys := none
  localMRPParams : Option MRPParameters := none
  peerMRPParams : Option MRPParameters := none
  rand : List UInt8

variable {Pt : Type}

/-! ## Construction -/

/-- `NewInitiator(passcode)`. -/
def newInitiator (passcode : UInt32) (rand : List UInt8) : Except Error (Session Pt) := do
  validatePasscode passcode
  pure { role := .initiator, passcode, rand }

/-- `NewInitiatorWithParams(passcode, salt, iterations)`. -/
def newInitiatorWithParams (passcode : UInt32) (salt : List UInt8) (iterations : UInt32)
    (rand : List UInt8) : Except Error (Session Pt) := do
  validatePasscode passcode
  validatePBKDFParams salt iterations
  pure { role := .initiator, passcode, salt, iterations, rand }

/-- `NewResponder(verifier, salt, iterations)`: `ErrInvalidMessage` for a nil verifier. -/
def newResponder (verifier : Option Verifier) (salt : List UInt8) (iterations : UInt32)
    (rand : List UInt8) : Except Error (Session Pt) :=
  match verifier with
  | none => .error .invalidMessage
  | some v => do
    validatePBKDFParams salt iterations
    pure { role := .responder, verifier := some v, salt, iterations, rand }

/-- What `NewInitiator` builds. -/
theorem newInitiator_ok {passcode : UInt32} {rand : List UInt8} {s : Session Pt}
    (h : newInitiator passcode rand = .ok s) : s = { role := .initiator, passcode, rand } := by
  unfold newInitiator at h
  cases hv : validatePasscode passcode <;> simp_all [bind, Except.bind, pure, Except.pure]

/-- What `NewResponder` builds, from parameters that pass their checks. -/
theorem newResponder_ok {v : Verifier} {salt : List UInt8} {iterations : UInt32}
    {rand : List UInt8} {s : Session Pt}
    (h : newResponder (some v) salt iterations rand = .ok s) :
    validatePBKDFParams salt iterations = .ok () ∧
      s = { role := .responder, verifier := some v, salt, iterations, rand } := by
  unfold newResponder at h
  cases hv : validatePBKDFParams salt iterations <;> simp_all [bind, Except.bind, pure, Except.pure]

namespace Session

/-- `SetLocalMRPParams(params)`. -/
def setLocalMRPParams (s : Session Pt) (params : Option MRPParameters) : Session Pt :=
  { s with localMRPParams := params }

/-- `io.ReadFull(s.rand, s.localRandom[:])`: 32 bytes, or the bytes there are with
`io.ErrUnexpectedEOF` (`io.EOF` when there are none). -/
def readRandom (s : Session Pt) : Except Error Unit × Session Pt :=
  if s.rand.length < randomSize then
    (.error (if s.rand = [] then .eof else .unexpectedEOF),
      { s with localRandom := copyAt s.localRandom 0 s.rand, rand := [] })
  else (.ok (), { s with localRandom := s.rand.take randomSize, rand := s.rand.drop randomSize })

/-- `computeContext()`: `SHA256(ContextPrefix ‖ PBKDFParamRequest ‖ PBKDFParamResponse)`. -/
def computeContext (H : Crypto.Spake2p.Hashes) (s : Session Pt) : Session Pt :=
  { s with commissioningHash := H.sha256 (contextPrefix ++ s.pbkdfReqBytes ++ s.pbkdfRespBytes) }

/-- `deriveSessionKeys()`: `HKDF(Ke, nil, "SessionKeys", 48)` cut into the three keys. -/
def deriveSessionKeys (H : Crypto.Spake2p.Hashes) (s : Session Pt) : Except Error Unit × Session Pt :=
  match s.spake with
  | none => (.error .nilPointer, s)
  | some spake =>
    let ke := sharedSecret spake
    if ke.length = 0 then (.error .sessionNotReady, s)
    else (.ok (), { s with sessionKeys := some (SessionKeys.ofBytes (H.hkdf ke [] sessionKeysInfo 48)) })

/-- `SessionKeys()`: only once complete. -/
def getSessionKeys (s : Session Pt) : Option SessionKeys :=
  if s.state ≠ .complete then none else s.sessionKeys

/-! ## The initiator -/

/-- `Start(localSessionID)`: the PBKDFParamRequest. -/
def start (s : Session Pt) (localSessionID : UInt16) : Except Error (List UInt8) × Session Pt :=
  if s.role ≠ .initiator then (.error .invalidState, s)
  else if s.state ≠ .init then (.error .invalidState, s)
  else
    let s := { s with localSessionID }
    match s.readRandom with
    | (.error e, s) => (.error e, s)
    | (.ok (), s) =>
      let req : PBKDFParamRequest := ⟨s.localRandom, localSessionID, defaultPasscodeID,
        decide (s.salt ≠ [] ∧ 0 < s.iterations), s.localMRPParams⟩
      match req.encode with
      | .error e => (.error (.tlv e), s)
      | .ok data => (.ok data, { s with pbkdfReqBytes := data, state := .waitingPBKDFResponse })

variable [AddCommGroup Pt] (P : Primitives Pt)

omit [AddCommGroup Pt] in
/-- `deriveSessionKeys` once the instance holds a shared secret. -/
theorem deriveSessionKeys_eq {s : Session Pt} {spake : SPAKE2P Pt} (hspake : s.spake = some spake)
    (hke : (sharedSecret spake).length ≠ 0) :
    s.deriveSessionKeys P.hashes =
      (.ok (), { s with sessionKeys := some (SessionKeys.ofBytes
        (P.hashes.hkdf (sharedSecret spake) [] sessionKeysInfo 48)) }) := by
  simp [deriveSessionKeys, hspake, hke]

/-- `HandlePBKDFParamResponse(data)`: the Pake1 with the prover's share. -/
def handlePBKDFParamResponse (s : Session Pt) (data : List UInt8) :
    Except Error (List UInt8) × Session Pt :=
  if s.role ≠ .initiator then (.error .invalidState, s)
  else if s.state ≠ .waitingPBKDFResponse then (.error .invalidState, s)
  else
    match decodePBKDFParamResponse data with
    | .error e => (.error (.ofCodecError e), s)
    | .ok resp =>
      if resp.initiatorRandom ≠ s.localRandom then (.error .randomMismatch, s)
      else
        let s := { s with pbkdfRespBytes := data, peerSessionID := resp.responderSessionID,
                          peerRandom := resp.responderRandom, peerMRPParams := resp.mrpParams }
        -- the parameters of the response, when the initiator has none
        let s := match resp.pbkdfParams with
          | some params =>
            if s.salt = [] then { s with salt := params.salt, iterations := params.iterations }
            else s
          | none => s
        if s.salt = [] ∨ s.iterations = 0 then (.error .invalidMessage, s)
        else
          let s := s.computeContext P.hashes
          let (w0, w1) := computeW0W1 P s.passcode s.salt s.iterations
          match newProver s.commissioningHash [] [] w0 w1 s.rand with
          | .error e => (.error (.spake2p e), { s with spake := none })
          | .ok spake =>
            match generateShare P.curve spake with
            | (.error e, spake) => (.error (.spake2p e), { s with spake := some spake })
            | (.ok pA, spake) =>
              let s := { s with spake := some spake }
              match (Pake1.mk pA).encode with
              | .error e => (.error (.tlv e), s)
              | .ok pake1Data => (.ok pake1Data, { s with state := .waitingPake2 })

/-- `HandlePake2(data)`: the Pake3 with the prover's confirmation, once the verifier's
confirmation checks. -/
def handlePake2 (s : Session Pt) (data : List UInt8) : Except Error (List UInt8) × Session Pt :=
  if s.role ≠ .initiator then (.error .invalidState, s)
  else if s.state ≠ .waitingPake2 then (.error .invalidState, s)
  else
    match decodePake2 data with
    | .error e => (.error (.ofCodecError e), s)
    | .ok pake2 =>
      match s.spake with
      | none => (.error .nilPointer, s)
      | some spake =>
        match processPeerShare P.curve P.hashes spake pake2.pB with
        | (.error e, spake) => (.error (.spake2p e), { s with spake := some spake })
        | (.ok (), spake) =>
          match verifyPeerConfirmation P.hashes spake pake2.cB with
          | (.error _, spake) => (.error .confirmationFailed, { s with spake := some spake })
          | (.ok (), spake) =>
            let s := { s with spake := some spake }
            match confirmation P.hashes spake with
            | .error e => (.error (.spake2p e), s)
            | .ok cA =>
              match (Pake3.mk cA).encode with
              | .error e => (.error (.tlv e), s)
              | .ok pake3Data => (.ok pake3Data, { s with state := .waitingStatusReport })

/-- `HandleStatusReport(isSuccess)`: the keys, on a success report. -/
def handleStatusReport (s : Session Pt) (isSuccess : Bool) : Except Error Unit × Session Pt :=
  if s.role ≠ .initiator then (.error .invalidState, s)
  else if s.state ≠ .waitingStatusReport then (.error .invalidState, s)
  else if !isSuccess then (.error .invalidStatusReport, { s with state := .failed })
  else
    match s.deriveSessionKeys P.hashes with
    | (.error e, s) => (.error e, s)
    | (.ok (), s) => (.ok (), { s with state := .complete })

/-! ## The responder -/

/-- `HandlePBKDFParamRequest(data, localSessionID)`: the PBKDFParamResponse, with the
parameters when the initiator has none. -/
def handlePBKDFParamRequest (s : Session Pt) (data : List UInt8) (localSessionID : UInt16) :
    Except Error (List UInt8) × Session Pt :=
  if s.role ≠ .responder then (.error .invalidState, s)
  else if s.state ≠ .init then (.error .invalidState, s)
  else
    match decodePBKDFParamRequest data with
    | .error e => (.error (.ofCodecError e), s)
    | .ok req =>
      if req.passcodeID ≠ defaultPasscodeID then (.error .invalidPasscodeID, s)
      else
        let s := { s with pbkdfReqBytes := data, localSessionID,
                          peerSessionID := req.initiatorSessionID,
                          peerRandom := req.initiatorRandom, peerMRPParams := req.mrpParams }
        match s.readRandom with
        | (.error e, s) => (.error e, s)
        | (.ok (), s) =>
          let resp : PBKDFParamResponse := ⟨req.initiatorRandom, s.localRandom, localSessionID,
            if !req.hasPBKDFParameters then some ⟨s.iterations, s.salt⟩ else none,
            s.localMRPParams⟩
          match resp.encode with
          | .error e => (.error (.tlv e), s)
          | .ok respData =>
            let s := { s with pbkdfRespBytes := respData }.computeContext P.hashes
            match s.verifier with
            | none => (.error .nilPointer, s)
            | some v =>
              match newVerifier P.curve s.commissioningHash [] [] v.w0 v.L s.rand with
              | .error e => (.error (.spake2p e), { s with spake := none })
              | .ok spake => (.ok respData, { s with spake := some spake, state := .waitingPake1 })

/-- `HandlePake1(data)`: the Pake2 with the verifier's share and confirmation. -/
def handlePake1 (s : Session Pt) (data : List UInt8) : Except Error (List UInt8) × Session Pt :=
  if s.role ≠ .responder then (.error .invalidState, s)
  else if s.state ≠ .waitingPake1 then (.error .invalidState, s)
  else
    match decodePake1 data with
    | .error e => (.error (.ofCodecError e), s)
    | .ok pake1 =>
      match s.spake with
      | none => (.error .nilPointer, s)
      | some spake =>
        match generateShare P.curve spake with
        | (.error e, spake) => (.error (.spake2p e), { s with spake := some spake })
        | (.ok pB, spake) =>
          match processPeerShare P.curve P.hashes spake pake1.pA with
          | (.error e, spake) => (.error (.spake2p e), { s with spake := some spake })
          | (.ok (), spake) =>
            let s := { s with spake := some spake }
            match confirmation P.hashes spake with
            | .error e => (.error (.spake2p e), s)
            | .ok cB =>
              match (Pake2.mk pB cB).encode with
              | .error e => (.error (.tlv e), s)
              | .ok pake2Data => (.ok pake2Data, { s with state := .waitingPake3 })

/-- `HandlePake3(data)`: whether the handshake succeeded (the status report itself is the
caller's); a confirmation that does not check fails the session. -/
def handlePake3 (s : Session Pt) (data : List UInt8) : Except Error Bool × Session Pt :=
  if s.role ≠ .responder then (.error .invalidState, s)
  else if s.state ≠ .waitingPake3 then (.error .invalidState, s)
  else
    match decodePake3 data with
    | .error e => (.error (.ofCodecError e), s)
    | .ok pake3 =>
      match s.spake with
      | none => (.error .nilPointer, s)
      | some spake =>
        match verifyPeerConfirmation P.hashes spake pake3.cA with
        | (.error _, spake) =>
          (.error .confirmationFailed, { s with spake := some spake, state := .failed })
        | (.ok (), spake) =>
          match { s with spake := some spake }.deriveSessionKeys P.hashes with
          | (.error e, s) => (.error e, s)
          | (.ok (), s) => (.ok true, { s with state := .complete })

end Session

end Matter.Pase
