import Matter.Case.Messages

/-!
# The CASE handshake state machine (`pkg/securechannel/case/session.go`)

A `Session` is one side of a CASE handshake. Each handler is the Go method of the same name,
returning its result and the session as the method leaves it: the Go code writes fields of
`s` as it goes, so a handler that fails part-way keeps what it wrote before the failure.

* The values a handler draws are arguments (`Draw`): the 32-byte random and the 16-byte
  resumption ID read from `s.rand`, and the key pair `P256GenerateKeyPair` returns (its private
  key). The reads of `crypto/rand` do not fail.
* `fabricLookup`, `resumptionLookup` and `certValidator` are the callbacks the session is built
  with; a Go error or `ok = false` is `none`. Where Go would dereference a nil pointer (a nil
  lookup, or a nil operational key handed to `P256Sign`), the model returns `nilPointer`.
* `ErrInvalidCertificate` carries which check failed (`CertificateCheck`), and each
  `failed to …: %w` error the step it names (`Step`).

The error paths of the key derivations are left out: HKDF returns the bytes asked for (see
`Keys`). The mutex, the logger and the `State.String` texts are left out as well.

Results:
* `peerCATs_eq_nil`: `PeerCATs` returns no tags, whatever the peer's certificate holds.
-/

namespace Matter.Case

/-- `Role`. -/
inductive Role
  | initiator
  | responder
  deriving DecidableEq, Repr

/-- `State`. -/
inductive State
  | init
  | waitingSigma2
  | waitingSigma2Resume
  | waitingSigma3
  | waitingStatusReport
  | complete
  | failed
  deriving DecidableEq, Repr

/-- Which check of `ErrInvalidCertificate` failed: the validator itself, the node ID against
the target (initiator), or the fabric ID against the own fabric (responder). -/
inductive CertificateCheck
  | chain
  | nodeID
  | fabricID
  deriving DecidableEq, Repr

/-- The step a `failed to …: %w` error of `session.go` names. -/
inductive Step
  | computeResume1MIC
  | encodeSigma1
  | decodeSigma1
  | computeSharedSecret
  | encodeTBSData2
  | signTBSData2
  | encodeTBEData2
  | encryptTBEData2
  | encodeSigma2
  | computeResume2MIC
  | encodeSigma2Resume
  | decodeSigma2
  | decodeTBEData2
  | encodeTBSData2ForVerification
  | encodeTBSData3
  | signTBSData3
  | encodeTBEData3
  | encryptTBEData3
  | encodeSigma3
  | decodeSigma2Resume
  | decodeSigma3
  | decodeTBEData3
  | encodeTBSData3ForVerification
  deriving DecidableEq, Repr

/-- The errors of `case.go`, the wrapped ones, and a nil dereference. -/
inductive CaseError
  | invalidState
  | noSharedRoot
  | invalidCertificate (check : CertificateCheck)
  | signatureInvalid
  | decryptionFailed
  | resumptionFailed
  | invalidResumeMIC
  | missingResumptionField
  | invalidStatusReport
  | sessionNotReady
  | failed (step : Step)
  | nilPointer
  deriving DecidableEq, Repr

/-- The fields of `fabric.FabricInfo` that CASE reads. -/
structure FabricInfo where
  fabricIndex : UInt8
  fabricID : UInt64
  noc : List UInt8
  icac : List UInt8
  rootPublicKey : List UInt8
  compressedFabricID : List UInt8
  ipk : List UInt8
  deriving DecidableEq, Repr

/-- `ResumptionInfo`. -/
structure ResumptionInfo where
  resumptionID : List UInt8
  sharedSecret : List UInt8
  peerNodeID : UInt64
  peerCATs : List UInt32
  deriving DecidableEq, Repr

/-- `PeerCertInfo`. -/
structure PeerCertInfo where
  nodeID : UInt64
  fabricID : UInt64
  publicKey : List UInt8
  deriving DecidableEq, Repr

/-- `ValidatePeerCertChainFunc(noc, icac, trustedRootPubKey)`. -/
abbrev ValidatePeerCertChainFunc := List UInt8 → List UInt8 → List UInt8 → Option PeerCertInfo

/-- `FabricLookupFunc(destinationID, initiatorRandom)`: the fabric and the operational key pair
(which may be nil). -/
abbrev FabricLookupFunc := List UInt8 → List UInt8 → Option (FabricInfo × Option (List UInt8))

/-- `ResumptionLookupFunc(resumptionID)`: the stored secret, fabric and key when `ok`. -/
abbrev ResumptionLookupFunc := List UInt8 → Option (List UInt8 × FabricInfo × Option (List UInt8))

/-- The values one handler draws: `s.localRandom` and `s.newResumptionID` from `s.rand`, and the
ephemeral key pair. -/
structure Draw where
  random : List UInt8
  ephKeyPair : List UInt8
  resumptionID : List UInt8
  deriving DecidableEq, Repr

/-- `io.ReadFull` fills the whole array. -/
def Draw.Sized (d : Draw) : Prop :=
  d.random.length = randomSize ∧ d.resumptionID.length = resumptionIDSize

/-- The certificates of a fabric are Go slices. -/
def FabricInfo.Sized (fi : FabricInfo) : Prop := fi.noc.length < 2 ^ 63 ∧ fi.icac.length < 2 ^ 63

/-- `Session`, its fields starting at Go's zero values. -/
structure Session where
  role : Role
  state : State := .init
  fabricInfo : Option FabricInfo := none
  operationalKey : Option (List UInt8) := none
  targetNodeID : UInt64 := 0
  fabricLookup : Option FabricLookupFunc := none
  resumptionLookup : Option ResumptionLookupFunc := none
  certValidator : Option ValidatePeerCertChainFunc := none
  localSessionID : UInt16 := 0
  peerSessionID : UInt16 := 0
  localRandom : List UInt8 := List.replicate randomSize 0
  peerRandom : List UInt8 := List.replicate randomSize 0
  ephKeyPair : List UInt8 := []
  peerEphPubKey : List UInt8 := List.replicate 65 0
  sharedSecret : List UInt8 := []
  ipk : List UInt8 := List.replicate Crypto.symmetricKeySize 0
  resumptionInfo : Option ResumptionInfo := none
  newResumptionID : List UInt8 := List.replicate resumptionIDSize 0
  msg1Bytes : List UInt8 := []
  msg2Bytes : List UInt8 := []
  msg3Bytes : List UInt8 := []
  sessionKeys : Option SessionKeys := none
  usedResumption : Bool := false
  peerNOC : List UInt8 := []
  peerICAC : List UInt8 := []
  peerNodeID : UInt64 := 0
  localMRPParams : Option MRPParameters := none
  peerMRPParams : Option MRPParameters := none

variable (P : Primitives) (C : MessageCodec)

/-- `NewInitiator(fabricInfo, operationalKey, targetNodeID)`. -/
def newInitiator (fabricInfo : FabricInfo) (operationalKey : List UInt8) (targetNodeID : UInt64) :
    Session :=
  { role := .initiator, fabricInfo := some fabricInfo, operationalKey := some operationalKey,
    targetNodeID, ipk := operationalIPK P fabricInfo.ipk fabricInfo.compressedFabricID }

/-- `NewResponder(fabricLookup, resumptionLookup)`. -/
def newResponder (fabricLookup : FabricLookupFunc) (resumptionLookup : Option ResumptionLookupFunc) :
    Session :=
  { role := .responder, fabricLookup := some fabricLookup, resumptionLookup }

namespace Session

/-- `WithResumption(info)`. -/
def withResumption (s : Session) (info : Option ResumptionInfo) : Session :=
  { s with resumptionInfo := info }

/-- `WithMRPParams(params)`. -/
def withMRPParams (s : Session) (params : Option MRPParameters) : Session :=
  { s with localMRPParams := params }

/-- `WithCertValidator(validator)`. -/
def withCertValidator (s : Session) (validator : Option ValidatePeerCertChainFunc) : Session :=
  { s with certValidator := validator }

/-! ## The initiator's first message -/

/-- The Sigma1 of `Start`, before the resumption fields. -/
def sigma1 (s : Session) (fi : FabricInfo) : Sigma1 :=
  { initiatorRandom := s.localRandom
    initiatorSessionID := s.localSessionID
    destinationID :=
      generateDestinationID P s.localRandom fi.rootPublicKey fi.fabricID s.targetNodeID s.ipk
    initiatorEphPubKey := P.p256PublicKey s.ephKeyPair
    mrpParams := s.localMRPParams
    resumptionID := none
    initiatorResumeMIC := none }

/-- The resumption fields `Start` adds: the ID and the MIC under S1RK. -/
def addResumption (s : Session) (sigma1 : Sigma1) : Except CaseError Sigma1 :=
  match s.resumptionInfo with
  | none => .ok sigma1
  | some info =>
    let s1rk := deriveS1RK P info.sharedSecret s.localRandom info.resumptionID
    match computeResumeMIC P s1rk resume1Nonce with
    | .error _ => .error (.failed .computeResume1MIC)
    | .ok mic => .ok { sigma1 with resumptionID := some info.resumptionID,
                                   initiatorResumeMIC := some mic }

/-- `Start(localSessionID)`. -/
def start (s : Session) (localSessionID : UInt16) (draw : Draw) :
    Except CaseError (List UInt8) × Session :=
  if s.role ≠ .initiator then (.error .invalidState, s)
  else if s.state ≠ .init then (.error .invalidState, s)
  else
    let s := { s with localSessionID, localRandom := draw.random, ephKeyPair := draw.ephKeyPair }
    match s.fabricInfo with
    | none => (.error .nilPointer, s)
    | some fi =>
      match addResumption P s (s.sigma1 P fi) with
      | .error e => (.error e, s)
      | .ok sigma1 =>
        match C.encodeSigma1 sigma1 with
        | none => (.error (.failed .encodeSigma1), s)
        | some msg1Bytes =>
          let state := if s.resumptionInfo.isSome then .waitingSigma2Resume else .waitingSigma2
          (.ok msg1Bytes, { s with msg1Bytes, state })

/-! ## The responder -/

/-- `generateSigma2(sigma1)`, with the fabric and key the lookup gave. -/
def generateSigma2 (s : Session) (fi : FabricInfo) (sigma1 : Sigma1) (draw : Draw) :
    Except CaseError (List UInt8 × Bool) × Session :=
  let s := { s with localRandom := draw.random, ephKeyPair := draw.ephKeyPair,
                    newResumptionID := draw.resumptionID }
  match P.p256ECDH s.ephKeyPair sigma1.initiatorEphPubKey with
  | none => (.error (.failed .computeSharedSecret), { s with sharedSecret := [] })
  | some sharedSecret =>
    let s := { s with sharedSecret }
    let responderEphPubKey := P.p256PublicKey s.ephKeyPair
    match C.encodeTBSData2 ⟨fi.noc, fi.icac, responderEphPubKey, sigma1.initiatorEphPubKey⟩ with
    | none => (.error (.failed .encodeTBSData2), s)
    | some tbsData2Bytes =>
      match s.operationalKey with
      | none => (.error .nilPointer, s)
      | some key =>
        match P.p256Sign key tbsData2Bytes with
        | none => (.error (.failed .signTBSData2), s)
        | some signature =>
          match C.encodeTBEData2 ⟨fi.noc, fi.icac, signature, s.newResumptionID⟩ with
          | none => (.error (.failed .encodeTBEData2), s)
          | some tbeData2Bytes =>
            let s2k := deriveS2K P s.sharedSecret s.ipk s.localRandom responderEphPubKey s.msg1Bytes
            match encryptTBEData P s2k tbeData2Bytes sigma2Nonce [] with
            | .error _ => (.error (.failed .encryptTBEData2), s)
            | .ok encrypted2 =>
              let sigma2 : Sigma2 := ⟨s.localRandom, s.localSessionID, responderEphPubKey,
                encrypted2, s.localMRPParams⟩
              match C.encodeSigma2 sigma2 with
              | none => (.error (.failed .encodeSigma2), s)
              | some msg2Bytes => (.ok (msg2Bytes, false), { s with msg2Bytes, state := .waitingSigma3 })

/-- `generateSigma2Resume(sigma1)`: the session completes at once. -/
def generateSigma2Resume (s : Session) (sigma1 : Sigma1) (draw : Draw) :
    Except CaseError (List UInt8 × Bool) × Session :=
  let s := { s with newResumptionID := draw.resumptionID }
  let s2rk := deriveS2RK P s.sharedSecret sigma1.initiatorRandom s.newResumptionID
  match computeResumeMIC P s2rk resume2Nonce with
  | .error _ => (.error (.failed .computeResume2MIC), s)
  | .ok resume2MIC =>
    match C.encodeSigma2Resume ⟨s.newResumptionID, resume2MIC, s.localSessionID, s.localMRPParams⟩ with
    | none => (.error (.failed .encodeSigma2Resume), s)
    | some msg2Bytes =>
      let s := { s with msg2Bytes, usedResumption := true }
      (.ok (msg2Bytes, true),
        { s with sessionKeys := some (deriveResumptionSessionKeys P s.sharedSecret s.ipk s.msg1Bytes
                   s.msg2Bytes), state := .complete })

/-- The resumption `HandleSigma1` accepts: both fields present, a lookup that finds the ID, and
the Resume1MIC verifying under S1RK of the stored secret. -/
def resumption (s : Session) (sigma1 : Sigma1) :
    Option (List UInt8 × FabricInfo × Option (List UInt8)) :=
  match sigma1.resumptionID, sigma1.initiatorResumeMIC, s.resumptionLookup with
  | some resumptionID, some mic, some lookup =>
    match lookup resumptionID with
    | none => none
    | some (sharedSecret, fi, key) =>
      if verifyResumeMIC P (deriveS1RK P sharedSecret sigma1.initiatorRandom resumptionID)
          resume1Nonce mic then some (sharedSecret, fi, key)
      else none
  | _, _, _ => none

/-- `HandleSigma1(data, localSessionID)`: the response and whether it resumes. -/
def handleSigma1 (s : Session) (data : List UInt8) (localSessionID : UInt16) (draw : Draw) :
    Except CaseError (List UInt8 × Bool) × Session :=
  if s.role ≠ .responder then (.error .invalidState, s)
  else if s.state ≠ .init then (.error .invalidState, s)
  else
    match C.decodeSigma1 data with
    | none => (.error (.failed .decodeSigma1), s)
    | some sigma1 =>
      if sigma1.resumptionID.isSome ≠ sigma1.initiatorResumeMIC.isSome then
        (.error .missingResumptionField, s)
      else
        let s := { s with msg1Bytes := data, localSessionID,
                          peerSessionID := sigma1.initiatorSessionID,
                          peerRandom := sigma1.initiatorRandom, peerMRPParams := sigma1.mrpParams,
                          peerEphPubKey := sigma1.initiatorEphPubKey }
        match s.resumption P sigma1 with
        | some (sharedSecret, fi, key) =>
          generateSigma2Resume P C
            { s with fabricInfo := some fi, operationalKey := key, sharedSecret,
                     ipk := operationalIPK P fi.ipk fi.compressedFabricID } sigma1 draw
        | none =>
          match s.fabricLookup with
          | none => (.error .nilPointer, s)
          | some lookup =>
            match lookup sigma1.destinationID sigma1.initiatorRandom with
            | none => (.error .noSharedRoot, s)
            | some (fi, key) =>
              generateSigma2 P C
                { s with fabricInfo := some fi, operationalKey := key,
                         ipk := operationalIPK P fi.ipk fi.compressedFabricID } fi sigma1 draw

/-! ## The initiator's answer -/

/-- `generateSigma3()`. -/
def generateSigma3 (s : Session) : Except CaseError (List UInt8) × Session :=
  match s.fabricInfo with
  | none => (.error .nilPointer, s)
  | some fi =>
    let initiatorEphPubKey := P.p256PublicKey s.ephKeyPair
    match C.encodeTBSData3 ⟨fi.noc, fi.icac, initiatorEphPubKey, s.peerEphPubKey⟩ with
    | none => (.error (.failed .encodeTBSData3), s)
    | some tbsData3Bytes =>
      match s.operationalKey with
      | none => (.error .nilPointer, s)
      | some key =>
        match P.p256Sign key tbsData3Bytes with
        | none => (.error (.failed .signTBSData3), s)
        | some signature =>
          match C.encodeTBEData3 ⟨fi.noc, fi.icac, signature⟩ with
          | none => (.error (.failed .encodeTBEData3), s)
          | some tbeData3Bytes =>
            let s3k := deriveS3K P s.sharedSecret s.ipk s.msg1Bytes s.msg2Bytes
            match encryptTBEData P s3k tbeData3Bytes sigma3Nonce [] with
            | .error _ => (.error (.failed .encryptTBEData3), s)
            | .ok encrypted3 =>
              match C.encodeSigma3 ⟨encrypted3⟩ with
              | none => (.error (.failed .encodeSigma3), s)
              | some msg3Bytes => (.ok msg3Bytes, { s with msg3Bytes, state := .waitingStatusReport })

/-- The checks `HandleSigma2` makes with a validator: the chain against the own root, the node
ID against the target, then the TBSData2 signature under the key the validator returned. -/
def checkSigma2 (s : Session) (validator : ValidatePeerCertChainFunc) (fi : FabricInfo)
    (tbeData2 : TBEData2) (responderEphPubKey : List UInt8) : Except CaseError Unit × Session :=
  match validator tbeData2.responderNOC tbeData2.responderICAC fi.rootPublicKey with
  | none => (.error (.invalidCertificate .chain), s)
  | some peerCertInfo =>
    if peerCertInfo.nodeID ≠ s.targetNodeID then (.error (.invalidCertificate .nodeID), s)
    else
      let s := { s with peerNodeID := peerCertInfo.nodeID }
      let tbsData2 : TBSData2 := ⟨tbeData2.responderNOC, tbeData2.responderICAC, responderEphPubKey,
        P.p256PublicKey s.ephKeyPair⟩
      match C.encodeTBSData2 tbsData2 with
      | none => (.error (.failed .encodeTBSData2ForVerification), s)
      | some tbsData2Bytes =>
        if P.p256Verify peerCertInfo.publicKey tbsData2Bytes tbeData2.signature then (.ok (), s)
        else (.error .signatureInvalid, s)

/-- The `if s.certValidator != nil` block of `HandleSigma2`. -/
def verifySigma2Peer (s : Session) (tbeData2 : TBEData2) (responderEphPubKey : List UInt8) :
    Except CaseError Unit × Session :=
  match s.certValidator, s.fabricInfo with
  | none, _ => (.ok (), s)
  | some _, none => (.error .nilPointer, s)
  | some validator, some fi => s.checkSigma2 P C validator fi tbeData2 responderEphPubKey

/-- `HandleSigma2(data)`: the Sigma3 to send. -/
def handleSigma2 (s : Session) (data : List UInt8) : Except CaseError (List UInt8) × Session :=
  if s.role ≠ .initiator then (.error .invalidState, s)
  else if s.state ≠ .waitingSigma2 ∧ s.state ≠ .waitingSigma2Resume then (.error .invalidState, s)
  else
    match C.decodeSigma2 data with
    | none => (.error (.failed .decodeSigma2), s)
    | some sigma2 =>
      let s := { s with msg2Bytes := data, peerSessionID := sigma2.responderSessionID,
                        peerRandom := sigma2.responderRandom, peerMRPParams := sigma2.mrpParams,
                        peerEphPubKey := sigma2.responderEphPubKey }
      match P.p256ECDH s.ephKeyPair sigma2.responderEphPubKey with
      | none => (.error (.failed .computeSharedSecret), { s with sharedSecret := [] })
      | some sharedSecret =>
        let s := { s with sharedSecret }
        let s2k := deriveS2K P s.sharedSecret s.ipk sigma2.responderRandom sigma2.responderEphPubKey
          s.msg1Bytes
        match decryptTBEData P s2k sigma2.encrypted2 sigma2Nonce [] with
        | .error _ => (.error .decryptionFailed, s)
        | .ok tbeData2Bytes =>
          match C.decodeTBEData2 tbeData2Bytes with
          | none => (.error (.failed .decodeTBEData2), s)
          | some tbeData2 =>
            let s := { s with peerNOC := tbeData2.responderNOC, peerICAC := tbeData2.responderICAC,
                              newResumptionID := tbeData2.resumptionID }
            match s.verifySigma2Peer P C tbeData2 sigma2.responderEphPubKey with
            | (.error e, s) => (.error e, s)
            | (.ok (), s) => generateSigma3 P C s

/-- `HandleSigma2Resume(data)`: the session completes on a verifying Resume2MIC. -/
def handleSigma2Resume (s : Session) (data : List UInt8) : Except CaseError Unit × Session :=
  if s.role ≠ .initiator then (.error .invalidState, s)
  else if s.state ≠ .waitingSigma2Resume then (.error .invalidState, s)
  else
    match s.resumptionInfo with
    | none => (.error .resumptionFailed, s)
    | some info =>
      match C.decodeSigma2Resume data with
      | none => (.error (.failed .decodeSigma2Resume), s)
      | some sigma2Resume =>
        let s := { s with msg2Bytes := data, peerSessionID := sigma2Resume.responderSessionID,
                          peerMRPParams := sigma2Resume.mrpParams,
                          newResumptionID := sigma2Resume.resumptionID,
                          sharedSecret := info.sharedSecret }
        let s2rk := deriveS2RK P s.sharedSecret s.localRandom sigma2Resume.resumptionID
        if !verifyResumeMIC P s2rk resume2Nonce sigma2Resume.resume2MIC then
          (.error .invalidResumeMIC, s)
        else
          (.ok (), { s with sessionKeys := some (deriveResumptionSessionKeys P s.sharedSecret s.ipk
                              s.msg1Bytes s.msg2Bytes),
                            usedResumption := true, state := .complete })

/-- The checks `HandleSigma3` makes with a validator: the chain against the own root, the
fabric ID against the own fabric, then the TBSData3 signature under the key the validator
returned. -/
def checkSigma3 (s : Session) (validator : ValidatePeerCertChainFunc) (fi : FabricInfo)
    (tbeData3 : TBEData3) : Except CaseError Unit × Session :=
  match validator tbeData3.initiatorNOC tbeData3.initiatorICAC fi.rootPublicKey with
  | none => (.error (.invalidCertificate .chain), s)
  | some peerCertInfo =>
    if peerCertInfo.fabricID ≠ fi.fabricID then (.error (.invalidCertificate .fabricID), s)
    else
      let s := { s with peerNodeID := peerCertInfo.nodeID }
      let tbsData3 : TBSData3 := ⟨tbeData3.initiatorNOC, tbeData3.initiatorICAC, s.peerEphPubKey,
        P.p256PublicKey s.ephKeyPair⟩
      match C.encodeTBSData3 tbsData3 with
      | none => (.error (.failed .encodeTBSData3ForVerification), s)
      | some tbsData3Bytes =>
        if P.p256Verify peerCertInfo.publicKey tbsData3Bytes tbeData3.signature then (.ok (), s)
        else (.error .signatureInvalid, s)

/-- The `if s.certValidator != nil` block of `HandleSigma3`. -/
def verifySigma3Peer (s : Session) (tbeData3 : TBEData3) : Except CaseError Unit × Session :=
  match s.certValidator, s.fabricInfo with
  | none, _ => (.ok (), s)
  | some _, none => (.error .nilPointer, s)
  | some validator, some fi => s.checkSigma3 P C validator fi tbeData3

/-- `HandleSigma3(data)`: the responder completes. -/
def handleSigma3 (s : Session) (data : List UInt8) : Except CaseError Unit × Session :=
  if s.role ≠ .responder then (.error .invalidState, s)
  else if s.state ≠ .waitingSigma3 then (.error .invalidState, s)
  else
    match C.decodeSigma3 data with
    | none => (.error (.failed .decodeSigma3), s)
    | some sigma3 =>
      let s := { s with msg3Bytes := data }
      let s3k := deriveS3K P s.sharedSecret s.ipk s.msg1Bytes s.msg2Bytes
      match decryptTBEData P s3k sigma3.encrypted3 sigma3Nonce [] with
      | .error _ => (.error .decryptionFailed, s)
      | .ok tbeData3Bytes =>
        match C.decodeTBEData3 tbeData3Bytes with
        | none => (.error (.failed .decodeTBEData3), s)
        | some tbeData3 =>
          let s := { s with peerNOC := tbeData3.initiatorNOC, peerICAC := tbeData3.initiatorICAC }
          match s.verifySigma3Peer P C tbeData3 with
          | (.error e, s) => (.error e, s)
          | (.ok (), s) =>
            (.ok (), { s with sessionKeys := some (deriveSessionKeys P s.sharedSecret s.ipk s.msg1Bytes
                                s.msg2Bytes s.msg3Bytes), state := .complete })

/-- `HandleStatusReport(success)`: the initiator completes, or fails on a failure report. -/
def handleStatusReport (s : Session) (success : Bool) : Except CaseError Unit × Session :=
  if s.role ≠ .initiator then (.error .invalidState, s)
  else if s.state ≠ .waitingStatusReport then (.error .invalidState, s)
  else if !success then (.error .invalidStatusReport, { s with state := .failed })
  else
    (.ok (), { s with sessionKeys := some (deriveSessionKeys P s.sharedSecret s.ipk s.msg1Bytes
                        s.msg2Bytes s.msg3Bytes), state := .complete })

/-! ## Getters -/

/-- `SessionKeys()`: only once complete. -/
def getSessionKeys (s : Session) : Except CaseError (Option SessionKeys) :=
  if s.state ≠ .complete then .error .sessionNotReady else .ok s.sessionKeys

/-- `FabricIndex()`: zero while no fabric is known. -/
def fabricIndex (s : Session) : UInt8 :=
  match s.fabricInfo with
  | none => 0
  | some fi => fi.fabricIndex

/-- `PeerCATs()`: the source returns `nil` and leaves the extraction from the peer's NOC to a
full implementation. -/
def peerCATs (_s : Session) : List UInt32 := []

/-- **`PeerCATs` returns no tags**, whatever NOC the peer presented. -/
theorem peerCATs_eq_nil (s : Session) : s.peerCATs = [] := rfl

end Session

end Matter.Case
