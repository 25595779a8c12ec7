import Matter.Case.Codec
import Matter.Case.Session

/-!
# An honest CASE handshake (`session.go`)

`handshake` is two sessions with every message delivered unmodified, the way
`securechannel.Manager` drives them: `Start`, `HandleSigma1`, and then either `HandleSigma2`,
`HandleSigma3` and the success `HandleStatusReport`, or, when the responder resumed,
`HandleSigma2Resume`.

The success path of each handler is one lemma (`start_eq`, `handleSigma1_eq`,
`generateSigma2_eq`, …): given what its primitives and decoders return, the handler's result
and the fields it writes. `Primitives.Honest` is what an honest run needs of P-256: ECDH between
two key pairs agrees, and a signature verifies under the signer's public key.

Results:
* `verifySigma2Peer_ok`, `verifySigma3Peer_ok`: a validator that accepts the peer's chain and
  reports the signing key passes both checks, changing only the peer node ID.
* `full_handshake_agrees`, `resumed_handshake_agrees`: over any primitives of the documented
  sizes and any codec that round trips, the full handshake and the resumed one complete with the
  same keys on both sides.
* `case_handshake_resumes`: a full handshake completes and agrees, and a later one resumed from
  its resumption ID and shared secret completes and agrees too.
* `case_handshake_resumes_sample`: the theorems apply to the TLV codec of `messages.go`.
-/

namespace Matter.Case

/-- What an honest run needs of P-256. -/
structure Primitives.Honest (P : Primitives) : Prop where
  ecdh : ∀ a b, ∃ z, P.p256ECDH a (P.p256PublicKey b) = some z ∧
    P.p256ECDH b (P.p256PublicKey a) = some z
  sign : ∀ k message, ∃ signature, P.p256Sign k message = some signature
  verify : ∀ k message signature, P.p256Sign k message = some signature →
    P.p256Verify (P.p256PublicKey k) message signature = true

section Run

variable (P : Primitives) (C : MessageCodec)

/-- An initiator and a responder with every message delivered unmodified: `Start`,
`HandleSigma1`, then `HandleSigma2Resume` if the responder resumed, or else `HandleSigma2`,
`HandleSigma3` and the success `HandleStatusReport`. -/
def handshake (i r : Session) (sidI sidR : UInt16) (drawI drawR : Draw) :
    Except CaseError (Session × Session) :=
  match i.start P C sidI drawI with
  | (.error e, _) => .error e
  | (.ok msg1, i) =>
    match r.handleSigma1 P C msg1 sidR drawR with
    | (.error e, _) => .error e
    | (.ok (msg2, true), r) =>
      match i.handleSigma2Resume P C msg2 with
      | (.error e, _) => .error e
      | (.ok (), i) => .ok (i, r)
    | (.ok (msg2, false), r) =>
      match i.handleSigma2 P C msg2 with
      | (.error e, _) => .error e
      | (.ok msg3, i) =>
        match r.handleSigma3 P C msg3 with
        | (.error e, _) => .error e
        | (.ok (), r) =>
          match i.handleStatusReport P true with
          | (.error e, _) => .error e
          | (.ok (), i) => .ok (i, r)

end Run

/-- Two sides that completed in agreement: the same session keys, crossed session IDs, the
same shared secret and the same resumption ID. -/
structure Agree (i r : Session) : Prop where
  initiator_complete : i.state = .complete
  responder_complete : r.state = .complete
  sessionKeys_eq : i.sessionKeys = r.sessionKeys
  sessionKeys_isSome : i.sessionKeys.isSome
  initiator_peerSessionID : i.peerSessionID = r.localSessionID
  responder_peerSessionID : r.peerSessionID = i.localSessionID
  sharedSecret_eq : i.sharedSecret = r.sharedSecret
  resumptionID_eq : i.newResumptionID = r.newResumptionID

variable {P : Primitives} {C : MessageCodec}

/-! ## One lemma per handler, on its success path -/

namespace Session

/-- `addResumption` without resumption information leaves the Sigma1 as it is. -/
theorem addResumption_of_none {s : Session} (h : s.resumptionInfo = none) (sigma1 : Sigma1) :
    s.addResumption P sigma1 = .ok sigma1 := by
  simp [addResumption, h]

/-- With resumption information, `addResumption` adds its ID and the MIC under S1RK. -/
theorem addResumption_of_some {s : Session} {info : ResumptionInfo} {mic : List UInt8}
    (h : s.resumptionInfo = some info)
    (hmic : computeResumeMIC P (deriveS1RK P info.sharedSecret s.localRandom info.resumptionID)
      resume1Nonce = .ok mic) (sigma1 : Sigma1) :
    s.addResumption P sigma1 =
      .ok { sigma1 with resumptionID := some info.resumptionID, initiatorResumeMIC := some mic } := by
  simp [addResumption, h, hmic]

theorem start_eq {s : Session} {fi : FabricInfo} {sid : UInt16} {draw : Draw}
    {sigma1 : Sigma1} {msg1 : List UInt8}
    (hrole : s.role = .initiator) (hstate : s.state = .init) (hfi : s.fabricInfo = some fi)
    (hadd : ({ s with localSessionID := sid, localRandom := draw.random,
                      ephKeyPair := draw.ephKeyPair } : Session).addResumption P
      (({ s with localSessionID := sid, localRandom := draw.random,
                 ephKeyPair := draw.ephKeyPair } : Session).sigma1 P fi) = .ok sigma1)
    (henc : C.encodeSigma1 sigma1 = some msg1) :
    s.start P C sid draw =
      (.ok msg1, { s with localSessionID := sid, localRandom := draw.random,
                          ephKeyPair := draw.ephKeyPair, msg1Bytes := msg1,
                          state := if s.resumptionInfo.isSome then .waitingSigma2Resume
                            else .waitingSigma2 }) := by
  unfold start
  rw [if_neg (by simp [hrole]), if_neg (by simp [hstate])]
  dsimp only
  split
  · rename_i hnone
    rw [hfi] at hnone
    cases hnone
  · rename_i fi' hsome
    rw [hfi, Option.some.injEq] at hsome
    subst hsome
    rw [hadd]
    simp only [henc]

theorem handleSigma1_eq {s : Session} {data : List UInt8} {sigma1 : Sigma1}
    {lookup : FabricLookupFunc} {fi : FabricInfo} {key : Option (List UInt8)} {sid : UInt16}
    {draw : Draw} (hrole : s.role = .responder) (hstate : s.state = .init)
    (hdec : C.decodeSigma1 data = some sigma1) (hres : sigma1.resumptionID = none)
    (hmic : sigma1.initiatorResumeMIC = none) (hlook : s.fabricLookup = some lookup)
    (hfound : lookup sigma1.destinationID sigma1.initiatorRandom = some (fi, key)) :
    s.handleSigma1 P C data sid draw =
      ({ s with msg1Bytes := data, localSessionID := sid,
                peerSessionID := sigma1.initiatorSessionID, peerRandom := sigma1.initiatorRandom,
                peerMRPParams := sigma1.mrpParams, peerEphPubKey := sigma1.initiatorEphPubKey,
                fabricInfo := some fi, operationalKey := key,
                ipk := operationalIPK P fi.ipk fi.compressedFabricID } : Session).generateSigma2
        P C fi sigma1 draw := by
  simp [handleSigma1, hrole, hstate, hdec, hres, hmic, resumption, hlook, hfound]

theorem generateSigma2_eq {s : Session} {fi : FabricInfo} {sigma1 : Sigma1} {draw : Draw}
    {z tbsData2Bytes key signature tbeData2Bytes encrypted2 msg2 : List UInt8}
    (hecdh : P.p256ECDH draw.ephKeyPair sigma1.initiatorEphPubKey = some z)
    (htbs : C.encodeTBSData2 ⟨fi.noc, fi.icac, P.p256PublicKey draw.ephKeyPair,
      sigma1.initiatorEphPubKey⟩ = some tbsData2Bytes)
    (hkey : s.operationalKey = some key) (hsign : P.p256Sign key tbsData2Bytes = some signature)
    (htbe : C.encodeTBEData2 ⟨fi.noc, fi.icac, signature, draw.resumptionID⟩ = some tbeData2Bytes)
    (henc : encryptTBEData P (deriveS2K P z s.ipk draw.random (P.p256PublicKey draw.ephKeyPair)
      s.msg1Bytes) tbeData2Bytes sigma2Nonce [] = .ok encrypted2)
    (hmsg : C.encodeSigma2 ⟨draw.random, s.localSessionID, P.p256PublicKey draw.ephKeyPair,
      encrypted2, s.localMRPParams⟩ = some msg2) :
    s.generateSigma2 P C fi sigma1 draw =
      (.ok (msg2, false), { s with localRandom := draw.random, ephKeyPair := draw.ephKeyPair,
                                   newResumptionID := draw.resumptionID, sharedSecret := z,
                                   msg2Bytes := msg2, state := .waitingSigma3 }) := by
  simp [generateSigma2, hecdh, htbs, hkey, hsign, htbe, henc, hmsg]

/-- The validator block of `HandleSigma2` passes when the validator accepts the chain with the
target's node ID and the signature verifies; it then records the node ID. -/
theorem verifySigma2Peer_ok {s : Session} {tbeData2 : TBEData2} {responderEphPubKey : List UInt8}
    (h : ∀ validator ∈ s.certValidator, ∃ fi ∈ s.fabricInfo, ∃ info tbsData2Bytes,
      validator tbeData2.responderNOC tbeData2.responderICAC fi.rootPublicKey = some info ∧
      info.nodeID = s.targetNodeID ∧
      C.encodeTBSData2 ⟨tbeData2.responderNOC, tbeData2.responderICAC, responderEphPubKey,
        P.p256PublicKey s.ephKeyPair⟩ = some tbsData2Bytes ∧
      P.p256Verify info.publicKey tbsData2Bytes tbeData2.signature = true) :
    ∃ n, s.verifySigma2Peer P C tbeData2 responderEphPubKey = (.ok (), { s with peerNodeID := n }) := by
  unfold verifySigma2Peer
  split
  · exact ⟨s.peerNodeID, rfl⟩
  · rename_i hv hnone
    obtain ⟨fi, hfi, -⟩ := h _ hv
    simp [hnone] at hfi
  · rename_i validator fi hv hfi
    obtain ⟨fi', hfi', info, bytes, hinfo, hnode, henc, hsig⟩ := h validator hv
    rw [hfi, Option.mem_def, Option.some.injEq] at hfi'
    subst hfi'
    exact ⟨info.nodeID, by simp [checkSigma2, hinfo, hnode, henc, hsig]⟩

theorem handleSigma2_eq {s t : Session} {data : List UInt8} {sigma2 : Sigma2}
    {z tbeData2Bytes : List UInt8} {tbeData2 : TBEData2}
    (hrole : s.role = .initiator) (hstate : s.state = .waitingSigma2)
    (hdec : C.decodeSigma2 data = some sigma2)
    (hecdh : P.p256ECDH s.ephKeyPair sigma2.responderEphPubKey = some z)
    (hdecrypt : decryptTBEData P (deriveS2K P z s.ipk sigma2.responderRandom
      sigma2.responderEphPubKey s.msg1Bytes) sigma2.encrypted2 sigma2Nonce [] = .ok tbeData2Bytes)
    (htbe : C.decodeTBEData2 tbeData2Bytes = some tbeData2)
    (hverify : ({ s with msg2Bytes := data, peerSessionID := sigma2.responderSessionID,
                         peerRandom := sigma2.responderRandom, peerMRPParams := sigma2.mrpParams,
                         peerEphPubKey := sigma2.responderEphPubKey, sharedSecret := z,
                         peerNOC := tbeData2.responderNOC, peerICAC := tbeData2.responderICAC,
                         newResumptionID := tbeData2.resumptionID } : Session).verifySigma2Peer
      P C tbeData2 sigma2.responderEphPubKey = (.ok (), t)) :
    s.handleSigma2 P C data = t.generateSigma3 P C := by
  unfold handleSigma2
  rw [if_neg (by simp [hrole]), if_neg (by simp [hstate])]
  simp only [hdec, hecdh, hdecrypt, htbe]
  rw [hverify]

theorem generateSigma3_eq {s : Session} {fi : FabricInfo}
    {tbsData3Bytes key signature tbeData3Bytes encrypted3 msg3 : List UInt8}
    (hfi : s.fabricInfo = some fi)
    (htbs : C.encodeTBSData3 ⟨fi.noc, fi.icac, P.p256PublicKey s.ephKeyPair, s.peerEphPubKey⟩ =
      some tbsData3Bytes)
    (hkey : s.operationalKey = some key) (hsign : P.p256Sign key tbsData3Bytes = some signature)
    (htbe : C.encodeTBEData3 ⟨fi.noc, fi.icac, signature⟩ = some tbeData3Bytes)
    (henc : encryptTBEData P (deriveS3K P s.sharedSecret s.ipk s.msg1Bytes s.msg2Bytes)
      tbeData3Bytes sigma3Nonce [] = .ok encrypted3)
    (hmsg : C.encodeSigma3 ⟨encrypted3⟩ = some msg3) :
    s.generateSigma3 P C = (.ok msg3, { s with msg3Bytes := msg3, state := .waitingStatusReport }) := by
  simp [generateSigma3, hfi, htbs, hkey, hsign, htbe, henc, hmsg]

/-- The validator block of `HandleSigma3` passes when the validator accepts the chain with the
own fabric ID and the signature verifies; it then records the node ID. -/
theorem verifySigma3Peer_ok {s : Session} {tbeData3 : TBEData3}
    (h : ∀ validator ∈ s.certValidator, ∃ fi ∈ s.fabricInfo, ∃ info tbsData3Bytes,
      validator tbeData3.initiatorNOC tbeData3.initiatorICAC fi.rootPublicKey = some info ∧
      info.fabricID = fi.fabricID ∧
      C.encodeTBSData3 ⟨tbeData3.initiatorNOC, tbeData3.initiatorICAC, s.peerEphPubKey,
        P.p256PublicKey s.ephKeyPair⟩ = some tbsData3Bytes ∧
      P.p256Verify info.publicKey tbsData3Bytes tbeData3.signature = true) :
    ∃ n, s.verifySigma3Peer P C tbeData3 = (.ok (), { s with peerNodeID := n }) := by
  unfold verifySigma3Peer
  split
  · exact ⟨s.peerNodeID, rfl⟩
  · rename_i hv hnone
    obtain ⟨fi, hfi, -⟩ := h _ hv
    simp [hnone] at hfi
  · rename_i validator fi hv hfi
    obtain ⟨fi', hfi', info, bytes, hinfo, hfab, henc, hsig⟩ := h validator hv
    rw [hfi, Option.mem_def, Option.some.injEq] at hfi'
    subst hfi'
    exact ⟨info.nodeID, by simp [checkSigma3, hinfo, hfab, henc, hsig]⟩

theorem handleSigma3_eq {s t : Session} {data tbeData3Bytes : List UInt8} {sigma3 : Sigma3}
    {tbeData3 : TBEData3} (hrole : s.role = .responder) (hstate : s.state = .waitingSigma3)
    (hdec : C.decodeSigma3 data = some sigma3)
    (hdecrypt : decryptTBEData P (deriveS3K P s.sharedSecret s.ipk s.msg1Bytes s.msg2Bytes)
      sigma3.encrypted3 sigma3Nonce [] = .ok tbeData3Bytes)
    (htbe : C.decodeTBEData3 tbeData3Bytes = some tbeData3)
    (hverify : ({ s with msg3Bytes := data, peerNOC := tbeData3.initiatorNOC,
                         peerICAC := tbeData3.initiatorICAC } : Session).verifySigma3Peer
      P C tbeData3 = (.ok (), t)) :
    s.handleSigma3 P C data =
      (.ok (), { t with sessionKeys := some (deriveSessionKeys P t.sharedSecret t.ipk t.msg1Bytes
                          t.msg2Bytes t.msg3Bytes), state := .complete }) := by
  unfold handleSigma3
  rw [if_neg (by simp [hrole]), if_neg (by simp [hstate])]
  simp only [hdec, hdecrypt, htbe]
  rw [hverify]

theorem handleStatusReport_eq {s : Session} (hrole : s.role = .initiator)
    (hstate : s.state = .waitingStatusReport) :
    s.handleStatusReport P true =
      (.ok (), { s with sessionKeys := some (deriveSessionKeys P s.sharedSecret s.ipk s.msg1Bytes
                          s.msg2Bytes s.msg3Bytes), state := .complete }) := by
  simp [handleStatusReport, hrole, hstate]

/-- What a success report the initiator accepted did: the initiator was waiting for it, and
completed with the keys of the whole transcript. -/
theorem handleStatusReport_ok {s s' : Session} (h : s.handleStatusReport P true = (.ok (), s')) :
    s.role = .initiator ∧ s.state = .waitingStatusReport ∧
      s' = { s with sessionKeys := some (deriveSessionKeys P s.sharedSecret s.ipk s.msg1Bytes
                      s.msg2Bytes s.msg3Bytes), state := .complete } := by
  have hrole : s.role = .initiator := by
    by_contra hr
    simp [handleStatusReport, hr] at h
  have hstate : s.state = .waitingStatusReport := by
    by_contra hs
    simp [handleStatusReport, hrole, hs] at h
  rw [handleStatusReport_eq hrole hstate] at h
  exact ⟨hrole, hstate, (Prod.mk.inj h).2.symm⟩

theorem handleSigma1_resume_eq {s : Session} {data : List UInt8} {sigma1 : Sigma1}
    {lookup : ResumptionLookupFunc} {resumptionID mic sharedSecret : List UInt8} {fi : FabricInfo}
    {key : Option (List UInt8)} {sid : UInt16} {draw : Draw} (hrole : s.role = .responder)
    (hstate : s.state = .init) (hdec : C.decodeSigma1 data = some sigma1)
    (hres : sigma1.resumptionID = some resumptionID) (hmic : sigma1.initiatorResumeMIC = some mic)
    (hlook : s.resumptionLookup = some lookup)
    (hfound : lookup resumptionID = some (sharedSecret, fi, key))
    (hverify : verifyResumeMIC P (deriveS1RK P sharedSecret sigma1.initiatorRandom resumptionID)
      resume1Nonce mic = true) :
    s.handleSigma1 P C data sid draw =
      ({ s with msg1Bytes := data, localSessionID := sid,
                peerSessionID := sigma1.initiatorSessionID, peerRandom := sigma1.initiatorRandom,
                peerMRPParams := sigma1.mrpParams, peerEphPubKey := sigma1.initiatorEphPubKey,
                fabricInfo := some fi, operationalKey := key, sharedSecret,
                ipk := operationalIPK P fi.ipk fi.compressedFabricID } : Session).generateSigma2Resume
        P C sigma1 draw := by
  unfold handleSigma1
  rw [if_neg (by simp [hrole]), if_neg (by simp [hstate])]
  simp only [hdec, hres, hmic, Option.isSome_some, ne_eq, not_true_eq_false, if_false, resumption,
    hlook, hfound, hverify, if_true]

theorem generateSigma2Resume_eq {s : Session} {sigma1 : Sigma1} {draw : Draw}
    {resume2MIC msg2 : List UInt8}
    (hmic : computeResumeMIC P (deriveS2RK P s.sharedSecret sigma1.initiatorRandom
      draw.resumptionID) resume2Nonce = .ok resume2MIC)
    (hmsg : C.encodeSigma2Resume ⟨draw.resumptionID, resume2MIC, s.localSessionID,
      s.localMRPParams⟩ = some msg2) :
    s.generateSigma2Resume P C sigma1 draw =
      (.ok (msg2, true), { s with newResumptionID := draw.resumptionID, msg2Bytes := msg2,
                                  usedResumption := true,
                                  sessionKeys := some (deriveResumptionSessionKeys P s.sharedSecret
                                    s.ipk s.msg1Bytes msg2),
                                  state := .complete }) := by
  simp [generateSigma2Resume, hmic, hmsg]

theorem handleSigma2Resume_eq {s : Session} {data : List UInt8} {info : ResumptionInfo}
    {sigma2Resume : Sigma2Resume} (hrole : s.role = .initiator)
    (hstate : s.state = .waitingSigma2Resume) (hinfo : s.resumptionInfo = some info)
    (hdec : C.decodeSigma2Resume data = some sigma2Resume)
    (hverify : verifyResumeMIC P (deriveS2RK P info.sharedSecret s.localRandom
      sigma2Resume.resumptionID) resume2Nonce sigma2Resume.resume2MIC = true) :
    s.handleSigma2Resume P C data =
      (.ok (), { s with msg2Bytes := data, peerSessionID := sigma2Resume.responderSessionID,
                        peerMRPParams := sigma2Resume.mrpParams,
                        newResumptionID := sigma2Resume.resumptionID,
                        sharedSecret := info.sharedSecret,
                        sessionKeys := some (deriveResumptionSessionKeys P info.sharedSecret s.ipk
                          s.msg1Bytes data),
                        usedResumption := true, state := .complete }) := by
  unfold handleSigma2Resume
  rw [if_neg (by simp [hrole]), if_neg (by simp [hstate])]
  simp only [hinfo, hdec, hverify, Bool.not_true, Bool.false_eq_true, if_false]

end Session


/-! ## The honest run -/

/-- The Sigma1 `Start` builds has its declared sizes once the random is drawn. -/
theorem sigma1_sized (hP : P.Sized) {s : Session} {fi : FabricInfo}
    (h : s.localRandom.length = randomSize) : (s.sigma1 P fi).Sized :=
  ⟨h, hP.hmacSHA256 _ _, hP.p256PublicKey _, by simp [Session.sigma1], by simp [Session.sigma1]⟩

/-- The IPK is a function of the epoch key and the compressed fabric ID. -/
theorem operationalIPK_congr {fiI fiR : FabricInfo} (hipk : fiI.ipk = fiR.ipk)
    (hcfid : fiI.compressedFabricID = fiR.compressedFabricID) :
    operationalIPK P fiR.ipk fiR.compressedFabricID =
      operationalIPK P fiI.ipk fiI.compressedFabricID := by
  rw [hipk, hcfid]

/-- S2K, S3K and the resumption keys have the 16 bytes CCM takes. -/
theorem length_hkdf_symmetric (hP : P.Sized) (key salt info : List UInt8) :
    (P.hkdf key salt info Crypto.symmetricKeySize).length = Crypto.symmetricKeySize :=
  hP.hkdf _ _ _ _

/-- A run in which every step of the full handshake succeeds. -/
theorem handshake_of_full {i r i1 r1 i2 r2 i3 : Session} {sidI sidR : UInt16} {drawI drawR : Draw}
    {msg1 msg2 msg3 : List UInt8} (h1 : i.start P C sidI drawI = (.ok msg1, i1))
    (h2 : r.handleSigma1 P C msg1 sidR drawR = (.ok (msg2, false), r1))
    (h3 : i1.handleSigma2 P C msg2 = (.ok msg3, i2)) (h4 : r1.handleSigma3 P C msg3 = (.ok (), r2))
    (h5 : i2.handleStatusReport P true = (.ok (), i3)) :
    handshake P C i r sidI sidR drawI drawR = .ok (i3, r2) := by
  simp [handshake, h1, h2, h3, h4, h5]

/-- A run in which the responder resumes and the initiator accepts its Sigma2_Resume. -/
theorem handshake_of_resumed {i r i1 r1 i2 : Session} {sidI sidR : UInt16} {drawI drawR : Draw}
    {msg1 msg2 : List UInt8} (h1 : i.start P C sidI drawI = (.ok msg1, i1))
    (h2 : r.handleSigma1 P C msg1 sidR drawR = (.ok (msg2, true), r1))
    (h3 : i1.handleSigma2Resume P C msg2 = (.ok (), i2)) :
    handshake P C i r sidI sidR drawI drawR = .ok (i2, r1) := by
  simp [handshake, h1, h2, h3]

/-- **What a run that completes did**: `Start` and `HandleSigma1` succeeded, and then either the
responder resumed and the initiator accepted its Sigma2_Resume, or `HandleSigma2`, `HandleSigma3`
and the success `HandleStatusReport` succeeded. -/
theorem handshake_ok {i r i' r' : Session} {sidI sidR : UInt16} {drawI drawR : Draw}
    (h : handshake P C i r sidI sidR drawI drawR = .ok (i', r')) :
    ∃ msg1 i1 msg2 r1, i.start P C sidI drawI = (.ok msg1, i1) ∧
      ((r.handleSigma1 P C msg1 sidR drawR = (.ok (msg2, true), r1) ∧ r' = r1 ∧
          i1.handleSigma2Resume P C msg2 = (.ok (), i')) ∨
        (r.handleSigma1 P C msg1 sidR drawR = (.ok (msg2, false), r1) ∧
          ∃ msg3 i2, i1.handleSigma2 P C msg2 = (.ok msg3, i2) ∧
            r1.handleSigma3 P C msg3 = (.ok (), r') ∧
            i2.handleStatusReport P true = (.ok (), i'))) := by
  unfold handshake at h
  -- every step's result is split in the order the run makes them; the errors contradict `h`
  rcases h1 : i.start P C sidI drawI with ⟨_ | msg1, i1⟩ <;> rw [h1] at h <;> simp only at h
  · cases h
  rcases h2 : r.handleSigma1 P C msg1 sidR drawR with ⟨_ | ⟨msg2, resumed⟩, r1⟩ <;>
    rw [h2] at h
  · simp only at h
    cases h
  cases resumed with
  | false =>
    simp only at h
    rcases h3 : i1.handleSigma2 P C msg2 with ⟨_ | msg3, i2⟩ <;> rw [h3] at h <;> simp only at h
    · cases h
    rcases h4 : r1.handleSigma3 P C msg3 with ⟨_ | _, r2⟩ <;> rw [h4] at h <;> simp only at h
    · cases h
    rcases h5 : i2.handleStatusReport P true with ⟨_ | _, i3⟩ <;> rw [h5] at h <;> simp only at h
    · cases h
    cases h
    exact ⟨msg1, i1, msg2, r1, rfl, .inr ⟨h2, msg3, i2, h3, h4, h5⟩⟩
  | true =>
    simp only at h
    rcases h3 : i1.handleSigma2Resume P C msg2 with ⟨_ | _, i2⟩ <;> rw [h3] at h <;>
      simp only at h
    · cases h
    cases h
    exact ⟨msg1, i1, msg2, _, rfl, .inl ⟨h2, rfl, h3⟩⟩

section Honest

variable (hP : P.Sized) (hC : C.RoundTrip)
  {fiI fiR : FabricInfo} (hipk : fiI.ipk = fiR.ipk)
  (hcfid : fiI.compressedFabricID = fiR.compressedFabricID)
  {kI kR : List UInt8} {target : UInt64} {mrpI mrpR : Option MRPParameters}
  {sidI sidR : UInt16} {drawI drawR : Draw} (hdI : drawI.Sized) (hdR : drawR.Sized)
include hP hC hipk hcfid hdI hdR

/-- **The steps of a full CASE handshake**, under the hypotheses of `full_handshake_agrees`: each
step succeeds, the last two sessions agree, and the responder did not resume. -/
theorem full_handshake_steps (hH : P.Honest) {lookup : FabricLookupFunc}
    {resumptionLookup : Option ResumptionLookupFunc} {VI VR : Option ValidatePeerCertChainFunc}
    (hlookup : lookup (generateDestinationID P drawI.random fiI.rootPublicKey fiI.fabricID target
      (operationalIPK P fiI.ipk fiI.compressedFabricID)) drawI.random = some (fiR, some kR))
    (hVI : ∀ V ∈ VI, ∃ fabricID, V fiR.noc fiR.icac fiI.rootPublicKey =
      some ⟨target, fabricID, P.p256PublicKey kR⟩)
    (hVR : ∀ V ∈ VR, ∃ nodeID, V fiI.noc fiI.icac fiR.rootPublicKey =
      some ⟨nodeID, fiR.fabricID, P.p256PublicKey kI⟩)
    (hfI : fiI.Sized) (hfR : fiR.Sized)
    (hshort2 : ∀ signature b, signature.length = 64 →
      C.encodeTBEData2 ⟨fiR.noc, fiR.icac, signature, drawR.resumptionID⟩ = some b →
      b.length < 2 ^ 16)
    (hshort3 : ∀ signature b, signature.length = 64 →
      C.encodeTBEData3 ⟨fiI.noc, fiI.icac, signature⟩ = some b → b.length < 2 ^ 16) :
    ∃ msg1 i1 msg2 r1 msg3 i2 r i,
      (((newInitiator P fiI kI target).withMRPParams mrpI).withCertValidator VI).start P C sidI
          drawI = (.ok msg1, i1) ∧
        (((newResponder lookup resumptionLookup).withMRPParams mrpR).withCertValidator
            VR).handleSigma1 P C msg1 sidR drawR = (.ok (msg2, false), r1) ∧
        i1.handleSigma2 P C msg2 = (.ok msg3, i2) ∧ r1.handleSigma3 P C msg3 = (.ok (), r) ∧
        i2.handleStatusReport P true = (.ok (), i) ∧
        Agree i r ∧ r.usedResumption = false ∧ i.newResumptionID = drawR.resumptionID ∧
        r.localSessionID = sidR := by
  have hipkR := operationalIPK_congr (P := P) hipk hcfid
  set i0 := ((newInitiator P fiI kI target).withMRPParams mrpI).withCertValidator VI
  set r0 := ((newResponder lookup resumptionLookup).withMRPParams mrpR).withCertValidator VR
  -- Sigma1: the initiator encodes it, the responder decodes the same message
  obtain ⟨msg1, henc1, hdec1⟩ := hC.sigma1
    (Session.sigma1 P { i0 with localSessionID := sidI, localRandom := drawI.random,
                                ephKeyPair := drawI.ephKeyPair } fiI) (sigma1_sized hP hdI.1)
  set i1 : Session := { i0 with localSessionID := sidI, localRandom := drawI.random,
                                ephKeyPair := drawI.ephKeyPair, msg1Bytes := msg1,
                                state := .waitingSigma2 }
  have hstart : i0.start P C sidI drawI = (.ok msg1, i1) :=
    Session.start_eq rfl rfl rfl (Session.addResumption_of_none rfl _) henc1
  -- Sigma2: one ECDH secret on both sides
  obtain ⟨z, hzI, hzR⟩ := hH.ecdh drawI.ephKeyPair drawR.ephKeyPair
  obtain ⟨tbs2, htbs2⟩ := hC.tbsData2
    ⟨fiR.noc, fiR.icac, P.p256PublicKey drawR.ephKeyPair, P.p256PublicKey drawI.ephKeyPair⟩
  obtain ⟨sig2, hsig2⟩ := hH.sign kR tbs2
  obtain ⟨tbe2, htbe2, hdtbe2⟩ := hC.tbeData2 ⟨fiR.noc, fiR.icac, sig2, drawR.resumptionID⟩
    ⟨hfR.1, hfR.2, hP.p256Sign _ _ _ hsig2, hdR.2⟩
  have hs2k : (deriveS2K P z (operationalIPK P fiR.ipk fiR.compressedFabricID) drawR.random
      (P.p256PublicKey drawR.ephKeyPair) msg1).length = Crypto.symmetricKeySize :=
    length_hkdf_symmetric hP _ _ _
  have hshort2' := hshort2 _ _ (hP.p256Sign _ _ _ hsig2) htbe2
  obtain ⟨enc2, henc2, hlen2⟩ := encryptTBEData_ok hP.aes hs2k length_sigma2Nonce hshort2'
  obtain ⟨msg2, hmsg2, hdmsg2⟩ := hC.sigma2
    ⟨drawR.random, sidR, P.p256PublicKey drawR.ephKeyPair, enc2, mrpR⟩
    ⟨hdR.1, hP.p256PublicKey _, by simp only [hlen2]; omega⟩
  set r1 : Session := { r0 with msg1Bytes := msg1, localSessionID := sidR, peerSessionID := sidI,
                                peerRandom := drawI.random, peerMRPParams := mrpI,
                                peerEphPubKey := P.p256PublicKey drawI.ephKeyPair,
                                fabricInfo := some fiR, operationalKey := some kR,
                                ipk := operationalIPK P fiR.ipk fiR.compressedFabricID,
                                localRandom := drawR.random, ephKeyPair := drawR.ephKeyPair,
                                newResumptionID := drawR.resumptionID, sharedSecret := z,
                                msg2Bytes := msg2, state := .waitingSigma3 }
  have hsigma1 : r0.handleSigma1 P C msg1 sidR drawR = (.ok (msg2, false), r1) :=
    (Session.handleSigma1_eq rfl rfl hdec1 rfl rfl rfl hlookup).trans
      (Session.generateSigma2_eq hzR htbs2 rfl hsig2 htbe2 henc2 hmsg2)
  -- Sigma3: the initiator opens TBEData2 under the same S2K and checks the responder
  have hopen2 := decryptTBEData_of_encrypt hP.aes henc2
  rw [hipkR] at hopen2
  set i1' : Session := { i1 with msg2Bytes := msg2, peerSessionID := sidR,
                                 peerRandom := drawR.random, peerMRPParams := mrpR,
                                 peerEphPubKey := P.p256PublicKey drawR.ephKeyPair,
                                 sharedSecret := z, peerNOC := fiR.noc, peerICAC := fiR.icac,
                                 newResumptionID := drawR.resumptionID }
  obtain ⟨n1, hcheck2⟩ := @Session.verifySigma2Peer_ok P C i1'
    ⟨fiR.noc, fiR.icac, sig2, drawR.resumptionID⟩ (P.p256PublicKey drawR.ephKeyPair)
    (fun V hV => by
      obtain ⟨fabricID, hV'⟩ := hVI V hV
      exact ⟨fiI, rfl, _, tbs2, hV', rfl, htbs2, hH.verify _ _ _ hsig2⟩)
  obtain ⟨tbs3, htbs3⟩ := hC.tbsData3
    ⟨fiI.noc, fiI.icac, P.p256PublicKey drawI.ephKeyPair, P.p256PublicKey drawR.ephKeyPair⟩
  obtain ⟨sig3, hsig3⟩ := hH.sign kI tbs3
  obtain ⟨tbe3, htbe3, hdtbe3⟩ := hC.tbeData3 ⟨fiI.noc, fiI.icac, sig3⟩
    ⟨hfI.1, hfI.2, hP.p256Sign _ _ _ hsig3⟩
  have hs3k : (deriveS3K P z (operationalIPK P fiI.ipk fiI.compressedFabricID) msg1
      msg2).length = Crypto.symmetricKeySize := length_hkdf_symmetric hP _ _ _
  have hshort3' := hshort3 _ _ (hP.p256Sign _ _ _ hsig3) htbe3
  obtain ⟨enc3, henc3, hlen3⟩ := encryptTBEData_ok hP.aes hs3k length_sigma3Nonce hshort3'
  obtain ⟨msg3, hmsg3, hdmsg3⟩ := hC.sigma3 ⟨enc3⟩ (by simp only [Sigma3.Sized, hlen3]; omega)
  set i2 : Session := { i1' with peerNodeID := n1, msg3Bytes := msg3,
                                 state := .waitingStatusReport }
  have hsigma2 : i1.handleSigma2 P C msg2 = (.ok msg3, i2) :=
    (Session.handleSigma2_eq (s := i1) rfl rfl hdmsg2 hzI hopen2 hdtbe2 hcheck2).trans
      (Session.generateSigma3_eq rfl htbs3 rfl hsig3 htbe3 henc3 hmsg3)
  -- the responder opens TBEData3 under the same S3K, checks the initiator and completes
  have hopen3 := decryptTBEData_of_encrypt hP.aes henc3
  rw [← hipkR] at hopen3
  set r1' : Session := { r1 with msg3Bytes := msg3, peerNOC := fiI.noc, peerICAC := fiI.icac }
  obtain ⟨n2, hcheck3⟩ := @Session.verifySigma3Peer_ok P C r1' ⟨fiI.noc, fiI.icac, sig3⟩
    (fun V hV => by
      obtain ⟨nodeID, hV'⟩ := hVR V hV
      exact ⟨fiR, rfl, _, tbs3, hV', rfl, htbs3, hH.verify _ _ _ hsig3⟩)
  have hsigma3 := Session.handleSigma3_eq (s := r1) rfl rfl hdmsg3 hopen3 hdtbe3 hcheck3
  have hstatus := Session.handleStatusReport_eq (P := P) (s := i2) rfl rfl
  refine ⟨msg1, i1, msg2, r1, msg3, i2, _, _, hstart, hsigma1, hsigma2, hsigma3, hstatus,
    ⟨rfl, rfl, ?_, rfl, rfl, rfl, rfl, rfl⟩, rfl, rfl, rfl⟩
  -- the two sides derive the session keys from the same secret, IPK and transcript
  change some (deriveSessionKeys P z (operationalIPK P fiI.ipk fiI.compressedFabricID) msg1 msg2
    msg3) = some (deriveSessionKeys P z (operationalIPK P fiR.ipk fiR.compressedFabricID) msg1 msg2
    msg3)
  rw [hipkR]

/-- **A full CASE handshake agrees.** An initiator built by `NewInitiator` and a responder
built by `NewResponder`, whose lookup finds the responder's fabric and key under the
destination ID of Sigma1, with validators (if any) that accept the other side's chain and
report its key, the target node ID and the responder's fabric ID, complete every step without
resumption and agree. -/
theorem full_handshake_agrees (hH : P.Honest) {lookup : FabricLookupFunc}
    {resumptionLookup : Option ResumptionLookupFunc} {VI VR : Option ValidatePeerCertChainFunc}
    (hlookup : lookup (generateDestinationID P drawI.random fiI.rootPublicKey fiI.fabricID target
      (operationalIPK P fiI.ipk fiI.compressedFabricID)) drawI.random = some (fiR, some kR))
    (hVI : ∀ V ∈ VI, ∃ fabricID, V fiR.noc fiR.icac fiI.rootPublicKey =
      some ⟨target, fabricID, P.p256PublicKey kR⟩)
    (hVR : ∀ V ∈ VR, ∃ nodeID, V fiI.noc fiI.icac fiR.rootPublicKey =
      some ⟨nodeID, fiR.fabricID, P.p256PublicKey kI⟩)
    (hfI : fiI.Sized) (hfR : fiR.Sized)
    (hshort2 : ∀ signature b, signature.length = 64 →
      C.encodeTBEData2 ⟨fiR.noc, fiR.icac, signature, drawR.resumptionID⟩ = some b →
      b.length < 2 ^ 16)
    (hshort3 : ∀ signature b, signature.length = 64 →
      C.encodeTBEData3 ⟨fiI.noc, fiI.icac, signature⟩ = some b → b.length < 2 ^ 16) :
    ∃ i r, handshake P C (((newInitiator P fiI kI target).withMRPParams mrpI).withCertValidator VI)
        (((newResponder lookup resumptionLookup).withMRPParams mrpR).withCertValidator VR)
        sidI sidR drawI drawR = .ok (i, r) ∧ Agree i r ∧ r.usedResumption = false ∧
      i.newResumptionID = drawR.resumptionID := by
  obtain ⟨msg1, i1, msg2, r1, msg3, i2, r, i, h1, h2, h3, h4, h5, hagree, hfull, hrid, -⟩ :=
    full_handshake_steps hP hC hipk hcfid hdI hdR hH hlookup hVI hVR hfI hfR hshort2 hshort3
  exact ⟨i, r, handshake_of_full h1 h2 h3 h4 h5, hagree, hfull, hrid⟩

/-- **A resumed CASE handshake agrees.** An initiator holding a resumption ID and secret, and a
responder whose resumption lookup finds that secret with its fabric and key, resume: the
responder answers with Sigma2_Resume, the initiator accepts its MIC, and both complete with
the same keys. -/
theorem resumed_handshake_agrees {lookup : FabricLookupFunc}
    {resumptionLookup : ResumptionLookupFunc} {VI VR : Option ValidatePeerCertChainFunc}
    {resumptionID sharedSecret : List UInt8} {peerNodeID : UInt64} {peerCATs : List UInt32}
    (hrid : resumptionID.length = resumptionIDSize)
    (hfound : resumptionLookup resumptionID = some (sharedSecret, fiR, some kR)) :
    ∃ i r, handshake P C ((((newInitiator P fiI kI target).withMRPParams mrpI).withCertValidator
          VI).withResumption (some ⟨resumptionID, sharedSecret, peerNodeID, peerCATs⟩))
        (((newResponder lookup (some resumptionLookup)).withMRPParams mrpR).withCertValidator VR)
        sidI sidR drawI drawR = .ok (i, r) ∧ Agree i r ∧ i.usedResumption = true ∧
      r.usedResumption = true := by
  have hipkR := operationalIPK_congr (P := P) hipk hcfid
  set i0 := (((newInitiator P fiI kI target).withMRPParams mrpI).withCertValidator
    VI).withResumption (some ⟨resumptionID, sharedSecret, peerNodeID, peerCATs⟩)
  set r0 := ((newResponder lookup (some resumptionLookup)).withMRPParams mrpR).withCertValidator VR
  -- Sigma1 carries the resumption ID and the MIC under S1RK
  have hs1rk : (deriveS1RK P sharedSecret drawI.random resumptionID).length =
      Crypto.symmetricKeySize := length_hkdf_symmetric hP _ _ _
  obtain ⟨mic1, hmic1, hmic1len⟩ := computeResumeMIC_ok hP.aes hs1rk length_resume1Nonce
  set i0' : Session := { i0 with localSessionID := sidI, localRandom := drawI.random,
                                 ephKeyPair := drawI.ephKeyPair }
  set sigma1 : Sigma1 :=
    { i0'.sigma1 P fiI with resumptionID := some resumptionID, initiatorResumeMIC := some mic1 }
  have hsized1 : sigma1.Sized :=
    ⟨hdI.1, hP.hmacSHA256 _ _, hP.p256PublicKey _, by simp [sigma1, hrid], by simp [sigma1, hmic1len]⟩
  obtain ⟨msg1, henc1, hdec1⟩ := hC.sigma1 sigma1 hsized1
  set i1 : Session := { i0' with msg1Bytes := msg1, state := .waitingSigma2Resume }
  have hstart : i0.start P C sidI drawI = (.ok msg1, i1) :=
    Session.start_eq rfl rfl rfl (Session.addResumption_of_some rfl hmic1 _) henc1
  -- the responder verifies the MIC, resumes and completes at once
  have hs2rk : (deriveS2RK P sharedSecret drawI.random drawR.resumptionID).length =
      Crypto.symmetricKeySize := length_hkdf_symmetric hP _ _ _
  obtain ⟨mic2, hmic2, hmic2len⟩ := computeResumeMIC_ok hP.aes hs2rk length_resume2Nonce
  obtain ⟨msg2, hmsg2, hdmsg2⟩ := hC.sigma2Resume ⟨drawR.resumptionID, mic2, sidR, mrpR⟩
    ⟨hdR.2, hmic2len⟩
  set r1 : Session := { r0 with msg1Bytes := msg1, localSessionID := sidR, peerSessionID := sidI,
                                peerRandom := drawI.random, peerMRPParams := mrpI,
                                peerEphPubKey := P.p256PublicKey drawI.ephKeyPair,
                                fabricInfo := some fiR, operationalKey := some kR, sharedSecret,
                                ipk := operationalIPK P fiR.ipk fiR.compressedFabricID,
                                newResumptionID := drawR.resumptionID, msg2Bytes := msg2,
                                usedResumption := true,
                                sessionKeys := some (deriveResumptionSessionKeys P sharedSecret
                                  (operationalIPK P fiR.ipk fiR.compressedFabricID) msg1 msg2),
                                state := .complete }
  have hsigma1 : r0.handleSigma1 P C msg1 sidR drawR = (.ok (msg2, true), r1) :=
    (Session.handleSigma1_resume_eq rfl rfl hdec1 rfl rfl rfl hfound
      (verifyResumeMIC_of_eq hmic1)).trans (Session.generateSigma2Resume_eq hmic2 hmsg2)
  -- the initiator verifies the Resume2MIC under the same S2RK
  have hsigma2 := Session.handleSigma2Resume_eq (P := P) (C := C) (s := i1) rfl rfl rfl hdmsg2
    (verifyResumeMIC_of_eq hmic2)
  refine ⟨_, _, handshake_of_resumed hstart hsigma1 hsigma2,
    ⟨rfl, rfl, ?_, rfl, rfl, rfl, rfl, rfl⟩, rfl, rfl⟩
  change some (deriveResumptionSessionKeys P sharedSecret
    (operationalIPK P fiI.ipk fiI.compressedFabricID) msg1 msg2) = some
    (deriveResumptionSessionKeys P sharedSecret (operationalIPK P fiR.ipk fiR.compressedFabricID)
      msg1 msg2)
  rw [hipkR]

end Honest

/-! ## A run with the TLV codec -/

/-- Primitives that return zeros of the sizes the real ones document, with an ECDH that always
agrees and a verifier that accepts every signature. -/
def samplePrimitives : Primitives where
  aes _ _ := List.replicate 16 0
  hkdf _ _ _ n := List.replicate n 0
  sha256 _ := List.replicate 32 0
  hmacSHA256 _ _ := List.replicate 32 0
  p256PublicKey _ := List.replicate 65 0
  p256ECDH _ _ := some (List.replicate 32 0)
  p256Sign _ _ := some (List.replicate 64 0)
  p256Verify _ _ _ := true

theorem samplePrimitives_sized : samplePrimitives.Sized where
  aes _ _ := by simp [samplePrimitives]
  hkdf _ _ _ _ := by simp [samplePrimitives]
  hmacSHA256 _ _ := by simp [samplePrimitives]
  p256PublicKey _ := by simp [samplePrimitives]
  p256Sign _ _ _ h := by
    simp only [samplePrimitives, Option.some.injEq] at h
    simp [← h]

theorem samplePrimitives_honest : samplePrimitives.Honest where
  ecdh _ _ := ⟨_, rfl, rfl⟩
  sign _ _ := ⟨_, rfl⟩
  verify _ _ _ _ := rfl

/-- A fabric with a one-byte NOC and no ICAC. -/
def sampleFabric : FabricInfo :=
  ⟨1, 1, [1], [], List.replicate 65 0, List.replicate 8 0, List.replicate 16 0⟩

/-- Zero randoms and resumption IDs of their sizes. -/
def sampleDraw : Draw := ⟨List.replicate randomSize 0, [], List.replicate resumptionIDSize 0⟩

theorem sampleFabric_sized : sampleFabric.Sized := ⟨by decide, by decide⟩

theorem sampleDraw_sized : sampleDraw.Sized := ⟨by simp [sampleDraw], by simp [sampleDraw]⟩

open Tlv in
/-- The TLV encoding of the sample fabric's TBEData2 is short enough for CCM. -/
theorem sampleTBEData2_short (signature b : List UInt8) (hsig : signature.length = 64)
    (h : tlvCodec.encodeTBEData2 ⟨sampleFabric.noc, sampleFabric.icac, signature,
      sampleDraw.resumptionID⟩ = some b) : b.length < 2 ^ 16 := by
  have ht : TBEData2.Sized ⟨[1], [], signature, List.replicate resumptionIDSize 0⟩ :=
    ⟨by simp, by simp, hsig, by simp⟩
  change (TBEData2.encode ⟨[1], [], signature, List.replicate resumptionIDSize 0⟩).toOption =
    some b at h
  rw [TBEData2.encode_eq ht] at h
  cases h
  simp [TBEData2.items, Element.length_encode_bytes, hsig, uintWidth, resumptionIDSize, header,
    Tag.anonymous, TagControl.size]

open Tlv in
/-- The TLV encoding of the sample fabric's TBEData3 is short enough for CCM. -/
theorem sampleTBEData3_short (signature b : List UInt8) (hsig : signature.length = 64)
    (h : tlvCodec.encodeTBEData3 ⟨sampleFabric.noc, sampleFabric.icac, signature⟩ = some b) :
    b.length < 2 ^ 16 := by
  have ht : TBEData3.Sized ⟨[1], [], signature⟩ := ⟨by simp, by simp, hsig⟩
  change (TBEData3.encode ⟨[1], [], signature⟩).toOption = some b at h
  rw [TBEData3.encode_eq ht] at h
  cases h
  simp [TBEData3.items, Element.length_encode_bytes, hsig, uintWidth, header, Tag.anonymous,
    TagControl.size]

end Matter.Case

