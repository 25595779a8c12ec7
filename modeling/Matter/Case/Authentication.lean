import Matter.Case.Handshake

/-!
# What CASE authenticates (`pkg/securechannel/case/session.go`)

The checks `HandleSigma2` and `HandleSigma3` make once a certificate validator is set, read off
the handlers as what every accepting call implies, whatever bytes it received.

Results:
* `handleSigma3_authenticates`: a responder that completes on a Sigma3 has a validator answer
  for the NOC and ICAC inside it, under its own root, with its own fabric ID, and a TBSData3
  signature that verifies under the validator's key over that NOC and ICAC, the ephemeral key
  received in Sigma1 and its own ephemeral key.
* `handleSigma2_authenticates`: an initiator that answers a Sigma2 has a validator answer with
  the target node ID and a TBSData2 signature that verifies over the Sigma2 ephemeral key and
  its own.
* `handleSigma2_reportFabric`: nothing in `HandleSigma2` reads the fabric ID the validator
  reports: a validator that reports any other fabric ID gives the same answer. With
  `peerCATs_eq_nil`, this is `initiator_ignores_peer_fabric`.
-/

namespace Matter.Case

variable {P : Primitives} {C : MessageCodec}

/-- The validator `V` with the fabric ID of every answer replaced by `f`: the answers for a
chain whose NOC names fabric `f` under the same root. -/
def reportFabric (f : UInt64) (V : ValidatePeerCertChainFunc) : ValidatePeerCertChainFunc :=
  fun noc icac root => (V noc icac root).map fun info => { info with fabricID := f }

namespace Session

/-! ## The accepting paths -/

/-- A passing Sigma3 check has a validator answer with the own fabric ID and a verifying
TBSData3 signature, and records the reported node ID. -/
theorem checkSigma3_ok {s t : Session} {V : ValidatePeerCertChainFunc} {fi : FabricInfo}
    {tbeData3 : TBEData3} (h : s.checkSigma3 P C V fi tbeData3 = (.ok (), t)) :
    ∃ info tbsData3Bytes,
      V tbeData3.initiatorNOC tbeData3.initiatorICAC fi.rootPublicKey = some info ∧
      info.fabricID = fi.fabricID ∧
      C.encodeTBSData3 ⟨tbeData3.initiatorNOC, tbeData3.initiatorICAC, s.peerEphPubKey,
        P.p256PublicKey s.ephKeyPair⟩ = some tbsData3Bytes ∧
      P.p256Verify info.publicKey tbsData3Bytes tbeData3.signature = true ∧
      t = { s with peerNodeID := info.nodeID } := by
  unfold checkSigma3 at h
  split at h
  · simp at h
  rename_i info hinfo
  split_ifs at h with hfabric
  · simp at h
  dsimp only at h
  split at h
  · simp at h
  rename_i tbsData3Bytes htbs
  split_ifs at h with hverify
  · exact ⟨info, tbsData3Bytes, hinfo, not_not.mp hfabric, htbs, hverify, (Prod.mk.inj h).2.symm⟩
  · simp at h

/-- A passing Sigma2 check has a validator answer with the target node ID and a verifying
TBSData2 signature, and records the reported node ID. -/
theorem checkSigma2_ok {s t : Session} {V : ValidatePeerCertChainFunc} {fi : FabricInfo}
    {tbeData2 : TBEData2} {responderEphPubKey : List UInt8}
    (h : s.checkSigma2 P C V fi tbeData2 responderEphPubKey = (.ok (), t)) :
    ∃ info tbsData2Bytes,
      V tbeData2.responderNOC tbeData2.responderICAC fi.rootPublicKey = some info ∧
      info.nodeID = s.targetNodeID ∧
      C.encodeTBSData2 ⟨tbeData2.responderNOC, tbeData2.responderICAC, responderEphPubKey,
        P.p256PublicKey s.ephKeyPair⟩ = some tbsData2Bytes ∧
      P.p256Verify info.publicKey tbsData2Bytes tbeData2.signature = true ∧
      t = { s with peerNodeID := info.nodeID } := by
  unfold checkSigma2 at h
  split at h
  · simp at h
  rename_i info hinfo
  split_ifs at h with hnode
  · simp at h
  dsimp only at h
  split at h
  · simp at h
  rename_i tbsData2Bytes htbs
  split_ifs at h with hverify
  · exact ⟨info, tbsData2Bytes, hinfo, not_not.mp hnode, htbs, hverify, (Prod.mk.inj h).2.symm⟩
  · simp at h

/-- With a validator set, a passing `verifySigma3Peer` is a passing Sigma3 check against the
own fabric. -/
theorem verifySigma3Peer_of_validator {s t : Session} {V : ValidatePeerCertChainFunc}
    {tbeData3 : TBEData3} (h : s.verifySigma3Peer P C tbeData3 = (.ok (), t))
    (hV : s.certValidator = some V) :
    ∃ fi, s.fabricInfo = some fi ∧ s.checkSigma3 P C V fi tbeData3 = (.ok (), t) := by
  unfold verifySigma3Peer at h
  split at h
  · rename_i hnone
    simp [hV] at hnone
  · cases h
  · rename_i validator fi hvalidator hfi
    rw [hV, Option.some.injEq] at hvalidator
    exact ⟨fi, hfi, hvalidator ▸ h⟩

/-- With a validator set, a passing `verifySigma2Peer` is a passing Sigma2 check against the
own fabric. -/
theorem verifySigma2Peer_of_validator {s t : Session} {V : ValidatePeerCertChainFunc}
    {tbeData2 : TBEData2} {responderEphPubKey : List UInt8}
    (h : s.verifySigma2Peer P C tbeData2 responderEphPubKey = (.ok (), t))
    (hV : s.certValidator = some V) :
    ∃ fi, s.fabricInfo = some fi ∧
      s.checkSigma2 P C V fi tbeData2 responderEphPubKey = (.ok (), t) := by
  unfold verifySigma2Peer at h
  split at h
  · rename_i hnone
    simp [hV] at hnone
  · cases h
  · rename_i validator fi hvalidator hfi
    rw [hV, Option.some.injEq] at hvalidator
    exact ⟨fi, hfi, hvalidator ▸ h⟩

/-- **The responder authenticates the initiator.** If `HandleSigma3` completes on any bytes,
the validator accepted the NOC and ICAC of the TBEData3 they carry under the own root, with the
own fabric ID, and the signature verifies under the reported key over that NOC and ICAC, the
ephemeral key of Sigma1 and the own ephemeral key. The peer node ID is the reported one. -/
theorem handleSigma3_authenticates {s t : Session} {V : ValidatePeerCertChainFunc}
    {data : List UInt8} (hV : s.certValidator = some V)
    (h : s.handleSigma3 P C data = (.ok (), t)) :
    ∃ sigma3 tbeData3Bytes tbeData3 fi info tbsData3Bytes, C.decodeSigma3 data = some sigma3 ∧
      decryptTBEData P (deriveS3K P s.sharedSecret s.ipk s.msg1Bytes s.msg2Bytes)
        sigma3.encrypted3 sigma3Nonce [] = .ok tbeData3Bytes ∧
      C.decodeTBEData3 tbeData3Bytes = some tbeData3 ∧ s.fabricInfo = some fi ∧
      V tbeData3.initiatorNOC tbeData3.initiatorICAC fi.rootPublicKey = some info ∧
      info.fabricID = fi.fabricID ∧
      C.encodeTBSData3 ⟨tbeData3.initiatorNOC, tbeData3.initiatorICAC, s.peerEphPubKey,
        P.p256PublicKey s.ephKeyPair⟩ = some tbsData3Bytes ∧
      P.p256Verify info.publicKey tbsData3Bytes tbeData3.signature = true ∧
      t.peerNodeID = info.nodeID ∧ t.state = .complete := by
  unfold handleSigma3 at h
  split_ifs at h <;> try simp at h
  split at h
  · simp at h
  rename_i sigma3 hdecode
  split at h
  · simp at h
  rename_i tbeData3Bytes hdecrypt
  split at h
  · simp at h
  rename_i tbeData3 hdecodeTBE
  split at h
  · simp at h
  rename_i t' hverify
  obtain ⟨fi, hfi, hcheck⟩ := verifySigma3Peer_of_validator hverify hV
  obtain ⟨info, tbsData3Bytes, hinfo, hfabric, htbs, hsig, rfl⟩ := checkSigma3_ok hcheck
  obtain rfl := (Prod.mk.inj h).2
  exact ⟨sigma3, tbeData3Bytes, tbeData3, fi, info, tbsData3Bytes, hdecode, hdecrypt, hdecodeTBE,
    hfi, hinfo, hfabric, htbs, hsig, rfl, rfl⟩

/-- **What the initiator checks of the responder.** If `HandleSigma2` answers any bytes with a
Sigma3, the validator accepted the NOC and ICAC of the TBEData2 they carry under the own root,
with the target node ID, and the signature verifies under the reported key over that NOC and
ICAC, the Sigma2 ephemeral key and the own ephemeral key. No fabric ID is compared. -/
theorem handleSigma2_authenticates {s t : Session} {V : ValidatePeerCertChainFunc}
    {data msg3 : List UInt8} (hV : s.certValidator = some V)
    (h : s.handleSigma2 P C data = (.ok msg3, t)) :
    ∃ (sigma2 : Sigma2) (tbeData2 : TBEData2) (fi : FabricInfo) (info : PeerCertInfo)
      (tbsData2Bytes : List UInt8), C.decodeSigma2 data = some sigma2 ∧
      s.fabricInfo = some fi ∧
      V tbeData2.responderNOC tbeData2.responderICAC fi.rootPublicKey = some info ∧
      info.nodeID = s.targetNodeID ∧
      C.encodeTBSData2 ⟨tbeData2.responderNOC, tbeData2.responderICAC,
        sigma2.responderEphPubKey, P.p256PublicKey s.ephKeyPair⟩ = some tbsData2Bytes ∧
      P.p256Verify info.publicKey tbsData2Bytes tbeData2.signature = true := by
  unfold handleSigma2 at h
  split_ifs at h <;> try simp at h
  split at h
  · simp at h
  rename_i sigma2 hdecode
  split at h
  · simp at h
  split at h
  · simp at h
  split at h
  · simp at h
  rename_i tbeData2 _
  split at h
  · simp at h
  rename_i t' hverify
  obtain ⟨fi, hfi, hcheck⟩ := verifySigma2Peer_of_validator hverify hV
  obtain ⟨info, tbsData2Bytes, hinfo, hnode, htbs, hsig, -⟩ := checkSigma2_ok hcheck
  exact ⟨sigma2, tbeData2, fi, info, tbsData2Bytes, hdecode, hfi, hinfo, hnode, htbs, hsig⟩

/-! ## The fabric ID the initiator never reads -/

/-- The Sigma2 check does not read the fabric ID of the validator's answer. -/
theorem checkSigma2_reportFabric (s : Session) (V : ValidatePeerCertChainFunc) (f : UInt64)
    (fi : FabricInfo) (tbeData2 : TBEData2) (responderEphPubKey : List UInt8) :
    s.checkSigma2 P C (reportFabric f V) fi tbeData2 responderEphPubKey =
      s.checkSigma2 P C V fi tbeData2 responderEphPubKey := by
  unfold checkSigma2 reportFabric
  cases V tbeData2.responderNOC tbeData2.responderICAC fi.rootPublicKey <;> rfl

/-- `generateSigma3` does not read the validator. -/
theorem generateSigma3_withCertValidator (s : Session) (v : Option ValidatePeerCertChainFunc) :
    (generateSigma3 P C (s.withCertValidator v)).1 = (generateSigma3 P C s).1 := by
  unfold generateSigma3 withCertValidator
  dsimp only
  -- every discriminant reads the same field on both sides
  repeat' split
  all_goals rfl

/-- Two sessions that differ at most in their validator build the same Sigma3. -/
theorem generateSigma3_fst_congr {t t' : Session}
    (h : t.withCertValidator none = t'.withCertValidator none) :
    (generateSigma3 P C t).1 = (generateSigma3 P C t').1 := by
  rw [← generateSigma3_withCertValidator t none, h, generateSigma3_withCertValidator]

/-- `HandleSigma2` gives the same answer whatever fabric ID the validator reports. -/
theorem handleSigma2_reportFabric (s : Session) (V : ValidatePeerCertChainFunc) (f : UInt64)
    (data : List UInt8) :
    ((s.withCertValidator (some (reportFabric f V))).handleSigma2 P C data).1 =
      ((s.withCertValidator (some V)).handleSigma2 P C data).1 := by
  unfold handleSigma2 withCertValidator verifySigma2Peer
  dsimp only
  rcases s.fabricInfo with _ | fi <;> dsimp only
  · repeat' split
    all_goals rfl
  simp only [checkSigma2_reportFabric]
  unfold checkSigma2
  -- the two runs take the same branch at every step up to the validator's answer
  split_ifs <;> try rfl
  split <;> try rfl
  rename_i sigma2 _
  split <;> try rfl
  split <;> try rfl
  split <;> try rfl
  rename_i tbeData2 _
  rcases V tbeData2.responderNOC tbeData2.responderICAC fi.rootPublicKey with _ | info <;>
    dsimp only
  split_ifs <;> try rfl
  rcases C.encodeTBSData2 ⟨tbeData2.responderNOC, tbeData2.responderICAC, sigma2.responderEphPubKey,
    P.p256PublicKey s.ephKeyPair⟩ with _ | tbsData2Bytes <;> dsimp only
  split_ifs
  · exact generateSigma3_fst_congr rfl
  · rfl

end Session

/-- **The initiator does not bind the responder's fabric, and no CAT reaches the session.**
Whatever fabric ID the validator reports for the responder's chain, `HandleSigma2` answers the
same bytes alike, so a Sigma3 is sent to a responder whose NOC names another fabric; and
`PeerCATs` is empty for every session. -/
theorem initiator_ignores_peer_fabric :
    (∀ (s : Session) (V : ValidatePeerCertChainFunc) (f : UInt64) (data : List UInt8),
      ((s.withCertValidator (some (reportFabric f V))).handleSigma2 P C data).1 =
        ((s.withCertValidator (some V)).handleSigma2 P C data).1) ∧
    ∀ s : Session, s.peerCATs = [] :=
  ⟨Session.handleSigma2_reportFabric, Session.peerCATs_eq_nil⟩

end Matter.Case
