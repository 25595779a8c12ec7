import Matter.SecureChannel.Status
import Matter.Case.Handshake
import Matter.Session.Table
import Matter.Lib.Mealy
import Matter.Lib.GoMap
import Matter.Lib.Except

/-!
# The secure channel manager (`pkg/securechannel/manager.go`)

`securechannel.Manager` runs the PASE and CASE handshakes of a node: `StartPASE` and
`StartCASE` begin one as initiator, `Route` takes every message of a handshake exchange, and a
handshake that completes becomes a `SecureContext` added to the session manager's table. The
manager keeps one `handshakeContext` per exchange: the session it drives, the local session ID
allocated for it, and the peer's session ID.

* Each handler returns its result and the manager as it leaves it. The manager holds its
  contexts and their sessions by pointer, so a handler that changes the session changes the
  context filed under its exchange, also when it fails after the change.
* The CASE session is `Case.Session`, with its primitives `P` and codec `C`. The PASE session is
  left abstract: `PaseSessionOps S V E` gives the methods of `pase.Session` the manager calls,
  over a session type `S`, a verifier type `V` and an error type `E`.
* `config.SessionManager` is its secure `Session.Table`: `AllocateSessionID` and
  `AddSecureContext` are the table's `AllocateID` and `Add`. `NewSecureContext` runs over the
  HKDF `kdf` of the message codecs, and its random initial counter is an argument.
* The fabric table is the list of its fabrics in the order `ForEach` visits them (a Go map's
  order, which the model takes as given); `createFabricLookupFunc` returns the first one with no
  operational key, whatever the destination ID, as the source does.

The callbacks, the logger, the mutex, the start times and `pinnedSessionID` are left out;
`CleanupExpiredHandshakes` takes the clock's verdict on each exchange as an argument, and the
resumption ID that `completeCASESession` sets is not part of the modelled `SecureContext`.

Results:
* `startCASE_eq`, `route_sigma2_eq`, `route_success_eq`, `completeCASESession_eq`: the success
  path of each step a CASE initiator takes.
* `manager_case_handshake`: a manager that starts CASE against an honest `casesession`
  responder, and routes its Sigma2 and its success report, adds one context to its table with
  the allocated ID and the responder's keys, and drops the handshake; the context's peer
  session ID is 0, while the CASE session itself holds the responder's ID.
* `casePeerZero_step`, `case_sessions_without_peer`: no CASE handshake context ever records the
  peer's session ID, so every CASE session a manager installs, over any sequence of calls, has
  peer session ID 0.
* `case_session_installed_with_peer_zero`: a run with the sample primitives and the TLV codec
  in which the responder allocated session 2 and the initiator installs peer session ID 0.
-/

namespace Matter.SecureChannel

open Matter.Session (Table SecureContext SecureContextConfig SessionError newSecureContext)

/-! ## The sessions the manager drives -/

/-- `HandshakeType`. -/
inductive HandshakeType
  | pase
  | case
  deriving DecidableEq, Repr

/-- `pase.Role`. -/
inductive PaseRole
  | initiator
  | responder
  deriving DecidableEq, Repr

/-- `pase.State`. -/
inductive PaseState
  | init
  | waitingPBKDFResponse
  | waitingPake1
  | waitingPake2
  | waitingPake3
  | waitingStatusReport
  | complete
  | failed
  deriving DecidableEq, Repr

/-- The methods of `pase.Session` the manager calls, over sessions `S`, verifiers `V` and errors
`E`. A method that changes the session returns it as it leaves it. `pase.SessionKeys` has the
fields of CASE's `SessionKeys`. -/
structure PaseSessionOps (S V E : Type) where
  /-- `NewInitiator(passcode)`. -/
  newInitiator : UInt32 → Except E S
  /-- `NewResponder(verifier, salt, iterations)`. -/
  newResponder : V → List UInt8 → UInt32 → Except E S
  /-- `Start(localSessionID)`. -/
  start : S → UInt16 → Except E (List UInt8) × S
  /-- `HandlePBKDFParamRequest(data, localSessionID)`. -/
  handlePBKDFParamRequest : S → List UInt8 → UInt16 → Except E (List UInt8) × S
  /-- `HandlePBKDFParamResponse(data)`. -/
  handlePBKDFParamResponse : S → List UInt8 → Except E (List UInt8) × S
  /-- `HandlePake1(data)`. -/
  handlePake1 : S → List UInt8 → Except E (List UInt8) × S
  /-- `HandlePake2(data)`. -/
  handlePake2 : S → List UInt8 → Except E (List UInt8) × S
  /-- `HandlePake3(data)`: whether the confirmation verified (the manager drops the status
  report it returns). -/
  handlePake3 : S → List UInt8 → Except E Bool × S
  /-- `HandleStatusReport(isSuccess)`. -/
  handleStatusReport : S → Bool → Except E Unit × S
  /-- `State()`. -/
  state : S → PaseState
  /-- `Role()`. -/
  role : S → PaseRole
  /-- `SessionKeys()`. -/
  sessionKeys : S → Option Case.SessionKeys
  /-- `PeerSessionID()`. -/
  peerSessionID : S → UInt16

/-- `PBKDFMinSaltLength`. -/
def pbkdfMinSaltLength : Nat := 16

/-- `PBKDFMaxSaltLength`. -/
def pbkdfMaxSaltLength : Nat := 32

/-- `PBKDFMinIterations`. -/
def pbkdfMinIterations : UInt32 := 1000

/-- `PBKDFMaxIterations`. -/
def pbkdfMaxIterations : UInt32 := 100000

/-- `DefaultBusyWaitTime`, in milliseconds. -/
def defaultBusyWaitTime : UInt16 := 5000

/-- The errors of `manager.go`, and those of its callees that it returns. -/
inductive ManagerError (E : Type)
  /-- `ErrNoHandler`: "securechannel: no handler for message type". -/
  | noHandler
  /-- `ErrHandshakeInProgress`: "securechannel: handshake already in progress". -/
  | handshakeInProgress
  /-- `ErrNoActiveHandshake`: "securechannel: no active handshake". -/
  | noActiveHandshake
  /-- `ErrSessionTableFull`: "securechannel: session table full". -/
  | sessionTableFull
  /-- `ErrInvalidOpcode`: "securechannel: invalid opcode for current state". -/
  | invalidOpcode
  /-- `ErrSessionClosed`: "securechannel: session closed by peer". -/
  | sessionClosed
  /-- "securechannel: PASE responder not configured (commissioning window not open)". -/
  | paseResponderNotConfigured
  /-- "securechannel: verifier is nil". -/
  | verifierNil
  /-- "securechannel: invalid salt length". -/
  | invalidSaltLength
  /-- "securechannel: invalid iteration count". -/
  | invalidIterationCount
  /-- "securechannel: PASE confirmation failed". -/
  | paseConfirmationFailed
  /-- "securechannel: PASE session keys not ready". -/
  | paseKeysNotReady
  /-- "securechannel: CASE session keys not ready". -/
  | caseKeysNotReady
  /-- An error of `DecodeStatusReport`. -/
  | status (e : StatusError)
  /-- An error of the CASE session. -/
  | case (e : Case.CaseError)
  /-- An error of the PASE session. -/
  | pase (e : E)
  /-- An error of `NewSecureContext` or of the table's `Add`. -/
  | session (e : SessionError)

/-- `Message`: an opcode and its payload. -/
structure Message where
  opcode : Opcode
  payload : List UInt8
  deriving DecidableEq, Repr

/-- `NewMessage(opcode, payload)`. Its nil result for a nil payload has no counterpart: every
payload the manager passes is one a handler built. -/
def newMessage (opcode : Opcode) (payload : List UInt8) : Option Message :=
  some ⟨opcode, payload⟩

/-- The session of a handshake: its `handshakeType` with the one of `paseSession` and
`caseSession` the manager sets for that type (it never builds a context with the other). -/
inductive HandshakeSession (S : Type)
  | pase (session : S)
  | case (session : Case.Session)

/-- `handshakeContext`, with Go's zero values for the fields a literal leaves out. -/
structure HandshakeContext (S : Type) where
  session : HandshakeSession S
  localSessionID : UInt16
  peerSessionID : UInt16 := 0

/-- `ctx.handshakeType`. -/
def HandshakeContext.handshakeType {S : Type} (ctx : HandshakeContext S) : HandshakeType :=
  match ctx.session with
  | .pase _ => .pase
  | .case _ => .case

/-- A context that records no peer session ID when it drives CASE. -/
def HandshakeContext.NoCasePeer {S : Type} (ctx : HandshakeContext S) : Prop :=
  ctx.handshakeType = .case → ctx.peerSessionID = 0

/-- The parts of `ManagerConfig` the modelled paths read. -/
structure ManagerConfig where
  /-- `FabricTable`: its fabrics in the order `ForEach` visits them, `none` for nil. -/
  fabricTable : Option (List Case.FabricInfo)
  /-- `CertValidator`, `none` for nil. -/
  certValidator : Option Case.ValidatePeerCertChainFunc
  /-- `LocalNodeID`. -/
  localNodeID : UInt64

/-- `paseResponderConfig`. -/
structure PaseResponderConfig (V : Type) where
  verifier : V
  salt : List UInt8
  iterations : UInt32

/-- `Manager`: the configuration, the secure session table of `config.SessionManager`, the
handshakes by exchange ID, and the PASE responder configuration. -/
structure Manager (S V : Type) where
  config : ManagerConfig
  sessions : Table
  handshakes : GoMap UInt16 (HandshakeContext S)
  paseResponder : Option (PaseResponderConfig V)

namespace ManagerConfig

/-- The `if m.config.CertValidator != nil` of `StartCASE` and `handleSigma1`. -/
def withCertValidator (config : ManagerConfig) (s : Case.Session) : Case.Session :=
  match config.certValidator with
  | some validator => s.withCertValidator (some validator)
  | none => s

/-- `createFabricLookupFunc()`: the first fabric `ForEach` visits, with no operational key;
none without a fabric table or without fabrics (`ErrNoSharedRoot`). -/
def createFabricLookupFunc (config : ManagerConfig) : Case.FabricLookupFunc :=
  fun _ _ =>
    match config.fabricTable with
    | none => none
    | some fabrics => fabrics.head?.map fun fi => (fi, none)

end ManagerConfig

/-- `createResumptionLookupFunc()`: a lookup that never finds the resumption ID. -/
def createResumptionLookupFunc : Case.ResumptionLookupFunc := fun _ => none

/-- `sendBusyResponse(ctx)`: a Busy report asking for 10 s while a CASE responder waits for
Sigma3, and `DefaultBusyWaitTime` otherwise. -/
def sendBusyResponse {S : Type} (ctx : HandshakeContext S) : Option Message :=
  let waitTimeMs :=
    match ctx.session with
    | .case s => if s.state = .waitingSigma3 then 10000 else defaultBusyWaitTime
    | .pase _ => defaultBusyWaitTime
  newMessage opcodeStatusReport (busy waitTimeMs).encode

variable {S V E : Type}

namespace Manager

/-- `NewManager(config)`, over the session manager's table. -/
def newManager (config : ManagerConfig) (sessions : Table) : Manager S V :=
  { config, sessions, handshakes := GoMap.empty, paseResponder := none }

/-- `m.handshakes[exchangeID] = ctx`. -/
def track (m : Manager S V) (exchangeID : UInt16) (ctx : HandshakeContext S) : Manager S V :=
  { m with handshakes := m.handshakes.insert exchangeID ctx }

/-- `cleanupHandshake(exchangeID)` and `cleanupHandshakeLocked(exchangeID)`. -/
def cleanupHandshake (m : Manager S V) (exchangeID : UInt16) : Manager S V :=
  { m with handshakes := m.handshakes.delete exchangeID }

/-- The CASE handshake on `exchangeID`: the guard `exists && ctx.handshakeType ==
HandshakeTypeCASE && ctx.caseSession != nil` of the Sigma2 and Sigma3 cases. -/
def caseHandshake (m : Manager S V) (exchangeID : UInt16) :
    Option (HandshakeContext S × Case.Session) :=
  match m.handshakes exchangeID with
  | some ctx =>
    match ctx.session with
    | .case s => some (ctx, s)
    | .pase _ => none
  | none => none

/-- The PASE handshake on `exchangeID`: the guard of the PASE cases after the first. -/
def paseHandshake (m : Manager S V) (exchangeID : UInt16) : Option (HandshakeContext S × S) :=
  match m.handshakes exchangeID with
  | some ctx =>
    match ctx.session with
    | .pase s => some (ctx, s)
    | .case _ => none
  | none => none

/-! ## Completing a handshake -/

section Complete

variable (P : Case.Primitives) (kdf : Crypto.HKDF) (ops : PaseSessionOps S V E)

/-- The `SecureContextConfig` that `completeCASESession` builds for the completed session `s`:
the two session IDs are the context's. -/
def caseContextConfig (config : ManagerConfig) (ctx : HandshakeContext S) (s : Case.Session)
    (keys : Case.SessionKeys) : SecureContextConfig :=
  { sessionType := .case
    role := if s.role = .responder then .responder else .initiator
    localSessionID := ctx.localSessionID
    peerSessionID := ctx.peerSessionID
    i2rKey := keys.i2rKey
    r2iKey := keys.r2iKey
    sharedSecret := s.sharedSecret
    fabricIndex := s.fabricIndex
    peerNodeID := s.peerNodeID
    localNodeID := config.localNodeID
    caseAuthTags := s.peerCATs }

/-- The `SecureContextConfig` that `completePASESession` builds: no fabric and no node IDs. -/
def paseContextConfig (role : PaseRole) (ctx : HandshakeContext S) (keys : Case.SessionKeys) :
    SecureContextConfig :=
  { sessionType := .pase
    role := if role = .responder then .responder else .initiator
    localSessionID := ctx.localSessionID
    peerSessionID := ctx.peerSessionID
    i2rKey := keys.i2rKey
    r2iKey := keys.r2iKey
    sharedSecret := []
    fabricIndex := 0
    peerNodeID := 0
    localNodeID := 0
    caseAuthTags := [] }

/-- `completeCASESession(ctx)`: the initiator first takes the success report, then the
context is built from the session's keys. -/
def completeCASESession (config : ManagerConfig) (ctx : HandshakeContext S) (s : Case.Session)
    (initialCounter : UInt32) : Except (ManagerError E) SecureContext :=
  let reported :=
    if s.role = .initiator ∧ s.state = .waitingStatusReport then s.handleStatusReport P true
    else (.ok (), s)
  match reported with
  | (.error e, _) => .error (.case e)
  | (.ok (), s) =>
    match s.getSessionKeys with
    | .error e => .error (.case e)
    | .ok none => .error .caseKeysNotReady
    | .ok (some keys) =>
      (newSecureContext kdf (caseContextConfig config ctx s keys) initialCounter).mapError .session

/-- `completePASESession(ctx)`: as for CASE. -/
def completePASESession (ctx : HandshakeContext S) (s : S) (initialCounter : UInt32) :
    Except (ManagerError E) SecureContext :=
  let reported :=
    if ops.role s = .initiator ∧ ops.state s = .waitingStatusReport then
      ops.handleStatusReport s true
    else (.ok (), s)
  match reported with
  | (.error e, _) => .error (.pase e)
  | (.ok (), s) =>
    match ops.sessionKeys s with
    | none => .error .paseKeysNotReady
    | some keys =>
      (newSecureContext kdf (paseContextConfig (ops.role s) ctx keys) initialCounter).mapError
        .session

/-- The `switch ctx.handshakeType` of `completeHandshakeLocked`. -/
def completeSession (config : ManagerConfig) (ctx : HandshakeContext S)
    (initialCounter : UInt32) : Except (ManagerError E) SecureContext :=
  match ctx.session with
  | .pase s => completePASESession kdf ops ctx s initialCounter
  | .case s => completeCASESession P kdf config ctx s initialCounter

/-- `completeHandshakeLocked(exchangeID, ctx)`: the session's context is added to the table,
and the handshake is dropped whether or not that succeeds. -/
def completeHandshakeLocked (m : Manager S V) (exchangeID : UInt16) (ctx : HandshakeContext S)
    (initialCounter : UInt32) : Except (ManagerError E) SecureContext × Manager S V :=
  match completeSession P kdf ops m.config ctx initialCounter with
  | .error e => (.error e, m.cleanupHandshake exchangeID)
  | .ok secureCtx =>
    match m.sessions.add secureCtx with
    | .error e => (.error (.session e), m.cleanupHandshake exchangeID)
    | .ok sessions => (.ok secureCtx, { m with sessions }.cleanupHandshake exchangeID)

/-- `handleStatusReportSuccess(exchangeID)`: nothing without a handshake on the exchange. -/
def handleStatusReportSuccess (m : Manager S V) (exchangeID : UInt16) (initialCounter : UInt32) :
    Except (ManagerError E) (Option SecureContext) × Manager S V :=
  match m.handshakes exchangeID with
  | none => (.ok none, m)
  | some ctx =>
    match m.completeHandshakeLocked P kdf ops exchangeID ctx initialCounter with
    | (.error e, m) => (.error e, m)
    | (.ok secureCtx, m) => (.ok (some secureCtx), m)

/-- `handleStatusReport(exchangeID, payload)`: the response (none), and the context handed to
`OnSessionEstablished`. A Busy report and a failure report end the handshake; a success report
completes it. -/
def handleStatusReport (m : Manager S V) (exchangeID : UInt16) (payload : List UInt8)
    (initialCounter : UInt32) :
    Except (ManagerError E) (Option Message × Option SecureContext) × Manager S V :=
  match decodeStatusReport payload with
  | .error e => (.error (.status e), m)
  | .ok status =>
    if status.isBusy then (.ok (none, none), m.cleanupHandshake exchangeID)
    else if status.isSuccess && status.isSecureChannel &&
        status.secureChannelCode == protocolCodeSuccess then
      match m.handleStatusReportSuccess P kdf ops exchangeID initialCounter with
      | (.error e, m) => (.error e, m)
      | (.ok secureCtx, m) => (.ok (none, secureCtx), m)
    else if status.isSuccess && status.isSecureChannel &&
        status.secureChannelCode == protocolCodeCloseSession then
      (.error .sessionClosed, m)
    else if (m.handshakes exchangeID).isSome && !status.isSuccess then
      (.ok (none, none), m.cleanupHandshake exchangeID)
    else (.ok (none, none), m)

end Complete

/-! ## CASE -/

section Case

variable (P : Case.Primitives) (C : Case.MessageCodec)

/-- `StartCASE(exchangeID, fabricInfo, operationalKey, targetNodeID, resumptionInfo)`: the
Sigma1 to send. A failed allocation or `Start` leaves no handshake, the table's `nextID` moved
on by the allocation. -/
def startCASE (m : Manager S V) (exchangeID : UInt16) (fabricInfo : Case.FabricInfo)
    (operationalKey : List UInt8) (targetNodeID : UInt64)
    (resumptionInfo : Option Case.ResumptionInfo) (draw : Case.Draw) :
    Except (ManagerError E) (List UInt8) × Manager S V :=
  if (m.handshakes exchangeID).isSome then (.error .handshakeInProgress, m)
  else
    match m.sessions.allocateID with
    | (.error _, sessions) => (.error .sessionTableFull, { m with sessions })
    | (.ok localSessionID, sessions) =>
      let m := { m with sessions }
      let caseSession :=
        m.config.withCertValidator (Case.newInitiator P fabricInfo operationalKey targetNodeID)
      let caseSession :=
        match resumptionInfo with
        | some info => caseSession.withResumption (some info)
        | none => caseSession
      match caseSession.start P C localSessionID draw with
      | (.error e, _) => (.error (.case e), m)
      | (.ok sigma1, caseSession) =>
        (.ok sigma1, m.track exchangeID { session := .case caseSession, localSessionID })

/-- `handleSigma1(exchangeID, payload)`: a new CASE responder answers with Sigma2, or with
Sigma2_Resume when it resumes. -/
def handleSigma1 (m : Manager S V) (exchangeID : UInt16) (payload : List UInt8)
    (draw : Case.Draw) : Except (ManagerError E) (Option Message) × Manager S V :=
  match m.sessions.allocateID with
  | (.error _, sessions) => (.error .sessionTableFull, { m with sessions })
  | (.ok localSessionID, sessions) =>
    let m := { m with sessions }
    let caseSession := m.config.withCertValidator
      (Case.newResponder m.config.createFabricLookupFunc (some createResumptionLookupFunc))
    match caseSession.handleSigma1 P C payload localSessionID draw with
    | (.error e, _) => (.error (.case e), m)
    | (.ok (sigma2, isResumption), caseSession) =>
      let m := m.track exchangeID { session := .case caseSession, localSessionID }
      if isResumption then (.ok (newMessage opcodeCASESigma2Resume sigma2), m)
      else (.ok (newMessage opcodeCASESigma2 sigma2), m)

end Case

/-- `handleSigma2(ctx, opcode, payload)`: Sigma3 to send after a Sigma2; nothing after a
Sigma2_Resume, whose success completes the session. -/
def handleSigma2 (P : Case.Primitives) (C : Case.MessageCodec) (s : Case.Session)
    (opcode : Opcode) (payload : List UInt8) :
    Except (ManagerError E) (Option Message) × Case.Session :=
  if opcode = opcodeCASESigma2Resume then
    match s.handleSigma2Resume P C payload with
    | (.error e, s) => (.error (.case e), s)
    | (.ok (), s) => (.ok none, s)
  else
    match s.handleSigma2 P C payload with
    | (.error e, s) => (.error (.case e), s)
    | (.ok sigma3, s) => (.ok (newMessage opcodeCASESigma3 sigma3), s)

/-- `handleSigma3(exchangeID, ctx, payload)`: the success report, and whether the session
completed. -/
def handleSigma3 (P : Case.Primitives) (C : Case.MessageCodec) (s : Case.Session)
    (payload : List UInt8) : Except (ManagerError E) (Option Message × Bool) × Case.Session :=
  match s.handleSigma3 P C payload with
  | (.error e, s) => (.error (.case e), s)
  | (.ok (), s) =>
    (.ok (newMessage opcodeStatusReport success.encode, decide (s.state = .complete)), s)

section Route

variable (P : Case.Primitives) (C : Case.MessageCodec) (kdf : Crypto.HKDF)
  (ops : PaseSessionOps S V E)

/-- `handleCASELocked(exchangeID, opcode, payload)`: the response, and the context handed to
`OnSessionEstablished`. -/
def handleCASELocked (m : Manager S V) (exchangeID : UInt16) (opcode : Opcode)
    (payload : List UInt8) (draw : Case.Draw) (initialCounter : UInt32) :
    Except (ManagerError E) (Option Message × Option SecureContext) × Manager S V :=
  if opcode = opcodeCASESigma1 then
    match m.handshakes exchangeID with
    | some ctx => (.ok (sendBusyResponse ctx, none), m)
    | none =>
      match m.handleSigma1 P C exchangeID payload draw with
      | (.error e, m) => (.error e, m)
      | (.ok resp, m) => (.ok (resp, none), m)
  else if opcode = opcodeCASESigma2 ∨ opcode = opcodeCASESigma2Resume then
    match m.caseHandshake exchangeID with
    | none => (.error .noActiveHandshake, m)
    | some (ctx, s) =>
      match handleSigma2 P C s opcode payload with
      | (.error e, s) => (.error e, m.track exchangeID { ctx with session := .case s })
      | (.ok resp, s) => (.ok (resp, none), m.track exchangeID { ctx with session := .case s })
  else if opcode = opcodeCASESigma3 then
    match m.caseHandshake exchangeID with
    | none => (.error .noActiveHandshake, m)
    | some (ctx, s) =>
      match handleSigma3 P C s payload with
      | (.error e, s) => (.error e, m.track exchangeID { ctx with session := .case s })
      | (.ok (resp, needsComplete), s) =>
        let ctx := { ctx with session := .case s }
        let m := m.track exchangeID ctx
        if needsComplete then
          match m.completeHandshakeLocked P kdf ops exchangeID ctx initialCounter with
          | (.error e, m) => (.error e, m)
          | (.ok secureCtx, m) => (.ok (resp, some secureCtx), m)
        else (.ok (resp, none), m)
  else (.error .invalidOpcode, m)

/-! ## PASE -/

/-- `StartPASE(exchangeID, passcode)`: the PBKDFParamRequest to send. -/
def startPASE (m : Manager S V) (exchangeID : UInt16) (passcode : UInt32) :
    Except (ManagerError E) (List UInt8) × Manager S V :=
  if (m.handshakes exchangeID).isSome then (.error .handshakeInProgress, m)
  else
    match m.sessions.allocateID with
    | (.error _, sessions) => (.error .sessionTableFull, { m with sessions })
    | (.ok localSessionID, sessions) =>
      let m := { m with sessions }
      match ops.newInitiator passcode with
      | .error e => (.error (.pase e), m)
      | .ok s =>
        match ops.start s localSessionID with
        | (.error e, _) => (.error (.pase e), m)
        | (.ok pbkdfReq, s) =>
          (.ok pbkdfReq, m.track exchangeID { session := .pase s, localSessionID })

/-- `handlePBKDFParamRequest(exchangeID, payload)`: a new PASE responder, which records the
initiator's session ID from the request. -/
def handlePBKDFParamRequest (m : Manager S V) (exchangeID : UInt16) (payload : List UInt8) :
    Except (ManagerError E) (Option Message) × Manager S V :=
  match m.paseResponder with
  | none => (.error .paseResponderNotConfigured, m)
  | some responder =>
    match m.sessions.allocateID with
    | (.error _, sessions) => (.error .sessionTableFull, { m with sessions })
    | (.ok localSessionID, sessions) =>
      let m := { m with sessions }
      match ops.newResponder responder.verifier responder.salt responder.iterations with
      | .error e => (.error (.pase e), m)
      | .ok s =>
        match ops.handlePBKDFParamRequest s payload localSessionID with
        | (.error e, _) => (.error (.pase e), m)
        | (.ok pbkdfResp, s) =>
          let peerSessionID := ops.peerSessionID s
          (.ok (newMessage opcodePBKDFParamResponse pbkdfResp),
            m.track exchangeID { session := .pase s, localSessionID, peerSessionID })

/-- One of `handlePBKDFParamResponse`, `handlePake1`, `handlePake2` on the PASE context `ctx`:
the session's answer under `opcode`, the context keeping the changed session. After
`HandlePBKDFParamResponse` the initiator records the responder's session ID. -/
def handlePaseStep (ctx : HandshakeContext S) (s : S)
    (handler : S → List UInt8 → Except E (List UInt8) × S) (opcode : Opcode)
    (recordPeer : Bool) (payload : List UInt8) :
    Except (ManagerError E) (Option Message) × HandshakeContext S :=
  match handler s payload with
  | (.error e, s) => (.error (.pase e), { ctx with session := .pase s })
  | (.ok resp, s) =>
    (.ok (newMessage opcode resp),
      if recordPeer then { ctx with session := .pase s, peerSessionID := ops.peerSessionID s }
      else { ctx with session := .pase s })

/-- `handlePBKDFParamResponse(ctx, payload)`. -/
def handlePBKDFParamResponse (ctx : HandshakeContext S) (s : S) (payload : List UInt8) :
    Except (ManagerError E) (Option Message) × HandshakeContext S :=
  handlePaseStep ops ctx s ops.handlePBKDFParamResponse opcodePASEPake1 true payload

/-- `handlePake1(ctx, payload)`. -/
def handlePake1 (ctx : HandshakeContext S) (s : S) (payload : List UInt8) :
    Except (ManagerError E) (Option Message) × HandshakeContext S :=
  handlePaseStep ops ctx s ops.handlePake1 opcodePASEPake2 false payload

/-- `handlePake2(ctx, payload)`. -/
def handlePake2 (ctx : HandshakeContext S) (s : S) (payload : List UInt8) :
    Except (ManagerError E) (Option Message) × HandshakeContext S :=
  handlePaseStep ops ctx s ops.handlePake2 opcodePASEPake3 false payload

/-- `handlePake3(exchangeID, ctx, payload)`: the success report, and whether the session
completed. -/
def handlePake3 (ctx : HandshakeContext S) (s : S) (payload : List UInt8) :
    Except (ManagerError E) (Option Message × Bool) × HandshakeContext S :=
  match ops.handlePake3 s payload with
  | (.error e, s) => (.error (.pase e), { ctx with session := .pase s })
  | (.ok confirmed, s) =>
    if !confirmed then (.error .paseConfirmationFailed, { ctx with session := .pase s })
    else
      (.ok (newMessage opcodeStatusReport success.encode, decide (ops.state s = .complete)),
        { ctx with session := .pase s })

/-- The `PBKDFParamResponse`, `Pake1` and `Pake2` cases of `handlePASELocked`: `handler` on the
exchange's PASE handshake, its context filed back as the handler leaves it. -/
def handlePaseStepLocked (m : Manager S V) (exchangeID : UInt16)
    (handler : HandshakeContext S → S → List UInt8 →
      Except (ManagerError E) (Option Message) × HandshakeContext S)
    (payload : List UInt8) :
    Except (ManagerError E) (Option Message × Option SecureContext) × Manager S V :=
  match m.paseHandshake exchangeID with
  | none => (.error .noActiveHandshake, m)
  | some (ctx, s) =>
    match handler ctx s payload with
    | (.error e, ctx) => (.error e, m.track exchangeID ctx)
    | (.ok resp, ctx) => (.ok (resp, none), m.track exchangeID ctx)

/-- `handlePASELocked(exchangeID, opcode, payload)`: the response, and the context handed to
`OnSessionEstablished`. -/
def handlePASELocked (m : Manager S V) (exchangeID : UInt16) (opcode : Opcode)
    (payload : List UInt8) (initialCounter : UInt32) :
    Except (ManagerError E) (Option Message × Option SecureContext) × Manager S V :=
  if opcode = opcodePBKDFParamRequest then
    match m.handshakes exchangeID with
    | some ctx => (.ok (sendBusyResponse ctx, none), m)
    | none =>
      match m.handlePBKDFParamRequest ops exchangeID payload with
      | (.error e, m) => (.error e, m)
      | (.ok resp, m) => (.ok (resp, none), m)
  else if opcode = opcodePBKDFParamResponse then
    m.handlePaseStepLocked exchangeID (handlePBKDFParamResponse ops) payload
  else if opcode = opcodePASEPake1 then m.handlePaseStepLocked exchangeID (handlePake1 ops) payload
  else if opcode = opcodePASEPake2 then m.handlePaseStepLocked exchangeID (handlePake2 ops) payload
  else if opcode = opcodePASEPake3 then
    match m.paseHandshake exchangeID with
    | none => (.error .noActiveHandshake, m)
    | some (ctx, s) =>
      match handlePake3 ops ctx s payload with
      | (.error e, ctx) => (.error e, m.track exchangeID ctx)
      | (.ok (resp, needsComplete), ctx) =>
        let m := m.track exchangeID ctx
        if needsComplete then
          match m.completeHandshakeLocked P kdf ops exchangeID ctx initialCounter with
          | (.error e, m) => (.error e, m)
          | (.ok secureCtx, m) => (.ok (resp, some secureCtx), m)
        else (.ok (resp, none), m)
  else (.error .invalidOpcode, m)

/-- `SetPASEResponder(verifier, salt, iterations)`. -/
def setPASEResponder (m : Manager S V) (verifier : Option V) (salt : List UInt8)
    (iterations : UInt32) : Except (ManagerError E) Unit × Manager S V :=
  match verifier with
  | none => (.error .verifierNil, m)
  | some verifier =>
    if salt.length < pbkdfMinSaltLength ∨ salt.length > pbkdfMaxSaltLength then
      (.error .invalidSaltLength, m)
    else if iterations < pbkdfMinIterations ∨ iterations > pbkdfMaxIterations then
      (.error .invalidIterationCount, m)
    else (.ok (), { m with paseResponder := some { verifier, salt, iterations } })

/-- `ClearPASEResponder()`. -/
def clearPASEResponder (m : Manager S V) : Manager S V := { m with paseResponder := none }

/-- `CleanupExpiredHandshakes()`, `expired` naming the exchanges whose handshake started more
than `HandshakeTimeout` ago. -/
def cleanupExpiredHandshakes (m : Manager S V) (expired : UInt16 → Bool) : Manager S V :=
  { m with
    handshakes := fun exchangeID => if expired exchangeID then none else m.handshakes exchangeID }

/-- `Route(exchangeID, msg)`: the response, and the context handed to `OnSessionEstablished`.
A Sigma1 draws its randoms from `draw`; a completion starts its counter at `initialCounter`. -/
def route (m : Manager S V) (exchangeID : UInt16) (msg : Option Message) (draw : Case.Draw)
    (initialCounter : UInt32) :
    Except (ManagerError E) (Option Message × Option SecureContext) × Manager S V :=
  match msg with
  | none => (.error .invalidOpcode, m)
  | some msg =>
    if !messagePermitted msg.opcode then (.error .invalidOpcode, m)
    else if isPASEOpcode msg.opcode then
      m.handlePASELocked P kdf ops exchangeID msg.opcode msg.payload initialCounter
    else if isCASEOpcode msg.opcode then
      m.handleCASELocked P C kdf ops exchangeID msg.opcode msg.payload draw initialCounter
    else if msg.opcode = opcodeStatusReport then
      m.handleStatusReport P kdf ops exchangeID msg.payload initialCounter
    else if msg.opcode = opcodeStandaloneAck then (.ok (none, none), m)
    else (.error .noHandler, m)

/-- The calls a node makes on its manager. -/
inductive Call (V : Type)
  /-- `StartPASE(exchangeID, passcode)`. -/
  | startPASE (exchangeID : UInt16) (passcode : UInt32)
  /-- `StartCASE(exchangeID, fabricInfo, operationalKey, targetNodeID, resumptionInfo)`, with the
  randoms `Start` draws. -/
  | startCASE (exchangeID : UInt16) (fabricInfo : Case.FabricInfo) (operationalKey : List UInt8)
      (targetNodeID : UInt64) (resumptionInfo : Option Case.ResumptionInfo) (draw : Case.Draw)
  /-- `SetPASEResponder(verifier, salt, iterations)`. -/
  | setPASEResponder (verifier : Option V) (salt : List UInt8) (iterations : UInt32)
  /-- `ClearPASEResponder()`. -/
  | clearPASEResponder
  /-- `Route(exchangeID, msg)`. -/
  | route (exchangeID : UInt16) (msg : Option Message) (draw : Case.Draw) (initialCounter : UInt32)
  /-- `CleanupExpiredHandshakes()`. -/
  | cleanupExpiredHandshakes (expired : UInt16 → Bool)

/-- One call: the context it hands to `OnSessionEstablished`, and the manager it leaves. -/
def step (m : Manager S V) : Call V → Option SecureContext × Manager S V
  | .startPASE exchangeID passcode => (none, (m.startPASE ops exchangeID passcode).2)
  | .startCASE exchangeID fabricInfo operationalKey targetNodeID resumptionInfo draw =>
    (none, (m.startCASE (E := E) P C exchangeID fabricInfo operationalKey targetNodeID
      resumptionInfo draw).2)
  | .setPASEResponder verifier salt iterations =>
    (none, (m.setPASEResponder (E := E) verifier salt iterations).2)
  | .clearPASEResponder => (none, m.clearPASEResponder)
  | .route exchangeID msg draw initialCounter =>
    match m.route P C kdf ops exchangeID msg draw initialCounter with
    | (.ok (_, established), m) => (established, m)
    | (.error _, m) => (none, m)
  | .cleanupExpiredHandshakes expired => (none, m.cleanupExpiredHandshakes expired)

end Route

/-! ## The success path of a CASE initiator -/

section CaseRun

variable (P : Case.Primitives) (C : Case.MessageCodec) (kdf : Crypto.HKDF)
  (ops : PaseSessionOps S V E)

/-- The initiator `StartCASE` builds is the one of the handshake theorems, with no MRP parameters
and the configured validator. -/
theorem withCertValidator_newInitiator (config : ManagerConfig) (fi : Case.FabricInfo)
    (k : List UInt8) (target : UInt64) :
    config.withCertValidator (Case.newInitiator P fi k target) =
      ((Case.newInitiator P fi k target).withMRPParams none).withCertValidator
        config.certValidator := by
  unfold ManagerConfig.withCertValidator
  cases config.certValidator <;> rfl

/-- `StartCASE` on a free exchange, with an allocated ID and a `Start` that succeeds, files the
initiator under the exchange with that ID and no peer session ID. -/
theorem startCASE_eq {m : Manager S V} {exchangeID sid : UInt16} {fi : Case.FabricInfo}
    {k : List UInt8} {target : UInt64} {draw : Case.Draw} {t : Table} {msg1 : List UInt8}
    {s1 : Case.Session} (hfresh : m.handshakes exchangeID = none)
    (halloc : m.sessions.allocateID = (.ok sid, t))
    (hstart : (m.config.withCertValidator (Case.newInitiator P fi k target)).start P C sid draw =
      (.ok msg1, s1)) :
    m.startCASE (E := E) P C exchangeID fi k target none draw =
      (.ok msg1, { m with sessions := t }.track exchangeID
        { session := .case s1, localSessionID := sid }) := by
  simp only [startCASE, hfresh, Option.isSome_none, Bool.false_eq_true, if_false, halloc]
  rw [hstart]

theorem caseHandshake_track {m : Manager S V} {exchangeID : UInt16} {ctx : HandshakeContext S}
    {s : Case.Session} (h : ctx.session = .case s) :
    (m.track exchangeID ctx).caseHandshake exchangeID = some (ctx, s) := by
  simp [caseHandshake, track, h]

/-- `Route` hands a CASE message to `handleCASELocked`. -/
theorem route_of_isCASEOpcode (m : Manager S V) (exchangeID : UInt16) {msg : Message}
    (h : isCASEOpcode msg.opcode = true) (draw : Case.Draw) (v : UInt32) :
    m.route P C kdf ops exchangeID (some msg) draw v =
      m.handleCASELocked P C kdf ops exchangeID msg.opcode msg.payload draw v := by
  have hcase : msg.opcode = opcodeCASESigma1 ∨ msg.opcode = opcodeCASESigma2 ∨
      msg.opcode = opcodeCASESigma3 ∨ msg.opcode = opcodeCASESigma2Resume := by
    simpa [isCASEOpcode] using h
  -- the CASE opcodes are permitted and are no PASE opcodes
  have hperm : messagePermitted msg.opcode = true := by
    rcases hcase with h | h | h | h <;> rw [h] <;> decide
  have hpase : isPASEOpcode msg.opcode = false := by
    rcases hcase with h | h | h | h <;> rw [h] <;> decide
  simp [route, hperm, hpase, h]

/-- `Route` hands a status report to `handleStatusReport`. -/
theorem route_statusReport (m : Manager S V) (exchangeID : UInt16) (payload : List UInt8)
    (draw : Case.Draw) (v : UInt32) :
    m.route P C kdf ops exchangeID (some ⟨opcodeStatusReport, payload⟩) draw v =
      m.handleStatusReport P kdf ops exchangeID payload v := by
  have hperm : messagePermitted opcodeStatusReport = true := by decide
  have hpase : isPASEOpcode opcodeStatusReport = false := by decide
  have hcase : isCASEOpcode opcodeStatusReport = false := by decide
  simp [route, hperm, hpase, hcase]

/-- A Sigma2 routed to the initiator's handshake: the Sigma3 `HandleSigma2` returns, and the
changed session filed back. -/
theorem route_sigma2_eq {m : Manager S V} {exchangeID : UInt16} {ctx : HandshakeContext S}
    {s s' : Case.Session} {msg2 msg3 : List UInt8}
    (hctx : m.caseHandshake exchangeID = some (ctx, s))
    (h2 : s.handleSigma2 P C msg2 = (.ok msg3, s')) (draw : Case.Draw) (v : UInt32) :
    m.route P C kdf ops exchangeID (some ⟨opcodeCASESigma2, msg2⟩) draw v =
      (.ok (some ⟨opcodeCASESigma3, msg3⟩, none),
        m.track exchangeID { ctx with session := .case s' }) := by
  have hsigma2 : handleSigma2 (E := E) P C s opcodeCASESigma2 msg2 =
      (.ok (newMessage opcodeCASESigma3 msg3), s') := by
    rw [handleSigma2, if_neg (by decide), h2]
  have hcase : isCASEOpcode opcodeCASESigma2 = true := by decide
  have hne : opcodeCASESigma2 ≠ opcodeCASESigma1 := by decide
  rw [route_of_isCASEOpcode P C kdf ops m exchangeID hcase]
  dsimp only
  rw [handleCASELocked, if_neg hne, if_pos (Or.inl rfl), hctx]
  simp only [hsigma2, newMessage]

/-- `completeCASESession` for an initiator whose session takes the success report: the context
of the configuration built from the completed session's keys. -/
theorem completeCASESession_eq {config : ManagerConfig} {ctx : HandshakeContext S}
    {s s' : Case.Session} {keys : Case.SessionKeys} (v : UInt32)
    (hreport : s.handleStatusReport P true = (.ok (), s')) (hkeys : s'.sessionKeys = some keys) :
    completeCASESession (E := E) P kdf config ctx s v =
      (newSecureContext kdf (caseContextConfig config ctx s' keys) v).mapError .session := by
  obtain ⟨hrole, hstate, rfl⟩ := Case.Session.handleStatusReport_ok hreport
  have hwaiting : s.role = .initiator ∧ s.state = .waitingStatusReport := ⟨hrole, hstate⟩
  simp only [completeCASESession, if_pos hwaiting, hreport]
  simp only [Case.Session.getSessionKeys] at hkeys ⊢
  simp [hkeys]

/-- Completing a CASE handshake adds its context to the table and drops the handshake. -/
theorem completeHandshakeLocked_case_eq {m : Manager S V} {exchangeID : UInt16}
    {ctx : HandshakeContext S} {s : Case.Session} {sc : SecureContext} {t : Table} {v : UInt32}
    (hs : ctx.session = .case s)
    (hc : completeCASESession (E := E) P kdf m.config ctx s v = .ok sc)
    (hadd : m.sessions.add sc = .ok t) :
    m.completeHandshakeLocked P kdf ops exchangeID ctx v =
      (.ok sc, { m with sessions := t }.cleanupHandshake exchangeID) := by
  simp only [completeHandshakeLocked, completeSession, hs, hc, hadd]

/-- A success report routed to a handshake that completes: no response, and the new context for
`OnSessionEstablished`. -/
theorem route_success_eq {m m' : Manager S V} {exchangeID : UInt16} {ctx : HandshakeContext S}
    {sc : SecureContext} (hctx : m.handshakes exchangeID = some ctx) {v : UInt32}
    (hcomplete : m.completeHandshakeLocked P kdf ops exchangeID ctx v = (.ok sc, m'))
    (draw : Case.Draw) :
    m.route P C kdf ops exchangeID (some ⟨opcodeStatusReport, success.encode⟩) draw v =
      (.ok (none, some sc), m') := by
  have hbusy : success.isBusy = false := by decide
  have hok : (success.isSuccess && success.isSecureChannel &&
      success.secureChannelCode == protocolCodeSuccess) = true := by decide
  rw [route_statusReport, handleStatusReport, decodeStatusReport_encode]
  simp only [hbusy, hok, Bool.false_eq_true, if_false, if_true, handleStatusReportSuccess, hctx,
    hcomplete]

/-- **A manager's CASE handshake against an honest responder.** A manager starts CASE on a free
exchange, with an ID to allocate, against a `casesession` responder under the hypotheses of
`full_handshake_agrees` (the initiator with no MRP parameters and the manager's validator), and
routes the responder's Sigma2 and success report back unmodified. Every step succeeds; the table
gains exactly one context, a CASE initiator context with the allocated ID and the responder's
keys; and the handshake is dropped. The context's peer session ID is 0, not the responder's. -/
theorem manager_case_handshake (hP : P.Sized) (hC : C.RoundTrip) (hH : P.Honest)
    {m : Manager S V} {exchangeID sidI sidR : UInt16} {fiI fiR : Case.FabricInfo}
    {kI kR : List UInt8} {target : UInt64} {mrpR : Option Case.MRPParameters}
    {drawI drawR : Case.Draw} {lookup : Case.FabricLookupFunc}
    {resumptionLookup : Option Case.ResumptionLookupFunc}
    {VR : Option Case.ValidatePeerCertChainFunc}
    (hipk : fiI.ipk = fiR.ipk) (hcfid : fiI.compressedFabricID = fiR.compressedFabricID)
    (hdI : drawI.Sized) (hdR : drawR.Sized)
    (hlookup : lookup (Case.generateDestinationID P drawI.random fiI.rootPublicKey fiI.fabricID
      target (Case.operationalIPK P fiI.ipk fiI.compressedFabricID)) drawI.random =
        some (fiR, some kR))
    (hVI : ∀ V ∈ m.config.certValidator, ∃ fabricID, V fiR.noc fiR.icac fiI.rootPublicKey =
      some ⟨target, fabricID, P.p256PublicKey kR⟩)
    (hVR : ∀ V ∈ VR, ∃ nodeID, V fiI.noc fiI.icac fiR.rootPublicKey =
      some ⟨nodeID, fiR.fabricID, P.p256PublicKey kI⟩)
    (hfI : fiI.Sized) (hfR : fiR.Sized)
    (hshort2 : ∀ signature b, signature.length = 64 →
      C.encodeTBEData2 ⟨fiR.noc, fiR.icac, signature, drawR.resumptionID⟩ = some b →
      b.length < 2 ^ 16)
    (hshort3 : ∀ signature b, signature.length = 64 →
      C.encodeTBEData3 ⟨fiI.noc, fiI.icac, signature⟩ = some b → b.length < 2 ^ 16)
    (hfresh : m.handshakes exchangeID = none) (halloc : m.sessions.allocateID.1 = .ok sidI)
    (draw : Case.Draw) (v : UInt32) :
    ∃ msg1 m1 msg2 r1 msg3 m2 r m3 sc,
      m.startCASE (E := E) P C exchangeID fiI kI target none drawI = (.ok msg1, m1) ∧
      (((Case.newResponder lookup resumptionLookup).withMRPParams mrpR).withCertValidator
        VR).handleSigma1 P C msg1 sidR drawR = (.ok (msg2, false), r1) ∧
      m1.route P C kdf ops exchangeID (some ⟨opcodeCASESigma2, msg2⟩) draw v =
        (.ok (some ⟨opcodeCASESigma3, msg3⟩, none), m2) ∧
      r1.handleSigma3 P C msg3 = (.ok (), r) ∧
      m2.route P C kdf ops exchangeID (some ⟨opcodeStatusReport, success.encode⟩) draw v =
        (.ok (none, some sc), m3) ∧
      m3.sessions.sessions = m.sessions.sessions ++ [sc] ∧ m3.handshakes exchangeID = none ∧
      sc.sessionType = .case ∧ sc.role = .initiator ∧ sc.localSessionID = sidI ∧
      (∃ keys, r.sessionKeys = some keys ∧ sc.i2rKey = keys.i2rKey ∧
        sc.r2iKey = keys.r2iKey) ∧
      r.localSessionID = sidR ∧ sc.peerSessionID = 0 := by
  -- the steps of the two CASE sessions, from the handshake theorem
  obtain ⟨msg1, i1, msg2, r1, msg3, i2, r, i, h1, h2, h3, h4, h5, hagree, -, -, hsidR⟩ :=
    Case.full_handshake_steps hP hC hipk hcfid hdI hdR hH hlookup hVI hVR hfI hfR hshort2
      hshort3
  -- `StartCASE` allocates `sidI`, a free nonzero ID, and files the initiator without a peer ID
  obtain ⟨j, -, hsid, hfree, -, -⟩ := Table.allocateID_ok halloc
  have hsid0 : sidI ≠ 0 := hsid ▸ Session.idAt_ne_zero _ _
  obtain ⟨hsessions, hmax⟩ := Table.sessions_allocateID m.sessions
  have hstart := startCASE_eq (E := E) P C hfresh (Prod.ext halloc rfl)
    ((congrArg (Case.Session.start P C · sidI drawI)
      (withCertValidator_newInitiator P m.config fiI kI target)).trans h1)
  let ctx1 : HandshakeContext S := { session := .case i1, localSessionID := sidI }
  let m1 := { m with sessions := m.sessions.allocateID.2 }.track exchangeID ctx1
  -- the Sigma2 reaches the initiator, which answers with Sigma3
  have hroute2 := route_sigma2_eq P C kdf ops (m := m1) (caseHandshake_track rfl) h3 draw v
  let ctx2 : HandshakeContext S := { ctx1 with session := .case i2 }
  let m2 := m1.track exchangeID ctx2
  -- the success report completes the initiator with the keys of the whole transcript
  obtain ⟨hrole, -, hi⟩ := Case.Session.handleStatusReport_ok h5
  let keys := Case.deriveSessionKeys P i2.sharedSecret i2.ipk i2.msg1Bytes i2.msg2Bytes
    i2.msg3Bytes
  have hkeys : i.sessionKeys = some keys := by rw [hi]
  obtain ⟨hlenI, hlenR⟩ := Case.length_deriveSessionKeys hP i2.sharedSecret i2.ipk i2.msg1Bytes
    i2.msg2Bytes i2.msg3Bytes
  have hroleI : i.role = .initiator := by rw [hi]; exact hrole
  have hconfigRole : (caseContextConfig m2.config ctx2 i keys).role = .initiator := by
    simp [caseContextConfig, hroleI]
  obtain ⟨sc, hsc⟩ : ∃ sc, newSecureContext kdf (caseContextConfig m2.config ctx2 i keys) v =
      .ok sc :=
    SecureContext.newSecureContext_isOk v rfl (by rw [hconfigRole]; rfl) hsid0 hlenI hlenR
  have hcomplete : completeCASESession (E := E) P kdf m2.config ctx2 i2 v = .ok sc := by
    rw [completeCASESession_eq P kdf v h5 hkeys, hsc]
    rfl
  obtain ⟨-, -, hscType, hscLocal, hscPeer, -⟩ := SecureContext.newSecureContext_eq hsc
  obtain ⟨hscRole, hscI2R, hscR2I⟩ := SecureContext.newSecureContext_fields hsc
  -- the table takes the context: its ID is the allocated one, free and below capacity
  obtain ⟨t, hadd, ht⟩ :
      ∃ t, m2.sessions.add sc = .ok t ∧ t.sessions = m2.sessions.sessions ++ [sc] :=
    Table.add_of_free (hscLocal.trans rfl ▸ hsid0)
    (by simp only [m2, m1, track, hsessions, hmax]; exact Table.length_lt_of_allocateID_ok halloc)
    (by
      intro c hc
      rw [hscLocal]
      exact hfree c (by simpa [m2, m1, track, hsessions] using hc))
  have hctx2 : m2.handshakes exchangeID = some ctx2 := by simp [m2, track]
  have hroute3 := route_success_eq P C kdf ops hctx2
    (completeHandshakeLocked_case_eq P kdf ops rfl hcomplete hadd) draw
  refine ⟨msg1, m1, msg2, r1, msg3, m2, r, _, sc, hstart, h2, hroute2, h4, hroute3, ?_, ?_,
    hscType, hscRole.trans hconfigRole, hscLocal, ⟨keys, hagree.sessionKeys_eq ▸ hkeys, hscI2R,
    hscR2I⟩, hsidR, hscPeer⟩
  · simp [cleanupHandshake, ht, m2, m1, track, hsessions]
  · simp [cleanupHandshake]

end CaseRun

/-! ## No CASE context records its peer -/

/-- **The CASE bookkeeping of a manager**: no CASE handshake records the peer's session ID, and
every CASE context of the table has peer session ID 0. -/
structure CasePeerZero (m : Manager S V) : Prop where
  handshakes : ∀ exchangeID ctx, m.handshakes exchangeID = some ctx → ctx.NoCasePeer
  sessions : ∀ sc ∈ m.sessions.sessions, sc.sessionType = .case → sc.peerSessionID = 0

section Invariant

variable {m : Manager S V}

theorem noCasePeer_of_pase {ctx : HandshakeContext S} {s : S} (h : ctx.session = .pase s) :
    ctx.NoCasePeer := by
  simp [HandshakeContext.NoCasePeer, HandshakeContext.handshakeType, h]

theorem NoCasePeer.of_peerSessionID {ctx : HandshakeContext S} (h : ctx.peerSessionID = 0) :
    ctx.NoCasePeer := fun _ => h

/-- A CASE context that records no peer keeps recording none with its session changed. -/
theorem NoCasePeer.with_case {ctx : HandshakeContext S} {s : Case.Session}
    (hctx : ctx.NoCasePeer) (h : ctx.session = .case s) (s' : Case.Session) :
    ({ ctx with session := .case s' } : HandshakeContext S).NoCasePeer := fun _ =>
  hctx (by simp [HandshakeContext.handshakeType, h])

theorem caseHandshake_eq_some {exchangeID : UInt16} {ctx : HandshakeContext S}
    {s : Case.Session} (h : m.caseHandshake exchangeID = some (ctx, s)) :
    m.handshakes exchangeID = some ctx ∧ ctx.session = .case s := by
  unfold caseHandshake at h
  split at h
  · split at h
    · cases h
      exact ⟨‹_›, ‹_›⟩
    · cases h
  · cases h

theorem CasePeerZero.track (h : CasePeerZero m) {ctx : HandshakeContext S}
    (hctx : ctx.NoCasePeer) (exchangeID : UInt16) : CasePeerZero (m.track exchangeID ctx) where
  handshakes e c hc := by
    simp only [Manager.track, GoMap.insert_apply] at hc
    split at hc
    · cases hc
      exact hctx
    · exact h.handshakes e c hc
  sessions := h.sessions

theorem CasePeerZero.cleanupHandshake (h : CasePeerZero m) (exchangeID : UInt16) :
    CasePeerZero (m.cleanupHandshake exchangeID) where
  handshakes e c hc := by
    simp only [Manager.cleanupHandshake, GoMap.delete_apply] at hc
    split at hc
    · cases hc
    · exact h.handshakes e c hc
  sessions := h.sessions

/-- The manager a handler leaves, read off an equation for its result. -/
theorem CasePeerZero.of_eq {α : Type} {r : α × Manager S V} {a : α} {m' : Manager S V}
    (h : CasePeerZero r.2) (heq : r = (a, m')) : CasePeerZero m' := by
  rw [heq] at h
  exact h

/-- A change of the PASE responder configuration keeps the bookkeeping. -/
theorem CasePeerZero.withPaseResponder (h : CasePeerZero m) (cfg : Option (PaseResponderConfig V)) :
    CasePeerZero { m with paseResponder := cfg } :=
  ⟨h.handshakes, h.sessions⟩

theorem CasePeerZero.cleanupExpiredHandshakes (h : CasePeerZero m) (expired : UInt16 → Bool) :
    CasePeerZero (m.cleanupExpiredHandshakes expired) where
  handshakes e c hc := by
    simp only [Manager.cleanupExpiredHandshakes] at hc
    split at hc
    · cases hc
    · exact h.handshakes e c hc
  sessions := h.sessions

/-- A table with the same contexts keeps the bookkeeping: what `AllocateID` leaves. -/
theorem CasePeerZero.withSessions (h : CasePeerZero m) {t : Table}
    (ht : t.sessions = m.sessions.sessions) : CasePeerZero { m with sessions := t } where
  handshakes := h.handshakes
  sessions sc hsc := h.sessions sc (ht ▸ hsc)

theorem CasePeerZero.allocate (h : CasePeerZero m) {r : Except SessionError UInt16} {t : Table}
    (heq : m.sessions.allocateID = (r, t)) : CasePeerZero { m with sessions := t } :=
  h.withSessions (by rw [← (Table.sessions_allocateID m.sessions).1, heq])

/-- Adding a context that keeps the bookkeeping keeps it. -/
theorem CasePeerZero.add (h : CasePeerZero m) {sc : SecureContext} {t : Table}
    (hsc : sc.sessionType = .case → sc.peerSessionID = 0) (hadd : m.sessions.add sc = .ok t) :
    CasePeerZero { m with sessions := t } where
  handshakes := h.handshakes
  sessions c hc := by
    rw [(Table.add_ok hadd).2.2.2.1, List.mem_append, List.mem_singleton] at hc
    rcases hc with hc | rfl
    · exact h.sessions c hc
    · exact hsc

variable (P : Case.Primitives) (C : Case.MessageCodec) (kdf : Crypto.HKDF)
  (ops : PaseSessionOps S V E)

/-- Whatever the report did, a CASE completion that succeeds is `NewSecureContext`'s success
on `caseContextConfig`. -/
theorem completeCASESession_ok {config : ManagerConfig} {ctx : HandshakeContext S}
    {s : Case.Session} {v : UInt32} {sc : SecureContext}
    (h : completeCASESession (E := E) P kdf config ctx s v = .ok sc) :
    ∃ s' keys, newSecureContext kdf (caseContextConfig config ctx s' keys) v = .ok sc := by
  unfold completeCASESession at h
  dsimp only at h
  generalize (if s.role = .initiator ∧ s.state = .waitingStatusReport then
    s.handleStatusReport P true else (.ok (), s)) = reported at h
  rcases reported with ⟨_ | ⟨⟩, s'⟩
  · cases h
  · simp only at h
    split at h
    · cases h
    · cases h
    · exact ⟨s', _, Except.mapError_eq_ok.mp h⟩

/-- As for CASE, a PASE completion that succeeds is `NewSecureContext`'s success on
`paseContextConfig`. -/
theorem completePASESession_ok {ctx : HandshakeContext S} {s : S} {v : UInt32}
    {sc : SecureContext} (h : completePASESession kdf ops ctx s v = .ok sc) :
    ∃ role keys, newSecureContext kdf (paseContextConfig role ctx keys) v = .ok sc := by
  unfold completePASESession at h
  dsimp only at h
  generalize (if ops.role s = .initiator ∧ ops.state s = .waitingStatusReport then
    ops.handleStatusReport s true else (.ok (), s)) = reported at h
  rcases reported with ⟨_ | ⟨⟩, s'⟩
  · cases h
  · simp only at h
    split at h
    · cases h
    · exact ⟨_, _, Except.mapError_eq_ok.mp h⟩

/-- **`completeCASESession` copies the context's peer session ID** into a CASE context. -/
theorem completeCASESession_peer {config : ManagerConfig} {ctx : HandshakeContext S}
    {s : Case.Session} {v : UInt32} {sc : SecureContext}
    (h : completeCASESession (E := E) P kdf config ctx s v = .ok sc) :
    sc.sessionType = .case ∧ sc.peerSessionID = ctx.peerSessionID := by
  obtain ⟨_, _, hsc⟩ := completeCASESession_ok P kdf h
  obtain ⟨-, -, htype, -, hpeer, -⟩ := SecureContext.newSecureContext_eq hsc
  exact ⟨htype, hpeer⟩

theorem completePASESession_type {ctx : HandshakeContext S} {s : S} {v : UInt32}
    {sc : SecureContext} (h : completePASESession kdf ops ctx s v = .ok sc) :
    sc.sessionType = .pase := by
  obtain ⟨_, _, hsc⟩ := completePASESession_ok kdf ops h
  exact (SecureContext.newSecureContext_eq hsc).2.2.1

/-- The context a completion returns is CASE only from a CASE handshake, with its peer ID. -/
theorem completeSession_noCasePeer {config : ManagerConfig} {ctx : HandshakeContext S}
    (hctx : ctx.NoCasePeer) {v : UInt32} {sc : SecureContext}
    (h : completeSession P kdf ops config ctx v = .ok sc) :
    sc.sessionType = .case → sc.peerSessionID = 0 := by
  intro htype
  unfold completeSession at h
  split at h
  · rw [completePASESession_type kdf ops h] at htype
    cases htype
  · rename_i s hs
    obtain ⟨-, hpeer⟩ := completeCASESession_peer P kdf h
    exact hpeer.trans (hctx (by simp [HandshakeContext.handshakeType, hs]))

theorem CasePeerZero.completeHandshakeLocked (h : CasePeerZero m) (exchangeID : UInt16)
    {ctx : HandshakeContext S} (hctx : ctx.NoCasePeer) (v : UInt32) :
    CasePeerZero (m.completeHandshakeLocked P kdf ops exchangeID ctx v).2 := by
  unfold Manager.completeHandshakeLocked
  split
  · exact h.cleanupHandshake exchangeID
  · rename_i sc hc
    split
    · exact h.cleanupHandshake exchangeID
    · rename_i t hadd
      exact (h.add (completeSession_noCasePeer P kdf ops hctx hc) hadd).cleanupHandshake exchangeID

theorem CasePeerZero.handleStatusReportSuccess (h : CasePeerZero m) (exchangeID : UInt16)
    (v : UInt32) : CasePeerZero (m.handleStatusReportSuccess P kdf ops exchangeID v).2 := by
  unfold Manager.handleStatusReportSuccess
  split
  · exact h
  · rename_i ctx hctx
    have hdone := h.completeHandshakeLocked P kdf ops exchangeID (h.handshakes _ _ hctx) v
    split <;> rename_i heq <;> exact hdone.of_eq heq

theorem CasePeerZero.handleStatusReport (h : CasePeerZero m) (exchangeID : UInt16)
    (payload : List UInt8) (v : UInt32) :
    CasePeerZero (m.handleStatusReport P kdf ops exchangeID payload v).2 := by
  unfold Manager.handleStatusReport
  split
  · exact h
  · -- a Busy report and a failure report drop the handshake, a success report completes it
    split_ifs
    · exact h.cleanupHandshake exchangeID
    · have hdone := h.handleStatusReportSuccess P kdf ops exchangeID v
      split <;> rename_i heq <;> exact hdone.of_eq heq
    · exact h
    · exact h.cleanupHandshake exchangeID
    · exact h

/-- `StartCASE` files its initiator without a peer session ID. -/
theorem CasePeerZero.startCASE (h : CasePeerZero m) (exchangeID : UInt16) (fi : Case.FabricInfo)
    (k : List UInt8) (target : UInt64) (ri : Option Case.ResumptionInfo) (draw : Case.Draw) :
    CasePeerZero (m.startCASE (E := E) P C exchangeID fi k target ri draw).2 := by
  unfold Manager.startCASE
  split
  · exact h
  · split
    · rename_i heq
      exact h.allocate heq
    · rename_i heq
      dsimp only
      split
      · exact h.allocate heq
      · exact (h.allocate heq).track (NoCasePeer.of_peerSessionID rfl) exchangeID

/-- `handleSigma1` files its responder without a peer session ID. -/
theorem CasePeerZero.handleSigma1 (h : CasePeerZero m) (exchangeID : UInt16)
    (payload : List UInt8) (draw : Case.Draw) :
    CasePeerZero (m.handleSigma1 (E := E) P C exchangeID payload draw).2 := by
  unfold Manager.handleSigma1
  split
  · rename_i heq
    exact h.allocate heq
  · rename_i heq
    dsimp only
    split
    · exact h.allocate heq
    · split <;> exact (h.allocate heq).track (NoCasePeer.of_peerSessionID rfl) exchangeID

theorem CasePeerZero.handleCASELocked (h : CasePeerZero m) (exchangeID : UInt16) (opcode : Opcode)
    (payload : List UInt8) (draw : Case.Draw) (v : UInt32) :
    CasePeerZero (m.handleCASELocked P C kdf ops exchangeID opcode payload draw v).2 := by
  unfold Manager.handleCASELocked
  split_ifs
  · -- Sigma1: busy on a taken exchange, a new responder otherwise
    split
    · exact h
    · have hnew := h.handleSigma1 (E := E) P C exchangeID payload draw
      split <;> rename_i heq <;> exact hnew.of_eq heq
  · -- Sigma2: the changed session goes back into the context, its peer ID untouched
    split
    · exact h
    · rename_i ctx s hcs
      obtain ⟨hctx, hs⟩ := caseHandshake_eq_some hcs
      have hno := h.handshakes _ _ hctx
      split <;> exact h.track (NoCasePeer.with_case hno hs _) exchangeID
  · -- Sigma3: as for Sigma2, and the completion of the context filed back
    split
    · exact h
    · rename_i ctx s hcs
      obtain ⟨hctx, hs⟩ := caseHandshake_eq_some hcs
      have hno := h.handshakes _ _ hctx
      split
      · exact h.track (NoCasePeer.with_case hno hs _) exchangeID
      · rename_i s' _
        have htracked := h.track (NoCasePeer.with_case hno hs s') exchangeID
        dsimp only
        split
        · have hdone := htracked.completeHandshakeLocked P kdf ops exchangeID
            (NoCasePeer.with_case hno hs s') v
          split <;> rename_i heq <;> exact hdone.of_eq heq
        · exact htracked
  · exact h

/-- The context a PASE step leaves drives PASE, whatever peer ID it records. -/
theorem handlePaseStep_noCasePeer (ctx : HandshakeContext S) (s : S)
    (handler : S → List UInt8 → Except E (List UInt8) × S) (opcode : Opcode)
    (recordPeer : Bool) (payload : List UInt8) :
    (handlePaseStep ops ctx s handler opcode recordPeer payload).2.NoCasePeer := by
  unfold handlePaseStep
  split
  · exact noCasePeer_of_pase rfl
  · dsimp only
    split <;> exact noCasePeer_of_pase rfl

theorem handlePake3_noCasePeer (ctx : HandshakeContext S) (s : S) (payload : List UInt8) :
    (handlePake3 ops ctx s payload).2.NoCasePeer := by
  unfold handlePake3
  split
  · exact noCasePeer_of_pase rfl
  · split <;> exact noCasePeer_of_pase rfl

theorem CasePeerZero.startPASE (h : CasePeerZero m) (exchangeID : UInt16) (passcode : UInt32) :
    CasePeerZero (m.startPASE ops exchangeID passcode).2 := by
  unfold Manager.startPASE
  split
  · exact h
  · split
    · rename_i heq
      exact h.allocate heq
    · rename_i heq
      dsimp only
      split
      · exact h.allocate heq
      · split
        · exact h.allocate heq
        · exact (h.allocate heq).track (noCasePeer_of_pase rfl) exchangeID

theorem CasePeerZero.handlePBKDFParamRequest (h : CasePeerZero m) (exchangeID : UInt16)
    (payload : List UInt8) : CasePeerZero (m.handlePBKDFParamRequest ops exchangeID payload).2 := by
  unfold Manager.handlePBKDFParamRequest
  split
  · exact h
  · split
    · rename_i heq
      exact h.allocate heq
    · rename_i heq
      dsimp only
      split
      · exact h.allocate heq
      · split
        · exact h.allocate heq
        · exact (h.allocate heq).track (noCasePeer_of_pase rfl) exchangeID

theorem CasePeerZero.handlePaseStepLocked (h : CasePeerZero m) (exchangeID : UInt16)
    {handler : HandshakeContext S → S → List UInt8 →
      Except (ManagerError E) (Option Message) × HandshakeContext S}
    (hhandler : ∀ ctx s payload, (handler ctx s payload).2.NoCasePeer) (payload : List UInt8) :
    CasePeerZero (m.handlePaseStepLocked exchangeID handler payload).2 := by
  unfold Manager.handlePaseStepLocked
  split
  · exact h
  · rename_i ctx s _
    have hno := hhandler ctx s payload
    split <;> rename_i heq <;> rw [heq] at hno <;> exact h.track hno exchangeID

theorem CasePeerZero.handlePASELocked (h : CasePeerZero m) (exchangeID : UInt16) (opcode : Opcode)
    (payload : List UInt8) (v : UInt32) :
    CasePeerZero (m.handlePASELocked P kdf ops exchangeID opcode payload v).2 := by
  unfold Manager.handlePASELocked
  split_ifs
  · split
    · exact h
    · have hnew := h.handlePBKDFParamRequest ops exchangeID payload
      split <;> rename_i heq <;> exact hnew.of_eq heq
  · exact h.handlePaseStepLocked exchangeID
      (fun ctx s payload => handlePaseStep_noCasePeer ops ctx s _ _ _ payload) payload
  · exact h.handlePaseStepLocked exchangeID
      (fun ctx s payload => handlePaseStep_noCasePeer ops ctx s _ _ _ payload) payload
  · exact h.handlePaseStepLocked exchangeID
      (fun ctx s payload => handlePaseStep_noCasePeer ops ctx s _ _ _ payload) payload
  · -- Pake3: the context filed back, and its completion
    split
    · exact h
    · rename_i ctx s _
      have hno := handlePake3_noCasePeer ops ctx s payload
      split
      · rename_i heq
        rw [heq] at hno
        exact h.track hno exchangeID
      · rename_i ctx' heq
        rw [heq] at hno
        have htracked := h.track hno exchangeID
        dsimp only
        split
        · have hdone := htracked.completeHandshakeLocked P kdf ops exchangeID hno v
          split <;> rename_i heq <;> exact hdone.of_eq heq
        · exact htracked
  · exact h

theorem CasePeerZero.setPASEResponder (h : CasePeerZero m) (verifier : Option V)
    (salt : List UInt8) (iterations : UInt32) :
    CasePeerZero (m.setPASEResponder (E := E) verifier salt iterations).2 := by
  unfold Manager.setPASEResponder
  split
  · exact h
  · split_ifs
    · exact h
    · exact h
    · exact h.withPaseResponder _

theorem CasePeerZero.route (h : CasePeerZero m) (exchangeID : UInt16) (msg : Option Message)
    (draw : Case.Draw) (v : UInt32) :
    CasePeerZero (m.route P C kdf ops exchangeID msg draw v).2 := by
  unfold Manager.route
  split
  · exact h
  · split_ifs
    · exact h
    · exact h.handlePASELocked P kdf ops exchangeID _ _ v
    · exact h.handleCASELocked P C kdf ops exchangeID _ _ draw v
    · exact h.handleStatusReport P kdf ops exchangeID _ v
    · exact h
    · exact h

/-- **Every call keeps the CASE bookkeeping.** -/
theorem casePeerZero_step (h : CasePeerZero m) (call : Call V) :
    CasePeerZero (m.step P C kdf ops call).2 := by
  cases call with
  | startPASE exchangeID passcode => exact h.startPASE ops exchangeID passcode
  | startCASE exchangeID fi k target ri draw => exact h.startCASE P C exchangeID fi k target ri draw
  | setPASEResponder verifier salt iterations => exact h.setPASEResponder verifier salt iterations
  | clearPASEResponder => exact h.withPaseResponder none
  | route exchangeID msg draw v =>
    have hroute := h.route P C kdf ops exchangeID msg draw v
    simp only [Manager.step]
    split <;> rename_i heq <;> exact hroute.of_eq heq
  | cleanupExpiredHandshakes expired => exact h.cleanupExpiredHandshakes expired

end Invariant

/-! ## Every run -/

section Run

variable (P : Case.Primitives) (C : Case.MessageCodec) (kdf : Crypto.HKDF)
  (ops : PaseSessionOps S V E)

theorem casePeerZero_newManager (config : ManagerConfig) (maxSessions : Int) :
    CasePeerZero (newManager (S := S) (V := V) config (Table.newTable maxSessions)) where
  handshakes _ _ hc := by simp [newManager] at hc
  sessions _ hsc := by simp [newManager, Table.newTable] at hsc

/-- A node that runs CASE only: no PASE session can be built. -/
def noPase : PaseSessionOps Empty Empty Unit where
  newInitiator _ := .error ()
  newResponder v := v.elim
  start s := s.elim
  handlePBKDFParamRequest s := s.elim
  handlePBKDFParamResponse s := s.elim
  handlePake1 s := s.elim
  handlePake2 s := s.elim
  handlePake3 s := s.elim
  handleStatusReport s := s.elim
  state s := s.elim
  role s := s.elim
  sessionKeys s := s.elim
  peerSessionID s := s.elim

/-- A new manager with no fabric table and no validator allocates session ID 1 first. -/
theorem allocateID_newTable :
    (newManager ⟨none, none, 1⟩ (Table.newTable 16) :
      Manager Empty Empty).sessions.allocateID.1 = .ok 1 := by
  show (Table.newTable 16).allocateID.1 = .ok 1
  rw [Table.allocateID, if_neg (by decide), Table.allocateLoop]
  simp [Table.findByLocalID, Table.newTable, Session.minSessionID]

/-- **No CASE session a manager installs records its peer.** A manager over an empty table, after
any sequence of calls, holds CASE contexts only with peer session ID 0: the CASE paths never
copy the peer's session ID into the handshake context that `completeCASESession` reads. -/
theorem case_sessions_without_peer (config : ManagerConfig) (maxSessions : Int)
    (calls : List (Call V)) :
    ∀ sc ∈ (Mealy.final (step P C kdf ops) (newManager config (Table.newTable maxSessions))
      calls).sessions.sessions, sc.sessionType = .case → sc.peerSessionID = 0 := by
  have hrun := Mealy.final_inv CasePeerZero
    (fun m call h => casePeerZero_step P C kdf ops h call) calls _
    (casePeerZero_newManager config maxSessions)
  exact hrun.sessions

open Case in
/-- The sample run installs a CASE context, so the theorem above is about a context that exists. -/
theorem case_sessions_without_peer_sample :
    ∃ msg2 sc, sc ∈ (Mealy.final (step samplePrimitives tlvCodec samplePrimitives.hkdf noPase)
        (newManager ⟨none, none, 1⟩ (Table.newTable 16))
        [.startCASE 7 sampleFabric [] 1 none sampleDraw,
          .route 7 (some ⟨opcodeCASESigma2, msg2⟩) sampleDraw 0,
          .route 7 (some ⟨opcodeStatusReport, success.encode⟩) sampleDraw 0]).sessions.sessions ∧
      sc.sessionType = .case ∧ sc.peerSessionID = 0 := by
  obtain ⟨_, m1, msg2, _, _, m2, _, m3, sc, h1, -, h3, -, h5, hsessions, -, htype, -⟩ :=
    @manager_case_handshake Empty Empty Unit samplePrimitives tlvCodec samplePrimitives.hkdf noPase
      samplePrimitives_sized tlvCodec_roundTrip samplePrimitives_honest _ 7 1 2 sampleFabric
      sampleFabric [] [] 1 none sampleDraw sampleDraw (fun _ _ => some (sampleFabric, some []))
      none none rfl rfl sampleDraw_sized sampleDraw_sized rfl (by simp [newManager]) (by simp)
      sampleFabric_sized sampleFabric_sized sampleTBEData2_short sampleTBEData3_short rfl
      allocateID_newTable sampleDraw 0
  -- the three calls leave the manager of the handshake theorem
  have hfinal : Mealy.final (step samplePrimitives tlvCodec samplePrimitives.hkdf noPase)
      (newManager ⟨none, none, 1⟩ (Table.newTable 16))
      [.startCASE 7 sampleFabric [] 1 none sampleDraw,
        .route 7 (some ⟨opcodeCASESigma2, msg2⟩) sampleDraw 0,
        .route 7 (some ⟨opcodeStatusReport, success.encode⟩) sampleDraw 0] = m3 := by
    simp only [Mealy.final_cons, Mealy.final_nil, step, h1, h3, h5]
  have hmem : sc ∈ m3.sessions.sessions := by simp [hsessions]
  refine ⟨msg2, sc, ?mem, htype, case_sessions_without_peer samplePrimitives tlvCodec
    samplePrimitives.hkdf noPase _ 16 _ sc ?mem htype⟩
  rw [hfinal]
  exact hmem

open Case in
/-- A manager over an empty table starts CASE on exchange 7, with the sample primitives and the
TLV codec, against a `casesession` responder that allocated session 2, and routes its Sigma2 and
success report: the context it installs has peer session ID 0, not 2. -/
theorem case_session_installed_with_peer_zero :
    ∃ msg1 m1 msg2 r1 msg3 m2 r m3 sc,
      (newManager ⟨none, none, 1⟩ (Table.newTable 16) : Manager Empty Empty).startCASE
        (E := Unit) samplePrimitives tlvCodec 7 sampleFabric [] 1 none sampleDraw =
          (.ok msg1, m1) ∧
      (((newResponder (fun _ _ => some (sampleFabric, some [])) none).withMRPParams
        none).withCertValidator none).handleSigma1 samplePrimitives tlvCodec msg1 2 sampleDraw =
          (.ok (msg2, false), r1) ∧
      m1.route samplePrimitives tlvCodec samplePrimitives.hkdf noPase 7
        (some ⟨opcodeCASESigma2, msg2⟩) sampleDraw 0 =
          (.ok (some ⟨opcodeCASESigma3, msg3⟩, none), m2) ∧
      r1.handleSigma3 samplePrimitives tlvCodec msg3 = (.ok (), r) ∧
      m2.route samplePrimitives tlvCodec samplePrimitives.hkdf noPase 7
        (some ⟨opcodeStatusReport, success.encode⟩) sampleDraw 0 = (.ok (none, some sc), m3) ∧
      m3.sessions.sessions = [sc] ∧ sc.sessionType = .case ∧ r.localSessionID = 2 ∧
      sc.peerSessionID = 0 := by
  obtain ⟨msg1, m1, msg2, r1, msg3, m2, r, m3, sc, h1, h2, h3, h4, h5, hsessions, -, htype, -, -,
      -, hsidR, hpeer⟩ :=
    @manager_case_handshake Empty Empty Unit samplePrimitives tlvCodec samplePrimitives.hkdf noPase
      samplePrimitives_sized tlvCodec_roundTrip samplePrimitives_honest _ 7 1 2 sampleFabric
      sampleFabric [] [] 1 none sampleDraw sampleDraw (fun _ _ => some (sampleFabric, some []))
      none none rfl rfl sampleDraw_sized sampleDraw_sized rfl (by simp [newManager]) (by simp)
      sampleFabric_sized sampleFabric_sized sampleTBEData2_short sampleTBEData3_short rfl
      allocateID_newTable sampleDraw 0
  exact ⟨msg1, m1, msg2, r1, msg3, m2, r, m3, sc, h1, h2, h3, h4, h5, hsessions, htype, hsidR,
    hpeer⟩

end Run

end Manager

end Matter.SecureChannel
