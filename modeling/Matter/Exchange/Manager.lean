import Matter.Exchange.Context
import Matter.Session.Manager
import Matter.Lib.Mealy

/-!
# The exchange manager (`pkg/exchange/manager.go`)

The exchange manager routes every received message to its exchange and runs MRP, the
reliable-messaging protocol of Spec 4.12: it acknowledges reliable messages it receives and
retransmits its own until they are acknowledged. Its state is the exchanges by key, the
protocol handlers, the acknowledgement table, the retransmission table, the next exchange ID,
and the session manager it looks sessions up in.

Go's methods mutate contexts and sessions through pointers. Here every call returns its result,
the manager after it, and the list of what it did outside the manager (`Effect`): the bytes it
handed to the transport, the calls into the layer above, and the calls of
`onRetransmitComplete`. A context is changed in place by `modifyExchange`, which writes to the
map entry of its key and to nothing once the exchange has left the map. A function that holds
a context and changes it continues with the changed value, as the pointer would show it.

* `onMessageReceived` is `OnMessageReceived` (`manager.go:147-280`): unsecured messages by
  their initiator's ephemeral node ID with the counter check of `CheckCounter`, secure ones by
  session ID through `Decrypt`; then `processFrame`.
* `processFrame` (`manager.go:282-366`) handles the A flag (`handleReceivedAck`) and then the
  rest (`routeFrame`): a standalone ACK is consumed, a message for no exchange goes to
  `handleUnsolicited`, any other to its exchange after the R flag schedules an acknowledgement.
* The send path is `ExchangeContext.sendMessage` (`context.go:243-286`), `sendMessage`,
  `sendMessageInternal` and `sendUnsecuredMessage` (`manager.go:559-815`); `trackAndSend` is
  their common end, where a reliable message is filed for retransmission under its counter.
* `onAckTimeout` and `onRetransmitTimeout` are the two timers' callbacks (`ack.go:104-118`,
  `manager.go:649-691`); `step` runs one event of the manager's environment.

Left out: timer durations and backoff (they decide when a timeout happens, not what it does),
logging, the transport's own errors (a send succeeds), and the `nil` session and manager
checks (every context the manager creates has both). The protocol handlers and delegates are
the functions they compute; what they do to the manager through the context they are given is
left out.
-/

namespace Matter.Exchange

open Matter.Message
open Matter.Session (SecureContext UnsecuredContext)

/-- `securechannel.OpcodeStandaloneAck`. -/
def opcodeStandaloneAck : UInt8 := 0x10

/-- `transport.ReceivedMessage`. -/
structure ReceivedMessage where
  data : List UInt8
  peerAddr : PeerAddress
  deriving DecidableEq, Repr

/-- The errors the receive and send paths return: the exchange layer's own, the session
layer's, and whatever a handler or delegate returned. -/
inductive ManagerError
  | exchange (e : ExchangeError)
  | session (e : Session.SessionError)
  | handler (e : String)
  deriving DecidableEq, Repr

/-- What a call does outside the manager. -/
inductive Effect
  /-- `TransportManager.Send(data, peerAddr)`. -/
  | send (data : List UInt8) (peerAddress : PeerAddress)
  /-- A delegate's or handler's `OnMessage` or `OnUnsolicited`, called with the exchange
  `exchange` for a message that arrived on the session `arrivedOn`. -/
  | dispatch (exchange : ExchangeInfo) (arrivedOn : SessionRef) (protocol : ProtocolHeader)
      (payload : List UInt8)
  /-- `onRetransmitComplete` on the exchange under `key`. -/
  | retransmitComplete (key : ExchangeKey)
  /-- The delegate's `OnClose` on the exchange under `key`. -/
  | closed (key : ExchangeKey)
  deriving DecidableEq, Repr

/-- `exchange.Manager`. -/
structure Manager where
  exchanges : GoMap ExchangeKey ExchangeContext
  handlers : GoMap UInt16 ProtocolHandler
  ackTable : AckTable ExchangeContext
  retransmitTable : RetransmitTable
  nextExchangeID : UInt16
  sessions : Session.Manager

/-- `NewManager(config)`, with the random first exchange ID `nextExchangeID`. -/
def newManager (sessions : Session.Manager) (nextExchangeID : UInt16) : Manager :=
  ⟨GoMap.empty, GoMap.empty, AckTable.empty, RetransmitTable.empty, nextExchangeID, sessions⟩

namespace Manager

/-- The exchange under `key`, changed in place. -/
def modifyExchange (m : Manager) (key : ExchangeKey) (f : ExchangeContext → ExchangeContext) :
    Manager :=
  match m.exchanges key with
  | none => m
  | some c => { m with exchanges := m.exchanges.insert key (f c) }

/-- The context `ctx` as its pointer sees it now. -/
def current (m : Manager) (ctx : ExchangeContext) : ExchangeContext :=
  (m.exchanges ctx.getKey).getD ctx

/-- `RegisterProtocol(protocolID, handler)`. -/
def registerProtocol (m : Manager) (protocolID : UInt16) (handler : ProtocolHandler) : Manager :=
  { m with handlers := m.handlers.insert protocolID handler }

/-- `NewExchange(sess, localSessionID, peerAddress, protocolID, delegate)`: the next exchange
ID, taken even when the key is in use. -/
def newExchange (m : Manager) (sess : SessionRef) (localSessionID : UInt16)
    (peerAddress : PeerAddress) (protocolID : UInt16) (delegate : Option ExchangeDelegate) :
    Except ManagerError ExchangeKey × Manager :=
  let exchangeID := m.nextExchangeID
  let m := { m with nextExchangeID := m.nextExchangeID + 1 }
  let key : ExchangeKey := ⟨localSessionID, exchangeID, .initiator⟩
  if (m.exchanges key).isSome then (.error (.exchange .exchangeExists), m)
  else
    let ctx := newExchangeContext
      { id := exchangeID, role := .initiator, protocolID, localSessionID, session := sess,
        peerAddress, delegate }
    (.ok key, { m with exchanges := m.exchanges.insert key ctx })

/-- `removeExchange(ctx)`: out of the map and out of both MRP tables, then the delegate's
`OnClose`. -/
def removeExchange (m : Manager) (ctx : ExchangeContext) : Manager × List Effect :=
  let key := ctx.getKey
  ({ m with exchanges := m.exchanges.delete key, ackTable := m.ackTable.remove key,
            retransmitTable := m.retransmitTable.remove key },
   if ctx.delegate.isSome then [.closed key] else [])

/-- `ExchangeContext.onRetransmitComplete()`: the pending slot clears, and a closing exchange
closes and is removed. -/
def onRetransmitComplete (m : Manager) (ctx : ExchangeContext) : Manager × List Effect :=
  let m := m.modifyExchange ctx.getKey ExchangeContext.clearPendingRetransmit
  let ctx := ctx.clearPendingRetransmit
  if ctx.state = .closing then
    let m := m.modifyExchange ctx.getKey fun c => { c with state := .closed }
    let (m, effects) := m.removeExchange { ctx with state := .closed }
    (m, .retransmitComplete ctx.getKey :: effects)
  else (m, [.retransmitComplete ctx.getKey])

/-- `handleReceivedAck(ackedCounter)`: the entry filed under the counter goes, and its
exchange, if it still exists, is told. -/
def handleReceivedAck (m : Manager) (ackedCounter : UInt32) : Manager × List Effect :=
  let (entry, retransmitTable) := m.retransmitTable.ack ackedCounter
  let m := { m with retransmitTable }
  match entry with
  | none => (m, [])
  | some entry =>
    match m.exchanges entry.exchangeKey with
    | none => (m, [])
    | some ctx => m.onRetransmitComplete ctx

/-- The end of both send paths (`manager.go:628-646` and `793-809`): a reliable message is
filed for retransmission under its counter and the exchange's pending slot is set; then the
bytes go to the transport. -/
def trackAndSend (m : Manager) (ctx : ExchangeContext) (proto : ProtocolHeader) (counter : UInt32)
    (encoded : List UInt8) : Except ManagerError Unit × Manager × List Effect :=
  if proto.reliability then
    match m.retransmitTable.add ctx.getKey counter encoded ctx.peerAddress with
    | .error e => (.error (.exchange e), m, [])
    | .ok retransmitTable =>
      (.ok (), { m with retransmitTable }.modifyExchange ctx.getKey (·.setPendingRetransmit counter),
        [.send encoded ctx.peerAddress])
  else (.ok (), m, [.send encoded ctx.peerAddress])

/-- `sendUnsecuredMessage(ctx, sess, proto, payload)`: session ID 0, the next global counter,
and either the peer's ephemeral node ID as destination (we answer an initiator) or our own as
source. -/
def sendUnsecuredMessage (m : Manager) (ctx : ExchangeContext) (ephemeralNodeID : UInt64)
    (proto : ProtocolHeader) (payload : List UInt8) : Except ManagerError Unit × Manager × List Effect :=
  match m.sessions.findUnsecuredContext ephemeralNodeID with
  | none => (.error (.exchange .sessionNotFound), m, [])
  | some u =>
    let (counter, sessions) := m.sessions.nextGlobalCounter
    let header : MessageHeader :=
      if u.peerEphemeralNodeID ≠ 0 then
        { MessageHeader.zero with messageCounter := counter, destinationType := .nodeID,
                                  destinationNodeID := u.peerEphemeralNodeID }
      else
        { MessageHeader.zero with messageCounter := counter, sourceNodeID := u.ephemeralNodeID,
                                  sourcePresent := true }
    { m with sessions }.trackAndSend ctx proto counter (Frame.encodeUnsecured ⟨header, proto, payload⟩)

section Crypto

variable (E : Crypto.BlockCipher)

/-- `sendMessageInternal(ctx, proto, payload)`. On a secure session `Encrypt` writes the
counter it takes, the value of the session counter, into the header that is then filed for
retransmission. -/
def sendMessageInternal (m : Manager) (ctx : ExchangeContext) (proto : ProtocolHeader)
    (payload : List UInt8) : Except ManagerError Unit × Manager × List Effect :=
  match ctx.session with
  | .unsecured n => m.sendUnsecuredMessage ctx n proto payload
  | .secure sid =>
    match m.sessions.findSecureContext sid with
    | none => (.error (.exchange .sessionNotFound), m, [])
    | some s =>
      let counter := s.localCounter.value
      let (r, s') := s.encrypt E { MessageHeader.zero with sessionID := s.peerSessionID } proto
        payload false
      let m := { m with sessions := m.sessions.setSecure sid s' }
      match r with
      | .error e => (.error (.session e), m, [])
      | .ok encoded => m.trackAndSend ctx proto counter encoded

/-- `sendMessage(ctx, proto, payload)`: on a secure session a pending acknowledgement rides
along when the header carries none; a header that carries one clears the exchange's ACK
entry. -/
def sendMessage (m : Manager) (ctx : ExchangeContext) (proto : ProtocolHeader)
    (payload : List UInt8) : Except ManagerError Unit × Manager × List Effect :=
  let isSecure := match ctx.session with
    | .secure _ => true
    | .unsecured _ => false
  let (m, ctx, proto) :=
    match ctx.pendingAck with
    | some ackCounter =>
      if !proto.acknowledgement && isSecure then
        (m.modifyExchange ctx.getKey ExchangeContext.clearPendingAck, ctx.clearPendingAck,
          { proto with acknowledgement := true, ackedMessageCounter := ackCounter })
      else (m, ctx, proto)
    | none => (m, ctx, proto)
  let m := if proto.acknowledgement then { m with ackTable := (m.ackTable.markAcked ctx.getKey).2 }
    else m
  m.sendMessageInternal E ctx proto payload

/-- `sendStandaloneAck(ctx, ackedCounter)`: the ACK entry is marked sent, the context's
pending acknowledgement clears, and a standalone ACK goes out; its error is dropped. -/
def sendStandaloneAck (m : Manager) (ctx : ExchangeContext) (ackedCounter : UInt32) :
    Manager × List Effect :=
  let proto : ProtocolHeader :=
    { ProtocolHeader.zero with
      protocolID := protocolSecureChannel, protocolOpcode := opcodeStandaloneAck,
      exchangeID := ctx.id, initiator := ctx.role == .initiator, acknowledgement := true,
      reliability := false, ackedMessageCounter := ackedCounter }
  let m := { m with ackTable := m.ackTable.markStandaloneAckSent ctx.getKey }
  let m := m.modifyExchange ctx.getKey ExchangeContext.clearPendingAck
  let (_, m, effects) := m.sendMessageInternal E ctx.clearPendingAck proto []
  (m, effects)

/-- `scheduleAck(ctx, messageCounter)`: the counter becomes the exchange's pending
acknowledgement and its ACK entry, whose timeout callback captures `ctx`; an entry it displaces
whose standalone ACK was not sent is acknowledged at once. -/
def scheduleAck (m : Manager) (ctx : ExchangeContext) (messageCounter : UInt32) :
    Manager × List Effect :=
  let m := m.modifyExchange ctx.getKey (·.setPendingAck messageCounter)
  let ctx := ctx.setPendingAck messageCounter
  let (displaced, ackTable) := m.ackTable.add ctx.getKey messageCounter ctx
  let m := { m with ackTable }
  match displaced with
  | none => (m, [])
  | some entry => m.sendStandaloneAck E ctx entry.messageCounter

/-- `flushPendingAck(ctx)`. -/
def flushPendingAck (m : Manager) (ctx : ExchangeContext) : Manager × List Effect :=
  if m.ackTable.hasPendingAck ctx.getKey then
    m.sendStandaloneAck E ctx (m.ackTable.pendingCounter ctx.getKey).1
  else (m, [])

end Crypto

end Manager

/-- `ExchangeContext.SendMessage(opcode, payload, reliable)`: refused unless active and
with no reliable message pending; the header is the exchange's, reliable only over UDP, and
carries the pending acknowledgement. -/
def ExchangeContext.sendMessage (E : Crypto.BlockCipher) (c : ExchangeContext) (m : Manager)
    (opcode : UInt8) (payload : List UInt8) (reliable : Bool) :
    Except ManagerError Unit × Manager × List Effect :=
  if !c.state.canSend then
    (.error (.exchange (if c.state = .closed then .exchangeClosed else .exchangeClosing)), m, [])
  else if c.pendingRetransmit.isSome then (.error (.exchange .pendingRetransmit), m, [])
  else
    let proto : ProtocolHeader :=
      { ProtocolHeader.zero with
        protocolID := c.protocolID, protocolOpcode := opcode, exchangeID := c.id,
        initiator := c.role == .initiator,
        reliability := reliable && c.peerAddress.transportType == .udp }
    match c.pendingAck with
    | some ackCounter =>
      (m.modifyExchange c.getKey ExchangeContext.clearPendingAck).sendMessage E c.clearPendingAck
        { proto with acknowledgement := true, ackedMessageCounter := ackCounter } payload
    | none => m.sendMessage E c proto payload

/-- `ExchangeContext.Close()`: closing, with the pending acknowledgement flushed; without a
reliable message pending the exchange closes and is removed at once, otherwise when its
retransmission completes. -/
def ExchangeContext.close (E : Crypto.BlockCipher) (c : ExchangeContext) (m : Manager) :
    Manager × List Effect :=
  if c.state = .closed then (m, [])
  else
    let c := { c with state := .closing }
    let m := m.modifyExchange c.getKey fun x => { x with state := .closing }
    let (m, effects₁) := m.flushPendingAck E c
    if c.pendingRetransmit.isNone then
      let m := m.modifyExchange c.getKey fun x => { x with state := .closed }
      let (m, effects₂) := m.removeExchange { c with state := .closed }
      (m, effects₁ ++ effects₂)
    else (m, effects₁)

namespace Manager

section Crypto

variable (E : Crypto.BlockCipher)

/-- `sendStandaloneAckForUnsolicited(frame, peerAddr, sess)`: the ACK is built and dropped;
the send is a `TODO` in the source. -/
def sendStandaloneAckForUnsolicited (m : Manager) (_frame : Frame) (_peerAddr : PeerAddress)
    (_sess : SessionRef) : Manager × List Effect :=
  (m, [])

/-- `handleUnsolicited(frame, peerAddr, sess, key)`: only an initiator's message for a protocol
with a handler opens an exchange, as responder, on the message's session and address; the
handler's error removes it again. -/
def handleUnsolicited (m : Manager) (frame : Frame) (peerAddr : PeerAddress) (sess : SessionRef)
    (key : ExchangeKey) : Except ManagerError Unit × Manager × List Effect :=
  let proto := frame.protocol
  if !proto.initiator then
    let (m, effects) :=
      if proto.reliability then m.sendStandaloneAckForUnsolicited frame peerAddr sess else (m, [])
    (.error (.exchange .unsolicitedNotInitiator), m, effects)
  else
    match m.handlers proto.protocolID with
    | none =>
      let (m, effects) :=
        if proto.reliability then m.sendStandaloneAckForUnsolicited frame peerAddr sess else (m, [])
      (.error (.exchange .noHandler), m, effects)
    | some handler =>
      let ctx := newExchangeContext
        { id := proto.exchangeID, role := .responder, protocolID := proto.protocolID,
          localSessionID := frame.header.sessionID, session := sess, peerAddress := peerAddr,
          delegate := none }
      let m := { m with exchanges := m.exchanges.insert key ctx }
      let (m, effects₁) :=
        if proto.reliability then m.scheduleAck E ctx frame.header.messageCounter else (m, [])
      let ctx := m.current ctx
      let called := Effect.dispatch ctx.info sess proto frame.payload
      match handler.onUnsolicited ctx.info proto.protocolOpcode frame.payload with
      | .error e => (.error (.handler e), { m with exchanges := m.exchanges.delete key },
          effects₁ ++ [called])
      | .ok none => (.ok (), m, effects₁ ++ [called])
      | .ok (some response) =>
        let (r, m, effects₂) :=
          ctx.sendMessage E m proto.protocolOpcode response (peerAddr.transportType == .udp)
        (r, m, effects₁ ++ called :: effects₂)

/-- The dispatch of `processFrame` (`manager.go:338-352`): the exchange's delegate through
`handleMessage`, which refuses a closed exchange; else the handler of the message's protocol,
if one is registered. -/
def deliver (m : Manager) (ctx : ExchangeContext) (sess : SessionRef) (proto : ProtocolHeader)
    (payload : List UInt8) : Except ManagerError (Option (List UInt8)) × List Effect :=
  let called := Effect.dispatch ctx.info sess proto payload
  match ctx.delegate with
  | some d =>
    if !ctx.state.canReceive then (.error (.exchange .exchangeClosed), [])
    else ((d.onMessage ctx.info proto payload).mapError .handler, [called])
  | none =>
    match m.handlers proto.protocolID with
    | some h => ((h.onMessage ctx.info proto.protocolOpcode payload).mapError .handler, [called])
    | none => (.ok none, [])

/-- `processFrame` after the A flag (`manager.go:305-366`): a standalone ACK is consumed;
the key is the header's session ID, the exchange ID and the role opposite to the sender's; a
message for no exchange is unsolicited; otherwise the R flag schedules an acknowledgement, the
message is delivered, and the response goes back on the exchange, reliable over UDP. -/
def routeFrame (m : Manager) (frame : Frame) (peerAddr : PeerAddress) (sess : SessionRef) :
    Except ManagerError Unit × Manager × List Effect :=
  let proto := frame.protocol
  let ourRole : ExchangeRole := if proto.initiator then .responder else .initiator
  let key : ExchangeKey := ⟨frame.header.sessionID, proto.exchangeID, ourRole⟩
  if proto.protocolID = protocolSecureChannel ∧ proto.protocolOpcode = opcodeStandaloneAck then
    (.ok (), m, [])
  else
    match m.exchanges key with
    | none => m.handleUnsolicited E frame peerAddr sess key
    | some ctx =>
      let (m, effects₁) :=
        if proto.reliability then m.scheduleAck E ctx frame.header.messageCounter else (m, [])
      let ctx := m.current ctx
      let (reply, effects₂) := m.deliver ctx sess proto frame.payload
      match reply with
      | .error e => (.error e, m, effects₁ ++ effects₂)
      | .ok none => (.ok (), m, effects₁ ++ effects₂)
      | .ok (some response) =>
        let (r, m, effects₃) :=
          ctx.sendMessage E m proto.protocolOpcode response (peerAddr.transportType == .udp)
        (r, m, effects₁ ++ effects₂ ++ effects₃)

/-- `processFrame(frame, peerAddr, sess)`: an acknowledgement the frame carries is handled
first, whatever exchange the frame is for. -/
def processFrame (m : Manager) (frame : Frame) (peerAddr : PeerAddress) (sess : SessionRef) :
    Except ManagerError Unit × Manager × List Effect :=
  let (m, effects₁) :=
    if frame.protocol.acknowledgement then m.handleReceivedAck frame.protocol.ackedMessageCounter
    else (m, [])
  let (r, m, effects₂) := m.routeFrame E frame peerAddr sess
  (r, m, effects₁ ++ effects₂)

/-- The unsecured session of a message (`manager.go:209-246`): by its source node ID for an
initiator's message, created at the first one; by its destination node ID for a reply to us
as initiator; neither is an invalid message. -/
def unsecuredSession (m : Manager) (header : MessageHeader) (nodeID : UInt64) :
    Except ManagerError (UInt64 × UnsecuredContext × Session.Manager) :=
  if header.sourcePresent then
    match m.sessions.findOrCreateUnsecuredContext header.sourceNodeID nodeID with
    | .error e => .error (.session e)
    | .ok (u, sessions) => .ok (header.sourceNodeID, u, sessions)
  else if header.destinationType = .nodeID then
    match m.sessions.findUnsecuredContext header.destinationNodeID with
    | none => .error (.exchange .sessionNotFound)
    | some u => .ok (header.destinationNodeID, u, m.sessions)
  else .error (.exchange .invalidMessage)

/-- `OnMessageReceived(msg)`, with `nodeID` the node ID a new unsecured context would draw. -/
def onMessageReceived (m : Manager) (msg : ReceivedMessage) (nodeID : UInt64) :
    Except ManagerError Unit × Manager × List Effect :=
  match MessageHeader.decode msg.data with
  | .error _ => (.error (.exchange .invalidMessage), m, [])
  | .ok (header, _) =>
    if header.sessionID = 0 then
      match decodeUnsecured msg.data with
      | .error _ => (.error (.exchange .invalidMessage), m, [])
      | .ok frame =>
        let isStandaloneAck := frame.protocol.protocolID == protocolSecureChannel &&
          frame.protocol.protocolOpcode == opcodeStandaloneAck
        if isStandaloneAck && !header.sourcePresent then
          -- a standalone ACK without a source: only its acknowledgement is processed
          let (m, effects) :=
            if frame.protocol.acknowledgement then
              m.handleReceivedAck frame.protocol.ackedMessageCounter
            else (m, [])
          (.ok (), m, effects)
        else
          match m.unsecuredSession header nodeID with
          | .error e => (.error e, m, [])
          | .ok (n, u, sessions) =>
            let (ok, u) := u.checkCounter header.messageCounter
            let m := { m with sessions := sessions.setUnsecured n u }
            if !ok then (.error (.exchange .invalidMessage), m, [])
            else m.processFrame E frame msg.peerAddr (.unsecured n)
    else
      match m.sessions.findSecureContext header.sessionID with
      | none => (.error (.exchange .sessionNotFound), m, [])
      | some s =>
        let (r, s) := s.decrypt E msg.data
        let m := { m with sessions := m.sessions.setSecure header.sessionID s }
        match r with
        | .error e => (.error (.session e), m, [])
        | .ok frame => m.processFrame E frame msg.peerAddr (.secure header.sessionID)

/-- The standalone-ACK timer of the exchange `key` fires (`ack.go:104-118`). It runs from `Add`
until its entry is marked sent, replaced or removed; it marks the entry and calls back
`sendStandaloneAck` with the context and counter it captured. -/
def onAckTimeout (m : Manager) (key : ExchangeKey) : Manager × List Effect :=
  match m.ackTable.entries key with
  | none => (m, [])
  | some entry =>
    if entry.standaloneAckSent then (m, [])
    else
      let m := { m with ackTable := ⟨m.ackTable.entries.insert key
        { entry with standaloneAckSent := true }⟩ }
      m.sendStandaloneAck E entry.callback entry.messageCounter

/-- **The secure path of `OnMessageReceived`**: the session named by the header decrypts the
bytes and is written back; a failure is returned at once, a frame goes to `processFrame`. -/
theorem onMessageReceived_of_secure {m : Manager} {msg : ReceivedMessage} {header : MessageHeader}
    {n : Nat} {s : SecureContext} (hdec : MessageHeader.decode msg.data = .ok (header, n))
    (hsid : header.sessionID ≠ 0) (hs : m.sessions.secure header.sessionID = some s)
    (nodeID : UInt64) :
    m.onMessageReceived E msg nodeID =
      match (s.decrypt E msg.data).1 with
      | .error e => (.error (.session e),
          { m with sessions := m.sessions.setSecure header.sessionID (s.decrypt E msg.data).2 }, [])
      | .ok frame =>
        ({ m with sessions := m.sessions.setSecure header.sessionID (s.decrypt E msg.data).2 } :
          Manager).processFrame E frame msg.peerAddr (.secure header.sessionID) := by
  unfold onMessageReceived
  rw [hdec]
  simp only [hsid, if_false, Session.Manager.findSecureContext, hs]

/-- **The unsecured path of `OnMessageReceived`, for a new initiator**: a message with session
ID 0 from a source with no context creates the responder's context for it, whose empty window
accepts the counter, and the frame goes to `processFrame` on that session. -/
theorem onMessageReceived_of_new_initiator {m : Manager} {msg : ReceivedMessage}
    {header : MessageHeader} {n : Nat} {frame : Frame}
    (hdec : MessageHeader.decode msg.data = .ok (header, n)) (hsid : header.sessionID = 0)
    (hframe : decodeUnsecured msg.data = .ok frame) (hsrc : header.sourcePresent = true)
    (hnz : header.sourceNodeID ≠ 0) (hnew : m.sessions.unsecured header.sourceNodeID = none)
    (nodeID : UInt64) :
    m.onMessageReceived E msg nodeID =
      ({ m with
          sessions := m.sessions.setUnsecured header.sourceNodeID
            ⟨.responder, nodeID, header.sourceNodeID, .start header.messageCounter⟩ } :
        Manager).processFrame E frame msg.peerAddr (.unsecured header.sourceNodeID) := by
  have hfind : m.sessions.findOrCreateUnsecuredContext header.sourceNodeID nodeID =
      .ok (⟨.responder, nodeID, header.sourceNodeID, newReceptionStateEmpty⟩,
        m.sessions.setUnsecured header.sourceNodeID
          ⟨.responder, nodeID, header.sourceNodeID, newReceptionStateEmpty⟩) := by
    simp [Session.Manager.findOrCreateUnsecuredContext, hnz, hnew, Session.newUnsecuredContext,
      Session.SessionRole.isValid]
  unfold onMessageReceived
  rw [hdec]
  simp only [hsid, if_true, hframe, hsrc, Bool.not_true, Bool.and_false, Bool.false_eq_true,
    if_false, unsecuredSession, hfind, Session.UnsecuredContext.checkCounter,
    checkUnencrypted_empty, Bool.not_true, Session.Manager.setUnsecured_setUnsecured]

end Crypto

/-- `onRetransmitTimeout(entry)`: an entry of a gone exchange is dropped; otherwise one more
transmission is counted by the counter, and either the entry's bytes go out again or, past
`MRPMaxTransmissions`, the exchange is told. -/
def onRetransmitTimeout (m : Manager) (entry : RetransmitEntry) : Manager × List Effect :=
  match m.exchanges entry.exchangeKey with
  | none => ({ m with retransmitTable := m.retransmitTable.removeByCounter entry.messageCounter }, [])
  | some ctx =>
    let (scheduled, retransmitTable) := m.retransmitTable.scheduleRetransmit entry.messageCounter
    let m := { m with retransmitTable }
    if !scheduled then m.onRetransmitComplete ctx
    else (m, [.send entry.message entry.peerAddress])

end Manager

/-! ## The manager as a state machine -/

/-- The events the manager answers: calls from the layer above, received messages, and the
two timers. A timer event names what its callback captured. -/
inductive Event
  | registerProtocol (protocolID : UInt16) (handler : ProtocolHandler)
  | newExchange (session : SessionRef) (localSessionID : UInt16) (peerAddress : PeerAddress)
      (protocolID : UInt16) (delegate : Option ExchangeDelegate)
  | send (key : ExchangeKey) (opcode : UInt8) (payload : List UInt8) (reliable : Bool)
  | close (key : ExchangeKey)
  | received (msg : ReceivedMessage) (nodeID : UInt64)
  | ackTimeout (key : ExchangeKey)
  | retransmitTimeout (entry : RetransmitEntry)

/-- What an event returns, and what it did outside the manager. -/
abbrev Output := Except ManagerError Unit × List Effect

/-- One event. `send` and `close` act on the exchange under the key; a context no longer in
the map was closed, so `SendMessage` on it fails and `Close` does nothing. -/
def step (E : Crypto.BlockCipher) (m : Manager) : Event → Output × Manager
  | .registerProtocol protocolID handler => ((.ok (), []), m.registerProtocol protocolID handler)
  | .newExchange sess localSessionID peerAddress protocolID delegate =>
    let (r, m) := m.newExchange sess localSessionID peerAddress protocolID delegate
    ((r.map fun _ => (), []), m)
  | .send key opcode payload reliable =>
    match m.exchanges key with
    | none => ((.error (.exchange .exchangeClosed), []), m)
    | some ctx =>
      let (r, m, effects) := ctx.sendMessage E m opcode payload reliable
      ((r, effects), m)
  | .close key =>
    match m.exchanges key with
    | none => ((.ok (), []), m)
    | some ctx =>
      let (m, effects) := ctx.close E m
      ((.ok (), effects), m)
  | .received msg nodeID =>
    let (r, m, effects) := m.onMessageReceived E msg nodeID
    ((r, effects), m)
  | .ackTimeout key =>
    let (m, effects) := m.onAckTimeout E key
    ((.ok (), effects), m)
  | .retransmitTimeout entry =>
    let (m, effects) := m.onRetransmitTimeout entry
    ((.ok (), effects), m)

end Matter.Exchange
