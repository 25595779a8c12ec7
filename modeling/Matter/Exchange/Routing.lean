import Matter.Exchange.Manager
import Matter.Message.RoundTrip

/-!
# How the exchange manager routes a received message

`processFrame` finds the exchange of a message by the key `exchangeKey` builds from the
message: the session ID in its header, its exchange ID, and the role opposite to the sender's
(`manager.go:321-323`). The session ID is the whole of what the key says about the session.
Every unsecured message carries session ID 0, so all unsecured exchanges in which this node is
the responder share the keys `⟨0, x, responder⟩`, whichever initiator they belong to; the
unsecured context that `OnMessageReceived` found for the message by its source node ID is
passed along as the session the message arrived on, and not compared with the exchange's.

The MRP bookkeeping on the way (`scheduleAck` and the standalone ACK it may send) changes an
exchange's pending slots only: its key, session, address and delegate stay
(`ExchangesKept`), and so do the protocol handlers.

Results:
* `dispatch_mem_routeFrame`: a message whose key names an exchange is handed to that
  exchange's handler, with the exchange as it was, on whatever session the message came.
* `unsecured_message_crosses_sessions`: the first message of a new unsecured initiator whose
  exchange ID is that of another initiator's exchange is delivered to that exchange.
* `second_commissioner_joins_first_exchange`: a run with two commissioners.
-/

namespace Matter.Exchange

open Matter.Message

variable (E : Crypto.BlockCipher)

namespace Manager

/-! ## The handlers stay -/

@[simp] theorem handlers_modifyExchange (m : Manager) (key : ExchangeKey)
    (f : ExchangeContext → ExchangeContext) : (m.modifyExchange key f).handlers = m.handlers := by
  unfold modifyExchange
  split <;> rfl

@[simp] theorem handlers_trackAndSend (m : Manager) (ctx : ExchangeContext) (proto : ProtocolHeader)
    (c : UInt32) (encoded : List UInt8) :
    (m.trackAndSend ctx proto c encoded).2.1.handlers = m.handlers := by
  unfold trackAndSend
  split
  · split <;> simp
  · rfl

@[simp] theorem handlers_sendUnsecuredMessage (m : Manager) (ctx : ExchangeContext) (n : UInt64)
    (proto : ProtocolHeader) (payload : List UInt8) :
    (m.sendUnsecuredMessage ctx n proto payload).2.1.handlers = m.handlers := by
  unfold sendUnsecuredMessage
  split <;> simp

@[simp] theorem handlers_sendMessageInternal (m : Manager) (ctx : ExchangeContext)
    (proto : ProtocolHeader) (payload : List UInt8) :
    (m.sendMessageInternal E ctx proto payload).2.1.handlers = m.handlers := by
  unfold sendMessageInternal
  split
  · simp
  · split
    · rfl
    · dsimp only
      split <;> simp

@[simp] theorem handlers_sendStandaloneAck (m : Manager) (ctx : ExchangeContext) (c : UInt32) :
    (m.sendStandaloneAck E ctx c).1.handlers = m.handlers := by
  simp [sendStandaloneAck]

@[simp] theorem handlers_scheduleAck (m : Manager) (ctx : ExchangeContext) (c : UInt32) :
    (m.scheduleAck E ctx c).1.handlers = m.handlers := by
  unfold scheduleAck
  dsimp only
  split <;> simp

/-! ## The exchanges keep what routing reads of them -/

/-- Every exchange of `m` is in `m'` under the same key, with the same key fields, session,
address and delegate. -/
def ExchangesKept (m m' : Manager) : Prop :=
  ∀ k c, m.exchanges k = some c →
    ∃ c', m'.exchanges k = some c' ∧ c'.info = c.info ∧ c'.delegate = c.delegate

theorem ExchangesKept.refl (m : Manager) : ExchangesKept m m := fun _ c h => ⟨c, h, rfl, rfl⟩

theorem ExchangesKept.trans {m₁ m₂ m₃ : Manager} (h₁ : ExchangesKept m₁ m₂)
    (h₂ : ExchangesKept m₂ m₃) : ExchangesKept m₁ m₃ := by
  intro k c hc
  obtain ⟨c₂, hc₂, hi₂, hd₂⟩ := h₁ k c hc
  obtain ⟨c₃, hc₃, hi₃, hd₃⟩ := h₂ k c₂ hc₂
  exact ⟨c₃, hc₃, hi₃.trans hi₂, hd₃.trans hd₂⟩

theorem ExchangesKept.of_exchanges_eq {m m' : Manager} (h : m'.exchanges = m.exchanges) :
    ExchangesKept m m' := fun _ c hc => ⟨c, h ▸ hc, rfl, rfl⟩

/-- A change in place that keeps what routing reads. -/
theorem exchangesKept_modifyExchange (m : Manager) (key : ExchangeKey)
    {f : ExchangeContext → ExchangeContext} (hf : ∀ c, (f c).info = c.info ∧ (f c).delegate = c.delegate) :
    ExchangesKept m (m.modifyExchange key f) := by
  intro k c hc
  unfold modifyExchange
  split
  · exact ⟨c, hc, rfl, rfl⟩
  · rename_i c₀ h₀
    by_cases hk : k = key
    · subst hk
      rw [h₀] at hc
      cases hc
      exact ⟨f c, GoMap.insert_self _ _ _, hf c⟩
    · refine ⟨c, ?_, rfl, rfl⟩
      dsimp only
      rw [GoMap.insert_of_ne _ _ hk]
      exact hc

theorem exchangesKept_trackAndSend (m : Manager) (ctx : ExchangeContext) (proto : ProtocolHeader)
    (c : UInt32) (encoded : List UInt8) : ExchangesKept m (m.trackAndSend ctx proto c encoded).2.1 := by
  unfold trackAndSend
  split
  · split
    · exact .refl _
    · -- the new entry only touches the retransmission table
      refine .trans ?_ (exchangesKept_modifyExchange _ _ fun _ => ⟨rfl, rfl⟩)
      exact .of_exchanges_eq rfl
  · exact .refl _

theorem exchangesKept_sendUnsecuredMessage (m : Manager) (ctx : ExchangeContext) (n : UInt64)
    (proto : ProtocolHeader) (payload : List UInt8) :
    ExchangesKept m (m.sendUnsecuredMessage ctx n proto payload).2.1 := by
  unfold sendUnsecuredMessage
  split
  · exact .refl _
  · dsimp only
    refine .trans ?_ (exchangesKept_trackAndSend _ _ _ _ _)
    exact .of_exchanges_eq rfl

theorem exchangesKept_sendMessageInternal (m : Manager) (ctx : ExchangeContext)
    (proto : ProtocolHeader) (payload : List UInt8) :
    ExchangesKept m (m.sendMessageInternal E ctx proto payload).2.1 := by
  unfold sendMessageInternal
  split
  · exact exchangesKept_sendUnsecuredMessage _ _ _ _ _
  · split
    · exact .refl _
    · dsimp only
      split
      · exact .of_exchanges_eq rfl
      · refine .trans ?_ (exchangesKept_trackAndSend _ _ _ _ _)
        exact .of_exchanges_eq rfl

theorem exchangesKept_sendStandaloneAck (m : Manager) (ctx : ExchangeContext) (c : UInt32) :
    ExchangesKept m (m.sendStandaloneAck E ctx c).1 := by
  unfold sendStandaloneAck
  dsimp only
  refine .trans ?_ (exchangesKept_sendMessageInternal E _ _ _ _)
  refine .trans ?_ (exchangesKept_modifyExchange _ _ fun _ => ⟨rfl, rfl⟩)
  exact .of_exchanges_eq rfl

theorem exchangesKept_scheduleAck (m : Manager) (ctx : ExchangeContext) (c : UInt32) :
    ExchangesKept m (m.scheduleAck E ctx c).1 := by
  unfold scheduleAck
  dsimp only
  -- the pending slot is set in place; the new ACK entry only touches the ACK table
  have hset := exchangesKept_modifyExchange m ctx.getKey
    (f := (·.setPendingAck c)) fun _ => ⟨rfl, rfl⟩
  split
  · exact hset.trans (.of_exchanges_eq rfl)
  · refine .trans ?_ (exchangesKept_sendStandaloneAck E _ _ _)
    exact hset.trans (.of_exchanges_eq rfl)

/-- What `current` gives for an exchange whose key still holds it, after calls that keep the
exchanges. -/
theorem current_of_kept {m m' : Manager} {ctx : ExchangeContext}
    (hex : m.exchanges ctx.getKey = some ctx) (h : ExchangesKept m m') :
    (m'.current ctx).info = ctx.info ∧ (m'.current ctx).delegate = ctx.delegate := by
  obtain ⟨c', hc', hi, hd⟩ := h _ ctx hex
  simp only [current, hc', Option.getD_some]
  exact ⟨hi, hd⟩

/-! ## Delivery -/

/-- An exchange without a delegate hands the message to the protocol's handler. -/
theorem dispatch_mem_deliver (m : Manager) {ctx : ExchangeContext} (sess : SessionRef)
    {proto : ProtocolHeader} (payload : List UInt8) {h : ProtocolHandler}
    (hd : ctx.delegate = none) (hh : m.handlers proto.protocolID = some h) :
    Effect.dispatch ctx.info sess proto payload ∈ (m.deliver ctx sess proto payload).2 := by
  simp [deliver, hd, hh]

/-- **Routing by key.** A message that is not a standalone ACK, whose key names an exchange
without a delegate, is handed to the protocol's handler with that exchange, whatever session
`sess` it arrived on. -/
theorem dispatch_mem_routeFrame {m : Manager} {frame : Frame} (peerAddr : PeerAddress)
    (sess : SessionRef) {ctx : ExchangeContext} {h : ProtocolHandler}
    (hsa : ¬(frame.protocol.protocolID = protocolSecureChannel ∧
      frame.protocol.protocolOpcode = opcodeStandaloneAck))
    (hex : m.exchanges ctx.getKey = some ctx)
    (hkey : ctx.getKey = ⟨frame.header.sessionID, frame.protocol.exchangeID,
      if frame.protocol.initiator then .responder else .initiator⟩)
    (hd : ctx.delegate = none) (hh : m.handlers frame.protocol.protocolID = some h) :
    Effect.dispatch ctx.info sess frame.protocol frame.payload ∈
      (m.routeFrame E frame peerAddr sess).2.2 := by
  -- the ACK scheduled for an R flag keeps the exchange and the handlers
  have hsched : ExchangesKept m
      (if frame.protocol.reliability then m.scheduleAck E ctx frame.header.messageCounter
        else (m, [])).1 ∧
      (if frame.protocol.reliability then m.scheduleAck E ctx frame.header.messageCounter
        else (m, [])).1.handlers = m.handlers := by
    split
    · exact ⟨exchangesKept_scheduleAck E _ _ _, handlers_scheduleAck E _ _ _⟩
    · exact ⟨.refl _, rfl⟩
  unfold routeFrame
  dsimp only
  rw [if_neg hsa, ← hkey, hex]
  dsimp only
  generalize (if frame.protocol.reliability then m.scheduleAck E ctx frame.header.messageCounter
    else (m, [])) = r at hsched ⊢
  obtain ⟨hinfo, hdel⟩ := current_of_kept hex hsched.1
  have hmem := dispatch_mem_deliver r.1 sess frame.payload (hdel.trans hd) (hsched.2 ▸ hh)
  rw [hinfo] at hmem
  -- the handler's answer, whatever it is, comes after the dispatch
  split <;> simp [hmem]

end Manager

/-! ## Unsecured initiators share exchange keys -/

/-- **An unsecured message is delivered across sessions.** Let the manager have an exchange
`ctx` as responder under the key `⟨0, x, responder⟩`, handled by a protocol handler. The first
message of an initiator that has no unsecured context yet, carrying exchange ID `x`, is not
given an exchange of its own: it is handed to `ctx`, while the session it arrived on is the
new initiator's. -/
theorem unsecured_message_crosses_sessions (m : Manager) (f : Frame) (peerAddr : PeerAddress)
    (nodeID : UInt64) {ctx : ExchangeContext} {h : ProtocolHandler}
    (hsid : f.header.sessionID = 0) (hsrc : f.header.sourcePresent = true)
    (hnz : f.header.sourceNodeID ≠ 0) (hnew : m.sessions.unsecured f.header.sourceNodeID = none)
    (hinit : f.protocol.initiator = true) (hack : f.protocol.acknowledgement = false)
    (hsa : ¬(f.protocol.protocolID = protocolSecureChannel ∧
      f.protocol.protocolOpcode = opcodeStandaloneAck))
    (hex : m.exchanges ⟨0, f.protocol.exchangeID, .responder⟩ = some ctx)
    (hkey : ctx.getKey = ⟨0, f.protocol.exchangeID, .responder⟩)
    (hd : ctx.delegate = none) (hh : m.handlers f.protocol.protocolID = some h) :
    Effect.dispatch ctx.info (.unsecured f.header.sourceNodeID) f.protocol.normalize f.payload ∈
      (m.onMessageReceived E ⟨f.encodeUnsecured, peerAddr⟩ nodeID).2.2 := by
  -- the bytes decode to the normalized frame, whose source is the new initiator
  -- stated on the received message, so that the rewrite below finds it without unfolding
  have hdec : MessageHeader.decode (ReceivedMessage.data ⟨f.encodeUnsecured, peerAddr⟩) =
      .ok (f.header.normalize, f.header.size) := by
    dsimp only
    rw [Frame.encodeUnsecured, List.append_assoc, MessageHeader.decode_encode_append]
  have hnorm : f.header.normalize.sourceNodeID = f.header.sourceNodeID := by
    simp [MessageHeader.normalize, hsrc]
  have hsid' : f.header.normalize.sessionID = 0 := hsid
  have hsrc' : f.header.normalize.sourcePresent = true := hsrc
  rw [Manager.onMessageReceived_of_new_initiator E hdec hsid' (decodeUnsecured_encodeUnsecured f)
    hsrc' (hnorm ▸ hnz) (hnorm ▸ hnew)]
  rw [hnorm]
  -- no A flag: `processFrame` is `routeFrame`
  unfold Manager.processFrame
  simp only [ProtocolHeader.normalize, hack, Bool.false_eq_true, if_false, List.nil_append]
  refine Manager.dispatch_mem_routeFrame E peerAddr _ hsa ?_ ?_ hd hh
  · rw [hkey]
    exact hex
  · simp [hkey, hinit, MessageHeader.normalize, hsid]

/-! ### Two commissioners

A commissionee with a handler for the secure channel protocol receives a `PBKDFParamRequest`
(opcode `0x20`, reliable, exchange 7) from two commissioners in turn, with ephemeral node IDs
1 and 2. No cipher is used on this path. -/

def handshakeHandler : ProtocolHandler := ⟨fun _ _ _ => .ok none, fun _ _ _ => .ok none⟩

def commissioneeManager : Manager :=
  (newManager ⟨GoMap.empty, GoMap.empty, ⟨0⟩⟩ 0).registerProtocol protocolSecureChannel
    handshakeHandler

def paramRequestHeader : ProtocolHeader :=
  { ProtocolHeader.zero with protocolOpcode := 0x20, exchangeID := 7, initiator := true,
                             reliability := true }

/-- The request of the initiator with ephemeral node ID `n`, with counter 100. -/
def paramRequest (n : UInt64) : Frame :=
  ⟨{ MessageHeader.zero with messageCounter := 100, sourceNodeID := n, sourcePresent := true },
    paramRequestHeader, [1, 2, 3]⟩

def firstCommissioner : PeerAddress := ⟨"10.0.0.1:5540", .udp⟩

def secondCommissioner : PeerAddress := ⟨"10.0.0.2:5540", .udp⟩

/-- After the first commissioner's request opened exchange 7, the second one's is handed to it. -/
theorem unsecured_message_crosses_sessions_pase :
    Effect.dispatch ⟨⟨0, 7, .responder⟩, .unsecured 1, firstCommissioner⟩ (.unsecured 2)
        paramRequestHeader [1, 2, 3] ∈
      ((commissioneeManager.onMessageReceived (fun _ _ => [])
          ⟨(paramRequest 1).encodeUnsecured, firstCommissioner⟩ 11).2.1.onMessageReceived
        (fun _ _ => []) ⟨(paramRequest 2).encodeUnsecured, secondCommissioner⟩ 12).2.2 :=
  @unsecured_message_crosses_sessions (fun _ _ => [])
    (commissioneeManager.onMessageReceived (fun _ _ => [])
      ⟨(paramRequest 1).encodeUnsecured, firstCommissioner⟩ 11).2.1
    (paramRequest 2) secondCommissioner 12
    ⟨7, .responder, .active, 0, 0, .unsecured 1, firstCommissioner, none, some 100, none⟩
    handshakeHandler (by decide) (by decide) (by decide) (by decide +kernel) (by decide) (by decide)
    (by decide) rfl rfl rfl rfl

/-- **A second commissioner takes over the first one's handshake.** The second request is
dispatched to the first commissioner's exchange, bound to its session and address, and the
acknowledgement it triggers, of the first request, goes to the first commissioner. -/
theorem second_commissioner_joins_first_exchange :
    ∃ ack, Mealy.outputs (step fun _ _ => []) commissioneeManager
        [.received ⟨(paramRequest 1).encodeUnsecured, firstCommissioner⟩ 11,
          .received ⟨(paramRequest 2).encodeUnsecured, secondCommissioner⟩ 12] =
      [(.ok (), [.dispatch ⟨⟨0, 7, .responder⟩, .unsecured 1, firstCommissioner⟩ (.unsecured 1)
          paramRequestHeader [1, 2, 3]]),
        (.ok (), [.send ack firstCommissioner,
          .dispatch ⟨⟨0, 7, .responder⟩, .unsecured 1, firstCommissioner⟩ (.unsecured 2)
            paramRequestHeader [1, 2, 3]])] :=
  ⟨[1, 0, 0, 0, 0, 0, 0, 0, 1, 0, 0, 0, 0, 0, 0, 0, 2, 16, 7, 0, 0, 0, 100, 0, 0, 0],
    by decide +kernel⟩

end Matter.Exchange
