import Matter.Exchange.Sessions

/-!
# Reliable messaging (MRP) over the exchange manager

MRP (Spec 4.12) makes a reliable message arrive once: the sender keeps it in its retransmission
table under its message counter and sends it again on each timeout until an acknowledgement of
that counter comes back; the receiver acknowledges every copy and hands only the first to the
layer above. Two places in the manager fall short of this.

* The receiver's duplicate detection is the replay window of the session, which `Decrypt`
  (and `CheckCounter` for unsecured sessions) consults before `processFrame` ever reads the R
  flag. A copy of a message already accepted is an error of `OnMessageReceived`: it is not
  delivered, and it is not acknowledged either (`retransmission_not_acknowledged`). When the
  first acknowledgement is lost, every retransmission is dropped the same way, and the sender's
  entry runs out of transmissions.
* The sender files its entries under the counter alone, and `handleReceivedAck` looks an
  acknowledgement up by its counter alone, whatever exchange and session it came on
  (`ack_completes_filed_exchange`). Counters are per session, so the entry found need not be
  one of the exchange the acknowledgement is for.

Results:
* `retransmission_not_acknowledged`: after any run of events, a second delivery of the bytes of
  a message a secure session accepted is refused as a replay and changes nothing.
* `lost_ack_not_repeated`: a run of one PASE responder whose standalone ACK is lost.
* `ack_completes_filed_exchange`: an acknowledgement completes the retransmission filed under
  its counter, on whatever exchange it arrives.
* `ack_completes_other_exchange`: a run of one node with two sessions whose counters meet.
* `transmissions_without_ack`: `ScheduleRetransmit` counts a transmission before it compares
  with `MRPMaxTransmissions`, so with no acknowledgement a reliable message goes out
  `MRPMaxTransmissions - 1` times: the first send and three resends. The fourth expiry removes
  the entry and completes the exchange's retransmission.
* `message_sent_four_times`: a run of one send and four expiries.
-/

namespace Matter.Exchange

open Matter.Message
open Matter.Session (SecureContext)

variable (E : Crypto.BlockCipher)

/-! ## Duplicates are dropped before they are acknowledged -/

/-- **A retransmission is dropped without an acknowledgement.** Once a secure session of the
manager has accepted a message, every later delivery of the same bytes, after any run of
events in between, is refused as a replay before its R flag is read: nothing is sent, nothing
is scheduled, and the manager is left as it was. -/
theorem retransmission_not_acknowledged (m : Manager) (msg : ReceivedMessage) (nodeID : UInt64)
    {header : MessageHeader} {n : Nat} {s : SecureContext} {frame : Frame}
    (hdec : MessageHeader.decode msg.data = .ok (header, n)) (hsid : header.sessionID ≠ 0)
    (hs : m.sessions.secure header.sessionID = some s)
    (hacc : (s.decrypt E msg.data).1 = .ok frame) (evs : List Event) (nodeID' : UInt64) :
    let m' := Mealy.final (step E) (m.onMessageReceived E msg nodeID).2.1 evs
    m'.onMessageReceived E msg nodeID' = (.error (.session .replayDetected), m', []) := by
  intro m'
  -- the first delivery: the session as `Decrypt` left it, with the counter seen
  obtain ⟨hdecode, hseen⟩ := SecureContext.decrypt_ok (E := E) (s := s)
    (Prod.ext hacc rfl : s.decrypt E msg.data = (.ok frame, (s.decrypt E msg.data).2))
  let m₁ : Manager :=
    { m with sessions := m.sessions.setSecure header.sessionID (s.decrypt E msg.data).2 }
  have h₁ : (m.onMessageReceived E msg nodeID).2.1 =
      (m₁.processFrame E frame msg.peerAddr (.secure header.sessionID)).2.1 := by
    rw [Manager.onMessageReceived_of_secure E hdec hsid hs, hacc]
  -- through `processFrame` and the run, the session stays and evolves
  have hpf := Manager.sessionsEvolve_processFrame E m₁ frame msg.peerAddr (.secure header.sessionID)
  rw [← h₁] at hpf
  obtain ⟨s', hs', hev⟩ :=
    (hpf.trans (sessionsEvolve_run E _ evs)) header.sessionID _ (GoMap.insert_self _ _ _)
  -- the second delivery decodes to the same frame, whose counter the session has seen
  have hdecode' : s'.decryptCodec.decode E msg.data
      (if s'.sessionType = .pase then 0 else s'.peerNodeID) = .ok frame := by
    have hk := SecureContext.decrypt_keeps (E := E) (s := s) msg.data
    rw [hev.decryptCodec, hev.sessionType, hev.peerNodeID, hk.1, hk.2.1, hk.2.2]
    exact hdecode
  have hrefused := SecureContext.decrypt_of_seen hdecode' (hev.seen _ hseen)
  rw [Manager.onMessageReceived_of_secure E hdec hsid hs', hrefused]
  simp only [Session.Manager.setSecure_of_eq hs']
  rfl

/-! ### A PASE session pair

The runs below use the two ends of one PASE session: the initiator's session 1 and the
responder's session 2, with message counters starting at 5 and 7. The block cipher maps every
block to zeros, which is enough to run the codec. -/

/-- A block cipher that maps every block to zeros. -/
def zeroCipher : Crypto.BlockCipher := fun _ _ => List.replicate 16 0

/-- The initiator-to-responder codec of the pair; the other direction is `replyCodec`. -/
def requestCodec : Codec := ⟨List.replicate 16 1, List.replicate 16 0, 0⟩

def replyCodec : Codec := ⟨List.replicate 16 2, List.replicate 16 0, 0⟩

def initiatorSession : SecureContext :=
  ⟨.pase, .initiator, 1, 2, List.replicate 16 1, List.replicate 16 2, [], requestCodec, replyCodec,
    newSessionCounterWithValue 5, newReceptionStateEmpty, 0, 0, 0, []⟩

def responderSession : SecureContext :=
  ⟨.pase, .responder, 2, 1, List.replicate 16 1, List.replicate 16 2, [], replyCodec, requestCodec,
    newSessionCounterWithValue 7, newReceptionStateEmpty, 0, 0, 0, []⟩

def initiatorAddress : PeerAddress := ⟨"10.0.0.1:5540", .udp⟩

/-- The responder's manager: session 2, and a handler for protocol 0 that takes every message
without answering. -/
def responderManager : Manager :=
  (newManager ⟨GoMap.empty.insert 2 responderSession, GoMap.empty, ⟨0⟩⟩ 0).registerProtocol 0
    ⟨fun _ _ _ => .ok none, fun _ _ _ => .ok none⟩

/-- The header of a reliable message that opens exchange 7. -/
def reliableHeader : ProtocolHeader :=
  { ProtocolHeader.zero with protocolOpcode := 0x20, exchangeID := 7, initiator := true,
                             reliability := true }

/-- The bytes of that message as the initiator's session encrypts them, with its counter 5. -/
def reliableMessage : ReceivedMessage :=
  ⟨(initiatorSession.encrypt zeroCipher MessageHeader.zero reliableHeader [1, 2, 3] false).1.toOption.getD [],
    initiatorAddress⟩

/-- The responder accepts the message once, and refuses it after its ACK timer has fired. -/
theorem retransmission_not_acknowledged_pase :
    (responderSession.decrypt zeroCipher reliableMessage.data).1 =
        .ok ⟨{ MessageHeader.zero with sessionID := 2, messageCounter := 5 }, reliableHeader,
          [1, 2, 3]⟩ ∧
      let m' := Mealy.final (step zeroCipher)
        (responderManager.onMessageReceived zeroCipher reliableMessage 0).2.1
        [.ackTimeout ⟨2, 7, .responder⟩]
      m'.onMessageReceived zeroCipher reliableMessage 0 =
        (.error (.session .replayDetected), m', []) :=
  ⟨by decide +kernel,
    @retransmission_not_acknowledged zeroCipher responderManager reliableMessage 0
      { MessageHeader.zero with sessionID := 2, messageCounter := 5 } 8 responderSession
      ⟨{ MessageHeader.zero with sessionID := 2, messageCounter := 5 }, reliableHeader, [1, 2, 3]⟩
      (by decide +kernel) (by decide) (by decide +kernel) (by decide +kernel) _ 0⟩

/-- **A lost acknowledgement is never repeated.** The responder delivers the message, its ACK
timer sends the standalone ACK, which is lost, and the initiator's retransmission of the same
bytes is answered with nothing. -/
theorem lost_ack_not_repeated :
    ∃ ack, Mealy.outputs (step zeroCipher) responderManager
        [.received reliableMessage 0, .ackTimeout ⟨2, 7, .responder⟩, .received reliableMessage 0] =
      [(.ok (), [.dispatch ⟨⟨2, 7, .responder⟩, .secure 2, initiatorAddress⟩ (.secure 2)
          reliableHeader [1, 2, 3]]),
        (.ok (), [.send ack initiatorAddress]),
        (.error (.session .replayDetected), [])] :=
  ⟨[0, 1, 0, 0, 7, 0, 0, 0, 2, 16, 7, 0, 0, 0, 5, 0, 0, 0, 0, 0, 0, 0, 0, 0, 0, 0, 0, 0, 0, 0, 0, 0, 0, 0],
    by decide +kernel⟩

/-! ## Acknowledgements are looked up by counter alone -/

namespace Manager

/-- `onRetransmitComplete` reports the exchange it completes. -/
theorem retransmitComplete_mem_onRetransmitComplete (m : Manager) (ctx : ExchangeContext) :
    Effect.retransmitComplete ctx.getKey ∈ (m.onRetransmitComplete ctx).2 := by
  unfold onRetransmitComplete
  dsimp only
  split <;> simp

/-- `handleReceivedAck` of a counter with an entry whose exchange still exists completes that
exchange, with the entry gone from the table. -/
theorem handleReceivedAck_of_filed {m : Manager} {c : UInt32} {e : RetransmitEntry}
    {ctx : ExchangeContext} (he : m.retransmitTable.entries c = some e)
    (hctx : m.exchanges e.exchangeKey = some ctx) :
    m.handleReceivedAck c =
      ({ m with retransmitTable := (m.retransmitTable.ack c).2 } : Manager).onRetransmitComplete
        ctx := by
  have hack : m.retransmitTable.ack c = (some e, (m.retransmitTable.ack c).2) := by
    simp only [RetransmitTable.ack, he]
  unfold handleReceivedAck
  rw [hack]
  simp only [hctx]

end Manager

/-- **An acknowledgement completes the exchange filed under its counter.** A frame with the
A flag, on whatever session and for whatever exchange, completes the retransmission that the
table holds under its acknowledged counter, with that entry's exchange. -/
theorem ack_completes_filed_exchange (m : Manager) (frame : Frame) (peerAddr : PeerAddress)
    (sess : SessionRef) {e : RetransmitEntry} {ctx : ExchangeContext}
    (hack : frame.protocol.acknowledgement = true)
    (he : m.retransmitTable.entries frame.protocol.ackedMessageCounter = some e)
    (hctx : m.exchanges e.exchangeKey = some ctx) (hkey : ctx.getKey = e.exchangeKey) :
    Effect.retransmitComplete e.exchangeKey ∈ (m.processFrame E frame peerAddr sess).2.2 := by
  unfold Manager.processFrame
  simp only [hack, if_true, Manager.handleReceivedAck_of_filed he hctx]
  exact List.mem_append_left _ (hkey ▸ Manager.retransmitComplete_mem_onRetransmitComplete _ ctx)

/-! ### Two sessions whose counters meet

The initiator of the pair also has session 3 with another peer, whose counter starts where
session 1's does. It opens an exchange on each session and sends one reliable message on each:
both carry counter 5. -/

def responderAddress : PeerAddress := ⟨"10.0.0.3:5540", .udp⟩

def otherAddress : PeerAddress := ⟨"10.0.0.2:5540", .udp⟩

/-- The initiator's manager: session 1 with the responder, session 3 with the other peer. -/
def twoSessionManager : Manager :=
  newManager ⟨(GoMap.empty.insert 1 initiatorSession).insert 3
    { initiatorSession with localSessionID := 3, peerSessionID := 4 }, GoMap.empty, ⟨0⟩⟩ 0

/-- Exchange 0 on session 1 and exchange 1 on session 3, each with one reliable message. -/
def collidingSends : List Event :=
  [.newExchange (.secure 1) 1 responderAddress 0 none, .newExchange (.secure 3) 3 otherAddress 0 none,
    .send ⟨1, 0, .initiator⟩ 0x20 [1, 2, 3] true, .send ⟨3, 1, .initiator⟩ 0x20 [4, 5, 6] true]

/-- The responder's standalone ACK of counter 5, for exchange 0. -/
def standaloneAckHeader : ProtocolHeader :=
  { ProtocolHeader.zero with
      protocolID := protocolSecureChannel, protocolOpcode := opcodeStandaloneAck,
      acknowledgement := true, ackedMessageCounter := 5 }

def ackMessage : ReceivedMessage :=
  ⟨(responderSession.encrypt zeroCipher MessageHeader.zero standaloneAckHeader [] false).1.toOption.getD [],
    responderAddress⟩

/-- After the two sends, the responder's ACK on session 1 completes exchange 1 of session 3. -/
theorem ack_completes_filed_exchange_collision :
    Effect.retransmitComplete ⟨3, 1, .initiator⟩ ∈
      ((Mealy.final (step zeroCipher) twoSessionManager collidingSends).processFrame zeroCipher
        ⟨{ MessageHeader.zero with sessionID := 1, messageCounter := 7 }, standaloneAckHeader, []⟩
        responderAddress (.secure 1)).2.2 :=
  @ack_completes_filed_exchange zeroCipher _ _ _ _
    ⟨⟨3, 1, .initiator⟩, 5,
      [0, 4, 0, 0, 5, 0, 0, 0, 5, 32, 1, 0, 0, 0, 4, 5, 6, 0, 0, 0, 0, 0, 0, 0, 0, 0, 0, 0, 0, 0, 0, 0, 0],
      otherAddress, 1⟩
    ⟨1, .initiator, .active, 0, 3, .secure 3, otherAddress, none, none, some 5⟩
    rfl (by decide +kernel) rfl rfl

/-- **An acknowledgement cancels another peer's retransmission.** The responder acknowledges
the message of exchange 0; the manager reports exchange 1, on the other session, complete, and
exchange 0 is left waiting on an entry its counter no longer finds. -/
theorem ack_completes_other_exchange :
    (Mealy.outputs (step zeroCipher) twoSessionManager (collidingSends ++ [.received ackMessage 0])).getLast? =
        some (.ok (), [.retransmitComplete ⟨3, 1, .initiator⟩]) ∧
      let t := (Mealy.final (step zeroCipher) twoSessionManager
        (collidingSends ++ [.received ackMessage 0])).retransmitTable
      t.hasPending ⟨1, 0, .initiator⟩ = true ∧ t.entries 5 = none := by
  decide +kernel

/-! ## The transmission budget -/

namespace Manager

/-- **A timer expiry.** For an entry the table holds, of an exchange that exists, one more
transmission is counted: below `MRPMaxTransmissions` the bytes go out again, at it the entry
goes and the exchange's retransmission completes. -/
theorem onRetransmitTimeout_of_entry {m : Manager} {e e₀ : RetransmitEntry}
    {ctx : ExchangeContext} (hctx : m.exchanges e.exchangeKey = some ctx)
    (he : m.retransmitTable.entries e.messageCounter = some e₀) :
    m.onRetransmitTimeout e =
      if e₀.sendCount + 1 ≥ mrpMaxTransmissions then
        ({ m with retransmitTable := ⟨m.retransmitTable.entries.delete e.messageCounter,
            m.retransmitTable.byExchange.delete e₀.exchangeKey⟩ } : Manager).onRetransmitComplete
          ctx
      else ({ m with retransmitTable := ⟨m.retransmitTable.entries.insert e.messageCounter
          { e₀ with sendCount := e₀.sendCount + 1 }, m.retransmitTable.byExchange⟩ },
        [.send e.message e.peerAddress]) := by
  unfold onRetransmitTimeout RetransmitTable.scheduleRetransmit
  simp only [hctx, he]
  split <;> rfl

/-- Completing a retransmission sends nothing. -/
theorem send_not_mem_onRetransmitComplete (m : Manager) (ctx : ExchangeContext)
    (b : List UInt8) (a : PeerAddress) : Effect.send b a ∉ (m.onRetransmitComplete ctx).2 := by
  unfold onRetransmitComplete removeExchange
  dsimp only
  split <;> simp

@[simp] theorem retransmitTable_modifyExchange (m : Manager) (key : ExchangeKey)
    (f : ExchangeContext → ExchangeContext) :
    (m.modifyExchange key f).retransmitTable = m.retransmitTable := by
  unfold modifyExchange
  split <;> rfl

/-- Completing a retransmission files nothing new in the table. -/
theorem entries_onRetransmitComplete {m : Manager} {c : UInt32}
    (h : m.retransmitTable.entries c = none) (ctx : ExchangeContext) :
    (m.onRetransmitComplete ctx).1.retransmitTable.entries c = none := by
  have hremove : ∀ (t : RetransmitTable) k, t.entries c = none → (t.remove k).entries c = none := by
    intro t k ht
    unfold RetransmitTable.remove
    split
    · exact ht
    · simp [GoMap.delete_apply, ht]
  unfold onRetransmitComplete removeExchange
  dsimp only
  split
  · exact hremove _ _ (by simpa using h)
  · simpa using h

end Manager

/-- **Resends.** While the count stays below `MRPMaxTransmissions`, each timer expiry puts the
message on the wire once more and counts it, with the exchanges as they were. -/
theorem timeouts_resend {m : Manager} {e e₀ : RetransmitEntry} {ctx : ExchangeContext}
    (hctx : m.exchanges e.exchangeKey = some ctx)
    (he : m.retransmitTable.entries e.messageCounter = some e₀) (k : Nat)
    (hk : e₀.sendCount + k < mrpMaxTransmissions) :
    Mealy.outputs (step E) m (List.replicate k (.retransmitTimeout e)) =
        List.replicate k (.ok (), [.send e.message e.peerAddress]) ∧
      (Mealy.final (step E) m (List.replicate k (.retransmitTimeout e))).exchanges = m.exchanges ∧
      (Mealy.final (step E) m (List.replicate k (.retransmitTimeout e))).retransmitTable.entries
        e.messageCounter = some { e₀ with sendCount := e₀.sendCount + k } := by
  induction k generalizing m e₀ with
  | zero => exact ⟨rfl, rfl, he⟩
  | succ k ih =>
    have hstep := Manager.onRetransmitTimeout_of_entry hctx he
    rw [if_neg (by omega)] at hstep
    -- the first expiry resends and counts; the others follow from the state it leaves
    obtain ⟨hout, hex, hent⟩ := @ih { m with retransmitTable := ⟨m.retransmitTable.entries.insert
        e.messageCounter { e₀ with sendCount := e₀.sendCount + 1 }, m.retransmitTable.byExchange⟩ }
      { e₀ with sendCount := e₀.sendCount + 1 } hctx (by simp) (by simp only; omega)
    refine ⟨?_, ?_, ?_⟩
    · simp [List.replicate_succ, step, hstep, hout]
    · simpa [List.replicate_succ, step, hstep] using hex
    · simp only [List.replicate_succ, Mealy.final_cons, step, hstep] at hent ⊢
      rw [hent]
      simp only [Option.some.injEq]
      congr 1
      omega

/-- **Four transmissions, not five.** Take an exchange whose reliable message the table holds as
`Add` files it, counted once for the first send. With no acknowledgement, the first three timer
expiries each put it on the wire again, and the fourth sends nothing, removes the entry and
completes the exchange's retransmission: the message goes out `MRPMaxTransmissions - 1` times. -/
theorem transmissions_without_ack (m : Manager) (e : RetransmitEntry) (ctx : ExchangeContext)
    (hctx : m.exchanges e.exchangeKey = some ctx)
    (he : m.retransmitTable.entries e.messageCounter = some { e with sendCount := 1 }) :
    let evs := List.replicate (mrpMaxTransmissions - 1) (Event.retransmitTimeout e)
    (Mealy.outputs (step E) m evs).dropLast =
        List.replicate (mrpMaxTransmissions - 2) (.ok (), [.send e.message e.peerAddress]) ∧
      (∃ effects, (Mealy.outputs (step E) m evs).getLast? = some (.ok (), effects) ∧
        Effect.retransmitComplete ctx.getKey ∈ effects ∧ ∀ b a, Effect.send b a ∉ effects) ∧
      (Mealy.final (step E) m evs).retransmitTable.entries e.messageCounter = none := by
  intro evs
  have hevs : evs = List.replicate 3 (.retransmitTimeout e) ++ [.retransmitTimeout e] := rfl
  obtain ⟨hout, hex, hent⟩ := timeouts_resend E hctx he 3 (by simp [mrpMaxTransmissions])
  rw [hevs, Mealy.outputs_append, Mealy.final_append, hout]
  generalize Mealy.final (step E) m (List.replicate 3 (.retransmitTimeout e)) = m₃ at hex hent ⊢
  -- after three resends the count is four, and the fourth expiry ends the entry
  have hlast := Manager.onRetransmitTimeout_of_entry (hex ▸ hctx) hent
  rw [if_pos (by simp [mrpMaxTransmissions])] at hlast
  have hstep : step E m₃ (.retransmitTimeout e) =
      ((.ok (), (m₃.onRetransmitTimeout e).2), (m₃.onRetransmitTimeout e).1) := rfl
  simp only [Mealy.outputs_cons, Mealy.outputs_nil, Mealy.final_cons, Mealy.final_nil, hstep,
    hlast]
  refine ⟨by simp [mrpMaxTransmissions], ⟨_, List.getLast?_concat .., ?_, ?_⟩, ?_⟩
  · exact Manager.retransmitComplete_mem_onRetransmitComplete _ ctx
  · exact Manager.send_not_mem_onRetransmitComplete _ ctx
  · exact Manager.entries_onRetransmitComplete (by simp) ctx

/-- One reliable message on exchange 0 of the initiator's session 1. -/
def singleSend : List Event :=
  [.newExchange (.secure 1) 1 responderAddress 0 none, .send ⟨1, 0, .initiator⟩ 0x20 [1, 2, 3] true]

/-- The entry that message leaves in the table, under its counter 5. -/
def singleSendEntry : RetransmitEntry :=
  ⟨⟨1, 0, .initiator⟩, 5, [0, 2, 0, 0, 5, 0, 0, 0, 5, 32, 0, 0, 0, 0, 1, 2, 3] ++ List.replicate 16 0,
    responderAddress, 1⟩

/-- After that send, the first three expiries resend the message. -/
theorem transmissions_without_ack_single :
    (Mealy.outputs (step zeroCipher) (Mealy.final (step zeroCipher) twoSessionManager singleSend)
        (List.replicate (mrpMaxTransmissions - 1) (.retransmitTimeout singleSendEntry))).dropLast =
      List.replicate (mrpMaxTransmissions - 2) (.ok (), [.send singleSendEntry.message responderAddress]) :=
  (transmissions_without_ack zeroCipher _ singleSendEntry
    ⟨0, .initiator, .active, 0, 1, .secure 1, responderAddress, none, none, some 5⟩ rfl
    (by decide +kernel)).1

/-- **No fifth transmission.** With no acknowledgement, the message of `singleSend` is put on the
wire four times, the first send included, and its entry is gone after the fourth expiry. -/
theorem message_sent_four_times :
    let evs := singleSend ++ List.replicate 4 (.retransmitTimeout singleSendEntry)
    ((Mealy.outputs (step zeroCipher) twoSessionManager evs).map (·.2)).flatten.count
        (.send singleSendEntry.message responderAddress) = mrpMaxTransmissions - 1 ∧
      (Mealy.final (step zeroCipher) twoSessionManager evs).retransmitTable.hasPending
        ⟨1, 0, .initiator⟩ = false := by
  decide +kernel

end Matter.Exchange
