import Matter.Exchange.Manager

/-!
# What the exchange manager does to sessions

The exchange manager never adds, removes or replaces a secure session: it looks one up by its
local session ID and writes back what `Encrypt` or `Decrypt` made of it. So every secure session
still decrypts as it did, and every counter its replay window has seen stays seen, through
every call and every run of events.

Results:
* `sessionsEvolve_step`: one event of any kind keeps every secure session, evolved.
* `sessionsEvolve_run`: so does every run of events.
-/

namespace Matter.Exchange

open Matter.Message
open Matter.Session (SecureContext UnsecuredContext)

variable (E : Crypto.BlockCipher)

namespace Manager

/-! ## Calls that leave the sessions alone -/

@[simp] theorem sessions_modifyExchange (m : Manager) (key : ExchangeKey)
    (f : ExchangeContext → ExchangeContext) : (m.modifyExchange key f).sessions = m.sessions := by
  unfold modifyExchange
  split <;> rfl

@[simp] theorem sessions_removeExchange (m : Manager) (ctx : ExchangeContext) :
    (m.removeExchange ctx).1.sessions = m.sessions := rfl

@[simp] theorem sessions_onRetransmitComplete (m : Manager) (ctx : ExchangeContext) :
    (m.onRetransmitComplete ctx).1.sessions = m.sessions := by
  unfold onRetransmitComplete
  dsimp only
  split <;> simp

@[simp] theorem sessions_handleReceivedAck (m : Manager) (c : UInt32) :
    (m.handleReceivedAck c).1.sessions = m.sessions := by
  unfold handleReceivedAck
  dsimp only
  split
  · rfl
  · split
    · rfl
    · exact sessions_onRetransmitComplete _ _

@[simp] theorem sessions_trackAndSend (m : Manager) (ctx : ExchangeContext) (proto : ProtocolHeader)
    (c : UInt32) (encoded : List UInt8) : (m.trackAndSend ctx proto c encoded).2.1.sessions = m.sessions := by
  unfold trackAndSend
  split
  · split <;> simp
  · rfl

@[simp] theorem sessions_onRetransmitTimeout (m : Manager) (entry : RetransmitEntry) :
    (m.onRetransmitTimeout entry).1.sessions = m.sessions := by
  unfold onRetransmitTimeout
  split
  · rfl
  · dsimp only
    split <;> simp

/-- A call from a manager with the sessions of `m`. -/
theorem sessionsEvolve_of_eq {m m' : Manager} {s : Session.Manager} (h : m'.sessions = m.sessions)
    (he : m'.sessions.SessionsEvolve s) : m.sessions.SessionsEvolve s :=
  h ▸ he

/-! ## The send path -/

theorem sessionsEvolve_sendUnsecuredMessage (m : Manager) (ctx : ExchangeContext) (n : UInt64)
    (proto : ProtocolHeader) (payload : List UInt8) :
    m.sessions.SessionsEvolve (m.sendUnsecuredMessage ctx n proto payload).2.1.sessions := by
  unfold sendUnsecuredMessage
  split
  · exact .refl _
  · exact .of_secure_eq (by simp)

theorem sessionsEvolve_sendMessageInternal (m : Manager) (ctx : ExchangeContext)
    (proto : ProtocolHeader) (payload : List UInt8) :
    m.sessions.SessionsEvolve (m.sendMessageInternal E ctx proto payload).2.1.sessions := by
  unfold sendMessageInternal
  cases ctx.session with
  | unsecured n => exact sessionsEvolve_sendUnsecuredMessage _ _ _ _ _
  | secure sid =>
    dsimp only
    cases hs : m.sessions.findSecureContext sid with
    | none => exact .refl _
    | some s =>
      dsimp only
      -- the session is written back as `Encrypt` left it, whatever the result
      have he := Session.Manager.sessionsEvolve_setSecure hs
        (SecureContext.evolves_encrypt (E := E) (s := s)
          { MessageHeader.zero with sessionID := s.peerSessionID } proto payload false)
      cases (s.encrypt E { MessageHeader.zero with sessionID := s.peerSessionID } proto payload
        false).1 with
      | error e => exact he
      | ok encoded =>
        dsimp only
        exact he.trans (.of_secure_eq (by rw [sessions_trackAndSend]))

theorem sessionsEvolve_sendMessage (m : Manager) (ctx : ExchangeContext) (proto : ProtocolHeader)
    (payload : List UInt8) :
    m.sessions.SessionsEvolve (m.sendMessage E ctx proto payload).2.1.sessions := by
  unfold sendMessage
  dsimp only
  -- the piggybacked acknowledgement and the ACK table leave the sessions alone
  cases ctx.pendingAck with
  | none =>
    dsimp only
    exact sessionsEvolve_of_eq (by simp [apply_ite Manager.sessions])
      (sessionsEvolve_sendMessageInternal E _ _ _ _)
  | some a =>
    dsimp only
    split
    · exact sessionsEvolve_of_eq (by simp [apply_ite Manager.sessions, apply_ite Prod.fst])
        (sessionsEvolve_sendMessageInternal E _ _ _ _)
    · exact sessionsEvolve_of_eq (by simp [apply_ite Manager.sessions])
        (sessionsEvolve_sendMessageInternal E _ _ _ _)

theorem sessionsEvolve_sendStandaloneAck (m : Manager) (ctx : ExchangeContext) (c : UInt32) :
    m.sessions.SessionsEvolve (m.sendStandaloneAck E ctx c).1.sessions :=
  sessionsEvolve_of_eq (by simp) (sessionsEvolve_sendMessageInternal E _ _ _ _)

theorem sessionsEvolve_scheduleAck (m : Manager) (ctx : ExchangeContext) (c : UInt32) :
    m.sessions.SessionsEvolve (m.scheduleAck E ctx c).1.sessions := by
  unfold scheduleAck
  dsimp only
  split
  · exact .of_secure_eq (by simp)
  · exact sessionsEvolve_of_eq (by simp) (sessionsEvolve_sendStandaloneAck E _ _ _)

theorem sessionsEvolve_flushPendingAck (m : Manager) (ctx : ExchangeContext) :
    m.sessions.SessionsEvolve (m.flushPendingAck E ctx).1.sessions := by
  unfold flushPendingAck
  split
  · exact sessionsEvolve_sendStandaloneAck E _ _ _
  · exact .refl _

/-- Scheduling an acknowledgement when the R flag asks for one, from a manager with the
sessions of `m`. -/
theorem sessionsEvolve_scheduleAck_if (b : Bool) {m m' : Manager} (h : m'.sessions = m.sessions)
    (ctx : ExchangeContext) (c : UInt32) :
    m.sessions.SessionsEvolve (if b then m'.scheduleAck E ctx c else (m', [])).1.sessions := by
  rw [← h]
  split
  · exact sessionsEvolve_scheduleAck E _ _ _
  · exact .refl _

end Manager

theorem sessionsEvolve_exchangeSendMessage (c : ExchangeContext) (m : Manager) (opcode : UInt8)
    (payload : List UInt8) (reliable : Bool) :
    m.sessions.SessionsEvolve (c.sendMessage E m opcode payload reliable).2.1.sessions := by
  unfold ExchangeContext.sendMessage
  split
  · exact .refl _
  · split
    · exact .refl _
    · dsimp only
      cases c.pendingAck with
      | none => exact Manager.sessionsEvolve_sendMessage E _ _ _ _
      | some a =>
        exact Manager.sessionsEvolve_of_eq (by simp) (Manager.sessionsEvolve_sendMessage E _ _ _ _)

theorem sessionsEvolve_close (c : ExchangeContext) (m : Manager) :
    m.sessions.SessionsEvolve (c.close E m).1.sessions := by
  unfold ExchangeContext.close
  split
  · exact .refl _
  · dsimp only
    have hflush := Manager.sessionsEvolve_flushPendingAck E
      (m.modifyExchange ({ c with state := .closing } : ExchangeContext).getKey
        fun x => { x with state := .closing }) { c with state := .closing }
    rw [Manager.sessions_modifyExchange] at hflush
    generalize Manager.flushPendingAck E _ _ = r at hflush ⊢
    obtain ⟨m₁, effects₁⟩ := r
    dsimp only at hflush ⊢
    split
    · exact hflush.trans (.of_secure_eq (by simp))
    · exact hflush

namespace Manager

theorem sessionsEvolve_handleUnsolicited (m : Manager) (frame : Frame) (peerAddr : PeerAddress)
    (sess : SessionRef) (key : ExchangeKey) :
    m.sessions.SessionsEvolve (m.handleUnsolicited E frame peerAddr sess key).2.1.sessions := by
  unfold handleUnsolicited sendStandaloneAckForUnsolicited
  dsimp only
  split
  · split <;> exact .refl _
  · split
    · split <;> exact .refl _
    · -- the exchange is filed, the acknowledgement scheduled, the handler's answer sent back
      split
      · exact sessionsEvolve_scheduleAck_if E _ (by rfl) _ _
      · exact sessionsEvolve_scheduleAck_if E _ (by rfl) _ _
      · exact (sessionsEvolve_scheduleAck_if E _ (by rfl) _ _).trans
          (sessionsEvolve_exchangeSendMessage E _ _ _ _ _)

theorem sessionsEvolve_routeFrame (m : Manager) (frame : Frame) (peerAddr : PeerAddress)
    (sess : SessionRef) :
    m.sessions.SessionsEvolve (m.routeFrame E frame peerAddr sess).2.1.sessions := by
  unfold routeFrame
  dsimp only
  split
  · exact .refl _
  · split
    · exact sessionsEvolve_handleUnsolicited E _ _ _ _ _
    · -- the delivery itself changes nothing; the response goes through the send path
      split
      · exact sessionsEvolve_scheduleAck_if E _ (by rfl) _ _
      · exact sessionsEvolve_scheduleAck_if E _ (by rfl) _ _
      · exact (sessionsEvolve_scheduleAck_if E _ (by rfl) _ _).trans
          (sessionsEvolve_exchangeSendMessage E _ _ _ _ _)

theorem sessionsEvolve_processFrame (m : Manager) (frame : Frame) (peerAddr : PeerAddress)
    (sess : SessionRef) :
    m.sessions.SessionsEvolve (m.processFrame E frame peerAddr sess).2.1.sessions := by
  unfold processFrame
  dsimp only
  exact sessionsEvolve_of_eq (by split <;> simp) (sessionsEvolve_routeFrame E _ _ _ _)

theorem sessionsEvolve_unsecuredSession {m : Manager} {header : MessageHeader} {nodeID n : UInt64}
    {u : UnsecuredContext} {sessions : Session.Manager}
    (h : m.unsecuredSession header nodeID = .ok (n, u, sessions)) :
    m.sessions.SessionsEvolve sessions := by
  unfold unsecuredSession at h
  split at h
  · split at h
    · cases h
    · next u' sessions' hfind =>
      cases h
      exact Session.Manager.sessionsEvolve_findOrCreateUnsecuredContext hfind
  · split at h
    · split at h
      · cases h
      · cases h
        exact .refl _
    · cases h

theorem sessionsEvolve_onMessageReceived (m : Manager) (msg : ReceivedMessage) (nodeID : UInt64) :
    m.sessions.SessionsEvolve (m.onMessageReceived E msg nodeID).2.1.sessions := by
  unfold onMessageReceived
  split
  · exact .refl _
  · next header _ _ =>
    split
    · -- unsecured: only the unsecured sessions change before the frame is processed
      split
      · exact .refl _
      · dsimp only
        split
        · exact .of_secure_eq (by split <;> simp)
        · split
          · exact .refl _
          · next n u sessions hsess =>
            have h₁ : ∀ u' : UnsecuredContext,
                m.sessions.SessionsEvolve ({ m with sessions := sessions.setUnsecured n u' }).sessions :=
              fun _ => (sessionsEvolve_unsecuredSession hsess).trans (.of_secure_eq rfl)
            split
            · exact h₁ _
            · exact (h₁ _).trans (sessionsEvolve_processFrame E _ _ _ _)
    · -- secure: the session is written back as `Decrypt` left it
      split
      · exact .refl _
      · next s hs =>
        have h₁ : m.sessions.SessionsEvolve ({ m with
            sessions := m.sessions.setSecure header.sessionID (s.decrypt E msg.data).2 } : Manager).sessions :=
          Session.Manager.sessionsEvolve_setSecure hs
            (SecureContext.evolves_decrypt (E := E) (s := s) msg.data)
        dsimp only
        split
        · exact h₁
        · exact h₁.trans (sessionsEvolve_processFrame E _ _ _ _)

theorem sessionsEvolve_onAckTimeout (m : Manager) (key : ExchangeKey) :
    m.sessions.SessionsEvolve (m.onAckTimeout E key).1.sessions := by
  unfold onAckTimeout
  split
  · exact .refl _
  · split
    · exact .refl _
    · exact sessionsEvolve_of_eq (by rfl) (sessionsEvolve_sendStandaloneAck E _ _ _)

end Manager

/-- **One event keeps every secure session**, evolved by `Encrypt` and `Decrypt` only. -/
theorem sessionsEvolve_step (m : Manager) (ev : Event) :
    m.sessions.SessionsEvolve (step E m ev).2.sessions := by
  cases ev with
  | registerProtocol protocolID handler => exact .refl _
  | newExchange sess localSessionID peerAddress protocolID delegate =>
    simp only [step, Manager.newExchange]
    split <;> exact .refl _
  | send key opcode payload reliable =>
    simp only [step]
    split
    · exact .refl _
    · exact sessionsEvolve_exchangeSendMessage E _ _ _ _ _
  | close key =>
    simp only [step]
    split
    · exact .refl _
    · exact sessionsEvolve_close E _ _
  | received msg nodeID => exact Manager.sessionsEvolve_onMessageReceived E _ _ _
  | ackTimeout key => exact Manager.sessionsEvolve_onAckTimeout E _ _
  | retransmitTimeout entry => exact .of_secure_eq (by simp [step])

/-- **Every run keeps every secure session**, evolved by `Encrypt` and `Decrypt` only. -/
theorem sessionsEvolve_run (m : Manager) (evs : List Event) :
    m.sessions.SessionsEvolve (Mealy.final (step E) m evs).sessions :=
  Mealy.final_inv (fun m' => m.sessions.SessionsEvolve m'.sessions)
    (fun _ ev h => h.trans (sessionsEvolve_step E _ ev)) evs m (.refl _)

end Matter.Exchange
