import Matter.Exchange.Retransmit
import Matter.Message.Header

/-!
# Exchange contexts and the acknowledgement table (`pkg/exchange/context.go`, `ack.go`)

An `ExchangeContext` is one conversation: its ID and role, the session and the address it runs
on, its lifecycle state, the delegate of the layer above, and the two MRP slots of
Spec 4.12.3: the counter of a received message still to acknowledge (`pendingAck`) and whether
one of our reliable messages awaits its acknowledgement (`pendingRetransmit`). Go keeps each
slot as a value and a flag that are cleared together; here each is an `Option`.

The session is a pointer in Go, to a `SecureContext` or an `UnsecuredContext`; here it is the
key under which the session manager files it (`SessionRef`). The delegate and the protocol
handlers are the layer above: they are the functions they compute from what they can read of
the exchange (`ExchangeInfo`), the opcode or header, and the payload.

`AckTable` (`ack.go:43-227`) holds at most one pending acknowledgement per exchange. Its
timeout callback is a closure; the entry keeps the data the closure captured, of a type `β`
that the exchange manager fixes.

Results:
* `add_displaced`: `Add` hands back the old entry exactly when its standalone ACK was not sent.
* `markStandaloneAckSent_of_ne`, `add_of_ne` and the like: each operation touches only its
  own exchange's entry.
-/

namespace Matter.Exchange

open Matter.Message

/-- `ExchangeState` (`enums.go:76-97`). -/
inductive ExchangeState
  | unknown
  | active
  | closing
  | closed
  deriving DecidableEq, Repr

/-- `ExchangeState.CanSend()`. -/
def ExchangeState.canSend (s : ExchangeState) : Bool := s == .active

/-- `ExchangeState.CanReceive()`. -/
def ExchangeState.canReceive (s : ExchangeState) : Bool := s == .active || s == .closing

/-- The session an exchange runs on, by the key the session manager files it under: a secure
session by its local session ID, an unsecured one by its initiator's ephemeral node ID. -/
inductive SessionRef
  | secure (localSessionID : UInt16)
  | unsecured (ephemeralNodeID : UInt64)
  deriving DecidableEq, Repr

/-- What the layer above reads of the exchange it is called with. -/
structure ExchangeInfo where
  key : ExchangeKey
  session : SessionRef
  peerAddress : PeerAddress
  deriving DecidableEq, Repr

/-- `ExchangeDelegate.OnMessage`: the response payload (`nil` is `none`) or an error. -/
structure ExchangeDelegate where
  onMessage : ExchangeInfo → ProtocolHeader → List UInt8 → Except String (Option (List UInt8))

/-- `ProtocolHandler` (`manager.go:16-26`). -/
structure ProtocolHandler where
  onMessage : ExchangeInfo → UInt8 → List UInt8 → Except String (Option (List UInt8))
  onUnsolicited : ExchangeInfo → UInt8 → List UInt8 → Except String (Option (List UInt8))

/-- `ExchangeContext` (`context.go:56-96`). -/
structure ExchangeContext where
  id : UInt16
  role : ExchangeRole
  state : ExchangeState
  protocolID : UInt16
  localSessionID : UInt16
  session : SessionRef
  peerAddress : PeerAddress
  delegate : Option ExchangeDelegate
  pendingAck : Option UInt32
  pendingRetransmit : Option UInt32

/-- `ExchangeContextConfig`. -/
structure ExchangeContextConfig where
  id : UInt16
  role : ExchangeRole
  protocolID : UInt16
  localSessionID : UInt16
  session : SessionRef
  peerAddress : PeerAddress
  delegate : Option ExchangeDelegate

/-- `NewExchangeContext(config)`: active, with both MRP slots empty. -/
def newExchangeContext (config : ExchangeContextConfig) : ExchangeContext where
  id := config.id
  role := config.role
  state := .active
  protocolID := config.protocolID
  localSessionID := config.localSessionID
  session := config.session
  peerAddress := config.peerAddress
  delegate := config.delegate
  pendingAck := none
  pendingRetransmit := none

namespace ExchangeContext

/-- `GetKey()`. -/
def getKey (c : ExchangeContext) : ExchangeKey := ⟨c.localSessionID, c.id, c.role⟩

/-- What a handler called with this exchange reads of it. -/
def info (c : ExchangeContext) : ExchangeInfo := ⟨c.getKey, c.session, c.peerAddress⟩

/-- `SetPendingAck(counter)`. -/
def setPendingAck (c : ExchangeContext) (counter : UInt32) : ExchangeContext :=
  { c with pendingAck := some counter }

/-- `ClearPendingAck()`. -/
def clearPendingAck (c : ExchangeContext) : ExchangeContext := { c with pendingAck := none }

/-- `SetPendingRetransmit(counter)`. -/
def setPendingRetransmit (c : ExchangeContext) (counter : UInt32) : ExchangeContext :=
  { c with pendingRetransmit := some counter }

/-- `ClearPendingRetransmit()`. -/
def clearPendingRetransmit (c : ExchangeContext) : ExchangeContext :=
  { c with pendingRetransmit := none }

@[simp] theorem getKey_setPendingAck (c : ExchangeContext) (n : UInt32) :
    (c.setPendingAck n).getKey = c.getKey := rfl

@[simp] theorem getKey_clearPendingAck (c : ExchangeContext) :
    c.clearPendingAck.getKey = c.getKey := rfl

@[simp] theorem getKey_setPendingRetransmit (c : ExchangeContext) (n : UInt32) :
    (c.setPendingRetransmit n).getKey = c.getKey := rfl

@[simp] theorem getKey_clearPendingRetransmit (c : ExchangeContext) :
    c.clearPendingRetransmit.getKey = c.getKey := rfl

@[simp] theorem session_setPendingAck (c : ExchangeContext) (n : UInt32) :
    (c.setPendingAck n).session = c.session := rfl

@[simp] theorem session_clearPendingAck (c : ExchangeContext) :
    c.clearPendingAck.session = c.session := rfl

@[simp] theorem session_setPendingRetransmit (c : ExchangeContext) (n : UInt32) :
    (c.setPendingRetransmit n).session = c.session := rfl

@[simp] theorem session_clearPendingRetransmit (c : ExchangeContext) :
    c.clearPendingRetransmit.session = c.session := rfl

@[simp] theorem getKey_newExchangeContext (config : ExchangeContextConfig) :
    (newExchangeContext config).getKey = ⟨config.localSessionID, config.id, config.role⟩ := rfl

end ExchangeContext

/-! ## The acknowledgement table -/

/-- `AckEntry`: the counter to acknowledge, whether a standalone ACK went out for it, and what
the timeout callback captured. -/
structure AckEntry (β : Type) where
  messageCounter : UInt32
  standaloneAckSent : Bool
  callback : β

/-- `AckTable`: one entry per exchange. -/
structure AckTable (β : Type) where
  entries : GoMap ExchangeKey (AckEntry β)

namespace AckTable

variable {β : Type}

/-- `NewAckTable()`. -/
def empty : AckTable β := ⟨GoMap.empty⟩

/-- `Add(key, messageCounter, onTimeout)`: the new entry replaces the exchange's old one, which
is handed back when its standalone ACK was not sent, for the caller to acknowledge now. -/
def add (t : AckTable β) (key : ExchangeKey) (messageCounter : UInt32) (callback : β) :
    Option (AckEntry β) × AckTable β :=
  let displaced :=
    match t.entries key with
    | some existing => if !existing.standaloneAckSent then some existing else none
    | none => none
  (displaced, ⟨t.entries.insert key ⟨messageCounter, false, callback⟩⟩)

/-- `MarkAcked(key)`: the ACK went out piggybacked; the entry goes, and its counter (`0` when
there was none) is returned. -/
def markAcked (t : AckTable β) (key : ExchangeKey) : UInt32 × AckTable β :=
  match t.entries key with
  | none => (0, t)
  | some entry => (entry.messageCounter, ⟨t.entries.delete key⟩)

/-- `MarkStandaloneAckSent(key)`: the entry stays, marked. -/
def markStandaloneAckSent (t : AckTable β) (key : ExchangeKey) : AckTable β :=
  match t.entries key with
  | none => t
  | some entry => ⟨t.entries.insert key { entry with standaloneAckSent := true }⟩

/-- `Remove(key)`. -/
def remove (t : AckTable β) (key : ExchangeKey) : AckTable β := ⟨t.entries.delete key⟩

/-- `HasPendingAck(key)`: an entry whose standalone ACK was not sent. -/
def hasPendingAck (t : AckTable β) (key : ExchangeKey) : Bool :=
  match t.entries key with
  | some entry => !entry.standaloneAckSent
  | none => false

/-- `PendingCounter(key)`. -/
def pendingCounter (t : AckTable β) (key : ExchangeKey) : UInt32 × Bool :=
  match t.entries key with
  | none => (0, false)
  | some entry => (entry.messageCounter, true)

/-- `Clear()`. -/
def clear (_ : AckTable β) : AckTable β := empty

/-- `Add` hands back the old entry exactly when there was one whose standalone ACK was not
sent, and files the new one. -/
theorem add_displaced (t : AckTable β) (key : ExchangeKey) (n : UInt32) (b : β) :
    ((t.add key n b).1 = none ↔ t.hasPendingAck key = false) ∧
      (t.add key n b).2.entries key = some ⟨n, false, b⟩ := by
  refine ⟨?_, GoMap.insert_self _ _ _⟩
  simp only [add, hasPendingAck]
  cases t.entries key with
  | none => simp
  | some e => cases e.standaloneAckSent <;> simp

theorem add_of_ne (t : AckTable β) {key k : ExchangeKey} (n : UInt32) (b : β) (h : k ≠ key) :
    (t.add key n b).2.entries k = t.entries k := GoMap.insert_of_ne _ _ h

theorem markStandaloneAckSent_of_ne (t : AckTable β) {key k : ExchangeKey} (h : k ≠ key) :
    (t.markStandaloneAckSent key).entries k = t.entries k := by
  unfold markStandaloneAckSent
  split
  · rfl
  · exact GoMap.insert_of_ne _ _ h

theorem markAcked_of_ne (t : AckTable β) {key k : ExchangeKey} (h : k ≠ key) :
    (t.markAcked key).2.entries k = t.entries k := by
  unfold markAcked
  split
  · rfl
  · exact GoMap.delete_of_ne _ h

end AckTable

end Matter.Exchange
