import Matter.Lib.GoMap

/-!
# The retransmission table (`pkg/exchange/retransmit.go`)

Model of `RetransmitTable`, MRP's list of reliable messages awaiting an acknowledgement.
The table keeps every pending entry in two Go maps: `entries`, keyed by the message
counter, and `byExchange`, keyed by the exchange (`exchangeKey`, `ack.go:56-60`: local
session ID, exchange ID, role). Both maps point to the same `*RetransmitEntry`. Only
`SendCount` is ever written after `Add` (by `ScheduleRetransmit`, through `entries`), and no
production caller reads an entry through `byExchange` for anything but its counter
(`Remove`) or its presence (`HasPending`); so `byExchange` is a map of the entries as `Add`
created them. Timers and the backoff interval are left out: they decide when a timeout
event happens, not what it does.

* `add`, `ack`, `scheduleRetransmit`, `remove`, `removeByCounter`, `clear` are the methods
  of `retransmit.go:90-268`, each one atomic under the table's mutex.
* `Consistent` is the bijection between the two indexes: `entries[c]` belongs to exchange
  `k` iff `byExchange[k]` has counter `c`.

Results:
* Every operation but `add` keeps `Consistent`, and so does `add` of a counter not in the
  table (`consistent_add_of_fresh`).
* `add` of a counter some other exchange is waiting on breaks it
  (`not_consistent_add_collision`): the `ack` of that counter then finds the new exchange's
  entry, whichever exchange it acknowledges. Counters are per session, so two sessions'
  reliable messages can carry equal counters.
-/

namespace Matter.Exchange

/-- `ExchangeRole` (`enums.go:29-44`). -/
inductive ExchangeRole
  | unknown
  | initiator
  | responder
  deriving DecidableEq, Repr

/-- `exchangeKey`: the spec's `{Session Context, Exchange ID, Exchange Role}`, with the
session context given by its local session ID. -/
structure ExchangeKey where
  localSessionID : UInt16
  exchangeID : UInt16
  role : ExchangeRole
  deriving DecidableEq, Repr

/-- `transport.TransportType`. -/
inductive TransportType
  | unknown
  | udp
  | tcp
  deriving DecidableEq, Repr

/-- `transport.PeerAddress`: the peer's network address (its `String()` form) and transport. -/
structure PeerAddress where
  addr : String
  transportType : TransportType
  deriving DecidableEq, Repr

/-- `MRPMaxTransmissions` (`params.go:15`). -/
def mrpMaxTransmissions : Nat := 5

/-- The errors of `pkg/exchange/errors.go` that the modelled paths return. -/
inductive ExchangeError
  | exchangeClosed
  | exchangeClosing
  | noHandler
  | exchangeExists
  | sessionNotFound
  | pendingRetransmit
  | invalidMessage
  | unsolicitedNotInitiator
  deriving DecidableEq, Repr

/-- `RetransmitEntry`: a reliable message awaiting its acknowledgement. -/
structure RetransmitEntry where
  exchangeKey : ExchangeKey
  messageCounter : UInt32
  message : List UInt8
  peerAddress : PeerAddress
  sendCount : Nat
  deriving DecidableEq, Repr

/-- `RetransmitTable`: the entries by counter and by exchange. -/
structure RetransmitTable where
  entries : GoMap UInt32 RetransmitEntry
  byExchange : GoMap ExchangeKey RetransmitEntry

namespace RetransmitTable

/-- `NewRetransmitTable()`. -/
def empty : RetransmitTable := ⟨GoMap.empty, GoMap.empty⟩

/-- Both indexes without the entry `e` (the two `delete` calls every removal makes). -/
def drop (t : RetransmitTable) (e : RetransmitEntry) : RetransmitTable :=
  ⟨t.entries.delete e.messageCounter, t.byExchange.delete e.exchangeKey⟩

/-- `Add(key, messageCounter, message, peerAddress, ...)`: refused while the exchange has an
entry; otherwise the new entry is filed under its counter and its exchange, overwriting
whatever `entries` held for that counter. -/
def add (t : RetransmitTable) (key : ExchangeKey) (messageCounter : UInt32)
    (message : List UInt8) (peerAddress : PeerAddress) : Except ExchangeError RetransmitTable :=
  if (t.byExchange key).isSome then .error .pendingRetransmit
  else
    let entry : RetransmitEntry :=
      { exchangeKey := key, messageCounter, message, peerAddress, sendCount := 1 }
    .ok ⟨t.entries.insert messageCounter entry, t.byExchange.insert key entry⟩

/-- `Ack(messageCounter)`: remove and return the entry filed under the counter. -/
def ack (t : RetransmitTable) (messageCounter : UInt32) : Option RetransmitEntry × RetransmitTable :=
  match t.entries messageCounter with
  | none => (none, t)
  | some entry => (some entry, ⟨t.entries.delete messageCounter, t.byExchange.delete entry.exchangeKey⟩)

/-- `ScheduleRetransmit(messageCounter, ...)`: count one more transmission; at
`MRPMaxTransmissions` the entry is removed and the answer is `false`. -/
def scheduleRetransmit (t : RetransmitTable) (messageCounter : UInt32) : Bool × RetransmitTable :=
  match t.entries messageCounter with
  | none => (false, t)
  | some entry =>
    let entry' := { entry with sendCount := entry.sendCount + 1 }
    if entry'.sendCount ≥ mrpMaxTransmissions then
      (false, ⟨t.entries.delete messageCounter, t.byExchange.delete entry.exchangeKey⟩)
    else (true, ⟨t.entries.insert messageCounter entry', t.byExchange⟩)

/-- `Remove(key)`: remove the exchange's entry, by the counter it records. -/
def remove (t : RetransmitTable) (key : ExchangeKey) : RetransmitTable :=
  match t.byExchange key with
  | none => t
  | some entry => ⟨t.entries.delete entry.messageCounter, t.byExchange.delete key⟩

/-- `RemoveByCounter(messageCounter)`. -/
def removeByCounter (t : RetransmitTable) (messageCounter : UInt32) : RetransmitTable :=
  match t.entries messageCounter with
  | none => t
  | some entry => ⟨t.entries.delete messageCounter, t.byExchange.delete entry.exchangeKey⟩

/-- `Clear()`. -/
def clear (_ : RetransmitTable) : RetransmitTable := empty

/-- `HasPending(key)`. -/
def hasPending (t : RetransmitTable) (key : ExchangeKey) : Bool := (t.byExchange key).isSome

end RetransmitTable

/-! ## The two indexes agree -/

/-- **The bijection between the indexes**: every entry is filed under its own counter and
its own exchange, and `entries[c]` belongs to exchange `k` iff `byExchange[k]` has counter
`c`. -/
structure Consistent (t : RetransmitTable) : Prop where
  entries_counter : ∀ c e, t.entries c = some e → e.messageCounter = c
  byExchange_key : ∀ k e, t.byExchange k = some e → e.exchangeKey = k
  bij : ∀ c k, (∃ e, t.entries c = some e ∧ e.exchangeKey = k) ↔
    (∃ e, t.byExchange k = some e ∧ e.messageCounter = c)

namespace Consistent

variable {t : RetransmitTable}

theorem empty : Consistent RetransmitTable.empty where
  entries_counter _ _ h := by simp [RetransmitTable.empty] at h
  byExchange_key _ _ h := by simp [RetransmitTable.empty] at h
  bij _ _ := by simp [RetransmitTable.empty]

/-- In a consistent table a counter belongs to one exchange only. -/
theorem key_unique (h : Consistent t) {c c' : UInt32} {e e' : RetransmitEntry}
    (he : t.entries c = some e) (he' : t.entries c' = some e')
    (hk : e.exchangeKey = e'.exchangeKey) : c = c' := by
  obtain ⟨b, hb, hbc⟩ := (h.bij c e.exchangeKey).mp ⟨e, he, rfl⟩
  obtain ⟨b', hb', hbc'⟩ := (h.bij c' e'.exchangeKey).mp ⟨e', he', rfl⟩
  rw [hk, hb'] at hb
  cases hb
  rw [← hbc, ← hbc']

/-- **Removing a linked pair.** Deleting counter `c` and exchange `k` from the two maps,
where `entries[c]` belongs to `k`, keeps the table consistent. -/
theorem delete (h : Consistent t) {c : UInt32} {k : ExchangeKey}
    (hc : ∃ e, t.entries c = some e ∧ e.exchangeKey = k) :
    Consistent ⟨t.entries.delete c, t.byExchange.delete k⟩ := by
  obtain ⟨e, he, hek⟩ := hc
  obtain ⟨b, hb, hbc⟩ := (h.bij c k).mp ⟨e, he, hek⟩
  refine ⟨fun c' e' h' => ?_, fun k' e' h' => ?_, fun c' k' => ?_⟩
  · simp only [GoMap.delete_apply] at h'
    split at h'
    · cases h'
    · exact h.entries_counter c' e' h'
  · simp only [GoMap.delete_apply] at h'
    split at h'
    · cases h'
    · exact h.byExchange_key k' e' h'
  · simp only [GoMap.delete_apply]
    by_cases hcc : c' = c
    · -- the deleted counter: nothing is filed under it, and no other exchange records it
      subst hcc
      simp only [if_true, reduceCtorEq, false_and, exists_false, false_iff, not_exists, not_and]
      intro e' he' hec
      split at he'
      · cases he'
      · rename_i hkk
        obtain ⟨x, hx, hxk⟩ := (h.bij c' k').mpr ⟨e', he', hec⟩
        rw [he] at hx
        cases hx
        exact hkk (hxk.symm.trans hek)
    · by_cases hkk : k' = k
      · -- the deleted exchange: no other counter is filed under it
        subst hkk
        simp only [hcc, if_false, if_true, reduceCtorEq, false_and, exists_false, iff_false,
          not_exists, not_and]
        intro e' he' hek'
        have := h.key_unique he he' (hek.trans hek'.symm)
        exact hcc this.symm
      · simp only [hcc, hkk, if_false]
        exact h.bij c' k'

/-- Replacing an entry by one with the same counter and exchange keeps consistency. -/
theorem replace (h : Consistent t) {c : UInt32} {e e' : RetransmitEntry}
    (he : t.entries c = some e) (hkey : e'.exchangeKey = e.exchangeKey)
    (hcnt : e'.messageCounter = e.messageCounter) :
    Consistent ⟨t.entries.insert c e', t.byExchange⟩ := by
  have hec := h.entries_counter c e he
  refine ⟨fun c' x hx => ?_, h.byExchange_key, fun c' k' => ?_⟩
  · simp only [GoMap.insert_apply] at hx
    split at hx
    · rename_i hcc
      cases hx
      rw [hcnt, hec, hcc]
    · exact h.entries_counter c' x hx
  · rw [← h.bij c' k']
    simp only [GoMap.insert_apply]
    split
    · rename_i hc
      subst hc
      simp only [Option.some.injEq, exists_eq_left', he, hkey]
    · rfl

end Consistent

namespace RetransmitTable

variable {t : RetransmitTable}

theorem consistent_ack (h : Consistent t) (c : UInt32) : Consistent (t.ack c).2 := by
  unfold ack
  split
  · exact h
  · rename_i e he
    exact h.delete ⟨e, he, rfl⟩

theorem consistent_removeByCounter (h : Consistent t) (c : UInt32) :
    Consistent (t.removeByCounter c) := by
  unfold removeByCounter
  split
  · exact h
  · rename_i e he
    exact h.delete ⟨e, he, rfl⟩

theorem consistent_remove (h : Consistent t) (k : ExchangeKey) : Consistent (t.remove k) := by
  unfold remove
  split
  · exact h
  · rename_i e he
    exact h.delete ((h.bij e.messageCounter k).mpr ⟨e, he, rfl⟩)

theorem consistent_scheduleRetransmit (h : Consistent t) (c : UInt32) :
    Consistent (t.scheduleRetransmit c).2 := by
  unfold scheduleRetransmit
  split
  · exact h
  · rename_i e he
    dsimp only
    split
    · exact h.delete ⟨e, he, rfl⟩
    · exact h.replace he rfl rfl

theorem consistent_clear (t : RetransmitTable) : Consistent t.clear := Consistent.empty

/-- `add` of a counter that no entry is filed under keeps the table consistent. -/
theorem consistent_add_of_fresh (h : Consistent t) {key : ExchangeKey} {c : UInt32}
    {msg : List UInt8} {peer : PeerAddress} {t' : RetransmitTable}
    (hadd : t.add key c msg peer = .ok t') (hc : t.entries c = none) : Consistent t' := by
  unfold add at hadd
  split at hadd
  · cases hadd
  · rename_i hk
    cases hadd
    have hk' : t.byExchange key = none := Option.not_isSome_iff_eq_none.mp hk
    refine ⟨fun c' e he => ?_, fun k' e he => ?_, fun c' k' => ?_⟩
    · simp only [GoMap.insert_apply] at he
      split at he
      · rename_i hcc
        cases he
        exact hcc.symm
      · exact h.entries_counter c' e he
    · simp only [GoMap.insert_apply] at he
      split at he
      · rename_i hkk
        cases he
        exact hkk.symm
      · exact h.byExchange_key k' e he
    · simp only [GoMap.insert_apply]
      by_cases hcc : c' = c
      · subst hcc
        by_cases hkk : k' = key
        · subst hkk
          simp
        · -- the new counter is filed under the new exchange, which no other one records
          simp only [if_true, hkk, if_false, Option.some.injEq, exists_eq_left']
          constructor
          · intro hk
            exact absurd hk.symm hkk
          · rintro ⟨e, he, hec⟩
            obtain ⟨x, hx, -⟩ := (h.bij c' k').mpr ⟨e, he, hec⟩
            rw [hc] at hx
            cases hx
      · by_cases hkk : k' = key
        · subst hkk
          simp only [hcc, if_false, if_true, Option.some.injEq, exists_eq_left']
          constructor
          · rintro ⟨e, he, hek⟩
            obtain ⟨x, hx, -⟩ := (h.bij c' k').mp ⟨e, he, hek⟩
            rw [hk'] at hx
            cases hx
          · intro hc'
            exact absurd hc'.symm hcc
        · simp only [hcc, hkk, if_false]
          exact h.bij c' k'

/-- **A counter collision breaks the bijection.** If exchange `k₀` waits on counter `c` and
another exchange adds a message with the same counter, `entries[c]` now belongs to the new
exchange while `byExchange[k₀]` still records `c`. -/
theorem not_consistent_add_collision (h : Consistent t) {key k₀ : ExchangeKey} {c : UInt32}
    {e₀ : RetransmitEntry} {msg : List UInt8} {peer : PeerAddress} {t' : RetransmitTable}
    (he₀ : t.entries c = some e₀) (hk₀ : e₀.exchangeKey = k₀) (hne : key ≠ k₀)
    (hadd : t.add key c msg peer = .ok t') : ¬ Consistent t' := by
  unfold add at hadd
  split at hadd
  · cases hadd
  · cases hadd
    intro h'
    obtain ⟨b, hb, hbc⟩ := (h.bij c k₀).mp ⟨e₀, he₀, hk₀⟩
    have hb' : (t.byExchange.insert key
        { exchangeKey := key, messageCounter := c, message := msg, peerAddress := peer,
          sendCount := 1 }) k₀ = some b := by
      rw [GoMap.insert_of_ne _ _ (Ne.symm hne)]; exact hb
    obtain ⟨x, hx, hxk⟩ := (h'.bij c k₀).mpr ⟨b, hb', hbc⟩
    simp only [GoMap.insert_self, Option.some.injEq] at hx
    subst hx
    exact hne hxk

end RetransmitTable

end Matter.Exchange
