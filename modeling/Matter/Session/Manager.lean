import Matter.Session.Secure
import Matter.Lib.GoMap

/-!
# The session manager (`pkg/session/manager.go`, `unsecured.go`)

`session.Manager` keeps the secure sessions in its `Table` by local session ID
(`Table.FindByLocalID`, `table.go:123-127`), the unsecured sessions of the handshakes by the
ephemeral node ID of their initiator, and the global counter of unsecured messages. The
exchange layer holds each session by pointer and changes it in place: `Decrypt` moves the
replay window, `Encrypt` the outgoing counter, `CheckCounter` the unsecured window. In the
model a session is named by its key here, and a change is written back under that key
(`setSecure`, `setUnsecured`).

* `newUnsecuredContext` is `NewUnsecuredContext` (`unsecured.go:35-56`); the node ID that
  `generateEphemeralNodeID` draws is an argument, and so it is of
  `findOrCreateUnsecuredContext` (`manager.go:115-140`), which creates the responder's
  context for an initiator's first message.
* `UnsecuredContext.checkCounter` is `CheckCounter`: the unencrypted replay check of
  `counter.go`, which also accepts counters behind the window.

The group peers and the MRP parameters are left out: no modelled path of the exchange layer
reaches them. The table's capacity, its ID allocation and the removal of sessions by fabric or
peer are modelled in `Session.Table`; the manager keeps the table's map only.

Results:
* `findOrCreateUnsecuredContext_ok`: the context found or created is the one filed under the
  initiator's node ID, and no other unsecured session changes.
-/

namespace Matter.Session

open Matter.Message

/-- `UnsecuredContext`: the role, both ephemeral node IDs and the replay window of one
unsecured session. -/
structure UnsecuredContext where
  role : SessionRole
  ephemeralNodeID : UInt64
  peerEphemeralNodeID : UInt64
  receptionState : ReceptionState
  deriving DecidableEq, Repr

/-- `NewUnsecuredContext(role)`, with the drawn ephemeral node ID `nodeID`. -/
def newUnsecuredContext (role : SessionRole) (nodeID : UInt64) :
    Except SessionError UnsecuredContext :=
  if !role.isValid then .error .invalidRole
  else .ok { role, ephemeralNodeID := nodeID, peerEphemeralNodeID := 0,
             receptionState := newReceptionStateEmpty }

/-- `CheckCounter(counter)`. -/
def UnsecuredContext.checkCounter (u : UnsecuredContext) (counter : UInt32) :
    Bool × UnsecuredContext :=
  let (ok, receptionState) := u.receptionState.checkUnencrypted counter
  (ok, { u with receptionState })

/-- `session.Manager`: the secure sessions by local session ID, the unsecured ones by the
ephemeral node ID of their initiator, and the global counter. -/
structure Manager where
  secure : GoMap UInt16 SecureContext
  unsecured : GoMap UInt64 UnsecuredContext
  globalCounter : MessageCounter

namespace Manager

/-- `FindSecureContext(localSessionID)`. -/
def findSecureContext (m : Manager) (localSessionID : UInt16) : Option SecureContext :=
  m.secure localSessionID

/-- The secure session under `localSessionID`, changed in place. -/
def setSecure (m : Manager) (localSessionID : UInt16) (s : SecureContext) : Manager :=
  { m with secure := m.secure.insert localSessionID s }

/-- `FindUnsecuredContext(ephemeralNodeID)`. -/
def findUnsecuredContext (m : Manager) (ephemeralNodeID : UInt64) : Option UnsecuredContext :=
  m.unsecured ephemeralNodeID

/-- The unsecured session under `ephemeralNodeID`, changed in place. -/
def setUnsecured (m : Manager) (ephemeralNodeID : UInt64) (u : UnsecuredContext) : Manager :=
  { m with unsecured := m.unsecured.insert ephemeralNodeID u }

/-- `FindOrCreateUnsecuredContext(sourceNodeID)`: the responder's context of the initiator
`sourceNodeID`, created at its first message with the drawn node ID `nodeID`. -/
def findOrCreateUnsecuredContext (m : Manager) (sourceNodeID nodeID : UInt64) :
    Except SessionError (UnsecuredContext × Manager) :=
  if sourceNodeID = 0 then .error .invalidNodeID
  else
    match m.unsecured sourceNodeID with
    | some ctx => .ok (ctx, m)
    | none => do
      let ctx ← newUnsecuredContext .responder nodeID
      let ctx := { ctx with peerEphemeralNodeID := sourceNodeID }
      return (ctx, m.setUnsecured sourceNodeID ctx)

/-- `NextGlobalCounter()`. -/
def nextGlobalCounter (m : Manager) : UInt32 × Manager :=
  let (counter, globalCounter) := m.globalCounter.next
  (counter, { m with globalCounter })

@[simp] theorem secure_setUnsecured (m : Manager) (n : UInt64) (u : UnsecuredContext) :
    (m.setUnsecured n u).secure = m.secure := rfl

@[simp] theorem unsecured_setSecure (m : Manager) (sid : UInt16) (s : SecureContext) :
    (m.setSecure sid s).unsecured = m.unsecured := rfl

@[simp] theorem secure_nextGlobalCounter (m : Manager) : m.nextGlobalCounter.2.secure = m.secure :=
  rfl

@[simp] theorem unsecured_nextGlobalCounter (m : Manager) :
    m.nextGlobalCounter.2.unsecured = m.unsecured := rfl

@[simp] theorem setUnsecured_setUnsecured (m : Manager) (n : UInt64) (u u' : UnsecuredContext) :
    (m.setUnsecured n u).setUnsecured n u' = m.setUnsecured n u' := by
  simp only [setUnsecured, GoMap.insert_insert]

/-- Writing back the session already filed under `sid` changes nothing. -/
theorem setSecure_of_eq {m : Manager} {sid : UInt16} {s : SecureContext}
    (h : m.secure sid = some s) : m.setSecure sid s = m := by
  cases m with
  | mk secure unsecured globalCounter =>
    simp only [setSecure, Manager.mk.injEq, and_true]
    funext k
    rw [GoMap.insert_apply]
    split
    · rename_i hk
      subst hk
      exact h.symm
    · rfl

/-- Writing back the context already filed under `n` changes nothing. -/
theorem setUnsecured_of_eq {m : Manager} {n : UInt64} {u : UnsecuredContext}
    (h : m.unsecured n = some u) : m.setUnsecured n u = m := by
  cases m with
  | mk secure unsecured globalCounter =>
    simp only [setUnsecured, Manager.mk.injEq, and_true, true_and]
    funext k
    rw [GoMap.insert_apply]
    split
    · rename_i hk
      subst hk
      exact h.symm
    · rfl

/-- **Finding or creating a context** for the initiator `n` files it under `n`, with `n` as
its peer when it is new, and leaves the secure sessions and every other unsecured one as
they were. -/
theorem findOrCreateUnsecuredContext_ok {m m' : Manager} {n nodeID : UInt64}
    {u : UnsecuredContext} (h : m.findOrCreateUnsecuredContext n nodeID = .ok (u, m')) :
    n ≠ 0 ∧ m' = m.setUnsecured n u ∧
      (m.unsecured n = some u ∨
        (m.unsecured n = none ∧ u = ⟨.responder, nodeID, n, newReceptionStateEmpty⟩)) := by
  unfold findOrCreateUnsecuredContext at h
  split at h
  · cases h
  · rename_i hn
    split at h
    · rename_i ctx hctx
      cases h
      exact ⟨hn, (setUnsecured_of_eq hctx).symm, Or.inl hctx⟩
    · rename_i hnone
      simp only [newUnsecuredContext, SessionRole.isValid, Except.ok_bind, Except.pure_eq_ok,
        Bool.not_true, beq_self_eq_true, if_false, Bool.or_true, reduceCtorEq] at h
      cases h
      exact ⟨hn, rfl, Or.inr ⟨hnone, rfl⟩⟩

/-! ## How the secure sessions change -/

/-- Every secure session of `m` is in `m'` too, under the same ID, after encryptions and
decryptions. -/
def SessionsEvolve (m m' : Manager) : Prop :=
  ∀ sid s, m.secure sid = some s → ∃ s', m'.secure sid = some s' ∧ s.Evolves s'

theorem SessionsEvolve.refl (m : Manager) : SessionsEvolve m m := fun _ s h => ⟨s, h, .refl s⟩

theorem SessionsEvolve.trans {m₁ m₂ m₃ : Manager} (h₁ : SessionsEvolve m₁ m₂)
    (h₂ : SessionsEvolve m₂ m₃) : SessionsEvolve m₁ m₃ := by
  intro sid s hs
  obtain ⟨s₂, hs₂, he₂⟩ := h₁ sid s hs
  obtain ⟨s₃, hs₃, he₃⟩ := h₂ sid s₂ hs₂
  exact ⟨s₃, hs₃, he₂.trans he₃⟩

theorem SessionsEvolve.of_secure_eq {m m' : Manager} (h : m'.secure = m.secure) :
    SessionsEvolve m m' := fun _ s hs => ⟨s, h ▸ hs, .refl s⟩

/-- Writing back an evolved session. -/
theorem sessionsEvolve_setSecure {m : Manager} {sid : UInt16} {s s' : SecureContext}
    (hs : m.secure sid = some s) (he : s.Evolves s') : SessionsEvolve m (m.setSecure sid s') := by
  intro sid' t ht
  by_cases hsid : sid' = sid
  · subst hsid
    rw [hs] at ht
    cases ht
    exact ⟨s', GoMap.insert_self _ _ _, he⟩
  · exact ⟨t, by simp only [setSecure]; rw [GoMap.insert_of_ne _ _ hsid]; exact ht, .refl t⟩

theorem sessionsEvolve_findOrCreateUnsecuredContext {m m' : Manager} {n nodeID : UInt64}
    {u : UnsecuredContext} (h : m.findOrCreateUnsecuredContext n nodeID = .ok (u, m')) :
    SessionsEvolve m m' := by
  obtain ⟨-, rfl, -⟩ := findOrCreateUnsecuredContext_ok h
  exact .of_secure_eq rfl

end Manager

end Matter.Session
