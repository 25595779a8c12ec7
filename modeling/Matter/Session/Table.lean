import Matter.Session.Secure

/-!
# The session table (`pkg/session/table.go`)

`Table` holds the secure session contexts by local session ID, at most `maxSessions` of them,
and the ID `AllocateID` tries next. `Add` files a context under its own `LocalSessionID`, so
the Go map is the list of its contexts, whose IDs are distinct; `nodup` says so.

`AllocateID` tries `nextID`, moves `nextID` on (past `MaxSessionID` back to `MinSessionID`),
and returns the ID it tried if no context uses it; it gives up when `nextID` is back where the
search started. `nextID` is never 0, so the search runs over the 65535 IDs `1, …, 65535` from
where it started, and `idAt startID k` is the ID it tries at its `k`-th turn. The loop ends
because the turns left before `nextID` is back at `startID` (`turnsLeft`) go down by one at
every turn.

The lock of every method is left out (each runs as one step here), and so are `ForEach` and
the `FindBy*` lookups by peer and fabric, which nothing modelled calls. `Add` of a nil context
is not modelled.

Results:
* `add_ok`, `findByLocalID_add`, `findByLocalID_remove`, `removeByFabric_spec`: what `Add`
  checks and files, and what the removals drop and count.
* `allocateLoop_eq`: the loop returns the first free ID in the order it tries them, and moves
  `nextID` past it, or reports the IDs exhausted with `nextID` back at the start.
* `session_id_allocation`: below capacity `AllocateID` returns an ID in `[1, 65535]` that no
  context uses, and reports the IDs exhausted only when all 65535 are used; two calls in a row
  return the same ID only when all 65534 others are used.
-/

namespace Matter.Session

/-- `MinSessionID`. -/
def minSessionID : UInt16 := 1

/-- `MaxSessionID`. -/
def maxSessionID : UInt16 := 0xFFFF

/-- `DefaultMaxSessions`. -/
def defaultMaxSessions : Nat := 16

/-- `Table`: the contexts, their limit, and the next ID to try. -/
structure Table where
  sessions : List SecureContext
  maxSessions : Nat
  nextID : UInt16
  /-- A Go map holds a key once. -/
  nodup : (sessions.map (·.localSessionID)).Nodup
  /-- `nextID` starts at `MinSessionID` and skips 0 when it wraps. -/
  nextID_ne_zero : nextID ≠ 0

/-- `nextID++`, and `MinSessionID` in place of 0. -/
def advanceID (id : UInt16) : UInt16 := if id + 1 = 0 then minSessionID else id + 1

theorem toNat_advanceID (id : UInt16) :
    (advanceID id).toNat = if id.toNat = 65535 then 1 else id.toNat + 1 := by
  have hlt := id.toNat_lt
  have hadd : (id + 1).toNat = (id.toNat + 1) % 65536 := by simp [UInt16.toNat_add]
  unfold advanceID
  by_cases h : id.toNat = 65535
  · have hz : id + 1 = 0 := UInt16.toNat_inj.mp (by rw [hadd, h]; rfl)
    simp [hz, h, minSessionID]
  · have hz : id + 1 ≠ 0 := fun h0 => by
      have := congrArg UInt16.toNat h0
      rw [hadd] at this
      simp at this
      omega
    rw [if_neg hz, if_neg h, hadd]
    omega

theorem advanceID_ne_zero (id : UInt16) : advanceID id ≠ 0 := by
  intro h
  have := toNat_advanceID id
  rw [h] at this
  split at this <;> simp at this

/-- The turns of `AllocateID`'s loop left after `id` before `nextID` is back at `startID`. -/
def turnsLeft (startID id : UInt16) : Nat := (startID.toNat + 65535 - id.toNat) % 65535

/-- A turn that does not end the loop brings `nextID` one turn closer to `startID`. -/
theorem turnsLeft_advanceID_lt {startID id : UInt16} (hstart : startID ≠ 0) (hid : id ≠ 0)
    (hne : id ≠ startID) : turnsLeft startID (advanceID id) < turnsLeft startID id := by
  have hs : startID.toNat ≠ 0 := fun h => hstart (UInt16.toNat_inj.mp h)
  have hi : id.toNat ≠ 0 := fun h => hid (UInt16.toNat_inj.mp h)
  have hn : id.toNat ≠ startID.toNat := fun h => hne (UInt16.toNat_inj.mp h)
  have hs' := startID.toNat_lt
  have hi' := id.toNat_lt
  simp only [turnsLeft, toNat_advanceID]
  split <;> omega

/-! ## The IDs the search tries -/

/-- The ID `AllocateID`'s loop from `startID` tries at its `k`-th turn. -/
def idAt (startID : UInt16) (k : Nat) : UInt16 :=
  UInt16.ofNat ((startID.toNat - 1 + k) % 65535 + 1)

theorem toNat_idAt (startID : UInt16) (k : Nat) :
    (idAt startID k).toNat = (startID.toNat - 1 + k) % 65535 + 1 :=
  UInt16.toNat_ofNat_of_lt' (by unfold UInt16.size; omega)

theorem idAt_ne_zero (startID : UInt16) (k : Nat) : idAt startID k ≠ 0 := by
  intro h
  have := toNat_idAt startID k
  rw [h] at this
  simp at this

/-- The search starts at `startID`. -/
theorem idAt_zero {startID : UInt16} (hstart : startID ≠ 0) : idAt startID 0 = startID := by
  have hs : startID.toNat ≠ 0 := fun h => hstart (UInt16.toNat_inj.mp h)
  have hlt := startID.toNat_lt
  apply UInt16.toNat_inj.mp
  rw [toNat_idAt]
  omega

/-- Each turn moves `nextID` to the ID of the next turn. -/
theorem advanceID_idAt (startID : UInt16) (k : Nat) :
    advanceID (idAt startID k) = idAt startID (k + 1) := by
  apply UInt16.toNat_inj.mp
  rw [toNat_advanceID, toNat_idAt, toNat_idAt]
  split <;> omega

/-- A search that starts one ID later is one turn ahead. -/
theorem idAt_advanceID {startID : UInt16} (hstart : startID ≠ 0) (k : Nat) :
    idAt (advanceID startID) k = idAt startID (k + 1) := by
  have hs : startID.toNat ≠ 0 := fun h => hstart (UInt16.toNat_inj.mp h)
  have hlt := startID.toNat_lt
  apply UInt16.toNat_inj.mp
  rw [toNat_idAt, toNat_idAt, toNat_advanceID]
  split <;> omega

/-- After a full turn of 65535 IDs the search is back at its start. -/
theorem idAt_turn (startID : UInt16) : idAt startID 65535 = idAt startID 0 := by
  apply UInt16.toNat_inj.mp
  rw [toNat_idAt, toNat_idAt]
  omega

/-- Within one turn of the IDs, the search tries no ID twice. -/
theorem idAt_injective {startID : UInt16} {k k' : Nat} (hk : k < 65535) (hk' : k' < 65535)
    (h : idAt startID k = idAt startID k') : k = k' := by
  have := congrArg UInt16.toNat h
  rw [toNat_idAt, toNat_idAt] at this
  omega

/-- Within one turn of the IDs, the search tries every ID but 0. -/
theorem exists_idAt {startID id : UInt16} (hstart : startID ≠ 0) (hid : id ≠ 0) :
    ∃ k < 65535, idAt startID k = id := by
  have hs : startID.toNat ≠ 0 := fun h => hstart (UInt16.toNat_inj.mp h)
  have hi : id.toNat ≠ 0 := fun h => hid (UInt16.toNat_inj.mp h)
  have hs' := startID.toNat_lt
  have hi' := id.toNat_lt
  refine ⟨(id.toNat + 65535 - startID.toNat) % 65535, by omega, UInt16.toNat_inj.mp ?_⟩
  rw [toNat_idAt]
  omega

namespace Table

/-- `NewTable(maxSessions)`. -/
def newTable (maxSessions : Int) : Table where
  sessions := []
  maxSessions := if maxSessions ≤ 0 then defaultMaxSessions else maxSessions.toNat
  nextID := minSessionID
  nodup := List.nodup_nil
  nextID_ne_zero := by decide

/-- `FindByLocalID(id)`: `t.sessions[id]`. -/
def findByLocalID (t : Table) (id : UInt16) : Option SecureContext :=
  t.sessions.find? (·.localSessionID == id)

/-- The table with `nextID` set to a nonzero ID. -/
def withNextID (t : Table) (id : UInt16) (h : id ≠ 0) : Table :=
  { t with nextID := id, nextID_ne_zero := h }

/-- The loop of `AllocateID` from `startID`. -/
def allocateLoop (startID : UInt16) (hstart : startID ≠ 0) (t : Table) :
    Except SessionError UInt16 × Table :=
  let id := t.nextID
  let t' := t.withNextID (advanceID t.nextID) (advanceID_ne_zero _)
  if (t.findByLocalID id).isNone then (.ok id, t')
  else if t'.nextID = startID then (.error .sessionIDExhausted, t')
  else allocateLoop startID hstart t'
termination_by turnsLeft startID (advanceID t.nextID)
decreasing_by
  exact turnsLeft_advanceID_lt hstart (advanceID_ne_zero _) ‹_›

/-- `AllocateID`. -/
def allocateID (t : Table) : Except SessionError UInt16 × Table :=
  if t.sessions.length ≥ t.maxSessions then (.error .sessionTableFull, t)
  else allocateLoop t.nextID t.nextID_ne_zero t

/-- The contexts that `keep` accepts, for the removals. -/
def restrict (t : Table) (keep : SecureContext → Bool) : Table :=
  { t with sessions := t.sessions.filter keep,
           nodup := t.nodup.sublist (List.filter_sublist.map _) }

/-- A context whose ID no context uses can join the others. -/
theorem nodup_append_of_free (t : Table) {ctx : SecureContext}
    (hfree : ¬ (t.findByLocalID ctx.localSessionID).isSome) :
    ((t.sessions ++ [ctx]).map (·.localSessionID)).Nodup := by
  have h : ∀ c ∈ t.sessions, c.localSessionID ≠ ctx.localSessionID := by
    simpa [findByLocalID, List.find?_eq_none] using hfree
  simpa [List.nodup_append, t.nodup] using h

/-- `Add(ctx)`, for a non-nil `ctx`. -/
def add (t : Table) (ctx : SecureContext) : Except SessionError Table :=
  let id := ctx.localSessionID
  if id = 0 then .error .invalidSessionID
  else if t.sessions.length ≥ t.maxSessions then .error .sessionTableFull
  else if hdup : (t.findByLocalID id).isSome then .error .duplicateSession
  else .ok { t with sessions := t.sessions ++ [ctx], nodup := t.nodup_append_of_free hdup }

/-- `Remove(localSessionID)`. -/
def remove (t : Table) (localSessionID : UInt16) : Table :=
  t.restrict (·.localSessionID != localSessionID)

/-- `RemoveByFabric(fabricIndex)`: the number removed, and the table without them. -/
def removeByFabric (t : Table) (fabricIndex : UInt8) : Nat × Table :=
  (t.sessions.countP (·.fabricIndex == fabricIndex), t.restrict (·.fabricIndex != fabricIndex))

/-- `RemoveByPeer(fabricIndex, nodeID)`: the number removed, and the table without them. -/
def removeByPeer (t : Table) (fabricIndex : UInt8) (nodeID : UInt64) : Nat × Table :=
  let isPeer (ctx : SecureContext) : Bool :=
    ctx.fabricIndex == fabricIndex && ctx.peerNodeID == nodeID
  (t.sessions.countP isPeer, t.restrict (fun ctx => !isPeer ctx))

/-- `Clear()`. -/
def clear (t : Table) : Table := { t with sessions := [], nodup := List.nodup_nil }

/-- `Count()`. -/
def count (t : Table) : Nat := t.sessions.length

/-- `IsFull()`. -/
def isFull (t : Table) : Bool := t.sessions.length ≥ t.maxSessions

/-! ## Adding and removing -/

/-- What an `Add` that succeeds checked, and what it did: the context joins the others. -/
theorem add_ok {t t' : Table} {ctx : SecureContext} (h : t.add ctx = .ok t') :
    ctx.localSessionID ≠ 0 ∧ t.sessions.length < t.maxSessions ∧
      t.findByLocalID ctx.localSessionID = none ∧ t'.sessions = t.sessions ++ [ctx] ∧
      t'.maxSessions = t.maxSessions ∧ t'.nextID = t.nextID := by
  unfold add at h
  dsimp only at h
  split_ifs at h with hzero hfull hdup
  simp only [Except.ok.injEq] at h
  subst h
  exact ⟨hzero, Nat.lt_of_not_le hfull, by simpa using hdup, rfl, rfl, rfl⟩

/-- After an `Add`, the lookup by the context's ID finds it. -/
theorem findByLocalID_add {t t' : Table} {ctx : SecureContext} (h : t.add ctx = .ok t') :
    t'.findByLocalID ctx.localSessionID = some ctx := by
  obtain ⟨-, -, hfree, hsessions, -⟩ := add_ok h
  simp only [findByLocalID] at hfree ⊢
  simp [hsessions, List.find?_append, hfree]

/-- After a `Remove`, the lookup by that ID finds nothing. -/
theorem findByLocalID_remove (t : Table) (id : UInt16) : (t.remove id).findByLocalID id = none := by
  simp [remove, restrict, findByLocalID, List.find?_eq_none]

/-- A removal keeps what it keeps and reports how many it dropped. -/
theorem count_restrict (t : Table) (drop : SecureContext → Bool) :
    (t.restrict (fun ctx => !drop ctx)).count + t.sessions.countP drop = t.count := by
  simp only [count, restrict, ← List.countP_eq_length_filter]
  have h := List.length_eq_countP_add_countP drop (l := t.sessions)
  simp only [Bool.not_eq_true, Bool.decide_eq_false] at h
  omega

/-- `RemoveByFabric` returns the number it removed, and none of the fabric's sessions is
left. -/
theorem removeByFabric_spec (t : Table) (fabricIndex : UInt8) :
    (t.removeByFabric fabricIndex).2.count + (t.removeByFabric fabricIndex).1 = t.count ∧
      ∀ ctx ∈ (t.removeByFabric fabricIndex).2.sessions, ctx.fabricIndex ≠ fabricIndex := by
  refine ⟨count_restrict t (·.fabricIndex == fabricIndex), fun ctx hctx => ?_⟩
  have h := (List.mem_filter.mp hctx).2
  simpa using h

/-! ## `AllocateID` -/

@[simp] theorem sessions_withNextID (t : Table) {id : UInt16} (h : id ≠ 0) :
    (t.withNextID id h).sessions = t.sessions := rfl

@[simp] theorem maxSessions_withNextID (t : Table) {id : UInt16} (h : id ≠ 0) :
    (t.withNextID id h).maxSessions = t.maxSessions := rfl

@[simp] theorem nextID_withNextID (t : Table) {id : UInt16} (h : id ≠ 0) :
    (t.withNextID id h).nextID = id := rfl

@[simp] theorem findByLocalID_withNextID (t : Table) {id : UInt16} (h : id ≠ 0) :
    (t.withNextID id h).findByLocalID = t.findByLocalID := rfl

@[simp] theorem withNextID_withNextID (t : Table) {id id' : UInt16} (h : id ≠ 0) (h' : id' ≠ 0) :
    (t.withNextID id h).withNextID id' h' = t.withNextID id' h' := rfl

theorem withNextID_congr (t : Table) {id id' : UInt16} (h : id ≠ 0) (heq : id = id') :
    t.withNextID id h = t.withNextID id' (heq ▸ h) := by
  subst heq
  rfl

theorem isNone_findByLocalID {t : Table} {id : UInt16} :
    (t.findByLocalID id).isNone ↔ ∀ ctx ∈ t.sessions, ctx.localSessionID ≠ id := by
  simp [findByLocalID, List.find?_eq_none]

/-- `Add` files a context whose nonzero ID no context uses, below capacity. -/
theorem add_of_free {t : Table} {ctx : SecureContext} (hid : ctx.localSessionID ≠ 0)
    (hcap : t.sessions.length < t.maxSessions)
    (hfree : ∀ c ∈ t.sessions, c.localSessionID ≠ ctx.localSessionID) :
    ∃ t', t.add ctx = .ok t' ∧ t'.sessions = t.sessions ++ [ctx] := by
  have hnone : ¬ (t.findByLocalID ctx.localSessionID).isSome := by
    simpa using isNone_findByLocalID.mpr hfree
  unfold add
  rw [if_neg hid, if_neg (Nat.not_le.mpr hcap), dif_neg hnone]
  exact ⟨_, rfl, rfl⟩

/-- An ID the lookup finds is one a context uses. -/
theorem used_of_not_isNone {t : Table} {id : UInt16} (h : (t.findByLocalID id).isNone = false) :
    ∃ ctx ∈ t.sessions, ctx.localSessionID = id := by
  have hnot : ¬ ∀ ctx ∈ t.sessions, ctx.localSessionID ≠ id := fun hall => by
    simp [isNone_findByLocalID.mpr hall] at h
  simpa using hnot

/-- A turn that finds `nextID` free returns it. -/
theorem allocateLoop_free {startID : UInt16} (hstart : startID ≠ 0) {t : Table}
    (hfree : (t.findByLocalID t.nextID).isNone) :
    allocateLoop startID hstart t =
      (.ok t.nextID, t.withNextID (advanceID t.nextID) (advanceID_ne_zero _)) := by
  rw [allocateLoop, if_pos hfree]

/-- A turn that finds `nextID` used and moves it back to the start gives up. -/
theorem allocateLoop_back {startID : UInt16} (hstart : startID ≠ 0) {t : Table}
    (hused : ¬ (t.findByLocalID t.nextID).isNone) (hback : advanceID t.nextID = startID) :
    allocateLoop startID hstart t = (.error .sessionIDExhausted, t.withNextID startID hstart) := by
  rw [allocateLoop, if_neg hused]
  simp only [withNextID, hback, if_true]

/-- Any other turn goes on with the next ID. -/
theorem allocateLoop_next {startID : UInt16} (hstart : startID ≠ 0) {t : Table}
    (hused : ¬ (t.findByLocalID t.nextID).isNone) (hback : advanceID t.nextID ≠ startID) :
    allocateLoop startID hstart t =
      allocateLoop startID hstart (t.withNextID (advanceID t.nextID) (advanceID_ne_zero _)) := by
  rw [allocateLoop, if_neg hused]
  simp only [withNextID, hback, if_false]

/-- The IDs from the `k`-th turn to the end of a turn of the search. -/
theorem range'_turn {k : Nat} (hk : k < 65535) :
    List.range' k (65535 - k) = k :: List.range' (k + 1) (65535 - (k + 1)) := by
  rw [show 65535 - k = (65535 - (k + 1)) + 1 by omega, List.range'_succ]

/-- **The loop finds the first free ID**: from the `k`-th turn of a search from `startID`, it
returns the first ID it tries that no context uses and moves `nextID` one past it, or, when
every ID up to the end of the turn is used, reports the IDs exhausted with `nextID` back at
`startID`. -/
theorem allocateLoop_eq {startID : UInt16} (hstart : startID ≠ 0) {t : Table} {k : Nat}
    (hk : k < 65535) (hnext : t.nextID = idAt startID k) :
    allocateLoop startID hstart t =
      match (List.range' k (65535 - k)).find? (fun j => (t.findByLocalID (idAt startID j)).isNone) with
      | some j => (.ok (idAt startID j), t.withNextID (idAt startID (j + 1)) (idAt_ne_zero _ _))
      | none => (.error .sessionIDExhausted, t.withNextID startID hstart) := by
  -- induction on the turns left after this one
  obtain ⟨n, hn⟩ : ∃ n, k + n = 65534 := ⟨65534 - k, by omega⟩
  induction n generalizing k t with
  | zero =>
    have hend : 65535 - (k + 1) = 0 := by omega
    rw [range'_turn hk, List.find?_cons, hend, List.range'_zero, List.find?_nil]
    by_cases hfree : (t.findByLocalID (idAt startID k)).isNone
    · rw [allocateLoop_free hstart (hnext ▸ hfree), hfree, hnext]
      exact congrArg _ (withNextID_congr t _ (advanceID_idAt startID k))
    · -- the last turn brings `nextID` back to the start
      have hback : advanceID t.nextID = startID := by
        rw [hnext, advanceID_idAt, show k + 1 = 65535 by omega, idAt_turn, idAt_zero hstart]
      have hused : (t.findByLocalID (idAt startID k)).isNone = false := Bool.eq_false_iff.mpr hfree
      rw [allocateLoop_back hstart (hnext ▸ hfree) hback, hused]
  | succ n ih =>
    rw [range'_turn hk, List.find?_cons]
    by_cases hfree : (t.findByLocalID (idAt startID k)).isNone
    · rw [allocateLoop_free hstart (hnext ▸ hfree), hfree, hnext]
      exact congrArg _ (withNextID_congr t _ (advanceID_idAt startID k))
    · -- before the end of the turn, the next ID is not the start again
      have hnotBack : advanceID t.nextID ≠ startID := by
        intro h
        rw [hnext, advanceID_idAt] at h
        have := @idAt_injective startID (k + 1) 0 (by omega) (by omega)
          (h.trans (idAt_zero hstart).symm)
        omega
      have hused : (t.findByLocalID (idAt startID k)).isNone = false := Bool.eq_false_iff.mpr hfree
      rw [allocateLoop_next hstart (hnext ▸ hfree) hnotBack, hused]
      exact ih (by omega) (by simp [withNextID, hnext, advanceID_idAt]) (by omega)

/-- Below capacity, `AllocateID` is the search from `nextID` over a whole turn of the IDs. -/
theorem allocateID_of_lt {t : Table} (hcap : t.sessions.length < t.maxSessions) :
    t.allocateID =
      match (List.range' 0 65535).find? (fun j => (t.findByLocalID (idAt t.nextID j)).isNone) with
      | some j => (.ok (idAt t.nextID j), t.withNextID (idAt t.nextID (j + 1)) (idAt_ne_zero _ _))
      | none => (.error .sessionIDExhausted, t.withNextID t.nextID t.nextID_ne_zero) := by
  rw [allocateID, if_neg (Nat.not_le.mpr hcap)]
  exact allocateLoop_eq t.nextID_ne_zero (by decide) (idAt_zero t.nextID_ne_zero).symm

/-- What an ID `AllocateID` returns is: the first ID of the search from `nextID` that no
context uses, every ID tried before it used, and `nextID` moved one past it. -/
theorem allocateID_ok {t : Table} {id : UInt16} (h : t.allocateID.1 = .ok id) :
    ∃ j < 65535, id = idAt t.nextID j ∧ (∀ ctx ∈ t.sessions, ctx.localSessionID ≠ id) ∧
      (∀ i < j, ∃ ctx ∈ t.sessions, ctx.localSessionID = idAt t.nextID i) ∧
      t.allocateID.2 = t.withNextID (advanceID id) (advanceID_ne_zero _) := by
  by_cases hcap : t.sessions.length < t.maxSessions
  · rw [allocateID_of_lt hcap] at h ⊢
    cases hfind : (List.range' 0 65535).find?
        (fun j => (t.findByLocalID (idAt t.nextID j)).isNone) with
    | none => simp [hfind] at h
    | some j =>
      obtain ⟨hfree, hmem, hbefore⟩ := List.find?_range'_eq_some.mp hfind
      simp only [hfind, Except.ok.injEq] at h ⊢
      subst h
      refine ⟨j, by simpa using hmem, rfl, isNone_findByLocalID.mp hfree, ?_, ?_⟩
      · intro i hi
        exact used_of_not_isNone (by simpa using hbefore i (Nat.zero_le i) hi)
      · exact withNextID_congr t _ (advanceID_idAt t.nextID j).symm
  · simp [allocateID, Nat.not_lt.mp hcap] at h

/-- `AllocateID` reports the IDs exhausted only when every ID but 0 is used. -/
theorem allocateID_exhausted {t : Table} (h : t.allocateID.1 = .error .sessionIDExhausted) :
    ∀ id : UInt16, id ≠ 0 → ∃ ctx ∈ t.sessions, ctx.localSessionID = id := by
  intro id hid
  by_cases hcap : t.sessions.length < t.maxSessions
  · rw [allocateID_of_lt hcap] at h
    cases hfind : (List.range' 0 65535).find?
        (fun j => (t.findByLocalID (idAt t.nextID j)).isNone) with
    | some j => simp [hfind] at h
    | none =>
      have hused := List.find?_range'_eq_none.mp hfind
      obtain ⟨k, hk, rfl⟩ := exists_idAt t.nextID_ne_zero hid
      exact used_of_not_isNone (by simpa using hused k (Nat.zero_le k) hk)
  · simp [allocateID, Nat.not_lt.mp hcap] at h

/-- `AllocateID` moves only `nextID`: the contexts and the capacity stay. -/
theorem sessions_allocateID (t : Table) :
    t.allocateID.2.sessions = t.sessions ∧ t.allocateID.2.maxSessions = t.maxSessions := by
  by_cases hcap : t.sessions.length < t.maxSessions
  · rw [allocateID_of_lt hcap]
    split <;> exact ⟨rfl, rfl⟩
  · simp [allocateID, Nat.not_lt.mp hcap]

/-- An ID is allocated only below capacity. -/
theorem length_lt_of_allocateID_ok {t : Table} {id : UInt16} (h : t.allocateID.1 = .ok id) :
    t.sessions.length < t.maxSessions := by
  by_contra hcap
  simp [allocateID, Nat.not_lt.mp hcap] at h

/-- Below capacity, `AllocateID` returns an ID or reports the IDs exhausted. -/
theorem allocateID_of_lt_cases {t : Table} (hcap : t.sessions.length < t.maxSessions) :
    (∃ id, t.allocateID.1 = .ok id) ∨ t.allocateID.1 = .error .sessionIDExhausted := by
  rw [allocateID_of_lt hcap]
  cases (List.range' 0 65535).find? (fun j => (t.findByLocalID (idAt t.nextID j)).isNone) with
  | none => exact .inr rfl
  | some j => exact .inl ⟨_, rfl⟩

/-- An ID is in `[MinSessionID, MaxSessionID]` when it is not 0. -/
theorem mem_range_of_ne_zero {id : UInt16} (h : id ≠ 0) :
    minSessionID ≤ id ∧ id ≤ maxSessionID := by
  have hi : id.toNat ≠ 0 := fun h' => h (UInt16.toNat_inj.mp h')
  have hlt := id.toNat_lt
  simp only [minSessionID, maxSessionID, UInt16.le_iff_toNat_le]
  constructor <;> simp <;> omega

/-- **Session ID allocation**: below capacity, `AllocateID` returns an ID in
`[MinSessionID, MaxSessionID]` that no context of the table uses, or reports the IDs exhausted;
it reports them exhausted only when all 65535 are used; and a second call right after a first
returns the same ID again only when all 65534 other IDs are used. -/
theorem session_id_allocation (t : Table) :
    (t.sessions.length < t.maxSessions →
      (∃ id, t.allocateID.1 = .ok id ∧ minSessionID ≤ id ∧ id ≤ maxSessionID ∧
          ∀ ctx ∈ t.sessions, ctx.localSessionID ≠ id) ∨
        t.allocateID.1 = .error .sessionIDExhausted) ∧
    (t.allocateID.1 = .error .sessionIDExhausted →
      ∀ id : UInt16, id ≠ 0 → ∃ ctx ∈ t.sessions, ctx.localSessionID = id) ∧
    (∀ id₁ id₂ : UInt16, t.allocateID.1 = .ok id₁ → t.allocateID.2.allocateID.1 = .ok id₂ →
      id₂ = id₁ → ∀ id : UInt16, id ≠ 0 → id ≠ id₁ →
        ∃ ctx ∈ t.sessions, ctx.localSessionID = id) := by
  refine ⟨fun hcap => ?_, allocateID_exhausted, ?_⟩
  · rcases allocateID_of_lt_cases hcap with ⟨id, hid⟩ | hex
    · obtain ⟨j, -, rfl, hfree, -, -⟩ := allocateID_ok hid
      obtain ⟨hmin, hmax⟩ := mem_range_of_ne_zero (idAt_ne_zero t.nextID j)
      exact .inl ⟨_, hid, hmin, hmax, hfree⟩
    · exact .inr hex
  · intro id₁ id₂ h₁ h₂ heq id hid hne
    obtain ⟨j₁, -, rfl, -, -, ht₁⟩ := allocateID_ok h₁
    rw [ht₁] at h₂
    obtain ⟨j₂, hj₂, hid₂, -, hused₂, -⟩ := allocateID_ok h₂
    simp only [sessions_withNextID, nextID_withNextID] at hid₂ hused₂
    -- the first ID is the last one the second search tries
    have hlast : idAt (advanceID (idAt t.nextID j₁)) 65534 = idAt t.nextID j₁ := by
      rw [idAt_advanceID (idAt_ne_zero _ _), idAt_turn, idAt_zero (idAt_ne_zero _ _)]
    have hj₂last : j₂ = 65534 :=
      idAt_injective hj₂ (by decide) (hid₂.symm.trans (heq.trans hlast.symm))
    obtain ⟨k, hk, rfl⟩ := exists_idAt (advanceID_ne_zero (idAt t.nextID j₁)) hid
    have hk' : k ≠ 65534 := fun h => hne (by rw [h, hlast])
    exact hused₂ k (by omega)

/-- On a new table, `AllocateID` returns an ID in range that no context uses. -/
theorem session_id_allocation_new_table :
    ∃ id, (newTable 16).allocateID.1 = .ok id ∧ minSessionID ≤ id ∧ id ≤ maxSessionID ∧
      ∀ ctx ∈ (newTable 16).sessions, ctx.localSessionID ≠ id := by
  rcases (session_id_allocation (newTable 16)).1 (by decide) with h | h
  · exact h
  · obtain ⟨ctx, hctx, -⟩ := (session_id_allocation (newTable 16)).2.1 h 1 (by decide)
    simp [newTable] at hctx

end Table

end Matter.Session
