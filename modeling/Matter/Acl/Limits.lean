import Matter.Acl.Manager

/-!
# The ACL store's limits and indices (`pkg/acl/manager.go`)

`CreateEntry` and `UpdateEntry` check the subject and target limits of the entry they store,
and `CreateEntry` the entry limit of its fabric; the other mutations only remove entries. So
over every run of operations the store stays within the manager's limits (`Bounded`). The
memory store appends an entry it saves, changes an entry it updates in place, and shifts the
entries after one it deletes, so the index `CreateEntry` returns keeps finding the entry it
created until an entry at or before it is deleted or it is overwritten (`Op.Keeps`).

Every successful operation replaced the store after its checks and reloaded the checker
(`step_ok`); a failing one changed nothing (`step_error`). The invariants below are proved from
these two facts, one case per operation.

Results:
* `acl_store_invariants`: over every run from `NewManager`, every stored entry is valid, carries
  its fabric's index and is within the subject and target limits; every fabric holds at most
  `maxEntriesPerFabric` entries (or none, when that limit is negative); and `GetEntry` finds an
  entry at the index `CreateEntry` returned for it, after every run of operations that keep it.
-/

namespace Matter.Acl

namespace Manager

variable {m : Manager}

@[simp] theorem store_reloadChecker (m : Manager) : m.reloadChecker.store = m.store := rfl

@[simp] theorem maxEntriesPerFabric_reloadChecker (m : Manager) :
    m.reloadChecker.maxEntriesPerFabric = m.maxEntriesPerFabric := rfl

@[simp] theorem maxSubjectsPerEntry_reloadChecker (m : Manager) :
    m.reloadChecker.maxSubjectsPerEntry = m.maxSubjectsPerEntry := rfl

@[simp] theorem maxTargetsPerEntry_reloadChecker (m : Manager) :
    m.reloadChecker.maxTargetsPerEntry = m.maxTargetsPerEntry := rfl

/-- The checks of `CreateEntry` and `UpdateEntry` on the stamped entry. -/
def Admits (m : Manager) (e : Entry) : Prop :=
  validateEntry e = .ok () ∧ (e.subjects.length : Int) ≤ m.maxSubjectsPerEntry ∧
    (e.targets.length : Int) ≤ m.maxTargetsPerEntry

/-- What a successful operation checked, and the store it left. -/
def Succeeds (m : Manager) : Op → MemoryStore → Prop
  | .createEntry f entry, s => m.Admits { entry with fabricIndex := f } ∧
    m.store.count f < m.maxEntriesPerFabric ∧ s = (m.store.save f { entry with fabricIndex := f }).2
  | .updateEntry f i entry, s => m.Admits { entry with fabricIndex := f } ∧
    m.store.update f i { entry with fabricIndex := f } = .ok s
  | .deleteEntry f i, s => m.store.delete f i = .ok s
  | .deleteAllForFabric f, s => s = m.store.deleteAllForFabric f
  | .loadFromStore, s => s = m.store

/-- `CreateEntry` succeeds with the index the stamped entry is appended at. -/
theorem createEntry_ok {f : FabricIndex} {entry : Entry} {i : Int}
    (h : (m.createEntry f entry).1 = .ok i) :
    i = (m.store.load f).length ∧ m.Admits { entry with fabricIndex := f } ∧
      m.store.count f < m.maxEntriesPerFabric ∧
      (m.createEntry f entry).2 =
        { m with store := (m.store.save f { entry with fabricIndex := f }).2 }.reloadChecker := by
  unfold createEntry at h ⊢
  dsimp only at h ⊢
  split at h
  · cases h
  · rename_i hv
    split_ifs at h ⊢ with hs ht hc
    cases h
    exact ⟨rfl, ⟨hv, by dsimp only; omega, by dsimp only; omega⟩, by omega, rfl⟩

/-- **What a successful operation did.** It passed its checks, replaced the store, and
reloaded the checker. -/
theorem step_ok {op : Op} (h : (step m op).1 = .ok ()) :
    ∃ s, (step m op).2 = { m with store := s }.reloadChecker ∧ m.Succeeds op s := by
  cases op with
  | createEntry f entry =>
    obtain ⟨i, hi⟩ : ∃ i, (m.createEntry f entry).1 = .ok i := by
      simp only [step] at h
      cases hr : (m.createEntry f entry).1 with
      | error e => rw [hr] at h; cases h
      | ok i => exact ⟨i, rfl⟩
    obtain ⟨-, hadm, hcount, hstate⟩ := createEntry_ok hi
    exact ⟨_, hstate, hadm, hcount, rfl⟩
  | updateEntry f i entry =>
    simp only [step, updateEntry] at h ⊢
    split at h
    · cases h
    · rename_i hv
      split_ifs at h ⊢ with hs ht
      split at h
      · cases h
      · rename_i s hu
        exact ⟨s, rfl, ⟨hv, by dsimp only; omega, by dsimp only; omega⟩, hu⟩
  | deleteEntry f i =>
    simp only [step, deleteEntry] at h ⊢
    split at h
    · cases h
    · rename_i s hd
      exact ⟨s, rfl, hd⟩
  | deleteAllForFabric f => exact ⟨_, rfl, rfl⟩
  | loadFromStore => exact ⟨_, rfl, rfl⟩

/-- Either way the limits stay. -/
theorem limits_step (m : Manager) (op : Op) :
    (step m op).2.maxEntriesPerFabric = m.maxEntriesPerFabric ∧
      (step m op).2.maxSubjectsPerEntry = m.maxSubjectsPerEntry ∧
      (step m op).2.maxTargetsPerEntry = m.maxTargetsPerEntry := by
  cases h : (step m op).1 with
  | error e => rw [step_error h]; exact ⟨rfl, rfl, rfl⟩
  | ok u =>
    obtain ⟨s, hs, -⟩ := step_ok h
    rw [hs]
    exact ⟨rfl, rfl, rfl⟩

end Manager

/-! ## The store within the limits -/

/-- The store within the limits: every entry within the subject and target limits, and every
fabric within the entry limit, or empty. -/
structure Bounded (maxEntries maxSubjects maxTargets : Int) (s : MemoryStore) : Prop where
  subjects_le : ∀ f, ∀ e ∈ s.load f, (e.subjects.length : Int) ≤ maxSubjects
  targets_le : ∀ f, ∀ e ∈ s.load f, (e.targets.length : Int) ≤ maxTargets
  count_le : ∀ f, ((s.load f).length : Int) ≤ maxEntries ∨ s.load f = []

namespace Bounded

variable {maxE maxS maxT : Int} {s s' : MemoryStore}

theorem empty : Bounded maxE maxS maxT newMemoryStore :=
  ⟨fun _ _ he => absurd he List.not_mem_nil, fun _ _ he => absurd he List.not_mem_nil,
    fun _ => .inr rfl⟩

/-- Replacing one fabric's list by one within the limits. -/
theorem insert (hs : Bounded maxE maxS maxT s) {f : FabricIndex} {l : List Entry}
    (hsub : ∀ e ∈ l, (e.subjects.length : Int) ≤ maxS)
    (htgt : ∀ e ∈ l, (e.targets.length : Int) ≤ maxT)
    (hcount : (l.length : Int) ≤ maxE ∨ l = []) :
    Bounded maxE maxS maxT ⟨s.entries.insert f l⟩ := by
  refine ⟨fun f' e he => ?_, fun f' e he => ?_, fun f' => ?_⟩
  · rw [MemoryStore.load_insert] at he
    split at he
    · exact hsub e he
    · exact hs.subjects_le f' e he
  · rw [MemoryStore.load_insert] at he
    split at he
    · exact htgt e he
    · exact hs.targets_le f' e he
  · rw [MemoryStore.load_insert]
    split
    · exact hcount
    · exact hs.count_le f'

/-- Appending an entry within the limits to a fabric below its entry limit. -/
theorem save (hs : Bounded maxE maxS maxT s) {f : FabricIndex} {e : Entry}
    (hsub : (e.subjects.length : Int) ≤ maxS) (htgt : (e.targets.length : Int) ≤ maxT)
    (hcount : ((s.load f).length : Int) < maxE) : Bounded maxE maxS maxT (s.save f e).2 := by
  refine hs.insert (fun e' he' => ?_) (fun e' he' => ?_) (.inl (by simp; omega))
  · rcases List.mem_append.mp he' with he' | he'
    · exact hs.subjects_le f e' he'
    · rw [List.mem_singleton.mp he']
      exact hsub
  · rcases List.mem_append.mp he' with he' | he'
    · exact hs.targets_le f e' he'
    · rw [List.mem_singleton.mp he']
      exact htgt

/-- Overwriting an entry with one within the limits. -/
theorem update (hs : Bounded maxE maxS maxT s) {f : FabricIndex} {i : Int} {e : Entry}
    (hsub : (e.subjects.length : Int) ≤ maxS) (htgt : (e.targets.length : Int) ≤ maxT)
    (h : s.update f i e = .ok s') : Bounded maxE maxS maxT s' := by
  unfold MemoryStore.update at h
  dsimp only at h
  split at h
  · cases h
  · cases h
    refine hs.insert (fun e' he' => ?_) (fun e' he' => ?_) (by simpa using hs.count_le f)
    · rcases List.mem_or_eq_of_mem_set he' with he' | rfl
      · exact hs.subjects_le f e' he'
      · exact hsub
    · rcases List.mem_or_eq_of_mem_set he' with he' | rfl
      · exact hs.targets_le f e' he'
      · exact htgt

/-- Deleting an entry. -/
theorem delete (hs : Bounded maxE maxS maxT s) {f : FabricIndex} {i : Int}
    (h : s.delete f i = .ok s') : Bounded maxE maxS maxT s' := by
  unfold MemoryStore.delete at h
  dsimp only at h
  split at h
  · cases h
  · cases h
    refine hs.insert (fun e' he' => hs.subjects_le f e' (List.mem_of_mem_eraseIdx he'))
      (fun e' he' => hs.targets_le f e' (List.mem_of_mem_eraseIdx he')) ?_
    -- a list shortened by one stays within the limit, or was a single entry
    rcases hs.count_le f with hle | hnil
    · exact .inl (by rw [List.length_eraseIdx]; split <;> omega)
    · exact .inr (by rw [hnil]; rfl)

theorem deleteAllForFabric (hs : Bounded maxE maxS maxT s) (f : FabricIndex) :
    Bounded maxE maxS maxT (s.deleteAllForFabric f) := by
  refine ⟨fun f' e he => ?_, fun f' e he => ?_, fun f' => ?_⟩
  · rw [MemoryStore.load_delete] at he
    split at he
    · exact absurd he List.not_mem_nil
    · exact hs.subjects_le f' e he
  · rw [MemoryStore.load_delete] at he
    split at he
    · exact absurd he List.not_mem_nil
    · exact hs.targets_le f' e he
  · rw [MemoryStore.load_delete]
    split
    · exact .inr rfl
    · exact hs.count_le f'

end Bounded

namespace Manager

/-- The manager's store within the manager's own limits. -/
def WithinLimits (m : Manager) : Prop :=
  Bounded m.maxEntriesPerFabric m.maxSubjectsPerEntry m.maxTargetsPerEntry m.store

/-- **Every operation keeps the store within the limits.** -/
theorem withinLimits_step {m : Manager} (hm : m.WithinLimits) (op : Op) :
    (step m op).2.WithinLimits := by
  cases hr : (step m op).1 with
  | error e => rw [step_error hr]; exact hm
  | ok u =>
    obtain ⟨s, hs, hsucc⟩ := step_ok hr
    rw [hs]
    cases op with
    | createEntry f entry =>
      obtain ⟨⟨-, hsub, htgt⟩, hcount, rfl⟩ := hsucc
      exact Bounded.save hm hsub htgt hcount
    | updateEntry f i entry =>
      obtain ⟨⟨-, hsub, htgt⟩, hu⟩ := hsucc
      exact Bounded.update hm hsub htgt hu
    | deleteEntry f i => exact Bounded.delete hm hsucc
    | deleteAllForFabric f =>
      rw [hsucc]
      exact Bounded.deleteAllForFabric hm f
    | loadFromStore =>
      rw [hsucc]
      exact hm

/-! ## Indices -/

/-- `GetEntry` finds `x` at `i` exactly when `i` is a position of the fabric's list holding it. -/
theorem getEntry_eq_some {m : Manager} {f : FabricIndex} {i : Int} {x : Entry} :
    m.getEntry f i = some x ↔ 0 ≤ i ∧ (m.store.load f)[i.toNat]? = some x := by
  unfold getEntry
  dsimp only
  split
  · rename_i hout
    refine ⟨nofun, fun ⟨hi, hx⟩ => ?_⟩
    have := (List.getElem?_eq_some_iff.mp hx).1
    omega
  · rename_i hin
    exact ⟨fun hx => ⟨by omega, hx⟩, fun h => h.2⟩

end Manager

/-- The operation leaves position `i` of fabric `f` in place: it deletes no entry of `f` at or
before `i`, overwrites no entry at `i`, and does not delete all of `f`. -/
def Op.Keeps (f : FabricIndex) (i : Int) : Op → Prop
  | .createEntry _ _ => True
  | .updateEntry f' j _ => f' = f → j ≠ i
  | .deleteEntry f' j => f' = f → i < j
  | .deleteAllForFabric f' => f' ≠ f
  | .loadFromStore => True

namespace Manager

/-- **An operation that keeps a position keeps its entry.** -/
theorem getEntry_step {m : Manager} {f : FabricIndex} {i : Int} {x : Entry}
    (h : m.getEntry f i = some x) (op : Op) (hk : op.Keeps f i) :
    (step m op).2.getEntry f i = some x := by
  rw [getEntry_eq_some] at h ⊢
  obtain ⟨hi, hx⟩ := h
  have hlt : i.toNat < (m.store.load f).length := (List.getElem?_eq_some_iff.mp hx).1
  refine ⟨hi, ?_⟩
  cases hr : (step m op).1 with
  | error e =>
    rw [step_error hr]
    exact hx
  | ok u =>
    obtain ⟨s, hs, hsucc⟩ := step_ok hr
    rw [hs, store_reloadChecker]
    cases op with
    | createEntry f' entry =>
      -- appended after the entry
      obtain ⟨-, -, rfl⟩ := hsucc
      rw [MemoryStore.save, MemoryStore.load_insert]
      split
      · rename_i hf
        subst hf
        rw [List.getElem?_append_left hlt]
        exact hx
      · exact hx
    | updateEntry f' j entry =>
      -- overwritten elsewhere
      obtain ⟨-, hu⟩ := hsucc
      unfold MemoryStore.update at hu
      dsimp only at hu
      split at hu
      · cases hu
      · cases hu
        rw [MemoryStore.load_insert]
        split
        · rename_i hj hf
          subst hf
          have hji := hk rfl
          rw [List.getElem?_set_ne (by omega)]
          exact hx
        · exact hx
    | deleteEntry f' j =>
      -- deleted after the entry
      have hd : m.store.delete f' j = .ok s := hsucc
      unfold MemoryStore.delete at hd
      dsimp only at hd
      split at hd
      · cases hd
      · cases hd
        rw [MemoryStore.load_insert]
        split
        · rename_i hj hf
          subst hf
          have hij := hk rfl
          rw [List.getElem?_eraseIdx_of_lt (by omega)]
          exact hx
        · exact hx
    | deleteAllForFabric f' =>
      have hf : f ≠ f' := Ne.symm hk
      rw [hsucc, MemoryStore.load_delete, if_neg hf]
      exact hx
    | loadFromStore =>
      rw [hsucc]
      exact hx

/-- The run version: operations that all keep the position keep its entry. -/
theorem getEntry_run {m : Manager} {f : FabricIndex} {i : Int} {x : Entry}
    (h : m.getEntry f i = some x) (ops : List Op) (hk : ∀ op ∈ ops, op.Keeps f i) :
    (Mealy.final step m ops).getEntry f i = some x := by
  induction ops generalizing m with
  | nil => exact h
  | cons op ops ih =>
    exact ih (getEntry_step h op (hk op List.mem_cons_self))
      (fun op' hop' => hk op' (List.mem_cons_of_mem op hop'))

/-- `CreateEntry` puts the stamped entry at the index it returns. -/
theorem getEntry_createEntry {m : Manager} {f : FabricIndex} {entry : Entry} {i : Int}
    (h : (m.createEntry f entry).1 = .ok i) :
    (m.createEntry f entry).2.getEntry f i = some { entry with fabricIndex := f } := by
  obtain ⟨rfl, -, -, hstate⟩ := createEntry_ok h
  rw [hstate, getEntry_eq_some]
  refine ⟨by omega, ?_⟩
  simp [MemoryStore.save, MemoryStore.load_insert]

end Manager

/-! ## Runs from a new manager -/

/-- **The ACL store's invariants.** After every run of operations on a new manager, every entry
`GetEntries` returns is valid, carries the fabric index it is filed under, and is within the
subject and target limits; every fabric holds at most `maxEntriesPerFabric` entries, or none
(when that limit is negative); and when `CreateEntry` returns an index, `GetEntry` finds the
entry it created there after every later run of operations that delete no entry of that fabric
at or before it, overwrite none at it, and do not delete all of the fabric. -/
theorem acl_store_invariants (resolver : Option DeviceTypeResolver) (opts : List ManagerOption)
    (ops : List Op) :
    let m := Mealy.final step (newManager resolver opts) ops
    (∀ f, ∀ e ∈ m.getEntries f, validateEntry e = .ok () ∧ e.fabricIndex = f ∧
        (e.subjects.length : Int) ≤ m.maxSubjectsPerEntry ∧
        (e.targets.length : Int) ≤ m.maxTargetsPerEntry) ∧
      (∀ f, ((m.getEntries f).length : Int) ≤ m.maxEntriesPerFabric ∨ m.getEntries f = []) ∧
      ∀ f entry i, (m.createEntry f entry).1 = .ok i → ∀ ops', (∀ op ∈ ops', op.Keeps f i) →
        (Mealy.final step (m.createEntry f entry).2 ops').getEntry f i =
          some { entry with fabricIndex := f } := by
  intro m
  have hinv : Inv (resolver.getD nullDeviceTypeResolver) m := inv_run resolver opts ops
  have hlim : m.WithinLimits :=
    Mealy.final_inv Manager.WithinLimits (fun m' op h => Manager.withinLimits_step h op) ops _
      (by rw [Manager.WithinLimits, newManager, (foldl_apply_options opts _).2]
          exact Bounded.empty)
  refine ⟨fun f e he => ?_, hlim.count_le, fun f entry i h ops' hk =>
    Manager.getEntry_run (Manager.getEntry_createEntry h) ops' hk⟩
  obtain ⟨hfab, hv⟩ := hinv.stored f e he
  exact ⟨hv, hfab, hlim.subjects_le f e he, hlim.targets_le f e he⟩

end Matter.Acl
