import Matter.Acl.Checker
import Matter.Lib.GoMap
import Matter.Lib.Mealy

/-!
# The access control manager (`pkg/acl/manager.go`)

`acl.Manager` keeps the entries of each fabric in a `Store` (here the `MemoryStore` that
`NewManager` creates when given none), and a `Checker` that holds all of them in one list.
Every mutation that succeeds ends with `reloadChecker`, which rebuilds that list from the
store, fabric 1 to fabric 254. A mutation first validates the entry it would store and checks
the manager's limits, and it fails before touching the store.

So the checker is a cache of the store, and its decision is the specification's over the
store (`Inv`):
* `Stored`: every stored entry is valid and carries the index of the fabric it is filed under
  (`CreateEntry` and `UpdateEntry` stamp it before they validate);
* the checker's list is the store's entries of fabrics 1 to 254.

The manager is driven by `Op`, one constructor per mutation, as a Mealy machine (`step`).
The `Store` interface's other implementations, the mutex and `GetEntry` are left out; the
index `CreateEntry` returns is not part of the output.

Results:
* `inv_step`, `inv_run`: every operation keeps the invariant, from the new manager on.
* `check_iff_allowed`: under the invariant, `Check` is `Allowed` over `GetEntries`.
* `step_error`: a failing operation leaves the manager as it was.
* `check_refines_spec`: after every run of operations, both.
-/

namespace Matter.Acl

/-! ## The store -/

/-- `MemoryStore`: the entries of each fabric, in order. -/
structure MemoryStore where
  entries : GoMap FabricIndex (List Entry)

/-- `NewMemoryStore()`. -/
def newMemoryStore : MemoryStore := ⟨GoMap.empty⟩

namespace MemoryStore

/-- `Load(fabricIndex)`: a fabric with no entries has the empty list. -/
def load (s : MemoryStore) (fabricIndex : FabricIndex) : List Entry := (s.entries fabricIndex).getD []

/-- `Save(fabricIndex, entry)`: appended; its index is returned. -/
def save (s : MemoryStore) (fabricIndex : FabricIndex) (entry : Entry) : Int × MemoryStore :=
  ((s.load fabricIndex).length, ⟨s.entries.insert fabricIndex (s.load fabricIndex ++ [entry])⟩)

/-- `Update(fabricIndex, index, entry)`. -/
def update (s : MemoryStore) (fabricIndex : FabricIndex) (index : Int) (entry : Entry) :
    Except AclError MemoryStore :=
  let entries := s.load fabricIndex
  if index < 0 ∨ index ≥ entries.length then .error .indexOutOfRange
  else .ok ⟨s.entries.insert fabricIndex (entries.set index.toNat entry)⟩

/-- `Delete(fabricIndex, index)`. -/
def delete (s : MemoryStore) (fabricIndex : FabricIndex) (index : Int) :
    Except AclError MemoryStore :=
  let entries := s.load fabricIndex
  if index < 0 ∨ index ≥ entries.length then .error .indexOutOfRange
  else .ok ⟨s.entries.insert fabricIndex (entries.eraseIdx index.toNat)⟩

/-- `DeleteAllForFabric(fabricIndex)`. -/
def deleteAllForFabric (s : MemoryStore) (fabricIndex : FabricIndex) : MemoryStore :=
  ⟨s.entries.delete fabricIndex⟩

/-- `Count(fabricIndex)`. -/
def count (s : MemoryStore) (fabricIndex : FabricIndex) : Int := (s.load fabricIndex).length

theorem load_insert (s : MemoryStore) (f f' : FabricIndex) (l : List Entry) :
    (MemoryStore.mk (s.entries.insert f l)).load f' = if f' = f then l else s.load f' := by
  simp only [load, GoMap.insert_apply]
  split <;> rfl

theorem load_delete (s : MemoryStore) (f f' : FabricIndex) :
    (s.deleteAllForFabric f).load f' = if f' = f then [] else s.load f' := by
  simp only [deleteAllForFabric, load, GoMap.delete_apply]
  split <;> rfl

end MemoryStore

/-! ## The manager -/

/-- `Manager`, with its three limits. -/
structure Manager where
  checker : Checker
  store : MemoryStore
  maxEntriesPerFabric : Int
  maxSubjectsPerEntry : Int
  maxTargetsPerEntry : Int

/-- The three `ManagerOption`s of `manager.go`. -/
inductive ManagerOption
  | withMaxEntriesPerFabric (max : Int)
  | withMaxSubjectsPerEntry (max : Int)
  | withMaxTargetsPerEntry (max : Int)

def ManagerOption.apply : ManagerOption → Manager → Manager
  | .withMaxEntriesPerFabric max, m => { m with maxEntriesPerFabric := max }
  | .withMaxSubjectsPerEntry max, m => { m with maxSubjectsPerEntry := max }
  | .withMaxTargetsPerEntry max, m => { m with maxTargetsPerEntry := max }

def defaultMaxEntriesPerFabric : Int := 4

def defaultMaxSubjectsPerEntry : Int := 4

def defaultMaxTargetsPerEntry : Int := 3

/-- `NewManager(nil, resolver, opts...)`: a new memory store, the default limits, then the
options in order. -/
def newManager (resolver : Option DeviceTypeResolver) (opts : List ManagerOption) : Manager :=
  opts.foldl (fun m opt => opt.apply m)
    ⟨newChecker resolver, newMemoryStore, defaultMaxEntriesPerFabric, defaultMaxSubjectsPerEntry,
      defaultMaxTargetsPerEntry⟩

/-- The fabric indices the reload visits: `FabricIndexMin` to `FabricIndexMax`. -/
def fabricIndices : List FabricIndex := (List.range' 1 254).map UInt8.ofNat

namespace Manager

/-- `Check(subject, target, privilege)`. -/
def check (m : Manager) (subject : SubjectDescriptor) (target : RequestPath)
    (privilege : Privilege) : Result :=
  m.checker.check subject target privilege

/-- `GetEntries(fabricIndex)`. -/
def getEntries (m : Manager) (fabricIndex : FabricIndex) : List Entry := m.store.load fabricIndex

/-- `GetEntry(fabricIndex, index)`: `none` is `ErrEntryNotFound`. -/
def getEntry (m : Manager) (fabricIndex : FabricIndex) (index : Int) : Option Entry :=
  let entries := m.store.load fabricIndex
  if index < 0 ∨ index ≥ entries.length then none else entries[index.toNat]?

/-- `reloadChecker()`: the checker's list is rebuilt from the store. -/
def reloadChecker (m : Manager) : Manager :=
  { m with checker := m.checker.setEntries (fabricIndices.flatMap m.store.load) }

/-- `LoadFromStore()`. -/
def loadFromStore (m : Manager) : Manager := m.reloadChecker

/-- `CreateEntry(fabricIndex, entry)`: stamped, validated, within the limits, appended. -/
def createEntry (m : Manager) (fabricIndex : FabricIndex) (entry : Entry) :
    Except AclError Int × Manager :=
  let entry := { entry with fabricIndex }
  match validateEntry entry with
  | .error e => (.error e, m)
  | .ok () =>
    if entry.subjects.length > m.maxSubjectsPerEntry then (.error .tooManySubjects, m)
    else if entry.targets.length > m.maxTargetsPerEntry then (.error .tooManyTargets, m)
    else if m.store.count fabricIndex ≥ m.maxEntriesPerFabric then (.error .tooManyEntries, m)
    else
      let (index, store) := m.store.save fabricIndex entry
      (.ok index, { m with store }.reloadChecker)

/-- `UpdateEntry(fabricIndex, index, entry)`. -/
def updateEntry (m : Manager) (fabricIndex : FabricIndex) (index : Int) (entry : Entry) :
    Except AclError Unit × Manager :=
  let entry := { entry with fabricIndex }
  match validateEntry entry with
  | .error e => (.error e, m)
  | .ok () =>
    if entry.subjects.length > m.maxSubjectsPerEntry then (.error .tooManySubjects, m)
    else if entry.targets.length > m.maxTargetsPerEntry then (.error .tooManyTargets, m)
    else
      match m.store.update fabricIndex index entry with
      | .error e => (.error e, m)
      | .ok store => (.ok (), { m with store }.reloadChecker)

/-- `DeleteEntry(fabricIndex, index)`. -/
def deleteEntry (m : Manager) (fabricIndex : FabricIndex) (index : Int) :
    Except AclError Unit × Manager :=
  match m.store.delete fabricIndex index with
  | .error e => (.error e, m)
  | .ok store => (.ok (), { m with store }.reloadChecker)

/-- `DeleteAllForFabric(fabricIndex)`. -/
def deleteAllForFabric (m : Manager) (fabricIndex : FabricIndex) : Except AclError Unit × Manager :=
  (.ok (), { m with store := m.store.deleteAllForFabric fabricIndex }.reloadChecker)

end Manager

/-- The operations that change the manager. -/
inductive Op
  | createEntry (fabricIndex : FabricIndex) (entry : Entry)
  | updateEntry (fabricIndex : FabricIndex) (index : Int) (entry : Entry)
  | deleteEntry (fabricIndex : FabricIndex) (index : Int)
  | deleteAllForFabric (fabricIndex : FabricIndex)
  | loadFromStore

/-- One operation, with its error. -/
def step (m : Manager) : Op → Except AclError Unit × Manager
  | .createEntry fabricIndex entry =>
    let (r, m) := m.createEntry fabricIndex entry
    (r.map fun _ => (), m)
  | .updateEntry fabricIndex index entry => m.updateEntry fabricIndex index entry
  | .deleteEntry fabricIndex index => m.deleteEntry fabricIndex index
  | .deleteAllForFabric fabricIndex => m.deleteAllForFabric fabricIndex
  | .loadFromStore => (.ok (), m.loadFromStore)

/-! ## The invariant -/

/-- Every entry of the store is valid and stamped with the fabric it is filed under. -/
def Stored (s : MemoryStore) : Prop :=
  ∀ f, ∀ e ∈ s.load f, e.fabricIndex = f ∧ validateEntry e = .ok ()

/-- **The manager's invariant**: the checker, with the resolver it was made with, holds the
store's entries of fabrics 1 to 254, and the store holds only valid entries under their own
fabric index. -/
structure Inv (resolver : DeviceTypeResolver) (m : Manager) : Prop where
  resolver_eq : m.checker.deviceTypeResolver = resolver
  checker_entries : m.checker.entries = fabricIndices.flatMap m.store.load
  stored : Stored m.store

theorem FabricIndex.isValid_iff (f : FabricIndex) :
    f.isValid = true ↔ 1 ≤ f.toNat ∧ f.toNat ≤ 254 := by
  rw [FabricIndex.isValid, Bool.and_eq_true, decide_eq_true_iff, decide_eq_true_iff, GE.ge,
    UInt8.le_iff_toNat_le, UInt8.le_iff_toNat_le]
  rfl

/-- The reload visits exactly the valid fabric indices. -/
theorem mem_fabricIndices (f : FabricIndex) : f ∈ fabricIndices ↔ f.isValid = true := by
  rw [FabricIndex.isValid_iff, fabricIndices, List.mem_map]
  constructor
  · rintro ⟨i, hi, rfl⟩
    rw [List.mem_range'_1] at hi
    rw [UInt8.toNat_ofNat']
    omega
  · rintro ⟨h₁, h₂⟩
    exact ⟨f.toNat, List.mem_range'_1.mpr ⟨h₁, by omega⟩, UInt8.ofNat_toNat⟩

variable {resolver : DeviceTypeResolver}

theorem Stored.empty : Stored newMemoryStore := by
  intro f e he
  simp [newMemoryStore, MemoryStore.load] at he

/-- Appending a valid entry stamped with its fabric. -/
theorem Stored.save {s : MemoryStore} (hs : Stored s) {f : FabricIndex} {entry : Entry}
    (hf : entry.fabricIndex = f) (hv : validateEntry entry = .ok ()) : Stored (s.save f entry).2 := by
  intro f' e he
  rw [MemoryStore.save, MemoryStore.load_insert] at he
  split at he
  · rename_i hff
    subst hff
    rcases List.mem_append.mp he with he | he
    · exact hs f' e he
    · rw [List.mem_singleton.mp he]
      exact ⟨hf, hv⟩
  · exact hs f' e he

theorem Stored.update {s s' : MemoryStore} (hs : Stored s) {f : FabricIndex} {i : Int}
    {entry : Entry} (hf : entry.fabricIndex = f) (hv : validateEntry entry = .ok ())
    (h : s.update f i entry = .ok s') : Stored s' := by
  unfold MemoryStore.update at h
  dsimp only at h
  split at h
  · cases h
  · cases h
    intro f' e he
    rw [MemoryStore.load_insert] at he
    split at he
    · rename_i hff
      subst hff
      rcases List.mem_or_eq_of_mem_set he with he | he
      · exact hs f' e he
      · rw [he]
        exact ⟨hf, hv⟩
    · exact hs f' e he

theorem Stored.delete {s s' : MemoryStore} (hs : Stored s) {f : FabricIndex} {i : Int}
    (h : s.delete f i = .ok s') : Stored s' := by
  unfold MemoryStore.delete at h
  dsimp only at h
  split at h
  · cases h
  · cases h
    intro f' e he
    rw [MemoryStore.load_insert] at he
    split at he
    · rename_i hff
      subst hff
      exact hs f' e (List.mem_of_mem_eraseIdx he)
    · exact hs f' e he

theorem Stored.deleteAllForFabric {s : MemoryStore} (hs : Stored s) (f : FabricIndex) :
    Stored (s.deleteAllForFabric f) := by
  intro f' e he
  rw [MemoryStore.load_delete] at he
  split at he
  · simp at he
  · exact hs f' e he

/-- A reload restores the cache over a store that keeps only stamped valid entries. -/
theorem inv_reloadChecker {m : Manager} (hr : m.checker.deviceTypeResolver = resolver)
    (hs : Stored m.store) : Inv resolver m.reloadChecker :=
  ⟨hr, rfl, hs⟩

/-- The options set limits only. -/
theorem foldl_apply_options (opts : List ManagerOption) (m : Manager) :
    (opts.foldl (fun m opt => opt.apply m) m).checker = m.checker ∧
      (opts.foldl (fun m opt => opt.apply m) m).store = m.store := by
  induction opts generalizing m with
  | nil => exact ⟨rfl, rfl⟩
  | cons opt opts ih =>
    rw [List.foldl_cons, (ih _).1, (ih _).2]
    cases opt <;> exact ⟨rfl, rfl⟩

theorem inv_newManager (resolver : Option DeviceTypeResolver) (opts : List ManagerOption) :
    Inv (resolver.getD nullDeviceTypeResolver) (newManager resolver opts) := by
  obtain ⟨hc, hs⟩ := foldl_apply_options opts _
  refine ⟨by rw [newManager, hc]; rfl, ?_, by rw [newManager, hs]; exact Stored.empty⟩
  rw [newManager, hc, hs]
  simp [newChecker, newMemoryStore, MemoryStore.load]

namespace Manager

variable {m : Manager}

theorem inv_createEntry (hi : Inv resolver m) (f : FabricIndex) (entry : Entry) :
    Inv resolver (m.createEntry f entry).2 := by
  unfold createEntry
  dsimp only
  split
  · exact hi
  · rename_i hv
    split_ifs
    · exact hi
    · exact hi
    · exact hi
    · exact inv_reloadChecker hi.resolver_eq (hi.stored.save rfl hv)

theorem inv_updateEntry (hi : Inv resolver m) (f : FabricIndex) (i : Int) (entry : Entry) :
    Inv resolver (m.updateEntry f i entry).2 := by
  unfold updateEntry
  dsimp only
  split
  · exact hi
  · rename_i hv
    split_ifs
    · exact hi
    · exact hi
    · split
      · exact hi
      · rename_i store hu
        exact inv_reloadChecker hi.resolver_eq (hi.stored.update rfl hv hu)

theorem inv_deleteEntry (hi : Inv resolver m) (f : FabricIndex) (i : Int) :
    Inv resolver (m.deleteEntry f i).2 := by
  unfold deleteEntry
  split
  · exact hi
  · rename_i store hd
    exact inv_reloadChecker hi.resolver_eq (hi.stored.delete hd)

end Manager

/-- **Every operation keeps the invariant.** -/
theorem inv_step {m : Manager} (hi : Inv resolver m) (op : Op) : Inv resolver (step m op).2 := by
  cases op with
  | createEntry f entry => exact Manager.inv_createEntry hi f entry
  | updateEntry f i entry => exact Manager.inv_updateEntry hi f i entry
  | deleteEntry f i => exact Manager.inv_deleteEntry hi f i
  | deleteAllForFabric f =>
    exact inv_reloadChecker hi.resolver_eq (hi.stored.deleteAllForFabric f)
  | loadFromStore => exact inv_reloadChecker hi.resolver_eq hi.stored

theorem inv_run (resolver : Option DeviceTypeResolver) (opts : List ManagerOption) (ops : List Op) :
    Inv (resolver.getD nullDeviceTypeResolver) (Mealy.final step (newManager resolver opts) ops) :=
  Mealy.final_inv (Inv _) (fun _ op hi => inv_step hi op) ops _ (inv_newManager resolver opts)

/-! ## The check is the specification -/

/-- **Under the invariant the check is the specification** over the entries `GetEntries`
returns for the subject's fabric. -/
theorem check_iff_allowed {m : Manager} (hi : Inv resolver m) (s : SubjectDescriptor)
    (p : RequestPath) (r : Privilege) :
    m.check s p r = .allowed ↔ Allowed resolver m.getEntries s p r := by
  rw [Manager.check, Checker.check_eq_allowed_iff, hi.checker_entries]
  refine or_congr Iff.rfl ⟨?_, ?_⟩
  · -- an entry that passes the loop's tests is one of the subject's fabric
    rintro ⟨e, he, hm⟩
    obtain ⟨f, -, hef⟩ := List.mem_flatMap.mp he
    obtain ⟨hfab, hv⟩ := hi.stored f e hef
    simp only [Checker.entryMatches, Bool.and_eq_true, bne_iff_ne, ne_eq, beq_iff_eq] at hm
    obtain ⟨⟨⟨⟨⟨-, hsf⟩, hmode⟩, hgrant⟩, hsub⟩, htarget⟩ := hm
    refine ⟨e, ?_, hmode, hgrant, (Checker.subjectMatches_iff hv hmode).mp hsub, ?_⟩
    · rw [← hsf, hfab]
      exact hef
    · rw [← hi.resolver_eq]
      exact (Checker.targetMatches_iff _ _ _).mp htarget
  · -- an entry the specification finds is in the checker's list, under a valid fabric
    rintro ⟨e, he, hmode, hgrant, hsub, htarget⟩
    obtain ⟨hfab, hv⟩ := hi.stored _ e he
    have hvalid := (validateEntry_ok hv).1
    refine ⟨e, List.mem_flatMap.mpr ⟨s.fabricIndex, ?_, he⟩, ?_⟩
    · rw [mem_fabricIndices, ← hfab]
      exact hvalid
    · have hne : e.fabricIndex ≠ 0 := by
        intro h0
        rw [h0] at hvalid
        exact absurd hvalid (by decide)
      simp only [Checker.entryMatches, Bool.and_eq_true, bne_iff_ne, ne_eq, beq_iff_eq]
      refine ⟨⟨⟨⟨⟨hne, hfab⟩, hmode⟩, hgrant⟩, (Checker.subjectMatches_iff hv hmode).mpr hsub⟩, ?_⟩
      rw [Checker.targetMatches_iff, hi.resolver_eq]
      exact htarget

/-! ## Failing operations -/

/-- **A failing operation changes nothing**: every check comes before the store is touched,
and the memory store itself fails only before it writes. -/
theorem step_error {m : Manager} {op : Op} {e : AclError} (h : (step m op).1 = .error e) :
    (step m op).2 = m := by
  cases op with
  | createEntry f entry =>
    simp only [step, Manager.createEntry] at h ⊢
    split at h
    · rfl
    · split_ifs at h ⊢ <;> first | rfl | cases h
  | updateEntry f i entry =>
    simp only [step, Manager.updateEntry] at h ⊢
    split at h
    · rfl
    · split_ifs at h ⊢
      · rfl
      · rfl
      · split at h
        · rfl
        · cases h
  | deleteEntry f i =>
    simp only [step, Manager.deleteEntry] at h ⊢
    split at h
    · rfl
    · cases h
  | deleteAllForFabric f => cases h
  | loadFromStore => cases h

/-- **The ACL decision refines the specification.** After every run of operations on a new
manager, successful or failing, `Check` allows exactly what `Allowed` grants over the entries
`GetEntries` returns; and an operation that fails leaves the manager, so `GetEntries` and
`Check`, as they were. -/
theorem check_refines_spec (resolver : Option DeviceTypeResolver) (opts : List ManagerOption)
    (ops : List Op) :
    let m := Mealy.final step (newManager resolver opts) ops
    (∀ s p r, m.check s p r = .allowed ↔
      Allowed (resolver.getD nullDeviceTypeResolver) m.getEntries s p r) ∧
      ∀ op e, (step m op).1 = .error e → (step m op).2 = m :=
  ⟨check_iff_allowed (inv_run resolver opts ops), fun _ _ h => step_error h⟩

end Matter.Acl
