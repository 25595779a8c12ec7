import Mathlib.Data.List.Nodup
import Matter.Acl.Types
import Matter.Lib.Range
import Matter.Lib.Mealy

/-!
# The fabric table (`pkg/fabric/table.go`, `info.go`)

`Table` holds the node's fabrics in a Go map keyed by fabric index: the list of its entries,
whose keys are distinct (`nodup`), in the order a `range` loop visits them. Go leaves that
order unspecified and changes it from loop to loop, so a table and every permutation of its
entries are the same map; what a method returns is read up to that (`MapRange.find?_perm`).
`NewTable` clamps `MaxFabrics` into `[5, 254]` and no method changes it, so the table carries
those bounds as fields.

`Add` refuses a full table, a fabric index in use and a fabric whose reference (root public key
and fabric ID) is in use, and files a fabric under its own index. `UpdateLabel` refuses a
non-empty label in use by another fabric and, through `SetLabel`, one over 32 bytes. `Update`
hands the entry to a callback that writes it in place: what the callback wrote stays, also when
it returns an error. Strings are their bytes; the fixed-size arrays (`RootPublicKey`,
`CompressedFabricID`, `IPK`) are byte lists, compared as Go compares arrays.

`Table.Inv` is what the mutations keep: every entry is filed under its own index, no two share
a fabric reference or a non-empty label, labels fit 32 bytes, and the count stays within
`MaxFabrics`. `Add` keeps it for a fabric with an empty label, which is what `NewFabricInfo`
builds, and `Update` for a callback that leaves the index, the reference and the label alone.

The lock of every method is left out (each runs as one step here), and `String` too.

Results:
* `fabric_table_invariants`: over every run of `Add`, `Remove`, `Update`, `UpdateLabel` and
  `Clear` from `NewTable`, with such fabrics and callbacks, the table keeps `Inv`.
* `allocate_fabric_index`: `AllocateFabricIndex` reports the table full exactly when it holds
  `MaxFabrics` fabrics, and otherwise returns the least index of `[1, 254]` not in use; the
  search never runs out of indices.
* `find_by_reference_unique`: in a table of `Inv`, `FindByRootAndFabricID` returns the fabric
  with that reference, if any, whatever order `range` visits the map in.
* `load_fabric_table`: the table `loadState` builds from stored fabrics exists exactly when they
  are at most five, with distinct indices and references, and then holds exactly them.
-/

namespace Matter.Fabric

open Acl (FabricIndex fabricIndexMin fabricIndexMax)

/-- `MinSupportedFabrics`. -/
def minSupportedFabrics : UInt8 := 5

/-- `MaxSupportedFabrics`. -/
def maxSupportedFabrics : UInt8 := 254

/-- `DefaultSupportedFabrics`. -/
def defaultSupportedFabrics : UInt8 := 5

/-- `MaxLabelSize`. -/
def maxLabelSize : Nat := 32

/-- The errors of the table and of `SetLabel`. -/
inductive FabricError
  /-- `ErrTableFull`: "fabric: table full". -/
  | tableFull
  /-- `ErrFabricNotFound`: "fabric: not found". -/
  | fabricNotFound
  /-- `ErrFabricConflict`: "fabric: fabric already exists with same root key and fabric ID". -/
  | fabricConflict
  /-- `ErrLabelConflict`: "fabric: label already in use". -/
  | labelConflict
  /-- `ErrFabricIndexInUse`: "fabric: fabric index already in use". -/
  | fabricIndexInUse
  /-- `ErrInvalidLabel` ("fabric: label exceeds maximum length"), wrapped with the label's
  length in bytes. -/
  | invalidLabel (length : Nat)
  deriving DecidableEq, Repr

/-- `FabricInfo`. `ICAC` is `none` for a nil slice. -/
structure FabricInfo where
  fabricIndex : FabricIndex
  fabricID : UInt64
  nodeID : UInt64
  vendorID : UInt16
  label : List UInt8
  rootCert : List UInt8
  noc : List UInt8
  icac : Option (List UInt8)
  rootPublicKey : List UInt8
  compressedFabricID : List UInt8
  ipk : List UInt8
  deriving DecidableEq, Repr

/-- `NOCStruct`. -/
structure NOCStruct where
  noc : List UInt8
  icac : Option (List UInt8)
  deriving DecidableEq, Repr

/-- `FabricDescriptorStruct`. -/
structure FabricDescriptorStruct where
  rootPublicKey : List UInt8
  vendorID : UInt16
  fabricID : UInt64
  nodeID : UInt64
  label : List UInt8
  deriving DecidableEq, Repr

namespace FabricInfo

/-- The fabric reference: the root public key and the fabric ID. -/
def ref (f : FabricInfo) : List UInt8 × UInt64 := (f.rootPublicKey, f.fabricID)

/-- `HasICAC()`. -/
def hasICAC (f : FabricInfo) : Bool := (f.icac.getD []).length > 0

/-- `SetLabel(label)`. -/
def setLabel (f : FabricInfo) (label : List UInt8) : Except FabricError FabricInfo :=
  if label.length > maxLabelSize then .error (.invalidLabel label.length)
  else .ok { f with label }

/-- `GetNOCStruct()`. -/
def getNOCStruct (f : FabricInfo) : NOCStruct := ⟨f.noc, f.icac⟩

/-- `GetFabricDescriptor()`. -/
def getFabricDescriptor (f : FabricInfo) : FabricDescriptorStruct :=
  ⟨f.rootPublicKey, f.vendorID, f.fabricID, f.nodeID, f.label⟩

/-- `MatchesRootPublicKey(key)`. -/
def matchesRootPublicKey (f : FabricInfo) (key : List UInt8) : Bool := f.rootPublicKey == key

/-- `MatchesCompressedFabricID(cfid)`. -/
def matchesCompressedFabricID (f : FabricInfo) (cfid : List UInt8) : Bool :=
  f.compressedFabricID == cfid

end FabricInfo

/-- `TableConfig`. -/
structure TableConfig where
  maxFabrics : UInt8

/-- `DefaultTableConfig()`. -/
def defaultTableConfig : TableConfig := ⟨defaultSupportedFabrics⟩

/-- The two clamps of `NewTable` on `MaxFabrics`, low then high. -/
def clampMaxFabrics (n : UInt8) : UInt8 :=
  let n := if n < minSupportedFabrics then minSupportedFabrics else n
  if n > maxSupportedFabrics then maxSupportedFabrics else n

theorem clampMaxFabrics_ge (n : UInt8) : minSupportedFabrics ≤ clampMaxFabrics n := by
  simp only [clampMaxFabrics, minSupportedFabrics, maxSupportedFabrics, UInt8.le_iff_toNat_le,
    UInt8.lt_iff_toNat_lt]
  split_ifs <;> simp_all

theorem clampMaxFabrics_le (n : UInt8) : clampMaxFabrics n ≤ maxSupportedFabrics := by
  simp only [clampMaxFabrics, maxSupportedFabrics, UInt8.le_iff_toNat_le, UInt8.lt_iff_toNat_lt]
  split_ifs <;> simp_all

/-- `Table`: the entries of the map by fabric index, and the clamped configuration. -/
@[ext] structure Table where
  fabrics : List (FabricIndex × FabricInfo)
  nodup : (fabrics.map Prod.fst).Nodup
  config : TableConfig
  maxFabrics_ge : minSupportedFabrics ≤ config.maxFabrics
  maxFabrics_le : config.maxFabrics ≤ maxSupportedFabrics

namespace Table

/-- `NewTable(config)`. -/
def newTable (config : TableConfig) : Table where
  fabrics := []
  nodup := List.nodup_nil
  config := { config with maxFabrics := clampMaxFabrics config.maxFabrics }
  maxFabrics_ge := clampMaxFabrics_ge _
  maxFabrics_le := clampMaxFabrics_le _

/-- `Get(index)`: `t.fabrics[index]`. -/
def get (t : Table) (index : FabricIndex) : Option FabricInfo :=
  (t.fabrics.find? (·.1 == index)).map (·.2)

/-- The entries whose index passes `keep`. -/
def restrict (t : Table) (keep : FabricIndex → Bool) : Table :=
  { t with
    fabrics := t.fabrics.filter (keep ·.1)
    nodup := (t.nodup.sublist ((List.filter_sublist).map Prod.fst)) }

/-- The entry of `index` replaced by `info`: `*info = …` through the map's pointer. -/
def set (t : Table) (index : FabricIndex) (info : FabricInfo) : Table :=
  { t with
    fabrics := t.fabrics.map fun e => if e.1 = index then (e.1, info) else e
    nodup := by
      rw [List.map_map]
      convert t.nodup using 2
      funext e
      simp only [Function.comp_apply]
      split <;> rfl }

theorem nodup_append_of_free (t : Table) {index : FabricIndex} {info : FabricInfo}
    (hfree : ¬ (t.get index).isSome) : ((t.fabrics ++ [(index, info)]).map Prod.fst).Nodup := by
  have hnot : ∀ x, (index, x) ∉ t.fabrics := by
    simpa [get, List.find?_eq_none] using hfree
  have h : ∀ e ∈ t.fabrics, e.1 ≠ index := by
    rintro ⟨k, x⟩ he rfl
    exact hnot x he
  simpa [List.nodup_append, t.nodup] using h

/-- `Add(info)`. -/
def add (t : Table) (info : FabricInfo) : Except FabricError Table :=
  if t.fabrics.length ≥ t.config.maxFabrics.toNat then .error .tableFull
  else if hin : (t.get info.fabricIndex).isSome then .error .fabricIndexInUse
  else if t.fabrics.any fun e =>
      e.2.matchesRootPublicKey info.rootPublicKey && e.2.fabricID == info.fabricID then
    .error .fabricConflict
  else .ok { t with
    fabrics := t.fabrics ++ [(info.fabricIndex, info)]
    nodup := t.nodup_append_of_free hin }

/-- `Remove(index)`. -/
def remove (t : Table) (index : FabricIndex) : Except FabricError Table :=
  if (t.get index).isNone then .error .fabricNotFound
  else .ok (t.restrict (· != index))

/-- `Update(index, fn)`: `fn` writes the entry in place and returns its error, if any; what it
wrote stays either way. -/
def update {ε : Type} (t : Table) (index : FabricIndex)
    (fn : FabricInfo → Option ε × FabricInfo) : Except (FabricError ⊕ ε) Unit × Table :=
  match t.get index with
  | none => (.error (.inl .fabricNotFound), t)
  | some info =>
    let (err, info') := fn info
    (match err with
      | some e => .error (.inr e)
      | none => .ok (), t.set index info')

/-- The first fabric `range` visits that passes `p`: the loop of the `FindBy*` methods. -/
def findBy (t : Table) (p : FabricInfo → Bool) : Option FabricInfo :=
  (t.fabrics.find? (p ·.2)).map (·.2)

/-- `FindByRootPublicKey(rootPubKey)`. -/
def findByRootPublicKey (t : Table) (rootPubKey : List UInt8) : Option FabricInfo :=
  t.findBy (·.matchesRootPublicKey rootPubKey)

/-- `FindByCompressedFabricID(cfid)`. -/
def findByCompressedFabricID (t : Table) (cfid : List UInt8) : Option FabricInfo :=
  t.findBy (·.matchesCompressedFabricID cfid)

/-- `FindByFabricID(fabricID)`. -/
def findByFabricID (t : Table) (fabricID : UInt64) : Option FabricInfo :=
  t.findBy (·.fabricID == fabricID)

/-- `FindByRootAndFabricID(rootPubKey, fabricID)`. -/
def findByRootAndFabricID (t : Table) (rootPubKey : List UInt8) (fabricID : UInt64) :
    Option FabricInfo :=
  t.findBy fun info => info.matchesRootPublicKey rootPubKey && info.fabricID == fabricID

/-- `List()`. -/
def list (t : Table) : List FabricInfo := t.fabrics.map (·.2)

/-- `Count()`. -/
def count (t : Table) : Nat := t.fabrics.length

/-- `SupportedFabrics()`. -/
def supportedFabrics (t : Table) : UInt8 := t.config.maxFabrics

/-- `CommissionedFabrics()`: `uint8(len(t.fabrics))`. -/
def commissionedFabrics (t : Table) : UInt8 := UInt8.ofNat t.fabrics.length

/-- The loop of `AllocateFabricIndex` from `idx` up to `FabricIndexMax`. -/
def allocateLoop (t : Table) (idx : FabricIndex) : Except FabricError FabricIndex :=
  if h : idx ≤ fabricIndexMax then
    if (t.get idx).isNone then .ok idx else allocateLoop t (idx + 1)
  else .error .tableFull
termination_by 255 - idx.toNat
decreasing_by
  have h' : idx.toNat ≤ 254 := UInt8.le_iff_toNat_le.mp h
  rw [UInt8.toNat_add, UInt8.toNat_one, Nat.mod_eq_of_lt (by omega)]
  omega

/-- `AllocateFabricIndex()`. -/
def allocateFabricIndex (t : Table) : Except FabricError FabricIndex :=
  if t.fabrics.length ≥ t.config.maxFabrics.toNat then .error .tableFull
  else allocateLoop t fabricIndexMin

/-- `IsFabricIndexInUse(index)`. -/
def isFabricIndexInUse (t : Table) (index : FabricIndex) : Bool := (t.get index).isSome

/-- `UpdateLabel(index, label)`. -/
def updateLabel (t : Table) (index : FabricIndex) (label : List UInt8) :
    Except FabricError Table :=
  match t.get index with
  | none => .error .fabricNotFound
  | some info =>
    if label ≠ [] ∧ t.fabrics.any (fun e => e.1 != index && e.2.label == label) then
      .error .labelConflict
    else (info.setLabel label).map (t.set index)

/-- `IsLabelInUse(label, excludeIndex)`. -/
def isLabelInUse (t : Table) (label : List UInt8) (excludeIndex : FabricIndex) : Bool :=
  if label = [] then false
  else t.fabrics.any fun e => e.1 != excludeIndex && e.2.label == label

/-- `GetNOCsList()`. -/
def getNOCsList (t : Table) : List NOCStruct := t.fabrics.map (·.2.getNOCStruct)

/-- `GetFabricsList()`. -/
def getFabricsList (t : Table) : List FabricDescriptorStruct :=
  t.fabrics.map (·.2.getFabricDescriptor)

/-- `GetTrustedRootCertificates()`. -/
def getTrustedRootCertificates (t : Table) : List (List UInt8) := t.fabrics.map (·.2.rootCert)

/-- `Clear()`. -/
def clear (t : Table) : Table := { t with fabrics := [], nodup := List.nodup_nil }

/-- `ForEach(fn)`: the first error `fn` returns stops the loop. -/
def forEach {ε : Type} (t : Table) (fn : FabricInfo → Except ε Unit) : Except ε Unit :=
  t.fabrics.forM (fn ·.2)

end Table

/-- The fabric table `Node.loadState` builds: a `NewTable` with the zero configuration, then
`Add` of each stored fabric in turn, stopping at the first error. -/
def loadFabricTable (fabrics : List FabricInfo) : Except FabricError Table :=
  fabrics.foldlM Table.add (Table.newTable ⟨0⟩)

namespace Table

/-! ## Lookups and the writes of the methods -/

variable {t : Table}

/-- Keys are distinct: two entries under one index are one entry. -/
theorem eq_of_fst_eq {a b : FabricIndex × FabricInfo} (ha : a ∈ t.fabrics) (hb : b ∈ t.fabrics)
    (h : a.1 = b.1) : a = b :=
  List.inj_on_of_nodup_map t.nodup ha hb h

theorem get_eq_some {index : FabricIndex} {info : FabricInfo} :
    t.get index = some info ↔ (index, info) ∈ t.fabrics := by
  constructor
  · intro h
    obtain ⟨e, he, rfl⟩ := Option.map_eq_some_iff.mp h
    have hkey : e.1 = index := by simpa using List.find?_some he
    rw [← hkey]
    exact List.mem_of_find?_eq_some he
  · intro h
    cases hf : t.fabrics.find? (·.1 == index) with
    | none =>
      rw [List.find?_eq_none] at hf
      exact absurd (beq_self_eq_true index) (hf _ h)
    | some e =>
      have he := List.mem_of_find?_eq_some hf
      have hkey : e.1 = index := by simpa using List.find?_some hf
      rw [get, hf, eq_of_fst_eq he h hkey]
      rfl

theorem get_eq_none {index : FabricIndex} :
    t.get index = none ↔ ∀ info, (index, info) ∉ t.fabrics := by
  rw [← Option.not_isSome_iff_eq_none, Option.isSome_iff_exists]
  simp [get_eq_some]

@[simp] theorem fabrics_newTable (config : TableConfig) : (newTable config).fabrics = [] := rfl

@[simp] theorem config_newTable (config : TableConfig) :
    (newTable config).config = ⟨clampMaxFabrics config.maxFabrics⟩ := rfl

@[simp] theorem fabrics_restrict (keep : FabricIndex → Bool) :
    (t.restrict keep).fabrics = t.fabrics.filter (keep ·.1) := rfl

@[simp] theorem config_restrict (keep : FabricIndex → Bool) :
    (t.restrict keep).config = t.config := rfl

@[simp] theorem fabrics_set (index : FabricIndex) (info : FabricInfo) :
    (t.set index info).fabrics = t.fabrics.map fun e => if e.1 = index then (e.1, info) else e :=
  rfl

@[simp] theorem config_set (index : FabricIndex) (info : FabricInfo) :
    (t.set index info).config = t.config := rfl

@[simp] theorem fabrics_clear : t.clear.fabrics = [] := rfl

@[simp] theorem config_clear : t.clear.config = t.config := rfl

/-- The entries after `set`: the one of `index` holds `info`, the others are as they were. -/
theorem mem_set {index : FabricIndex} {info : FabricInfo} {e : FabricIndex × FabricInfo} :
    e ∈ (t.set index info).fabrics ↔
      (e.1 = index ∧ e.2 = info ∧ (t.get index).isSome) ∨ (e.1 ≠ index ∧ e ∈ t.fabrics) := by
  simp only [fabrics_set, List.mem_map]
  constructor
  · rintro ⟨a, ha, rfl⟩
    by_cases hk : a.1 = index
    · rw [if_pos hk]
      exact .inl ⟨hk, rfl, Option.isSome_iff_exists.mpr ⟨a.2, get_eq_some.mpr (hk ▸ ha)⟩⟩
    · rw [if_neg hk]
      exact .inr ⟨hk, ha⟩
  · rintro (⟨hk, hi, hsome⟩ | ⟨hk, he⟩)
    · obtain ⟨old, hold⟩ := Option.isSome_iff_exists.mp hsome
      refine ⟨(index, old), get_eq_some.mp hold, ?_⟩
      rw [if_pos rfl, ← hk, ← hi]
    · exact ⟨e, he, if_neg hk⟩

/-- What `Add` checks, and the table it returns. -/
theorem add_eq_ok {info : FabricInfo} {t' : Table} :
    t.add info = .ok t' ↔
      t.fabrics.length < t.config.maxFabrics.toNat ∧ t.get info.fabricIndex = none ∧
      (∀ e ∈ t.fabrics, e.2.ref ≠ info.ref) ∧
      t'.fabrics = t.fabrics ++ [(info.fabricIndex, info)] ∧ t'.config = t.config := by
  have href : (t.fabrics.any fun e =>
      e.2.matchesRootPublicKey info.rootPublicKey && e.2.fabricID == info.fabricID) = true ↔
      ∃ e ∈ t.fabrics, e.2.ref = info.ref := by
    simp [FabricInfo.matchesRootPublicKey, FabricInfo.ref]
  unfold add
  by_cases hfull : t.fabrics.length ≥ t.config.maxFabrics.toNat
  · rw [if_pos hfull]
    simp only [reduceCtorEq, false_iff]
    omega
  · rw [if_neg hfull]
    by_cases hin : (t.get info.fabricIndex).isSome
    · rw [dif_pos hin]
      simp only [reduceCtorEq, false_iff]
      rintro ⟨-, hnone, -⟩
      simp [hnone] at hin
    · rw [dif_neg hin]
      by_cases hconf : ∃ e ∈ t.fabrics, e.2.ref = info.ref
      · rw [if_pos (href.mpr hconf)]
        simp only [reduceCtorEq, false_iff]
        rintro ⟨-, -, hne, -⟩
        obtain ⟨e, he, heq⟩ := hconf
        exact hne e he heq
      · rw [if_neg (fun h => hconf (href.mp h))]
        simp only [Except.ok.injEq]
        have hnone : t.get info.fabricIndex = none := by simpa using hin
        constructor
        · rintro rfl
          exact ⟨by omega, hnone, fun e he heq => hconf ⟨e, he, heq⟩, rfl, rfl⟩
        · rintro ⟨-, -, -, hf, hc⟩
          exact Table.ext hf.symm hc.symm

/-- `Add` fails only with its three errors, for the reasons it checks. -/
theorem add_eq_error {info : FabricInfo} {e : FabricError} (h : t.add info = .error e) :
    (e = .tableFull ∧ t.config.maxFabrics.toNat ≤ t.fabrics.length) ∨
    (e = .fabricIndexInUse ∧ (t.get info.fabricIndex).isSome) ∨
    (e = .fabricConflict ∧ ∃ f ∈ t.fabrics, f.2.ref = info.ref) := by
  unfold add at h
  split_ifs at h with hfull hin hconf
  · exact .inl ⟨(Except.error.inj h).symm, hfull⟩
  · exact .inr (.inl ⟨(Except.error.inj h).symm, hin⟩)
  · refine .inr (.inr ⟨(Except.error.inj h).symm, ?_⟩)
    simpa [FabricInfo.matchesRootPublicKey, FabricInfo.ref] using hconf

/-! ## The invariant -/

/-- **The table's invariant.** -/
structure Inv (t : Table) : Prop where
  /-- Every fabric is filed under its own index. -/
  keyed : ∀ e ∈ t.fabrics, e.2.fabricIndex = e.1
  /-- No two fabrics share a fabric reference. -/
  refs : ∀ a ∈ t.fabrics, ∀ b ∈ t.fabrics, a.2.ref = b.2.ref → a.1 = b.1
  /-- No two fabrics share a non-empty label. -/
  labels : ∀ a ∈ t.fabrics, ∀ b ∈ t.fabrics, a.2.label = b.2.label → a.2.label ≠ [] → a.1 = b.1
  /-- Every label fits `MaxLabelSize`. -/
  labelSize : ∀ e ∈ t.fabrics, e.2.label.length ≤ maxLabelSize
  /-- At most `MaxFabrics` fabrics. -/
  count_le : t.fabrics.length ≤ t.config.maxFabrics.toNat

theorem Inv.newTable (config : TableConfig) : (newTable config).Inv :=
  ⟨nofun, nofun, nofun, nofun, by simp⟩

theorem Inv.clear : t.clear.Inv :=
  ⟨nofun, nofun, nofun, nofun, by simp⟩

/-- Dropping entries keeps the invariant. -/
theorem Inv.restrict (ht : t.Inv) (keep : FabricIndex → Bool) : (t.restrict keep).Inv := by
  have hsub : ∀ e ∈ (t.restrict keep).fabrics, e ∈ t.fabrics := fun e he =>
    (List.mem_filter.mp he).1
  refine ⟨fun e he => ht.keyed e (hsub e he), fun a ha b hb => ht.refs a (hsub a ha) b (hsub b hb),
    fun a ha b hb => ht.labels a (hsub a ha) b (hsub b hb), fun e he => ht.labelSize e (hsub e he),
    ?_⟩
  calc (t.restrict keep).fabrics.length ≤ t.fabrics.length := List.length_filter_le _ _
    _ ≤ t.config.maxFabrics.toNat := ht.count_le

/-- `Add` of a fabric with an empty label keeps the invariant. -/
theorem Inv.add (ht : t.Inv) {info : FabricInfo} (hlabel : info.label = []) {t' : Table}
    (h : t.add info = .ok t') : t'.Inv := by
  obtain ⟨hcap, hfree, hfresh, hf, hc⟩ := add_eq_ok.mp h
  -- an entry of `t'` is an old entry or the new one
  have hmem : ∀ e ∈ t'.fabrics, e ∈ t.fabrics ∨ e = (info.fabricIndex, info) := by
    intro e he
    simpa [hf] using he
  refine ⟨?_, ?_, ?_, ?_, ?_⟩
  · intro e he
    rcases hmem e he with he | rfl
    · exact ht.keyed e he
    · rfl
  · intro a ha b hb hab
    rcases hmem a ha with ha | rfl <;> rcases hmem b hb with hb | rfl
    · exact ht.refs a ha b hb hab
    · exact absurd hab (hfresh a ha)
    · exact absurd hab.symm (hfresh b hb)
    · rfl
  · intro a ha b hb hab hne
    rcases hmem a ha with ha | rfl <;> rcases hmem b hb with hb | rfl
    · exact ht.labels a ha b hb hab hne
    · exact absurd (hab.trans hlabel) hne
    · exact absurd hlabel hne
    · rfl
  · intro e he
    rcases hmem e he with he | rfl
    · exact ht.labelSize e he
    · simp [hlabel]
  · rw [hf, hc, List.length_append, List.length_singleton]
    omega

/-- Writing an entry that keeps its index and reference, with a label that fits and no other
fabric holds, keeps the invariant. -/
theorem Inv.set (ht : t.Inv) {index : FabricIndex} {old info : FabricInfo}
    (hold : (index, old) ∈ t.fabrics) (hindex : info.fabricIndex = index) (href : info.ref = old.ref)
    (hsize : info.label.length ≤ maxLabelSize)
    (hlabel : info.label ≠ [] → ∀ e ∈ t.fabrics, e.1 ≠ index → e.2.label ≠ info.label) :
    (t.set index info).Inv := by
  have hsome : (t.get index).isSome := Option.isSome_iff_exists.mpr ⟨old, get_eq_some.mpr hold⟩
  have hmem : ∀ e ∈ (t.set index info).fabrics, (e.1 = index ∧ e.2 = info) ∨
      (e.1 ≠ index ∧ e ∈ t.fabrics) := by
    intro e he
    rcases mem_set.mp he with ⟨hk, hi, -⟩ | hold'
    · exact .inl ⟨hk, hi⟩
    · exact .inr hold'
  -- the reference of the written entry is the old one's, so it meets the others' as before
  have hrefOld : ∀ b ∈ t.fabrics, b.1 ≠ index → b.2.ref ≠ info.ref := by
    intro b hb hne heq
    exact hne (ht.refs b hb _ hold (heq.trans href))
  refine ⟨?_, ?_, ?_, ?_, ?_⟩
  · intro e he
    rcases hmem e he with ⟨hk, hi⟩ | ⟨-, he⟩
    · rw [hi, hk, hindex]
    · exact ht.keyed e he
  · intro a ha b hb hab
    rcases hmem a ha with ⟨hka, hia⟩ | ⟨hka, ha⟩ <;> rcases hmem b hb with ⟨hkb, hib⟩ | ⟨hkb, hb⟩
    · rw [hka, hkb]
    · exact absurd (hia ▸ hab).symm (hrefOld b hb hkb)
    · exact absurd (hib ▸ hab) (hrefOld a ha hka)
    · exact ht.refs a ha b hb hab
  · intro a ha b hb hab hne
    rcases hmem a ha with ⟨hka, hia⟩ | ⟨hka, ha⟩ <;> rcases hmem b hb with ⟨hkb, hib⟩ | ⟨hkb, hb⟩
    · rw [hka, hkb]
    · rw [hia] at hab hne
      exact absurd hab.symm (hlabel hne b hb hkb)
    · rw [hib] at hab
      exact absurd hab (hlabel (hab ▸ hne) a ha hka)
    · exact ht.labels a ha b hb hab hne
  · intro e he
    rcases hmem e he with ⟨-, hi⟩ | ⟨-, he⟩
    · rw [hi]
      exact hsize
    · exact ht.labelSize e he
  · simpa using ht.count_le

theorem Inv.remove (ht : t.Inv) {index : FabricIndex} {t' : Table}
    (h : t.remove index = .ok t') : t'.Inv := by
  unfold Table.remove at h
  split at h
  · cases h
  · cases h
    exact ht.restrict _

/-- What a successful `UpdateLabel` checked, and the table it returns. -/
theorem updateLabel_eq_ok {index : FabricIndex} {label : List UInt8} {t' : Table}
    (h : t.updateLabel index label = .ok t') :
    ∃ info, t.get index = some info ∧ label.length ≤ maxLabelSize ∧
      (label ≠ [] → ∀ e ∈ t.fabrics, e.1 ≠ index → e.2.label ≠ label) ∧
      t' = t.set index { info with label } := by
  unfold updateLabel at h
  split at h
  · cases h
  · rename_i info hget
    by_cases hconf : label ≠ [] ∧ t.fabrics.any (fun e => e.1 != index && e.2.label == label)
    · rw [if_pos hconf] at h
      cases h
    · rw [if_neg hconf] at h
      by_cases hsize : label.length > maxLabelSize
      · simp only [FabricInfo.setLabel, if_pos hsize] at h
        cases h
      · simp only [FabricInfo.setLabel, hsize, if_false] at h
        refine ⟨info, hget, by omega, ?_, (Except.ok.inj h).symm⟩
        intro hne e he hk heq
        exact hconf ⟨hne, List.any_eq_true.mpr ⟨e, he, by simp [hk, heq]⟩⟩

theorem Inv.updateLabel (ht : t.Inv) {index : FabricIndex} {label : List UInt8} {t' : Table}
    (h : t.updateLabel index label = .ok t') : t'.Inv := by
  obtain ⟨info, hget, hsize, hfree, rfl⟩ := updateLabel_eq_ok h
  have hold := get_eq_some.mp hget
  exact ht.set hold (ht.keyed _ hold) rfl hsize hfree

/-- A callback of `Update` that leaves the index, the reference and the label as they are. -/
def KeepsFabric {ε : Type} (fn : FabricInfo → Option ε × FabricInfo) : Prop :=
  ∀ info, (fn info).2.fabricIndex = info.fabricIndex ∧ (fn info).2.ref = info.ref ∧
    (fn info).2.label = info.label

theorem Inv.update (ht : t.Inv) {ε : Type} {index : FabricIndex}
    {fn : FabricInfo → Option ε × FabricInfo} (hfn : KeepsFabric fn) :
    (t.update index fn).2.Inv := by
  unfold Table.update
  split
  · exact ht
  · rename_i info hget
    have hold := get_eq_some.mp hget
    obtain ⟨hindex, href, hlabel⟩ := hfn info
    refine ht.set hold (hindex.trans (ht.keyed _ hold)) href (hlabel ▸ ht.labelSize _ hold) ?_
    -- the label is the old one, which no other fabric holds
    intro hne e he hk heq
    rw [hlabel] at hne heq
    exact hk (ht.labels e he _ hold heq (heq ▸ hne))

/-! ## `AllocateFabricIndex` -/

theorem toNat_succ_of_le {idx : FabricIndex} (h : idx ≤ fabricIndexMax) :
    (idx + 1).toNat = idx.toNat + 1 := by
  have h' : idx.toNat ≤ 254 := UInt8.le_iff_toNat_le.mp h
  rw [UInt8.toNat_add, UInt8.toNat_one, Nat.mod_eq_of_lt (by omega)]

/-- The loop returns the first index from `idx` up to `FabricIndexMax` that no fabric uses. -/
theorem allocateLoop_ok {idx r : FabricIndex} (h : t.allocateLoop idx = .ok r) :
    idx.toNat ≤ r.toNat ∧ r ≤ fabricIndexMax ∧ t.get r = none ∧
      ∀ j : FabricIndex, idx.toNat ≤ j.toNat → j.toNat < r.toNat → (t.get j).isSome := by
  fun_induction allocateLoop t idx with
  | case1 idx hle hfree =>
    cases h
    exact ⟨le_rfl, hle, Option.isNone_iff_eq_none.mp hfree, fun j h1 h2 => by omega⟩
  | case2 idx hle hused ih =>
    obtain ⟨h1, h2, h3, h4⟩ := ih h
    have hsucc := toNat_succ_of_le hle
    refine ⟨by omega, h2, h3, fun j hj1 hj2 => ?_⟩
    -- `idx` itself is used; the indices after it are those of the next turn
    by_cases hj : j = idx
    · subst hj
      simpa [Option.isSome_iff_ne_none] using hused
    · have : idx.toNat ≠ j.toNat := fun e => hj (UInt8.toNat_inj.mp e).symm
      exact h4 j (by omega) hj2
  | case3 idx hgt => cases h

/-- The loop reports the table full only when every index from `idx` up to `FabricIndexMax` is
used. -/
theorem allocateLoop_error {idx : FabricIndex} {e : FabricError} (h : t.allocateLoop idx = .error e) :
    e = .tableFull ∧ ∀ j : FabricIndex, idx.toNat ≤ j.toNat → j ≤ fabricIndexMax → (t.get j).isSome := by
  fun_induction allocateLoop t idx with
  | case1 idx hle hfree => cases h
  | case2 idx hle hused ih =>
    obtain ⟨he, hall⟩ := ih h
    have hsucc := toNat_succ_of_le hle
    refine ⟨he, fun j hj1 hj2 => ?_⟩
    by_cases hj : j = idx
    · subst hj
      simpa [Option.isSome_iff_ne_none] using hused
    · have : idx.toNat ≠ j.toNat := fun e => hj (UInt8.toNat_inj.mp e).symm
      exact hall j (by omega) hj2
  | case3 idx hgt =>
    cases h
    refine ⟨rfl, fun j hj1 hj2 => absurd (UInt8.le_iff_toNat_le.mp hj2) ?_⟩
    have : fabricIndexMax.toNat < idx.toNat := UInt8.lt_iff_toNat_lt.mp (UInt8.not_le.mp hgt)
    omega

/-- The 254 valid fabric indices. -/
theorem nodup_validIndices : ((List.range' 1 254).map UInt8.ofNat).Nodup := by
  refine List.Nodup.map_on (fun a ha b hb hab => ?_) List.nodup_range'
  have ha' := (List.mem_range'_1.mp ha).2
  have hb' := (List.mem_range'_1.mp hb).2
  have := congrArg UInt8.toNat hab
  rw [UInt8.toNat_ofNat', UInt8.toNat_ofNat'] at this
  rwa [Nat.mod_eq_of_lt (by omega), Nat.mod_eq_of_lt (by omega)] at this

/-- **Below capacity an index is free**: a table with fewer than `MaxFabrics` fabrics, a bound of
at most 254, leaves one of the 254 valid indices unused. -/
theorem exists_free_index (hcap : t.fabrics.length < t.config.maxFabrics.toNat) :
    ∃ j : FabricIndex, 1 ≤ j.toNat ∧ j ≤ fabricIndexMax ∧ t.get j = none := by
  have hmax : t.config.maxFabrics.toNat ≤ 254 := UInt8.le_iff_toNat_le.mp t.maxFabrics_le
  have hlen : (t.fabrics.map Prod.fst).length < ((List.range' 1 254).map UInt8.ofNat).length := by
    simp only [List.length_map, List.length_range']
    omega
  obtain ⟨j, hj, hnot⟩ := MapRange.exists_mem_not_mem_of_length_lt nodup_validIndices hlen
  obtain ⟨i, hi, rfl⟩ := List.mem_map.mp hj
  have hi' := List.mem_range'_1.mp hi
  have hval : (UInt8.ofNat i).toNat = i := by
    rw [UInt8.toNat_ofNat', Nat.mod_eq_of_lt (by omega)]
  have h254 : fabricIndexMax.toNat = 254 := rfl
  refine ⟨UInt8.ofNat i, by omega, UInt8.le_iff_toNat_le.mpr (by omega), ?_⟩
  exact get_eq_none.mpr fun info hmem => hnot (List.mem_map.mpr ⟨_, hmem, rfl⟩)

/-! ## The `FindBy*` lookups -/

/-- A `FindBy*` test that at most one fabric passes gives one answer in every order of the map. -/
theorem findBy_perm {t' : Table} (hp : t'.fabrics.Perm t.fabrics) {p : FabricInfo → Bool}
    (hu : MapRange.AtMostOne (p ·.2) t.fabrics) : t'.findBy p = t.findBy p := by
  rw [findBy, findBy, MapRange.find?_perm hp.symm hu]

/-- A `FindBy*` test that at most one fabric passes finds exactly that fabric. -/
theorem findBy_eq_some (ht : t.Inv) {p : FabricInfo → Bool}
    (hu : MapRange.AtMostOne (p ·.2) t.fabrics) {info : FabricInfo} :
    t.findBy p = some info ↔ (info.fabricIndex, info) ∈ t.fabrics ∧ p info = true := by
  constructor
  · intro h
    obtain ⟨e, he, rfl⟩ := Option.map_eq_some_iff.mp h
    have hmem := List.mem_of_find?_eq_some he
    have hpe := List.find?_some he
    refine ⟨?_, hpe⟩
    rw [ht.keyed e hmem]
    exact hmem
  · rintro ⟨hmem, hp⟩
    cases hf : t.fabrics.find? (p ·.2) with
    | none =>
      rw [List.find?_eq_none] at hf
      exact absurd hp (hf _ hmem)
    | some e =>
      have he := List.mem_of_find?_eq_some hf
      have hpe := List.find?_some hf
      rw [findBy, hf, hu e he _ hmem hpe hp]
      rfl

/-! ## Adding fabrics one after another -/

/-- The conditions under which `Add` of each of `fs` in turn succeeds from `t`. -/
def Accepts (t : Table) (fs : List FabricInfo) : Prop :=
  t.fabrics.length + fs.length ≤ t.config.maxFabrics.toNat ∧
    (t.fabrics.map Prod.fst ++ fs.map (·.fabricIndex)).Nodup ∧
    (t.fabrics.map (·.2.ref) ++ fs.map (·.ref)).Nodup

/-- After a successful `Add` of `f`, the table accepts `fs` exactly when the one before
accepted `f` then `fs`. -/
theorem accepts_cons {f : FabricInfo} {fs : List FabricInfo} {t' : Table}
    (h : t.add f = .ok t') : t.Accepts (f :: fs) ↔ t'.Accepts fs := by
  obtain ⟨-, -, -, hf, hc⟩ := add_eq_ok.mp h
  simp only [Accepts, hf, hc, List.map_append, List.map_cons, List.map_nil, List.length_append,
    List.length_cons, List.length_nil, List.append_assoc, List.singleton_append]
  constructor <;> rintro ⟨hlen, hkeys, hrefs⟩ <;> exact ⟨by omega, hkeys, hrefs⟩

/-- A table does not accept `f` then `fs` when `Add` of `f` fails. -/
theorem not_accepts_of_add_error {f : FabricInfo} {fs : List FabricInfo} {e : FabricError}
    (h : t.add f = .error e) : ¬ t.Accepts (f :: fs) := by
  rintro ⟨hlen, hkeys, hrefs⟩
  rcases add_eq_error h with ⟨-, hfull⟩ | ⟨-, hin⟩ | ⟨-, g, hg, hgref⟩
  · simp only [List.length_cons] at hlen
    omega
  · -- the index is a key of the table already
    obtain ⟨info, hinfo⟩ := Option.isSome_iff_exists.mp hin
    have hmem : f.fabricIndex ∈ t.fabrics.map Prod.fst :=
      List.mem_map.mpr ⟨_, get_eq_some.mp hinfo, rfl⟩
    exact (List.nodup_append.mp hkeys).2.2 _ hmem _ List.mem_cons_self rfl
  · -- the reference is one of the table's already
    have hmem : f.ref ∈ t.fabrics.map (·.2.ref) := List.mem_map.mpr ⟨g, hg, hgref⟩
    exact (List.nodup_append.mp hrefs).2.2 _ hmem _ List.mem_cons_self rfl

/-- **`Add` of each fabric in turn**, from a table within its bound and with distinct
references, succeeds exactly when the table accepts them, and appends them in order. -/
theorem foldlM_add_eq_ok {t : Table} (fs : List FabricInfo) {t' : Table}
    (hlen : t.fabrics.length ≤ t.config.maxFabrics.toNat) (hrefs : (t.fabrics.map (·.2.ref)).Nodup) :
    fs.foldlM add t = .ok t' ↔ t.Accepts fs ∧
      t'.fabrics = t.fabrics ++ fs.map (fun f => (f.fabricIndex, f)) ∧ t'.config = t.config := by
  induction fs generalizing t with
  | nil =>
    simp only [List.foldlM_nil, List.map_nil, List.append_nil]
    constructor
    · intro h
      have ht : t = t' := Except.ok.inj h
      subst ht
      exact ⟨⟨by simpa using hlen, by simpa using t.nodup, by simpa using hrefs⟩, rfl, rfl⟩
    · rintro ⟨-, hf, hc⟩
      exact congrArg Except.ok (Table.ext hf.symm hc.symm)
  | cons f fs ih =>
    rw [List.foldlM_cons]
    cases hadd : t.add f with
    | error e =>
      simp only [bind, Except.bind, reduceCtorEq, false_iff]
      exact fun ⟨hacc, _⟩ => not_accepts_of_add_error hadd hacc
    | ok t1 =>
      obtain ⟨hcap, -, hfresh, hf, hc⟩ := add_eq_ok.mp hadd
      -- the table after `Add` of `f` is within its bound and has distinct references
      have hlen1 : t1.fabrics.length ≤ t1.config.maxFabrics.toNat := by
        rw [hf, hc, List.length_append, List.length_singleton]
        omega
      have hrefs1 : (t1.fabrics.map (·.2.ref)).Nodup := by
        rw [hf, List.map_append, List.nodup_append]
        refine ⟨hrefs, List.nodup_singleton _, ?_⟩
        intro a ha b hb hab
        obtain ⟨e, he, rfl⟩ := List.mem_map.mp ha
        rw [List.map_singleton, List.mem_singleton] at hb
        exact hfresh e he (hab.trans hb)
      simp only [bind, Except.bind]
      rw [ih hlen1 hrefs1, accepts_cons hadd, hf, hc, List.map_cons, List.append_assoc,
        List.singleton_append]

end Table

/-- The methods that change the table; `ε` is the error type of `Update`'s callbacks. -/
inductive Op (ε : Type)
  | add (info : FabricInfo)
  | remove (index : FabricIndex)
  | update (index : FabricIndex) (fn : FabricInfo → Option ε × FabricInfo)
  | updateLabel (index : FabricIndex) (label : List UInt8)
  | clear

/-- A method that fails before it writes leaves the table as it was. -/
def Table.commit {ε : Type} (t : Table) :
    Except FabricError Table → Except (FabricError ⊕ ε) Unit × Table
  | .ok t' => (.ok (), t')
  | .error e => (.error (.inl e), t)

/-- One method, with its error. -/
def step {ε : Type} (t : Table) : Op ε → Except (FabricError ⊕ ε) Unit × Table
  | .add info => t.commit (t.add info)
  | .remove index => t.commit (t.remove index)
  | .update index fn => t.update index fn
  | .updateLabel index label => t.commit (t.updateLabel index label)
  | .clear => (.ok (), t.clear)

/-- The calls the invariant holds for: `Add` of a fabric with an empty label, as
`NewFabricInfo` builds, and `Update` with a callback that keeps the fabric. -/
def Op.Admissible {ε : Type} : Op ε → Prop
  | .add info => info.label = []
  | .update _ fn => Table.KeepsFabric fn
  | _ => True

theorem Table.Inv.commit {ε : Type} {t : Table} (ht : t.Inv) {r : Except FabricError Table}
    (hr : ∀ t', r = .ok t' → t'.Inv) : (t.commit r : Except (FabricError ⊕ ε) Unit × Table).2.Inv := by
  cases r with
  | ok t' => exact hr t' rfl
  | error e => exact ht

theorem Table.Inv.step {ε : Type} {t : Table} (ht : t.Inv) {op : Op ε} (hop : op.Admissible) :
    (step t op).2.Inv := by
  cases op with
  | add info => exact ht.commit fun _ h => ht.add hop h
  | remove index => exact ht.commit fun _ h => ht.remove h
  | update index fn => exact ht.update hop
  | updateLabel index label => exact ht.commit fun _ h => ht.updateLabel h
  | clear => exact Table.Inv.clear

/-- A fabric as `NewFabricInfo` leaves it, under the root key `[key]`, with empty certificates. -/
def sampleFabric (index : FabricIndex) (key : UInt8) (fabricID : UInt64) : FabricInfo where
  fabricIndex := index
  fabricID := fabricID
  nodeID := 1
  vendorID := 0xFFF1
  label := []
  rootCert := []
  noc := []
  icac := none
  rootPublicKey := [key]
  compressedFabricID := []
  ipk := []

/-- Two fabrics under one root, a label, a removal and an `Update` that writes nothing new. -/
def sampleRun : List (Op Empty) :=
  [.add (sampleFabric 1 4 7), .add (sampleFabric 2 4 8), .updateLabel 1 [0x6B],
    .remove 2, .update 1 fun info => (none, info)]

/-- **The fabric table's invariant over every run.** From `NewTable`, after any sequence of
`Add`, `Remove`, `Update`, `UpdateLabel` and `Clear` calls, where each added fabric has an empty
label and each `Update` callback leaves the index, the reference and the label alone: every
fabric is filed under its own index, no two share a fabric reference or a non-empty label,
every label fits 32 bytes, and the table holds at most `MaxFabrics` fabrics, a bound in
`[5, 254]`. -/
theorem fabric_table_invariants {ε : Type} (config : TableConfig) (ops : List (Op ε))
    (hops : ∀ op ∈ ops, op.Admissible) :
    (Mealy.final step (Table.newTable config) ops).Inv ∧
    minSupportedFabrics ≤ (Mealy.final step (Table.newTable config) ops).config.maxFabrics ∧
    (Mealy.final step (Table.newTable config) ops).config.maxFabrics ≤ maxSupportedFabrics :=
  ⟨Mealy.final_inv_of_forall Table.Inv Op.Admissible (fun _ _ hop ht => ht.step hop) ops _ hops
    (Table.Inv.newTable config), Table.maxFabrics_ge _, Table.maxFabrics_le _⟩

theorem fabric_table_invariants_sample :
    (∀ op ∈ sampleRun, op.Admissible) ∧
    (Mealy.final step (Table.newTable defaultTableConfig) sampleRun).Inv ∧
    minSupportedFabrics ≤
      (Mealy.final step (Table.newTable defaultTableConfig) sampleRun).config.maxFabrics ∧
    (Mealy.final step (Table.newTable defaultTableConfig) sampleRun).config.maxFabrics ≤
      maxSupportedFabrics := by
  have hops : ∀ op ∈ sampleRun, op.Admissible := by
    intro op hop
    simp only [sampleRun, List.mem_cons, List.not_mem_nil, or_false] at hop
    rcases hop with rfl | rfl | rfl | rfl | rfl
    · rfl
    · rfl
    · trivial
    · trivial
    · exact fun _ => ⟨rfl, rfl, rfl⟩
  exact ⟨hops, fabric_table_invariants defaultTableConfig sampleRun hops⟩

/-- **`AllocateFabricIndex` returns the least free index.** A table that holds `MaxFabrics`
fabrics is reported full; below that bound the search never runs out of indices, and returns the
least index of `[1, 254]` that no fabric uses. -/
theorem allocate_fabric_index (t : Table) :
    (t.config.maxFabrics.toNat ≤ t.fabrics.length → t.allocateFabricIndex = .error .tableFull) ∧
    (t.fabrics.length < t.config.maxFabrics.toNat → ∃ idx, t.allocateFabricIndex = .ok idx ∧
      1 ≤ idx.toNat ∧ idx.toNat ≤ 254 ∧ t.get idx = none ∧
      ∀ j : FabricIndex, 1 ≤ j.toNat → j.toNat < idx.toNat → (t.get j).isSome) := by
  constructor
  · intro hfull
    rw [Table.allocateFabricIndex, if_pos hfull]
  · intro hcap
    rw [Table.allocateFabricIndex, if_neg (Nat.not_le.mpr hcap)]
    cases h : t.allocateLoop fabricIndexMin with
    | ok idx =>
      obtain ⟨h1, h2, h3, h4⟩ := Table.allocateLoop_ok h
      exact ⟨idx, rfl, h1, UInt8.le_iff_toNat_le.mp h2, h3, h4⟩
    | error e =>
      -- the loop gives up only when all 254 indices are used, and fewer fabrics cannot use them
      obtain ⟨-, hall⟩ := Table.allocateLoop_error h
      obtain ⟨j, hj1, hj2, hfree⟩ := Table.exists_free_index hcap
      exact absurd (hall j hj1 hj2) (by simp [hfree])

theorem allocate_fabric_index_sample :
    ∃ idx, (Table.newTable defaultTableConfig).allocateFabricIndex = .ok idx ∧
      1 ≤ idx.toNat ∧ idx.toNat ≤ 254 ∧ (Table.newTable defaultTableConfig).get idx = none ∧
      ∀ j : FabricIndex, 1 ≤ j.toNat → j.toNat < idx.toNat →
        ((Table.newTable defaultTableConfig).get j).isSome :=
  (allocate_fabric_index _).2 (by decide)

/-- **`FindByRootAndFabricID` finds the fabric of the reference, in every order.** In a table of
`Inv`, and whatever order `range` visits its entries in (`t'`), the lookup returns exactly the
fabric whose root public key and fabric ID are those asked for, if the table holds one. -/
theorem find_by_reference_unique {t : Table} (ht : t.Inv) {t' : Table}
    (hp : t'.fabrics.Perm t.fabrics) (rootPubKey : List UInt8) (fabricID : UInt64)
    (info : FabricInfo) :
    t'.findByRootAndFabricID rootPubKey fabricID = some info ↔
      (info.fabricIndex, info) ∈ t.fabrics ∧ info.ref = (rootPubKey, fabricID) := by
  have htest : ∀ f : FabricInfo,
      (f.matchesRootPublicKey rootPubKey && f.fabricID == fabricID) = true ↔
        f.ref = (rootPubKey, fabricID) := by
    intro f
    simp [FabricInfo.matchesRootPublicKey, FabricInfo.ref]
  -- two fabrics of one reference are one entry
  have hu : MapRange.AtMostOne
      (fun e => e.2.matchesRootPublicKey rootPubKey && e.2.fabricID == fabricID) t.fabrics := by
    intro a ha b hb hpa hpb
    exact Table.eq_of_fst_eq ha hb
      (ht.refs a ha b hb (((htest _).mp hpa).trans ((htest _).mp hpb).symm))
  rw [Table.findByRootAndFabricID, Table.findBy_perm hp hu, Table.findBy_eq_some ht hu, htest]

theorem find_by_reference_unique_sample :
    ∃ t t' : Table, t.Inv ∧ t'.fabrics.Perm t.fabrics ∧
      (t'.findByRootAndFabricID [4] 8 = some (sampleFabric 2 4 8) ↔
        (2, sampleFabric 2 4 8) ∈ t.fabrics ∧ (sampleFabric 2 4 8).ref = ([4], 8)) := by
  let t : Table := ⟨[(1, sampleFabric 1 4 7), (2, sampleFabric 2 4 8)], by decide, ⟨5⟩,
    by decide, by decide⟩
  let t' : Table := ⟨[(2, sampleFabric 2 4 8), (1, sampleFabric 1 4 7)], by decide, ⟨5⟩,
    by decide, by decide⟩
  have ht : t.Inv := ⟨by decide, by decide, by decide, by decide, by decide⟩
  have hp : t'.fabrics.Perm t.fabrics := List.Perm.swap _ _ _
  exact ⟨t, t', ht, hp, find_by_reference_unique ht hp [4] 8 (sampleFabric 2 4 8)⟩

/-- **Loading the stored fabrics.** The table `loadState` builds from the stored fabrics exists
exactly when they are at most five (the zero configuration is clamped to five), with distinct
fabric indices and distinct fabric references; it then holds exactly them, each under its own
index, in the order they were stored. -/
theorem load_fabric_table (fabrics : List FabricInfo) :
    ((∃ t, loadFabricTable fabrics = .ok t) ↔
      fabrics.length ≤ 5 ∧ (fabrics.map (·.fabricIndex)).Nodup ∧ (fabrics.map (·.ref)).Nodup) ∧
    ∀ t, loadFabricTable fabrics = .ok t → t.fabrics = fabrics.map fun f => (f.fabricIndex, f) := by
  -- `NewTable` with `MaxFabrics = 0` is empty and bounded by five
  have hmax : (clampMaxFabrics 0).toNat = 5 := rfl
  have hload := fun t => @Table.foldlM_add_eq_ok (Table.newTable ⟨0⟩) fabrics t (by simp) (by simp)
  have hacc : (Table.newTable ⟨0⟩).Accepts fabrics ↔
      fabrics.length ≤ 5 ∧ (fabrics.map (·.fabricIndex)).Nodup ∧ (fabrics.map (·.ref)).Nodup := by
    simp [Table.Accepts, hmax]
  refine ⟨⟨fun ⟨t, h⟩ => hacc.mp ((hload t).mp h).1, fun h => ?_⟩,
    fun t h => by simpa using ((hload t).mp h).2.1⟩
  -- the table that holds the stored fabrics is the one `Add` builds
  have hnodup : ((fabrics.map fun f => (f.fabricIndex, f)).map Prod.fst).Nodup := by
    simpa [List.map_map, Function.comp_def] using h.2.1
  exact ⟨⟨_, hnodup, _, (Table.newTable ⟨0⟩).maxFabrics_ge, (Table.newTable ⟨0⟩).maxFabrics_le⟩,
    (hload _).mpr ⟨hacc.mpr h, by simp, rfl⟩⟩

theorem load_fabric_table_sample :
    (∃ t, loadFabricTable [sampleFabric 1 4 7, sampleFabric 2 4 8] = .ok t) ∧
    ∀ t, loadFabricTable [sampleFabric 1 4 7, sampleFabric 2 4 8] = .ok t →
      t.fabrics = [(1, sampleFabric 1 4 7), (2, sampleFabric 2 4 8)] :=
  ⟨(load_fabric_table _).1.mpr ⟨by decide, by decide, by decide⟩, (load_fabric_table _).2⟩

end Matter.Fabric
