import Matter.Lib.Except
import Mathlib.Data.List.Basic

/-!
# Access control entries and their validation (`pkg/acl/types.go`, `enums.go`, `cat.go`,
`validate.go`)

The access control list of Spec 9.10 is a list of entries, each owned by a fabric, granting a
privilege to a list of subjects (node IDs, CASE Authenticated Tags as node IDs, or groups) on
a list of targets (a cluster, an endpoint or a device type, each optional). The Go types are
named integers (`Privilege`, `AuthMode` are `uint8`, a CAT is a `uint32`, a node ID a
`uint64`); so they are here, with the source's constants.

* `Privilege.grants` is the privilege hierarchy of Spec 6.6.6.2 as `Grants` spells it out.
* `CATValues.checkSubjectAgainstCATs` is the CAT match of Spec 6.6.2.1.2: the ACL subject's
  identifier, and a version of the subject's own tag at least the subject's.
* `validateEntry` is `ValidateEntry`, which the manager applies to every entry it stores.

`CATValues` is the Go array `[3]CASEAuthTag`, here a list: nothing reads its length.
`RequestPath` keeps the cluster and the endpoint, the two fields `Check` reads.

Results:
* `validateSubject_authMode_of_cat`: a CAT subject is valid only under CASE.
* `validateEntry_ok`: what a valid entry satisfies.
-/

namespace Matter.Acl

/-! ## Fabric indices, privileges and authentication modes -/

/-- `fabric.FabricIndex`. -/
abbrev FabricIndex := UInt8

/-- `FabricIndexMin`, `FabricIndexMax`. -/
def fabricIndexMin : FabricIndex := 1

def fabricIndexMax : FabricIndex := 254

/-- `FabricIndex.IsValid()`. -/
def FabricIndex.isValid (f : FabricIndex) : Bool := f ≥ fabricIndexMin && f ≤ fabricIndexMax

/-- `Privilege`. -/
abbrev Privilege := UInt8

def privilegeView : Privilege := 1

def privilegeProxyView : Privilege := 2

def privilegeOperate : Privilege := 3

def privilegeManage : Privilege := 4

def privilegeAdminister : Privilege := 5

/-- `Privilege.IsValid()`. -/
def Privilege.isValid (p : Privilege) : Bool := p ≥ privilegeView && p ≤ privilegeAdminister

/-- `Privilege.Grants(requested)`. -/
def Privilege.grants (p requested : Privilege) : Bool :=
  if p = privilegeView then requested == privilegeView
  else if p = privilegeProxyView then requested == privilegeProxyView || requested == privilegeView
  else if p = privilegeOperate then requested == privilegeOperate || requested == privilegeView
  else if p = privilegeManage then
    requested == privilegeManage || requested == privilegeOperate || requested == privilegeView
  else if p = privilegeAdminister then
    requested == privilegeAdminister || requested == privilegeManage ||
      requested == privilegeOperate || requested == privilegeView || requested == privilegeProxyView
  else false

/-- `AuthMode`. -/
abbrev AuthMode := UInt8

def authModePASE : AuthMode := 1

def authModeCASE : AuthMode := 2

def authModeGroup : AuthMode := 3

/-- `Result` of a check. -/
inductive Result
  | denied
  | allowed
  | restricted
  deriving DecidableEq, Repr

/-! ## Node IDs and CASE Authenticated Tags -/

def nodeIDMinOperational : UInt64 := 0x0000000000000001

def nodeIDMaxOperational : UInt64 := 0xFFFFFFEFFFFFFFFF

def nodeIDMinGroup : UInt64 := 0xFFFFFFFFFFFF0001

def nodeIDMaxGroup : UInt64 := 0xFFFFFFFFFFFFFFFF

def nodeIDMinPAKE : UInt64 := 0xFFFFFFFB00000000

def nodeIDMaxPAKE : UInt64 := 0xFFFFFFFB0000FFFF

def nodeIDMinCAT : UInt64 := 0xFFFFFFFD00000000

def nodeIDMaxCAT : UInt64 := 0xFFFFFFFDFFFFFFFF

def nodeIDCATMask : UInt64 := 0x00000000FFFFFFFF

/-- `IsOperationalNodeID`. -/
def isOperationalNodeID (nodeID : UInt64) : Bool :=
  nodeID ≥ nodeIDMinOperational && nodeID ≤ nodeIDMaxOperational

/-- `IsGroupNodeID`. -/
def isGroupNodeID (nodeID : UInt64) : Bool := nodeID ≥ nodeIDMinGroup && nodeID ≤ nodeIDMaxGroup

/-- `IsPAKENodeID`. -/
def isPAKENodeID (nodeID : UInt64) : Bool := nodeID ≥ nodeIDMinPAKE && nodeID ≤ nodeIDMaxPAKE

/-- `GroupIDFromNodeID`. -/
def groupIDFromNodeID (nodeID : UInt64) : UInt16 :=
  if !isGroupNodeID nodeID then 0 else (nodeID &&& 0xFFFF).toUInt16

/-- `IsValidGroupID`. -/
def isValidGroupID (groupID : UInt16) : Bool := groupID ≥ 0x0001 && groupID ≤ 0xFFFF

/-- `IsCATNodeID`. -/
def isCATNodeID (nodeID : UInt64) : Bool := nodeID ≥ nodeIDMinCAT && nodeID ≤ nodeIDMaxCAT

/-- The node ID kinds are ranges; as such they are compared by `omega`. -/
theorem range_iff (n lo hi : UInt64) :
    (n ≥ lo && n ≤ hi) = true ↔ lo.toNat ≤ n.toNat ∧ n.toNat ≤ hi.toNat := by
  rw [Bool.and_eq_true, decide_eq_true_iff, decide_eq_true_iff, GE.ge, UInt64.le_iff_toNat_le,
    UInt64.le_iff_toNat_le]

theorem isGroupNodeID_iff (n : UInt64) :
    isGroupNodeID n = true ↔ 0xFFFFFFFFFFFF0001 ≤ n.toNat ∧ n.toNat ≤ 0xFFFFFFFFFFFFFFFF :=
  range_iff n _ _

theorem isPAKENodeID_iff (n : UInt64) :
    isPAKENodeID n = true ↔ 0xFFFFFFFB00000000 ≤ n.toNat ∧ n.toNat ≤ 0xFFFFFFFB0000FFFF :=
  range_iff n _ _

theorem isCATNodeID_iff (n : UInt64) :
    isCATNodeID n = true ↔ 0xFFFFFFFD00000000 ≤ n.toNat ∧ n.toNat ≤ 0xFFFFFFFDFFFFFFFF :=
  range_iff n _ _

/-- `CASEAuthTag`: the identifier in the upper 16 bits, the version in the lower. -/
abbrev CASEAuthTag := UInt32

def catUndefined : CASEAuthTag := 0

def catIdentifierMask : UInt32 := 0xFFFF0000

def catIdentifierShift : UInt32 := 16

def catVersionMask : UInt32 := 0x0000FFFF

/-- `CASEAuthTag.GetIdentifier()`. -/
def CASEAuthTag.getIdentifier (c : CASEAuthTag) : UInt16 :=
  ((c &&& catIdentifierMask) >>> catIdentifierShift).toUInt16

/-- `CASEAuthTag.GetVersion()`. -/
def CASEAuthTag.getVersion (c : CASEAuthTag) : UInt16 := (c &&& catVersionMask).toUInt16

/-- `CASEAuthTag.IsValid()`. -/
def CASEAuthTag.isValid (c : CASEAuthTag) : Bool := c.getVersion > 0

/-- `CATFromNodeID`. -/
def catFromNodeID (nodeID : UInt64) : CASEAuthTag :=
  if !isCATNodeID nodeID then catUndefined else (nodeID &&& nodeIDCATMask).toUInt32

/-- `CATValues`, the tags of a CASE peer's certificate. -/
abbrev CATValues := List CASEAuthTag

/-- `CATValues.CheckSubjectAgainstCATs(subject)`: the ACL subject is a CAT with a non-zero
version, and one of the tags has its identifier and a version at least as high. -/
def CATValues.checkSubjectAgainstCATs (cats : CATValues) (subject : UInt64) : Bool :=
  if !isCATNodeID subject then false
  else
    let subjectCAT := catFromNodeID subject
    let subjectIdentifier := subjectCAT.getIdentifier
    let subjectVersion := subjectCAT.getVersion
    if subjectVersion = 0 then false
    else
      cats.any fun cat =>
        cat != catUndefined && cat.getIdentifier == subjectIdentifier &&
          cat.getVersion ≥ subjectVersion

/-- A match needs only identifier and version: the undefined tag has version zero. -/
theorem checkSubjectAgainstCATs_iff (cats : CATValues) (subject : UInt64) :
    cats.checkSubjectAgainstCATs subject = true ↔
      isCATNodeID subject = true ∧ 0 < (catFromNodeID subject).getVersion ∧
        ∃ cat ∈ cats, cat.getIdentifier = (catFromNodeID subject).getIdentifier ∧
          (catFromNodeID subject).getVersion ≤ cat.getVersion := by
  unfold CATValues.checkSubjectAgainstCATs
  cases hc : isCATNodeID subject with
  | false => simp
  | true =>
    simp only [Bool.not_true, Bool.false_eq_true, if_false, true_and]
    by_cases hv : (catFromNodeID subject).getVersion = 0
    · simp [hv]
    · have hpos : 0 < (catFromNodeID subject).getVersion := UInt16.pos_iff_ne_zero.mpr hv
      simp only [hv, if_false, hpos, true_and, List.any_eq_true, Bool.and_eq_true, bne_iff_ne,
        ne_eq, beq_iff_eq, decide_eq_true_eq]
      refine exists_congr fun cat => and_congr_right fun _ => ?_
      constructor
      · rintro ⟨⟨-, hid⟩, hver⟩
        exact ⟨hid, hver⟩
      · rintro ⟨hid, hver⟩
        refine ⟨⟨?_, hid⟩, hver⟩
        -- a tag of version at least the subject's is not the undefined one
        rintro rfl
        have hzero : catUndefined.getVersion = 0 := by decide
        rw [hzero] at hver
        exact absurd hver (UInt16.not_le.mpr hpos)

/-! ## Entries -/

/-- `Target`: a cluster, an endpoint and a device type, each optional. -/
structure Target where
  cluster : Option UInt32
  endpoint : Option UInt16
  deviceType : Option UInt32
  deriving DecidableEq, Repr

/-- `Target.IsEmpty()`. -/
def Target.isEmpty (t : Target) : Bool :=
  t.cluster.isNone && t.endpoint.isNone && t.deviceType.isNone

/-- `Entry`. -/
structure Entry where
  fabricIndex : FabricIndex
  privilege : Privilege
  authMode : AuthMode
  subjects : List UInt64
  targets : List Target
  deriving DecidableEq, Repr

/-- `SubjectDescriptor`: the incoming subject of Spec 6.6.6.1.3. -/
structure SubjectDescriptor where
  fabricIndex : FabricIndex
  authMode : AuthMode
  subject : UInt64
  cats : CATValues
  isCommissioning : Bool
  deriving DecidableEq, Repr

/-- `RequestPath`, with the two fields a check reads. -/
structure RequestPath where
  cluster : UInt32
  endpoint : UInt16
  deriving DecidableEq, Repr

/-- The errors of `validate.go` and `manager.go`. -/
inductive AclError
  | invalidFabricIndex
  | invalidAuthMode
  | invalidPrivilege
  | groupAdminister
  | invalidSubject
  | targetEmpty
  | targetEndpointAndType
  | invalidClusterID
  | invalidEndpointID
  | invalidDeviceTypeID
  | tooManyEntries
  | tooManySubjects
  | tooManyTargets
  | indexOutOfRange
  deriving DecidableEq, Repr

/-! ## Validation -/

/-- `IsValidClusterID`: the standard range, or a manufacturer range under a vendor ID. -/
def isValidClusterID (id : UInt32) : Bool :=
  if id ≤ 0x00007FFF then true
  else
    let suffix := id &&& 0x0000FFFF
    if suffix ≥ 0xFC00 && suffix ≤ 0xFFFE then (id >>> 16) ≤ 0xFFF4
    else false

/-- `IsValidEndpointID`. -/
def isValidEndpointID (id : UInt16) : Bool := id != 0xFFFF

/-- `IsValidDeviceTypeID`. -/
def isValidDeviceTypeID (id : UInt32) : Bool :=
  let suffix := id &&& 0x0000FFFF
  if suffix > 0x0000BFFF then false
  else if suffix = 0x0000FFFF then false
  else true

/-- `ValidateSubject(authMode, subject)`. -/
def validateSubject (authMode : AuthMode) (subject : UInt64) : Except AclError Unit :=
  if authMode = authModeCASE then
    if isOperationalNodeID subject then .ok ()
    else if isCATNodeID subject && (catFromNodeID subject).isValid then .ok ()
    else .error .invalidSubject
  else if authMode = authModeGroup then
    if !isGroupNodeID subject then .error .invalidSubject
    else if !isValidGroupID (groupIDFromNodeID subject) then .error .invalidSubject
    else .ok ()
  else if authMode = authModePASE then
    if !isPAKENodeID subject then .error .invalidSubject else .ok ()
  else .error .invalidAuthMode

/-- `ValidateTarget(target)`. -/
def validateTarget (target : Target) : Except AclError Unit :=
  if target.isEmpty then .error .targetEmpty
  else if target.endpoint.isSome && target.deviceType.isSome then .error .targetEndpointAndType
  else if !target.cluster.all isValidClusterID then .error .invalidClusterID
  else if !target.endpoint.all isValidEndpointID then .error .invalidEndpointID
  else if !target.deviceType.all isValidDeviceTypeID then .error .invalidDeviceTypeID
  else .ok ()

/-- `ValidateEntry(entry)`: the first failing rule's error. -/
def validateEntry (entry : Entry) : Except AclError Unit :=
  if !entry.fabricIndex.isValid then .error .invalidFabricIndex
  else if entry.authMode ≠ authModeCASE ∧ entry.authMode ≠ authModeGroup then .error .invalidAuthMode
  else if !entry.privilege.isValid then .error .invalidPrivilege
  else if entry.authMode = authModeGroup ∧ entry.privilege = privilegeAdminister then
    .error .groupAdminister
  else do
    entry.subjects.forM (validateSubject entry.authMode)
    entry.targets.forM validateTarget

/-- A CAT node ID is a valid subject only under CASE: under Group a subject must be a group
node ID, a range the CAT range does not meet. -/
theorem validateSubject_authMode_of_cat {authMode : AuthMode} {subject : UInt64}
    (h : validateSubject authMode subject = .ok ()) (hc : isCATNodeID subject = true) :
    authMode = authModeCASE := by
  by_cases hcase : authMode = authModeCASE
  · exact hcase
  · have hcat := (isCATNodeID_iff subject).mp hc
    have hgroup : isGroupNodeID subject = false := by
      rw [Bool.eq_false_iff, ne_eq, isGroupNodeID_iff]
      omega
    have hpake : isPAKENodeID subject = false := by
      rw [Bool.eq_false_iff, ne_eq, isPAKENodeID_iff]
      omega
    unfold validateSubject at h
    simp only [hcase, if_false, hgroup, hpake, Bool.not_false, if_true] at h
    split_ifs at h

/-- What `ValidateEntry` accepts: a valid fabric index, CASE or Group, and subjects valid for
that mode. -/
theorem validateEntry_ok {entry : Entry} (h : validateEntry entry = .ok ()) :
    entry.fabricIndex.isValid = true ∧
      (entry.authMode = authModeCASE ∨ entry.authMode = authModeGroup) ∧
      ∀ s ∈ entry.subjects, validateSubject entry.authMode s = .ok () := by
  unfold validateEntry at h
  split_ifs at h with hf ha hp hg
  obtain ⟨⟨⟩, hs, -⟩ := Except.bind_eq_ok.mp h
  refine ⟨by simpa using hf, ?_, Except.forM_eq_ok.mp hs⟩
  by_cases hc : entry.authMode = authModeCASE
  · exact .inl hc
  · exact .inr (by simpa [hc] using ha)

end Matter.Acl
