import Matter.Acl.Types

/-!
# The access control check (`pkg/acl/checker.go`)

Spec 6.6.6.2 grants a request when the subject is a PASE session in commissioning, or when
some entry of the subject's fabric has its authentication mode, grants the requested
privilege, and matches both the subject and the target. `Allowed` states that over the
entries of each fabric; `Checker.check` is `Checker.Check`, a loop over one flat list of
entries of all fabrics that tests each entry's fabric index itself.

Results:
* `check_eq_allowed_iff`: the checker allows exactly when the commissioning rule applies or
  one of its entries passes every test of the loop.
* `subjectMatches_iff`, `targetMatches_iff`: on an entry `ValidateEntry` accepts, the two
  matching functions compute the specification's matches.
-/

namespace Matter.Acl

/-! ## The specification -/

/-- `DeviceTypeResolver.IsDeviceTypeOnEndpoint`. -/
abbrev DeviceTypeResolver := UInt32 → UInt16 → Bool

/-- The subject matches an entry: the entry names no subject, or names the subject itself, or
names a CAT (with a non-zero version) of which the subject holds the identifier at that
version or a later one. -/
def SubjectMatch (e : Entry) (s : SubjectDescriptor) : Prop :=
  e.subjects = [] ∨ s.subject ∈ e.subjects ∨
    ∃ x ∈ e.subjects, isCATNodeID x = true ∧ 0 < (catFromNodeID x).getVersion ∧
      ∃ cat ∈ s.cats, cat.getIdentifier = (catFromNodeID x).getIdentifier ∧
        (catFromNodeID x).getVersion ≤ cat.getVersion

/-- Every field the target has matches the path; a device type through the resolver. -/
def TargetFieldsMatch (resolver : DeviceTypeResolver) (t : Target) (p : RequestPath) : Prop :=
  (∀ cluster ∈ t.cluster, cluster = p.cluster) ∧ (∀ endpoint ∈ t.endpoint, endpoint = p.endpoint) ∧
    ∀ deviceType ∈ t.deviceType, resolver deviceType p.endpoint = true

/-- The path matches an entry: the entry names no target, or one of its targets matches. -/
def TargetMatch (resolver : DeviceTypeResolver) (e : Entry) (p : RequestPath) : Prop :=
  e.targets = [] ∨ ∃ t ∈ e.targets, TargetFieldsMatch resolver t p

/-- **The access Spec 6.6.6.2 grants**, read off the entries of each fabric. -/
def Allowed (resolver : DeviceTypeResolver) (entries : FabricIndex → List Entry)
    (s : SubjectDescriptor) (p : RequestPath) (r : Privilege) : Prop :=
  (s.authMode = authModePASE ∧ s.isCommissioning = true) ∨
    ∃ e ∈ entries s.fabricIndex, e.authMode = s.authMode ∧ e.privilege.grants r = true ∧
      SubjectMatch e s ∧ TargetMatch resolver e p

/-! ## The checker -/

/-- `NullDeviceTypeResolver`. -/
def nullDeviceTypeResolver : DeviceTypeResolver := fun _ _ => false

/-- `Checker`: the entries of all fabrics, and the resolver. -/
structure Checker where
  entries : List Entry
  deviceTypeResolver : DeviceTypeResolver

/-- `NewChecker(resolver)`: no entries; a `nil` resolver is the null one. -/
def newChecker (resolver : Option DeviceTypeResolver) : Checker :=
  ⟨[], resolver.getD nullDeviceTypeResolver⟩

namespace Checker

/-- `SetEntries(entries)`. -/
def setEntries (c : Checker) (entries : List Entry) : Checker := { c with entries }

/-- `singleSubjectMatches(aclSubject, subject)`: the subject itself, or for CASE a CAT. -/
def singleSubjectMatches (aclSubject : UInt64) (subject : SubjectDescriptor) : Bool :=
  aclSubject == subject.subject ||
    (subject.authMode == authModeCASE && isCATNodeID aclSubject &&
      subject.cats.checkSubjectAgainstCATs aclSubject)

/-- `subjectMatches(entry, subject)`: an empty list matches for CASE and Group entries. -/
def subjectMatches (entry : Entry) (subject : SubjectDescriptor) : Bool :=
  if entry.subjects.isEmpty then entry.authMode == authModeCASE || entry.authMode == authModeGroup
  else entry.subjects.any fun aclSubject => singleSubjectMatches aclSubject subject

/-- `singleTargetMatches(target, path)`. -/
def singleTargetMatches (c : Checker) (target : Target) (path : RequestPath) : Bool :=
  target.cluster.all (· == path.cluster) && target.endpoint.all (· == path.endpoint) &&
    target.deviceType.all fun deviceType => c.deviceTypeResolver deviceType path.endpoint

/-- `targetMatches(entry, path)`: an empty list matches every path. -/
def targetMatches (c : Checker) (entry : Entry) (path : RequestPath) : Bool :=
  if entry.targets.isEmpty then true
  else entry.targets.any fun target => c.singleTargetMatches target path

/-- The tests the loop of `Check` makes of one entry, in its order. -/
def entryMatches (c : Checker) (entry : Entry) (subject : SubjectDescriptor) (target : RequestPath)
    (required : Privilege) : Bool :=
  entry.fabricIndex != 0 && entry.fabricIndex == subject.fabricIndex &&
    entry.authMode == subject.authMode && entry.privilege.grants required &&
    subjectMatches entry subject && c.targetMatches entry target

/-- `Check(subject, target, required)`: implicit Administer for PASE in commissioning, else the
first entry that passes every test allows. -/
def check (c : Checker) (subject : SubjectDescriptor) (target : RequestPath)
    (required : Privilege) : Result :=
  if subject.authMode = authModePASE ∧ subject.isCommissioning then .allowed
  else if c.entries.any fun entry => c.entryMatches entry subject target required then .allowed
  else .denied

/-! ## The checker computes the specification -/

theorem check_eq_allowed_iff (c : Checker) (subject : SubjectDescriptor) (target : RequestPath)
    (required : Privilege) :
    c.check subject target required = .allowed ↔
      (subject.authMode = authModePASE ∧ subject.isCommissioning = true) ∨
        ∃ entry ∈ c.entries, c.entryMatches entry subject target required = true := by
  unfold check
  by_cases hp : subject.authMode = authModePASE ∧ subject.isCommissioning = true
  · simp [hp]
  · cases hany : c.entries.any fun entry => c.entryMatches entry subject target required
    · have hnone := List.any_eq_false.mp hany
      simp only [hp, if_false, Bool.false_eq_true, reduceCtorEq, false_or, false_iff, not_exists,
        not_and]
      exact fun entry he hm => hnone entry he hm
    · simp only [hp, if_false, if_true, false_or, true_iff]
      exact List.any_eq_true.mp hany

/-- On a target list, `targetMatches` is the specification's match. -/
theorem targetMatches_iff (c : Checker) (entry : Entry) (path : RequestPath) :
    c.targetMatches entry path = true ↔ TargetMatch c.deviceTypeResolver entry path := by
  unfold targetMatches TargetMatch
  cases htargets : entry.targets with
  | nil => simp
  | cons t ts =>
    simp only [List.isEmpty_cons, Bool.false_eq_true, if_false, reduceCtorEq, false_or,
      List.any_eq_true]
    refine exists_congr fun target => and_congr_right fun _ => ?_
    simp [singleTargetMatches, TargetFieldsMatch, Option.all_eq_true, and_assoc]

variable {entry : Entry} {subject : SubjectDescriptor}

/-- One ACL subject matches under the entry's mode. A CAT subject can only be valid under
CASE, so the mode test of the CAT branch never excludes it. -/
theorem singleSubjectMatches_iff {x : UInt64}
    (hvalid : validateSubject subject.authMode x = .ok ()) :
    singleSubjectMatches x subject = true ↔
      x = subject.subject ∨ (isCATNodeID x = true ∧ 0 < (catFromNodeID x).getVersion ∧
        ∃ cat ∈ subject.cats, cat.getIdentifier = (catFromNodeID x).getIdentifier ∧
          (catFromNodeID x).getVersion ≤ cat.getVersion) := by
  unfold singleSubjectMatches
  rw [Bool.or_eq_true, beq_iff_eq]
  refine or_congr Iff.rfl ⟨fun h => ?_, fun h => ?_⟩
  · simp only [Bool.and_eq_true] at h
    exact (checkSubjectAgainstCATs_iff _ _).mp h.2
  · have hcase := validateSubject_authMode_of_cat hvalid h.1
    simp only [Bool.and_eq_true, beq_iff_eq, hcase, h.1, true_and]
    exact (checkSubjectAgainstCATs_iff _ _).mpr h

/-- On an entry `ValidateEntry` accepts, for a subject of the entry's mode, `subjectMatches`
is the specification's match. -/
theorem subjectMatches_iff (hvalid : validateEntry entry = .ok ())
    (hmode : entry.authMode = subject.authMode) :
    subjectMatches entry subject = true ↔ SubjectMatch entry subject := by
  obtain ⟨-, hcg, hsubjects⟩ := validateEntry_ok hvalid
  unfold subjectMatches SubjectMatch
  cases hs : entry.subjects with
  | nil =>
    -- the precondition of the wildcard holds of every stored entry
    simp only [List.isEmpty_nil, if_true, true_or, iff_true, Bool.or_eq_true, beq_iff_eq]
    exact hcg
  | cons x xs =>
    simp only [List.isEmpty_cons, Bool.false_eq_true, if_false, reduceCtorEq, false_or,
      List.any_eq_true]
    rw [← hs]
    constructor
    · rintro ⟨y, hy, hm⟩
      rcases (singleSubjectMatches_iff (hmode ▸ hsubjects y hy)).mp hm with rfl | hcat
      · exact .inl hy
      · exact .inr ⟨y, hy, hcat⟩
    · rintro (hy | ⟨y, hy, hcat⟩)
      · exact ⟨subject.subject, hy,
          (singleSubjectMatches_iff (hmode ▸ hsubjects _ hy)).mpr (.inl rfl)⟩
      · exact ⟨y, hy, (singleSubjectMatches_iff (hmode ▸ hsubjects y hy)).mpr (.inr hcat)⟩

end Checker

end Matter.Acl
