import Matter.Tlv.Reader

/-!
# Leaving a container and skipping an element (`Reader.ExitContainer`, `Reader.Skip`)

`ExitContainer` reads on until the end marker of the innermost entered container: a loop that
counts the containers it walks into and the end markers it passes. The count starts at one
open container, the one being left, and that is right wherever the reader rests on an element
whose members `Next` will not read: a primitive, read or not, a string whose bytes `Next` will
skip, or no element after `EnterContainer`. On a container that `Next` returned but that was not
entered, `Next` walks into its members, and the loop stops at that container's end marker.

Results:
* `exitLoop_members`: the loop walks over the encodings of well-formed members, whatever their
  nesting, and comes out at the same depth.
* `exitContainer_of_resumes`: from a reader that resumes at the remaining members of the
  innermost container, `ExitContainer` consumes them and the container's end marker and pops
  the container.
* `exitContainer_on_nested_container`: on a nested container not entered, it consumes that
  container only, and still pops the enclosing one.
* `skip_on`: `Skip`, which enters a container before it leaves it, consumes exactly the element
  the reader rests on, at any nesting, and leaves the depth as it was.
-/

namespace Matter.Tlv.Reader

open Element

/-- One turn of the loop of `ExitContainer`. -/
theorem exitLoop_succ {d : Nat} {r r' : Reader} (h : r.next = .ok r') :
    exitLoop (d + 1) r =
      if r'.elemType = .endOfContainer then exitLoop d r'
      else if r'.elemType.isContainer then exitLoop (d + 2) r'
      else exitLoop (d + 1) r' := by
  rw [exitLoop, if_neg (Nat.succ_ne_zero d)]
  split
  · simp_all
  · rename_i r'' heq
    rw [h] at heq
    cases heq
    simp

/-- The loop passes over a primitive. -/
theorem exitLoop_leaf {e : Element} (he : e.WellFormed)
    (hleaf : e.elementType.isContainer = false) {d : Nat} {r : Reader} {rest : List UInt8}
    (hr : r.Resumes (e.encode ++ rest)) :
    ∃ r', r'.Resumes rest ∧ r'.containerStack = r.containerStack ∧
      exitLoop (d + 1) r = exitLoop (d + 1) r' := by
  obtain ⟨r1, hnext, hon, hstack⟩ := next_on he hr
  refine ⟨r1, resumes_on hon he hleaf, hstack, ?_⟩
  have hend : r1.elemType ≠ .endOfContainer := hon.elemType ▸ elementType_ne_end e
  have hc : r1.elemType.isContainer = false := hon.elemType ▸ hleaf
  rw [exitLoop_succ hnext, if_neg hend, hc]
  rfl

/-- The loop passes an end marker, closing one container. -/
theorem exitLoop_end {d : Nat} {r : Reader} {rest : List UInt8}
    (hr : r.Resumes (ElementType.endOfContainer.code :: rest)) :
    ∃ r', r'.input = rest ∧ r'.Resumes rest ∧ r'.containerStack = r.containerStack ∧
      exitLoop (d + 1) r = exitLoop d r' := by
  obtain ⟨r1, hnext, _, hread, hend, hin, hstack⟩ := next_end hr
  refine ⟨r1, hin, hin ▸ resumes_self (.inr (.inr (by rw [hend]; rfl))), hstack, ?_⟩
  rw [exitLoop_succ hnext, if_pos hend]

mutual
/-- **The loop passes over an element**, walking into and out of a container at whatever
depth. -/
theorem exitLoop_element : ∀ (e : Element), e.WellFormed → ∀ (d : Nat) (r : Reader)
    (rest : List UInt8), r.Resumes (e.encode ++ rest) →
    ∃ r', r'.Resumes rest ∧ r'.containerStack = r.containerStack ∧
      exitLoop (d + 1) r = exitLoop (d + 1) r'
  | .container kind tag members, he, d, r, rest, hr => by
    obtain ⟨r1, hnext, hon, hstack1⟩ := next_on he hr
    have hend : r1.elemType ≠ .endOfContainer := hon.elemType ▸ elementType_ne_end _
    have hc : r1.elemType.isContainer = true := hon.elemType ▸ isContainer_elementType _
    rw [exitLoop_succ hnext, if_neg hend, if_pos hc]
    -- the members are read one level deeper, and the end marker brings the loop back
    obtain ⟨r2, hr2, hstack2, heq2⟩ :=
      exitLoop_members members he.2 (d + 1) r1 (ElementType.endOfContainer.code :: rest)
        (by simpa using resumes_on_container hon)
    obtain ⟨r3, _, hr3, hstack3, heq3⟩ := exitLoop_end (d := d + 1) hr2
    refine ⟨r3, hr3, by rw [hstack3, hstack2, hstack1], ?_⟩
    rw [heq2, heq3]
  | .int tag v, he, _, _, _, hr => exitLoop_leaf he (isContainer_elementType (.int tag v)) hr
  | .uint tag v, he, _, _, _, hr => exitLoop_leaf he (isContainer_elementType (.uint tag v)) hr
  | .bool tag v, he, _, _, _, hr => exitLoop_leaf he (isContainer_elementType (.bool tag v)) hr
  | .float32 tag b, he, _, _, _, hr =>
    exitLoop_leaf he (isContainer_elementType (.float32 tag b)) hr
  | .float64 tag b, he, _, _, _, hr =>
    exitLoop_leaf he (isContainer_elementType (.float64 tag b)) hr
  | .utf8 tag v, he, _, _, _, hr => exitLoop_leaf he (isContainer_elementType (.utf8 tag v)) hr
  | .bytes tag v, he, _, _, _, hr => exitLoop_leaf he (isContainer_elementType (.bytes tag v)) hr
  | .null tag, he, _, _, _, hr => exitLoop_leaf he (isContainer_elementType (.null tag)) hr

/-- **The loop passes over the members of a container.** -/
theorem exitLoop_members : ∀ (es : List Element), MembersWellFormed es → ∀ (d : Nat)
    (r : Reader) (rest : List UInt8), r.Resumes (encodeMembers es ++ rest) →
    ∃ r', r'.Resumes rest ∧ r'.containerStack = r.containerStack ∧
      exitLoop (d + 1) r = exitLoop (d + 1) r'
  | [], _, _, r, _, hr => by
    obtain ⟨r0, hs, hin, hstack⟩ := hr
    exact ⟨r, ⟨r0, hs, by simpa [encodeMembers] using hin, hstack⟩, rfl, rfl⟩
  | e :: es, ⟨he, hes⟩, d, r, rest, hr => by
    obtain ⟨r1, hr1, hstack1, heq1⟩ :=
      exitLoop_element e he d r (encodeMembers es ++ rest) (by simpa [encodeMembers] using hr)
    obtain ⟨r2, hr2, hstack2, heq2⟩ := exitLoop_members es hes d r1 rest hr1
    exact ⟨r2, hr2, hstack2.trans hstack1, heq1.trans heq2⟩
end

/-- **`ExitContainer` leaves the innermost container**: from a reader that resumes at the
remaining members of the innermost entered container, it consumes them and the container's end
marker, and pops the container. -/
theorem exitContainer_of_resumes {r : Reader} {members : List Element} {rest : List UInt8}
    (hms : MembersWellFormed members) (hstack : r.containerStack ≠ [])
    (hcur : ¬ (r.hasElement = true ∧ r.elemType = .endOfContainer))
    (hr : r.Resumes (encodeMembers members ++ ElementType.endOfContainer.code :: rest)) :
    ∃ r', r.exitContainer = .ok r' ∧ r'.input = rest ∧
      r'.containerStack = r.containerStack.dropLast ∧ r'.hasElement = false := by
  obtain ⟨r2, hr2, hstack2, heq2⟩ := exitLoop_members members hms 0 r _ hr
  obtain ⟨r3, hin3, _, hstack3, heq3⟩ := exitLoop_end (d := 0) hr2
  have hcur' : (r.hasElement && r.elemType == .endOfContainer) = false := by
    simpa using hcur
  refine ⟨{ r3 with containerStack := r3.containerStack.dropLast, hasElement := false }, ?_, hin3,
    by simp [hstack3, hstack2], rfl⟩
  simp only [exitContainer, hstack, if_false, hcur', Bool.false_eq_true]
  rw [heq2, heq3, exitLoop]
  rfl

/-- From a primitive of the innermost container, whether or not its value was read,
`ExitContainer` consumes the rest of the container and pops it. -/
theorem exitContainer_on_primitive {r : Reader} {e : Element} {members : List Element}
    {rest : List UInt8} (he : e.WellFormed) (hleaf : e.elementType.isContainer = false)
    (hms : MembersWellFormed members) (hstack : r.containerStack ≠ [])
    (hr : r.On e (encodeMembers members ++ ElementType.endOfContainer.code :: rest)) :
    ∃ r', r.exitContainer = .ok r' ∧ r'.input = rest ∧
      r'.containerStack = r.containerStack.dropLast := by
  have hcur : ¬ (r.hasElement = true ∧ r.elemType = .endOfContainer) :=
    fun h => elementType_ne_end _ (hr.elemType ▸ h.2)
  obtain ⟨r', hexit, hin, hstack', _⟩ :=
    exitContainer_of_resumes hms hstack hcur (resumes_on hr he hleaf)
  exact ⟨r', hexit, hin, hstack'⟩

/-- **`ExitContainer` on a nested container not entered** consumes that container's members and
end marker only, yet pops the enclosing container: the members that follow the nested container
and the enclosing container's end marker are left unread, outside any container on the stack. -/
theorem exitContainer_on_nested_container {r : Reader} {kind : ContainerType} {tag : Tag}
    {inner members : List Element} {rest : List UInt8}
    (hinner : (Element.container kind tag inner).WellFormed) (hstack : r.containerStack ≠ [])
    (hr : r.On (.container kind tag inner)
      (encodeMembers members ++ ElementType.endOfContainer.code :: rest)) :
    ∃ r', r.exitContainer = .ok r' ∧
      r'.input = encodeMembers members ++ ElementType.endOfContainer.code :: rest ∧
      r'.containerStack = r.containerStack.dropLast := by
  have hcur : ¬ (r.hasElement = true ∧ r.elemType = .endOfContainer) :=
    fun h => elementType_ne_end _ (hr.elemType ▸ h.2)
  obtain ⟨r', hexit, hin, hstack', _⟩ := exitContainer_of_resumes hinner.2 hstack hcur
    (by simpa using resumes_on_container hr)
  exact ⟨r', hexit, hin, hstack'⟩

/-- A structure holding an empty structure and then the unsigned integer 1: the bytes
`15 15 18 04 01 18`. -/
def nestedStructure : Element :=
  .container .structure .anonymous [.container .structure .anonymous [], .uint .anonymous 1]

example : nestedStructure.encode = [0x15, 0x15, 0x18, 0x04, 0x01, 0x18] := by decide

theorem nestedStructure_wellFormed : nestedStructure.WellFormed :=
  ⟨.anonymous, ⟨.anonymous, trivial⟩, .anonymous, trivial⟩

/-- The reader after `Next`, `EnterContainer` and `Next` on `nestedStructure`: inside the outer
structure, resting on the inner one, which it has not entered. -/
theorem on_inner_structure : ∃ r, ((newReader nestedStructure.encode).next >>=
      Reader.enterContainer >>= Reader.next) = .ok r ∧
    r.On (.container .structure .anonymous []) ((Element.uint .anonymous 1).encode ++
      [ElementType.endOfContainer.code]) ∧ r.containerStack = [.struct] := by
  have hnew : (newReader nestedStructure.encode).Resumes (nestedStructure.encode ++ []) := by
    have h := resumes_self (r := newReader nestedStructure.encode) (.inl rfl)
    simpa [newReader] using h
  obtain ⟨r1, hnext1, hon1, hstack1⟩ := next_on nestedStructure_wellFormed hnew
  obtain ⟨re, hre, hreIn, hreEl, hreStack⟩ : ∃ re, r1.enterContainer = .ok re ∧
      re.input = r1.input ∧ re.hasElement = false ∧ re.containerStack = [.struct] :=
    ⟨_, enterContainer_on hon1, rfl, rfl, by simp [hstack1, newReader, ContainerType.elementType]⟩
  have hresume := resumes_self (r := re) (.inl hreEl)
  rw [hreIn, hon1.input] at hresume
  obtain ⟨r3, hnext3, hon3, hstack3⟩ := next_on (e := .container .structure .anonymous [])
    ⟨.anonymous, trivial⟩ (by simpa [nestedStructure, body, encodeMembers] using hresume)
  refine ⟨r3, ?_, hon3, hstack3.trans hreStack⟩
  simp [hnext1, hre, hnext3]

/-- **`ExitContainer` on an inner container leaves the outer one unread**: on
`nestedStructure`, after `Next`, `EnterContainer`, `Next` (the inner structure) and
`ExitContainer`, the reader is at depth zero, and the following `Next` returns the integer 1
from inside the outer structure, where the contract of `ExitContainer` has `io.EOF`. -/
theorem exitContainer_nested_counterexample :
    ∃ r, ((newReader nestedStructure.encode).next >>= Reader.enterContainer >>= Reader.next >>=
        Reader.exitContainer >>= Reader.next) = .ok r ∧
      r.elemType = .uInt8 ∧ r.tag = .anonymous ∧ r.containerDepth = 0 := by
  obtain ⟨r3, hrun, hon3, hstack3⟩ := on_inner_structure
  have hcur : ¬ (r3.hasElement = true ∧ r3.elemType = .endOfContainer) :=
    fun h => elementType_ne_end _ (hon3.elemType ▸ h.2)
  obtain ⟨r4, hexit, hin4, hstack4, hel4⟩ := @exitContainer_of_resumes r3 []
    ((Element.uint .anonymous 1).encode ++ [ElementType.endOfContainer.code]) trivial
    (by simp [hstack3]) hcur (by simpa [body] using resumes_on_container hon3)
  have hresume := resumes_self (r := r4) (.inl hel4)
  rw [hin4] at hresume
  obtain ⟨r5, hnext5, hon5, hstack5⟩ := next_on (e := .uint .anonymous 1) .anonymous hresume
  refine ⟨r5, ?_, hon5.elemType, hon5.tag, ?_⟩
  · rw [hrun]
    simp [hexit, hnext5]
  · simp [containerDepth, hstack5, hstack4, hstack3]

/-- `exitContainer_on_nested_container` on `nestedStructure`. -/
theorem exitContainer_on_nested_container_example :
    ∃ r, ((newReader nestedStructure.encode).next >>= Reader.enterContainer >>= Reader.next) =
        .ok r ∧ ∃ r', r.exitContainer = .ok r' ∧
      r'.input = (Element.uint .anonymous 1).encode ++ [ElementType.endOfContainer.code] ∧
      r'.containerStack = [] := by
  obtain ⟨r3, hrun, hon3, hstack3⟩ := on_inner_structure
  obtain ⟨r', hexit, hin, hstack⟩ := @exitContainer_on_nested_container r3 .structure
    .anonymous [] [.uint .anonymous 1] [] ⟨.anonymous, trivial⟩ (by simp [hstack3])
    (by simpa [encodeMembers] using hon3)
  exact ⟨r3, hrun, r', hexit, by simpa [encodeMembers] using hin, by simp [hstack, hstack3]⟩

/-! ## `Skip` -/

/-- `skipValue` marks the value read, whatever it skips. -/
theorem valueRead_skipValue {r r' : Reader} (h : r.skipValue = .ok r') : r'.valueRead = true := by
  unfold skipValue at h
  dsimp only at h
  split at h
  · cases h
    assumption
  · split at h
    · split at h
      · cases h
        rfl
      · split at h
        · cases h
        · cases h
          rfl
    · cases h
      rfl

/-- `Skip` on a primitive is `skipValue`: it passes the value and stops before the next
element. -/
theorem skip_on_primitive {r : Reader} {e : Element} {rest : List UInt8} (he : e.WellFormed)
    (hleaf : e.elementType.isContainer = false) (hr : r.On e rest) :
    ∃ r', r.skip = .ok r' ∧ r'.input = rest ∧ r'.containerStack = r.containerStack ∧
      r'.Resumes rest := by
  have hskip : r.skip = r.skipValue := by
    simp [skip, hr.hasElement, hr.elemType, hleaf]
  -- the settling step of `next` is `skipValue` on an unread value
  obtain ⟨r', hs, hin, hstack⟩ := resumes_on hr he hleaf
  have hsettle : r.settle = r.skipValue := by simp [settle, hr.hasElement, hr.valueRead]
  rw [hsettle] at hs
  refine ⟨r', hskip.trans hs, hin, hstack, ?_⟩
  rw [← hin]
  exact resumes_self (.inr (.inl (valueRead_skipValue hs)))

/-- `Skip` on a container enters it and leaves it: the members and the end marker are consumed,
and the container pushed on entering is popped again. -/
theorem skip_on_container {r : Reader} {kind : ContainerType} {tag : Tag} {members : List Element}
    {rest : List UInt8} (he : (Element.container kind tag members).WellFormed)
    (hr : r.On (.container kind tag members) rest) :
    ∃ r', r.skip = .ok r' ∧ r'.input = rest ∧ r'.containerStack = r.containerStack ∧
      r'.Resumes rest := by
  -- entering pushes the container and leaves nothing to skip
  obtain ⟨re, hre, hreStack, hreEl, hreIn⟩ : ∃ re, r.enterContainer = .ok re ∧
      re.containerStack = r.containerStack ++ [kind.elementType] ∧ re.hasElement = false ∧
      re.input = r.input := ⟨_, enterContainer_on hr, rfl, rfl, rfl⟩
  have hentered : re.Resumes (encodeMembers members ++ ElementType.endOfContainer.code :: rest) := by
    have h := resumes_self (r := re) (.inl hreEl)
    simpa [hreIn, hr.input, body] using h
  obtain ⟨r', hexit, hin, hstack, hel⟩ := exitContainer_of_resumes he.2 (by simp [hreStack])
    (by simp [hreEl]) hentered
  have hc : r.elemType.isContainer = true := by
    rw [hr.elemType]
    exact isContainer_elementType _
  refine ⟨r', ?_, hin, by simp [hstack, hreStack], hin ▸ resumes_self (.inl hel)⟩
  simp [skip, hr.hasElement, hc, hre, hexit]

/-- **`Skip` consumes exactly one element**: from a reader that `Next` left on a well-formed
element, of any type and nesting, `Skip` consumes the element's encoding, leaves the depth as it
was, and the next `Next` reads on from the first byte after it. -/
theorem skip_on {r : Reader} {e : Element} {rest : List UInt8} (he : e.WellFormed)
    (hr : r.On e rest) :
    ∃ r', r.skip = .ok r' ∧ r'.input = rest ∧ r'.containerDepth = r.containerDepth ∧
      r'.Resumes rest := by
  cases e with
  | container kind tag members =>
    obtain ⟨r', hskip, hin, hstack, hres⟩ := skip_on_container he hr
    exact ⟨r', hskip, hin, by simp [containerDepth, hstack], hres⟩
  | _ =>
    obtain ⟨r', hskip, hin, hstack, hres⟩ :=
      skip_on_primitive he (isContainer_elementType _) hr
    exact ⟨r', hskip, hin, by simp [containerDepth, hstack], hres⟩

/-- `skip_on` on the inner structure of `nestedStructure`, which the reader has not entered:
`Skip` stops before the integer 1, still inside the outer structure. -/
theorem skip_on_inner_structure :
    ∃ r, ((newReader nestedStructure.encode).next >>= Reader.enterContainer >>= Reader.next) =
        .ok r ∧ ∃ r', r.skip = .ok r' ∧
      r'.input = (Element.uint .anonymous 1).encode ++ [ElementType.endOfContainer.code] ∧
      r'.containerDepth = 1 := by
  obtain ⟨r3, hrun, hon3, hstack3⟩ := on_inner_structure
  obtain ⟨r', hskip, hin, hdepth, _⟩ :=
    skip_on (e := .container .structure .anonymous []) ⟨.anonymous, trivial⟩ hon3
  refine ⟨r3, hrun, r', hskip, hin, ?_⟩
  rw [hdepth, containerDepth, hstack3]
  rfl

end Matter.Tlv.Reader
