import Matter.Tlv.Navigation

/-!
# Writing a tree and reading it back

A reader of a whole tree, written as callers of the package read: `Next`, then by the element
type the typed getter, or `EnterContainer`, the members up to the end marker, and
`ExitContainer`. It is given fuel, enough for any input: every element it reads takes at least
one byte.

Results:
* `readCurrent_on`, `readMembers_on`: the reader reads back every well-formed element and
  every list of members from their encodings, whatever follows them.
* `readElement_encode`: a well-formed tree is read back from its encoding, and then `next`
  finds nothing left.
-/

namespace Matter.Tlv

open Element Reader

/-- The container kind of a container's element type. -/
def ContainerType.ofElementType (t : ElementType) : ContainerType :=
  if t = .struct then .structure else if t = .array then .array else .list

theorem ContainerType.ofElementType_elementType (kind : ContainerType) :
    ContainerType.ofElementType kind.elementType = kind := by
  cases kind <;> rfl

mutual
/-- Read the element whose header `next` has just read: its value with the getter of its type,
or its members. -/
def readCurrent : Nat → Reader → Except TlvError (Element × Reader)
  | 0, _ => .error .eof
  | fuel + 1, r =>
    let t := r.elemType
    let tag := r.tag
    if t.isSignedInt then do
      let (v, r) ← r.int
      .ok (.int tag v, r)
    else if t.isUnsignedInt then do
      let (v, r) ← r.uint
      .ok (.uint tag v, r)
    else if t.isBool then do
      let (v, r) ← r.bool
      .ok (.bool tag v, r)
    else if t = .float32 then do
      let (v, r) ← r.float32
      .ok (.float32 tag v, r)
    else if t = .float64 then do
      let (v, r) ← r.float64
      .ok (.float64 tag v, r)
    else if t.isUTF8String then do
      let (v, r) ← r.string
      .ok (.utf8 tag v, r)
    else if t.isBytes then do
      let (v, r) ← r.bytes
      .ok (.bytes tag v, r)
    else if t = .null then do
      let r ← r.null
      .ok (.null tag, r)
    else if t.isContainer then do
      let r ← r.enterContainer
      let (members, r) ← readMembers fuel r
      .ok (.container (ContainerType.ofElementType t) tag members, r)
    else .error .typeMismatch

/-- Read the members of an entered container up to its end marker, and leave the container. -/
def readMembers : Nat → Reader → Except TlvError (List Element × Reader)
  | 0, _ => .error .eof
  | fuel + 1, r => do
    let r ← r.next
    if r.isEndOfContainer then do
      let r ← r.exitContainer
      .ok ([], r)
    else do
      let (e, r) ← readCurrent fuel r
      let (es, r) ← readMembers fuel r
      .ok (e :: es, r)
end

/-- Read one element with a fresh reader. -/
def readElement (input : List UInt8) : Except TlvError (Element × Reader) := do
  let r ← (newReader input).next
  readCurrent (input.length + 1) r

namespace Element

mutual
/-- The fuel `readCurrent` needs for an element. -/
def depth : Element → Nat
  | container _ _ members => membersDepth members + 1
  | _ => 1

/-- The fuel `readMembers` needs for a list of members. -/
def membersDepth : List Element → Nat
  | [] => 1
  | e :: es => max e.depth (membersDepth es) + 1
end

theorem length_header_pos (t : ElementType) (tag : Tag) : 0 < (header t tag).length := by
  simp [header]

mutual
/-- Every element takes at least as many bytes as the fuel it needs. -/
theorem depth_le_length : ∀ e : Element, e.depth ≤ e.encode.length
  | container kind tg members => by
    have h := membersDepth_le_length members
    have hh := length_header_pos kind.elementType tg
    simp only [depth, encode, List.length_append, List.length_singleton]
    omega
  | int tg v => by simp [depth, encode, header]
  | uint tg v => by simp [depth, encode, header]
  | bool tg v => by simp [depth, encode, header]
  | float32 tg b => by simp [depth, encode, header]
  | float64 tg b => by simp [depth, encode, header]
  | utf8 tg v => by simp [depth, encode, header]
  | bytes tg v => by simp [depth, encode, header]
  | null tg => by simp [depth, encode, header]

theorem membersDepth_le_length : ∀ es : List Element,
    membersDepth es ≤ (encodeMembers es).length + 1
  | [] => by simp [membersDepth, encodeMembers]
  | e :: es => by
    have h1 := depth_le_length e
    have h2 := membersDepth_le_length es
    have h3 : 0 < e.encode.length := by
      rw [encode_eq]
      simp [header]
    simp only [membersDepth, encodeMembers, List.length_append]
    omega
end

end Element

mutual
/-- **The reader reads back an element**: from a reader resting on a well-formed element, with
enough fuel, `readCurrent` returns the element and leaves the reader after it, at the same
depth, with nothing to skip. -/
theorem readCurrent_on : ∀ (e : Element), e.WellFormed → ∀ (fuel : Nat) (r : Reader)
    (rest : List UInt8), e.depth ≤ fuel → r.On e rest →
    ∃ r', readCurrent fuel r = .ok (e, r') ∧ r'.input = rest ∧
      r'.containerStack = r.containerStack ∧ (r'.hasElement = false ∨ r'.valueRead = true)
  | e, _, 0, _, _, hfuel, _ => absurd hfuel (by cases e <;> simp [depth])
  | .int tg v, _, fuel + 1, r, rest, _, hr => by
    refine ⟨{ r with valueRead := true }, ?_, by simpa [body] using hr.input, rfl, .inr rfl⟩
    rcases ofWidth_mem ElementType.int8.code (intWidth v.toInt) with h | h | h | h <;>
      simp +decide [readCurrent, hr.elemType, hr.tag, elementType, h, int_on hr, Element.tag]
  | .uint tg v, _, fuel + 1, r, rest, _, hr => by
    refine ⟨{ r with valueRead := true }, ?_, by simpa [body] using hr.input, rfl, .inr rfl⟩
    rcases ofWidth_mem ElementType.uInt8.code (uintWidth v.toNat) with h | h | h | h <;>
      simp +decide [readCurrent, hr.elemType, hr.tag, elementType, h, uint_on hr, Element.tag]
  | .bool tg v, _, fuel + 1, r, rest, _, hr => by
    refine ⟨{ r with valueRead := true }, ?_, by simpa [body] using hr.input, rfl, .inr rfl⟩
    cases v <;> simp +decide [readCurrent, hr.elemType, hr.tag, elementType, bool_on hr,
      Element.tag]
  | .float32 tg b, _, fuel + 1, r, rest, _, hr => by
    refine ⟨{ r with valueRead := true }, ?_, by simpa [body] using hr.input, rfl, .inr rfl⟩
    simp +decide [readCurrent, hr.elemType, hr.tag, elementType, float32_on hr, Element.tag]
  | .float64 tg b, _, fuel + 1, r, rest, _, hr => by
    refine ⟨{ r with valueRead := true }, ?_, by simpa [body] using hr.input, rfl, .inr rfl⟩
    simp +decide [readCurrent, hr.elemType, hr.tag, elementType, float64_on hr, Element.tag]
  | .utf8 tg v, he, fuel + 1, r, rest, _, hr => by
    refine ⟨{ r with valueRead := true, input := rest }, ?_, rfl, rfl, .inr rfl⟩
    have hs := string_on hr he.2.1 (by have := he.2.2; omega)
    rcases ofWidth_mem ElementType.utf8_1.code (uintWidth v.length) with h | h | h | h <;>
      simp +decide [readCurrent, hr.elemType, hr.tag, elementType, h, hs, Element.tag]
  | .bytes tg v, he, fuel + 1, r, rest, _, hr => by
    refine ⟨{ r with valueRead := true, input := rest }, ?_, rfl, rfl, .inr rfl⟩
    have hs := bytes_on hr (by have := he.2; omega)
    rcases ofWidth_mem ElementType.bytes1.code (uintWidth v.length) with h | h | h | h <;>
      simp +decide [readCurrent, hr.elemType, hr.tag, elementType, h, hs, Element.tag]
  | .null tg, _, fuel + 1, r, rest, _, hr => by
    refine ⟨{ r with valueRead := true }, ?_, by simpa [body] using hr.input, rfl, .inr rfl⟩
    simp +decide [readCurrent, hr.elemType, hr.tag, elementType, null_on hr, Element.tag]
  | .container kind tg members, he, fuel + 1, r, rest, hfuel, hr => by
    have hfuel' : membersDepth members ≤ fuel := by simp [depth] at hfuel; omega
    -- entering pushes the container; its members are read up to the end marker, which pops it
    obtain ⟨re, hre, hreStack, hreEl, hreIn⟩ : ∃ re, r.enterContainer = .ok re ∧
        re.containerStack = r.containerStack ++ [kind.elementType] ∧ re.hasElement = false ∧
        re.input = r.input := ⟨_, enterContainer_on hr, rfl, rfl, rfl⟩
    have hentered := resumes_self (r := re) (.inl hreEl)
    rw [hreIn, hr.input] at hentered
    obtain ⟨r', hread, hin, hstack, hel⟩ :=
      readMembers_on members he.2 fuel re rest hfuel'
        (by simpa [body, List.append_assoc] using hentered) (by simp [hreStack])
    refine ⟨r', ?_, hin, by simp [hstack, hreStack], .inl hel⟩
    cases kind <;>
      simp +decide [readCurrent, hr.elemType, hr.tag, elementType, ContainerType.elementType,
        hre, hread, Element.tag, ContainerType.ofElementType]

/-- **The reader reads back the members of a container** and leaves it. -/
theorem readMembers_on : ∀ (es : List Element), MembersWellFormed es → ∀ (fuel : Nat)
    (r : Reader) (rest : List UInt8), membersDepth es ≤ fuel →
    r.Resumes (encodeMembers es ++ ElementType.endOfContainer.code :: rest) →
    r.containerStack ≠ [] →
    ∃ r', readMembers fuel r = .ok (es, r') ∧ r'.input = rest ∧
      r'.containerStack = r.containerStack.dropLast ∧ r'.hasElement = false
  | es, _, 0, _, _, hfuel, _, _ => absurd hfuel (by cases es <;> simp [membersDepth])
  | [], _, fuel + 1, r, rest, _, hr, hstack => by
    obtain ⟨r1, hnext, hel, _, hend, hin, hstack1⟩ := next_end (by simpa [encodeMembers] using hr)
    have hisEnd : r1.isEndOfContainer = true := by simp [isEndOfContainer, hel, hend]
    refine ⟨{ r1 with containerStack := r1.containerStack.dropLast, hasElement := false }, ?_, hin,
      by rw [hstack1], rfl⟩
    simp [readMembers, hnext, hisEnd, exitContainer_at_end (hstack1 ▸ hstack) hel hend]
  | e :: es, ⟨he, hes⟩, fuel + 1, r, rest, hfuel, hr, hstack => by
    have hfuel' : e.depth ≤ fuel ∧ membersDepth es ≤ fuel := by
      simp [membersDepth] at hfuel
      omega
    obtain ⟨r1, hnext, hon, hstack1⟩ :=
      next_on he (by simpa [encodeMembers, List.append_assoc] using hr)
    have hnotEnd : r1.isEndOfContainer = false := by
      simp [isEndOfContainer, hon.elemType, elementType_ne_end]
    obtain ⟨r2, hread2, hin2, hstack2, hsettled⟩ :=
      readCurrent_on e he fuel r1 _ hfuel'.1 hon
    obtain ⟨r3, hread3, hin3, hstack3, hel3⟩ :=
      readMembers_on es hes fuel r2 rest hfuel'.2
        (by rw [← hin2]; exact resumes_self (by rcases hsettled with h | h <;> simp [h]))
        (by rw [hstack2, hstack1]; exact hstack)
    refine ⟨r3, ?_, hin3, by rw [hstack3, hstack2, hstack1], hel3⟩
    simp [readMembers, hnext, hnotEnd, hread2, hread3]
end

/-- **A tree is read back from its encoding**: reading the encoding of a well-formed tree, with
nothing after it, gives the tree, and the next `next` finds the input exhausted. -/
theorem readElement_encode (e : Element) (he : e.WellFormed) :
    ∃ r, readElement e.encode = .ok (e, r) ∧ r.input = [] ∧ r.next = .error .eof := by
  have hnew : (newReader e.encode).Resumes (e.encode ++ []) := by
    have h := resumes_self (r := newReader e.encode) (.inl rfl)
    simpa [newReader] using h
  obtain ⟨r1, hnext, hon, _⟩ := next_on he hnew
  obtain ⟨r2, hread, hin, _, hsettled⟩ :=
    readCurrent_on e he (e.encode.length + 1) r1 [] (by have := depth_le_length e; omega) hon
  refine ⟨r2, by simp [readElement, hnext, hread], hin, ?_⟩
  obtain ⟨r0, hs, hin0, _⟩ := resumes_self (r := r2) (by rcases hsettled with h | h <;> simp [h])
  simp [next, hs, readFull, hin0, hin]

/-- **TLV round trip**: a well-formed tree, written with the writer's methods into an empty
buffer, closes every container it opens, and the reader reads the same tree, tags included,
back from the bytes, after which `Next` returns `io.EOF` with no bytes left over. -/
theorem tlv_tree_round_trip (e : Element) (he : e.WellFormed) :
    ∃ w r, e.write newWriter = .ok w ∧ w.containerStack = [] ∧ readElement w.out = .ok (e, r) ∧
      r.input = [] ∧ r.next = .error .eof := by
  obtain ⟨r, hread, hin, heof⟩ := readElement_encode e he
  refine ⟨newWriter.write e.encode, r, write_eq e he newWriter, rfl, ?_, hin, heof⟩
  simpa [newWriter] using hread

/-- A structure with a context-tagged integer past one byte, a string under a four-byte common
profile tag, and an empty list under a fully-qualified tag. -/
theorem tlv_tree_round_trip_struct :
    let e : Element := .container .structure .anonymous
      [.uint (.contextTag 1) 300, .utf8 (.commonProfileTag 70000) [0x68, 0x69],
        .container .list (.fullyQualifiedTag 0xFFF1 1 2) []]
    ∃ w r, e.write newWriter = .ok w ∧ w.containerStack = [] ∧ readElement w.out = .ok (e, r) ∧
      r.input = [] ∧ r.next = .error .eof :=
  tlv_tree_round_trip _ ⟨.anonymous, ⟨.contextTag 1, ⟨.commonProfileTag 70000, by decide, by decide⟩,
    ⟨.fullyQualifiedTag 0xFFF1 1 2, trivial⟩, trivial⟩⟩

end Matter.Tlv
