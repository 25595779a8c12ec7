import Matter.Tlv.Navigation

/-!
# Distinguished names (`pkg/credentials/dn.go`)

A Matter certificate's issuer and subject are distinguished names: TLV lists whose members are
attributes with context tags. A Matter-specific attribute (`IsMatterSpecificTag`: a node,
firmware signing, ICAC, RCAC, fabric or VVS ID, or a CASE authenticated tag, with or without the
PrintableString offset) holds a `uint64`; every other attribute holds a UTF-8 string.
`DistinguishedName.EncodeTLV` writes the list with `StartList`, one `PutString` or `PutUint` per
attribute and `EndContainer`. `DecodeDistinguishedName` is called on a reader resting on the
list; it enters the list and loops over `Next`, decoding every member with `DecodeDNAttribute`,
until `IsEndOfContainer`. There it breaks, and it returns without `ExitContainer`.

Go's `interface{}` value of an attribute is a `string` or a `uint64` here (`DNValue`), a string
its bytes. A decoder returns its reader, which Go mutates in place.

Results:
* `encodeTLV_eq`: writing a distinguished name whose attributes are valid (`DNAttribute.Valid`)
  appends the encoding of its list (`DistinguishedName.element`).
* `decodeDistinguishedName_containerDepth`: on a reader resting on such a list, at any depth,
  `DecodeDistinguishedName` returns the distinguished name and a reader from which `Next` reads
  what follows the list, but with one more container on its stack: the list it entered.
* `decodeDistinguishedName_encodeTLV`: so decoding what `EncodeTLV` wrote gives the
  distinguished name back, and leaves a reader at top level one container deep.
-/

namespace Matter.Credentials

open Matter.Tlv

/-- `TagDNMatterNodeID`. -/
def tagDNMatterNodeID : UInt8 := 17
/-- `TagDNMatterVVSID`. -/
def tagDNMatterVVSID : UInt8 := 23
/-- `TagDNPrintableStringOffset`. -/
def tagDNPrintableStringOffset : UInt8 := 0x80

/-- `IsMatterSpecificTag`. -/
def isMatterSpecificTag (tag : UInt8) : Bool :=
  let baseTag := if tag ≥ tagDNPrintableStringOffset then tag - tagDNPrintableStringOffset else tag
  baseTag ≥ tagDNMatterNodeID && baseTag ≤ tagDNMatterVVSID

/-- The value of a `DNAttribute`: a `string` or a `uint64`. -/
inductive DNValue
  | string (s : List UInt8)
  | uint64 (u : UInt64)
  deriving DecidableEq, Repr

/-- `DNAttribute`. -/
structure DNAttribute where
  tag : UInt8
  value : DNValue
  deriving DecidableEq, Repr

/-- `DistinguishedName`. -/
abbrev DistinguishedName := List DNAttribute

/-- The errors of `DecodeDNAttribute` and `DecodeDistinguishedName`. -/
inductive DnError
  /-- "expected context-specific tag, got %v". -/
  | expectedContextTag (tag : Tag)
  /-- "matter-specific attribute must be unsigned integer, got %v". -/
  | matterSpecificNotUint (elemType : ElementType)
  /-- "failed to read uint64: %w". -/
  | readUint (e : TlvError)
  /-- "standard DN attribute must be UTF-8 string, got %v". -/
  | standardNotString (elemType : ElementType)
  /-- "failed to read string: %w". -/
  | readString (e : TlvError)
  /-- "expected list, got %v". -/
  | expectedList (elemType : ElementType)
  /-- An error of the reader, returned as it is. -/
  | reader (e : TlvError)
  deriving DecidableEq, Repr

/-- `DNAttribute.EncodeTLV`. -/
def DNAttribute.encodeTLV (d : DNAttribute) (w : Writer) : Except TlvError Writer :=
  let tag := Tag.contextTag d.tag
  match d.value with
  | .string s => w.putString tag s
  -- both arms of the width `switch` call `PutUint`
  | .uint64 u => .ok (w.putUint tag u)

/-- `DistinguishedName.EncodeTLV`. -/
def DistinguishedName.encodeTLV (dn : DistinguishedName) (w : Writer) (tag : Tag) :
    Except TlvError Writer := do
  let w ← dn.foldlM (fun w attr => attr.encodeTLV w) (w.startList tag)
  w.endContainer

/-- `DecodeDNAttribute`, on a reader resting on the attribute. -/
def decodeDNAttribute (r : Reader) : Except DnError (DNAttribute × Reader) :=
  let tag := r.tag
  if !tag.isContext then .error (.expectedContextTag tag)
  else
    let ctxTag := tag.tagNumber.toUInt8
    let elemType := r.elemType
    if isMatterSpecificTag ctxTag then
      if !elemType.isUnsignedInt then .error (.matterSpecificNotUint elemType)
      else do
        let (u, r) ← r.uint.mapError .readUint
        .ok (⟨ctxTag, .uint64 u⟩, r)
    else if !elemType.isUTF8String then .error (.standardNotString elemType)
    else do
      let (s, r) ← r.string.mapError .readString
      .ok (⟨ctxTag, .string s⟩, r)

/-- **What `DecodeDNAttribute` returns as its reader**: that of `Uint` or of `String`. -/
theorem decodeDNAttribute_reader {r r' : Reader} {a : DNAttribute}
    (h : decodeDNAttribute r = .ok (a, r')) :
    (∃ u, r.uint = .ok (u, r')) ∨ (∃ s, r.string = .ok (s, r')) := by
  unfold decodeDNAttribute at h
  dsimp only at h
  split_ifs at h
  · obtain ⟨⟨u, r1⟩, hx, h⟩ := Except.bind_eq_ok.mp h
    simp only [Except.ok.injEq, Prod.mk.injEq] at h
    obtain ⟨-, rfl⟩ := h
    exact .inl ⟨u, Except.mapError_eq_ok.mp hx⟩
  · obtain ⟨⟨s, r1⟩, hx, h⟩ := Except.bind_eq_ok.mp h
    simp only [Except.ok.injEq, Prod.mk.injEq] at h
    obtain ⟨-, rfl⟩ := h
    exact .inr ⟨s, Except.mapError_eq_ok.mp hx⟩

theorem length_input_decodeDNAttribute_le {r r' : Reader} {a : DNAttribute}
    (h : decodeDNAttribute r = .ok (a, r')) : r'.input.length ≤ r.input.length := by
  rcases decodeDNAttribute_reader h with ⟨u, hx⟩ | ⟨s, hx⟩
  · exact Nat.le_of_eq (congrArg List.length (Reader.input_uint hx))
  · exact Reader.length_input_string_le hx

-- `hnext` and `hattr` are used by `decreasing_by`, which the linter does not see
set_option linter.unusedVariables false in
/-- The loop of `DecodeDistinguishedName`: `Next`, then a break at an end marker or an
attribute appended. -/
def decodeAttributes (dn : DistinguishedName) (r : Reader) :
    Except DnError (DistinguishedName × Reader) :=
  match hnext : r.next with
  | .error e => .error (.reader e)
  | .ok r1 =>
    if r1.isEndOfContainer then .ok (dn, r1)
    else
      match hattr : decodeDNAttribute r1 with
      | .error e => .error e
      | .ok (attr, r2) => decodeAttributes (dn ++ [attr]) r2
termination_by r.input.length
decreasing_by
  exact Nat.lt_of_le_of_lt (length_input_decodeDNAttribute_le hattr)
    (Reader.length_input_next_lt hnext)

/-- `DecodeDistinguishedName`, on a reader resting on the list. -/
def decodeDistinguishedName (r : Reader) : Except DnError (DistinguishedName × Reader) :=
  if r.elemType ≠ .list then .error (.expectedList r.elemType)
  else do
    let r ← r.enterContainer.mapError .reader
    decodeAttributes [] r

/-! ## The encoding of a distinguished name -/

/-- The element an attribute is written as. -/
def DNAttribute.element (a : DNAttribute) : Element :=
  match a.value with
  | .string s => .utf8 (.contextTag a.tag) s
  | .uint64 u => .uint (.contextTag a.tag) u

/-- The list a distinguished name is written as. -/
def DistinguishedName.element (dn : DistinguishedName) (tag : Tag) : Element :=
  .container .list tag (dn.map DNAttribute.element)

/-- An attribute of the kind its tag asks for: a `uint64` under a Matter-specific tag, a UTF-8
string, as long as a Go string can be, under any other. -/
def DNAttribute.Valid (a : DNAttribute) : Prop :=
  match a.value with
  | .string s => isMatterSpecificTag a.tag = false ∧ Utf8.valid s = true ∧ s.length < 2 ^ 63
  | .uint64 _ => isMatterSpecificTag a.tag = true

instance (a : DNAttribute) : Decidable a.Valid :=
  match a with
  | ⟨_, .string _⟩ => inferInstanceAs (Decidable (_ ∧ _ ∧ _))
  | ⟨_, .uint64 _⟩ => inferInstanceAs (Decidable (_ = _))

theorem DNAttribute.wellFormed_element {a : DNAttribute} (ha : a.Valid) : a.element.WellFormed := by
  obtain ⟨t, v⟩ := a
  cases v with
  | string s => exact ⟨.contextTag t, ha.2⟩
  | uint64 u => exact .contextTag t

theorem DistinguishedName.wellFormed_members {dn : DistinguishedName} (hdn : ∀ a ∈ dn, a.Valid) :
    Element.MembersWellFormed (dn.map DNAttribute.element) := by
  induction dn with
  | nil => trivial
  | cons a dn ih =>
    exact ⟨DNAttribute.wellFormed_element (hdn a (by simp)),
      ih fun a' h => hdn a' (by simp [h])⟩

/-- An attribute's `EncodeTLV` is the writer's method for its element. -/
theorem DNAttribute.encodeTLV_eq_write (a : DNAttribute) (w : Writer) :
    a.encodeTLV w = a.element.write w := by
  obtain ⟨t, v⟩ := a
  cases v <;> rfl

/-- The attribute loop of `EncodeTLV` writes the attributes' encodings, one after the other. -/
theorem foldlM_encodeTLV {dn : DistinguishedName} (hdn : ∀ a ∈ dn, a.Valid) (w : Writer) :
    dn.foldlM (fun w attr => attr.encodeTLV w) w =
      .ok (w.write (Element.encodeMembers (dn.map DNAttribute.element))) := by
  induction dn generalizing w with
  | nil => simp [Element.encodeMembers]
  | cons a dn ih =>
    have ha := Element.write_eq a.element (DNAttribute.wellFormed_element (hdn a (by simp))) w
    rw [List.foldlM_cons, DNAttribute.encodeTLV_eq_write, ha, Except.ok_bind,
      ih (fun a' h => hdn a' (by simp [h]))]
    simp [Element.encodeMembers, Writer.write_write]

/-- **`EncodeTLV` writes the list**: writing a distinguished name of valid attributes appends the
encoding of its list and leaves the container stack as it was. -/
theorem encodeTLV_eq {dn : DistinguishedName} (hdn : ∀ a ∈ dn, a.Valid) (w : Writer)
    (tag : Tag) :
    DistinguishedName.encodeTLV dn w tag = .ok (w.write (DistinguishedName.element dn tag).encode) := by
  rw [DistinguishedName.encodeTLV, foldlM_encodeTLV hdn, Except.ok_bind, Writer.startList,
    Writer.startContainer_endContainer]
  rfl

/-! ## Decoding -/

theorem isUnsignedInt_uint (tag : Tag) (u : UInt64) :
    (Element.uint tag u).elementType.isUnsignedInt = true := by
  rcases ofWidth_mem ElementType.uInt8.code (uintWidth u.toNat) with h | h | h | h <;>
    simp only [Element.elementType, h] <;> decide

theorem isUTF8String_utf8 (tag : Tag) (s : List UInt8) :
    (Element.utf8 tag s).elementType.isUTF8String = true := by
  rcases ofWidth_mem ElementType.utf8_1.code (uintWidth s.length) with h | h | h | h <;>
    simp only [Element.elementType, h] <;> decide

/-- **`DecodeDNAttribute` reads an attribute back**: on a reader resting on a valid attribute's
element, it returns the attribute, with the reader past its value. -/
theorem decodeDNAttribute_on {a : DNAttribute} {r : Reader} {rest : List UInt8} (ha : a.Valid)
    (hr : r.On a.element rest) :
    ∃ r', decodeDNAttribute r = .ok (a, r') ∧ r'.Resumes rest ∧
      r'.containerStack = r.containerStack := by
  obtain ⟨t, v⟩ := a
  have hctx : r.tag.isContext = true := by rw [hr.tag]; cases v <;> rfl
  have hnum : r.tag.tagNumber.toUInt8 = t := by
    rw [hr.tag]
    cases v <;> simp [DNAttribute.element, Element.tag, Tag.contextTag]
  cases v with
  | string s =>
    obtain ⟨hspec, hvalid, hlen⟩ := ha
    have htype : r.elemType.isUTF8String = true := hr.elemType ▸ isUTF8String_utf8 _ s
    refine ⟨{ r with valueRead := true, input := rest }, ?_,
      Reader.resumes_self (.inr (.inl rfl)), rfl⟩
    simp only [decodeDNAttribute, hctx, hnum, hspec, htype, Bool.not_true, Bool.false_eq_true,
      ↓reduceIte, Reader.string_on hr hvalid (by omega)]
    rfl
  | uint64 u =>
    have htype : r.elemType.isUnsignedInt = true := hr.elemType ▸ isUnsignedInt_uint _ u
    have hin : r.input = rest := by simpa [DNAttribute.element, Element.body] using hr.input
    refine ⟨{ r with valueRead := true }, ?_,
      hin ▸ Reader.resumes_self (.inr (.inl rfl)), rfl⟩
    simp only [decodeDNAttribute, hctx, hnum, show isMatterSpecificTag t = true from ha, htype,
      Bool.not_true, Bool.false_eq_true, ↓reduceIte, Reader.uint_on hr]
    rfl

/-- At an end marker, the loop breaks, leaving the reader on the end marker. -/
theorem decodeAttributes_end {dn : DistinguishedName} {r : Reader} {rest : List UInt8}
    (hres : r.Resumes (ElementType.endOfContainer.code :: rest)) :
    ∃ r', decodeAttributes dn r = .ok (dn, r') ∧ r'.Resumes rest ∧
      r'.containerStack = r.containerStack := by
  obtain ⟨r', hnext, hel, -, hend, hin, hstack⟩ := Reader.next_end hres
  have hendc : r'.isEndOfContainer = true := by simp [Reader.isEndOfContainer, hel, hend]
  have hres' : r'.Resumes rest :=
    hin ▸ Reader.resumes_self (.inr (.inr (by rw [hend]; decide)))
  refine ⟨r', ?_, hres', hstack⟩
  rw [decodeAttributes, hnext]
  simp [hendc]

/-- **The attribute loop**: from the first of the members of a list of valid attributes, up to
its end marker, the loop appends the attributes in order and stops on the end marker, with the
container stack unchanged. The induction is on the attributes, the reader resuming at the next
one after each. -/
theorem decodeAttributes_members : ∀ (dn : DistinguishedName), (∀ a ∈ dn, a.Valid) →
    ∀ (acc : DistinguishedName) (r : Reader) (rest : List UInt8),
      r.Resumes (Element.encodeMembers (dn.map DNAttribute.element) ++
        ElementType.endOfContainer.code :: rest) →
      ∃ r', decodeAttributes acc r = .ok (acc ++ dn, r') ∧ r'.Resumes rest ∧
        r'.containerStack = r.containerStack
  | [], _, acc, r, rest, hres => by
    simpa using @decodeAttributes_end acc _ _ (by simpa [Element.encodeMembers] using hres)
  | a :: dn, hdn, acc, r, rest, hres => by
    have ha := hdn a (by simp)
    have hres' : r.Resumes (a.element.encode ++ (Element.encodeMembers (dn.map DNAttribute.element) ++
        ElementType.endOfContainer.code :: rest)) := by
      simpa [Element.encodeMembers, List.append_assoc] using hres
    obtain ⟨r1, hnext, hon, hstack1⟩ := Reader.next_on (DNAttribute.wellFormed_element ha) hres'
    have hnotend : r1.isEndOfContainer = false := by
      simp [Reader.isEndOfContainer, hon.elemType, Element.elementType_ne_end]
    obtain ⟨r2, hattr, hres2, hstack2⟩ := decodeDNAttribute_on ha hon
    obtain ⟨r', hloop, hres', hstack'⟩ :=
      decodeAttributes_members dn (fun a' h => hdn a' (by simp [h])) (acc ++ [a]) r2 rest hres2
    refine ⟨r', ?_, hres', by rw [hstack', hstack2, hstack1]⟩
    rw [decodeAttributes, hnext]
    simp only [hnotend, Bool.false_eq_true, ↓reduceIte]
    rw [hattr]
    simpa using hloop

/-- **`DecodeDistinguishedName` reads a distinguished name**: on a reader resting on the list of
valid attributes, it returns them, with a reader from which `Next` reads what follows the list and
whose container stack has the list pushed on it. -/
theorem decodeDistinguishedName_on {dn : DistinguishedName} {tag : Tag} {r : Reader}
    {rest : List UInt8} (hdn : ∀ a ∈ dn, a.Valid) (hr : r.On (DistinguishedName.element dn tag) rest) :
    ∃ r', decodeDistinguishedName r = .ok (dn, r') ∧ r'.Resumes rest ∧
      r'.containerStack = r.containerStack ++ [.list] := by
  have hlist : r.elemType = .list := hr.elemType
  obtain ⟨re, henter, hreIn, hreEl, hreStack⟩ : ∃ re, r.enterContainer = .ok re ∧
      re.input = r.input ∧ re.hasElement = false ∧
      re.containerStack = r.containerStack ++ [.list] :=
    ⟨_, Reader.enterContainer_on hr, rfl, rfl, rfl⟩
  -- inside the list, with nothing to skip, the attributes are ahead
  have hres := Reader.resumes_self (.inl hreEl)
  simp only [hreIn, hr.input, DistinguishedName.element, Element.body, List.append_assoc,
    List.singleton_append] at hres
  obtain ⟨r', hloop, hres', hstack⟩ := decodeAttributes_members dn hdn [] re rest hres
  refine ⟨r', ?_, hres', hstack.trans hreStack⟩
  simp only [decodeDistinguishedName, hlist, ne_eq, not_true_eq_false, ↓reduceIte, henter]
  simpa using hloop

/-- **`DecodeDistinguishedName` leaves the list entered**: on a reader resting on the list of a
distinguished name of valid attributes, inside any containers, it returns the distinguished
name, and `Next` then reads what follows the list; but the reader's container stack holds one
more container, the list, which it entered and never exited. -/
theorem decodeDistinguishedName_containerDepth (dn : DistinguishedName) (tag : Tag)
    (hdn : ∀ a ∈ dn, a.Valid) (r : Reader) (rest : List UInt8)
    (hr : r.On (DistinguishedName.element dn tag) rest) :
    ∃ r', decodeDistinguishedName r = .ok (dn, r') ∧ r'.Resumes rest ∧
      r'.containerDepth = r.containerDepth + 1 := by
  obtain ⟨r', hdecode, hres, hstack⟩ := decodeDistinguishedName_on hdn hr
  refine ⟨r', hdecode, hres, ?_⟩
  simp [Reader.containerDepth, hstack]

/-- The subject `CN = "a"` of a certificate, as the reader rests on it inside the certificate's
structure, with `NotBefore = 7` after it. -/
theorem decodeDistinguishedName_containerDepth_subject :
    ∃ r', decodeDistinguishedName
        { input := (DistinguishedName.element [⟨1, .string [0x61]⟩] (.contextTag 6)).body ++
            ((Element.uint (.contextTag 4) 7).encode ++ [0x18]),
          containerStack := [.struct], hasElement := true, elemType := .list,
          tag := .contextTag 6, valueRead := false, valueBuf := [], valueLen := 0,
          stringLen := 0 } = .ok ([⟨1, .string [0x61]⟩], r') ∧
      r'.Resumes ((Element.uint (.contextTag 4) 7).encode ++ [0x18]) ∧ r'.containerDepth = 2 :=
  decodeDistinguishedName_containerDepth [⟨1, .string [0x61]⟩] (.contextTag 6) (by decide) _ _
    ⟨rfl, rfl, rfl, rfl, ⟨fun _ => rfl, by decide⟩, rfl⟩

/-- **Decoding what `EncodeTLV` wrote**: `Next` on the bytes `EncodeTLV` writes for a
distinguished name of valid attributes, then `DecodeDistinguishedName`, give the distinguished
name back and a reader at what followed, one container deep although the list was read to its
end. -/
theorem decodeDistinguishedName_encodeTLV {dn : DistinguishedName} (hdn : ∀ a ∈ dn, a.Valid)
    {tag : Tag} (htag : tag.Built) (rest : List UInt8) :
    ∃ w r r', DistinguishedName.encodeTLV dn newWriter tag = .ok w ∧
      (newReader (w.out ++ rest)).next = .ok r ∧ decodeDistinguishedName r = .ok (dn, r') ∧
      r'.Resumes rest ∧ r'.containerDepth = 1 := by
  have hwf : (DistinguishedName.element dn tag).WellFormed :=
    ⟨htag, DistinguishedName.wellFormed_members hdn⟩
  -- a new writer's output is the encoding alone
  obtain ⟨r, hnext, hon, hstack⟩ :=
    Reader.next_on hwf (Reader.resumes_newReader ((DistinguishedName.element dn tag).encode ++ rest))
  obtain ⟨r', hdecode, hres, hstack'⟩ := decodeDistinguishedName_on hdn hon
  refine ⟨_, r, r', encodeTLV_eq hdn newWriter tag, hnext, hdecode, hres, ?_⟩
  simp [Reader.containerDepth, hstack', hstack, newReader]

/-- The structure `{3: [CN = "a"], 4: 7}`, an issuer and a `NotBefore` time. -/
def issuerAndNotBefore : Element :=
  .container .structure .anonymous
    [DistinguishedName.element [⟨1, .string [0x61]⟩] (.contextTag 3), .uint (.contextTag 4) 7]

/-- A caller that enters `{3: [CN = "a"], 4: 7}` and reads its issuer is one container deep before
`DecodeDistinguishedName` and two after it; when it then leaves the structure with
`ExitContainer`, `Next` reads the structure's own member `4: 7`. -/
theorem exitContainer_after_decodeDistinguishedName :
    let onIssuer := ((newReader issuerAndNotBefore.encode).next >>= Reader.enterContainer >>=
      Reader.next).mapError DnError.reader
    onIssuer.map Reader.containerDepth = .ok 1 ∧
      (onIssuer >>= decodeDistinguishedName).map (·.2.containerDepth) = .ok 2 ∧
      (onIssuer >>= decodeDistinguishedName >>= fun p =>
        (p.2.exitContainer >>= Reader.next).mapError DnError.reader).map
          (fun r => (r.tag, r.containerDepth)) = .ok (.contextTag 4, 1) := by
  decide +kernel

end Matter.Credentials
