import Matter.Tlv.Navigation
import Matter.Lib.GoMap
import Matter.Lib.Except

/-!
# The optional data of a QR code (`pkg/commissioning/payload/tlv.go`)

After its 88 bits, a QR payload may carry TLV data: an anonymous structure whose members have
context tags, the Matter-common tags below `0x80` and the vendor tags from `0x80`.
`parseTLVData` reads the structure's header, enters it, and then loops over `Reader.Next`:
it stops at an end marker or at the end of the input, rejects a member without a context tag,
and hands every other member to `parseCommonTag` or `parseVendorTag`. Those read the value of
a member of a type they expect and leave every other member unread.

A Go string is here its bytes. `parseTLVData` reads and writes only the payload's
`OptionalData`, which is its argument and its result here; Go mutates the payload in place, and
its caller drops the payload when an error is returned.

The loop counts on `Next` to go from a member to the next one. `Next` skips the unread bytes of
a string, but it does not skip a container that was not entered: it reads the container's first
member next (`Reader.resumes_on_container`).

Results:
* `parseTLVData_flat`: on a structure whose members are all primitives with context tags, the
  result is the members' effects (`memberEffect`) applied in order.
* `parseTLVData_vendor_container`: after a container member with a vendor tag, the loop reads
  the container's members as top-level members and stops at its end marker; no top-level member
  after it is read.
* `parseTLVData_nested_vendor_container`: so on `{0x80: {1: 5}, 4: 60}` the vendor structure's
  member sets `PBKDFIterations`, and `CommissioningTimeout` is never set.
-/

namespace Matter.Payload

open Matter.Tlv

/-- `TagSerialNumber`. -/
def tagSerialNumber : UInt8 := 0x00
/-- `TagPBKDFIterations`. -/
def tagPBKDFIterations : UInt8 := 0x01
/-- `TagBPKFSalt`. -/
def tagBPKFSalt : UInt8 := 0x02
/-- `TagNumberOfDevices`. -/
def tagNumberOfDevices : UInt8 := 0x03
/-- `TagCommissioningTimeout`. -/
def tagCommissioningTimeout : UInt8 := 0x04

/-- `IsCommonTag`. -/
def isCommonTag (tag : UInt8) : Bool := tag < 0x80

/-- `IsVendorTag`. -/
def isVendorTag (tag : UInt8) : Bool := tag ≥ 0x80

/-- A value of `VendorData`: Go stores a `string`, an `int64`, a `uint64` or a `[]byte`. -/
inductive VendorValue
  | string (s : List UInt8)
  | int (v : Int64)
  | uint (v : UInt64)
  | bytes (b : List UInt8)
  deriving DecidableEq, Repr

/-- `OptionalData`, its fields at Go's zero values by default; `vendorData` is `none` for a
`nil` map. -/
structure OptionalData where
  serialNumber : List UInt8 := []
  hasSerialNumber : Bool := false
  pbkdfIterations : UInt32 := 0
  hasPBKDFIterations : Bool := false
  bpkfSalt : List UInt8 := []
  numberOfDevices : UInt8 := 0
  hasNumberOfDevices : Bool := false
  commissioningTimeout : UInt16 := 0
  hasCommissioningTimeout : Bool := false
  vendorData : Option (GoMap UInt8 VendorValue) := none

/-- The errors of `parseTLVData`. -/
inductive TlvDataError
  /-- An error of the TLV reader. -/
  | reader (e : TlvError)
  /-- `ErrTLVInvalidStructure`: "tlv: expected anonymous structure container". -/
  | invalidStructure
  /-- `ErrTLVInvalidTag`: "tlv: expected context-specific tag". -/
  | invalidTag
  /-- `ErrTLVInvalidType`: "tlv: unexpected element type for tag". -/
  | invalidType
  deriving DecidableEq, Repr

/-- The digit loop of `uintToString`: the decimal digits of `v` in front of `acc`. -/
def uintToStringLoop (v : Nat) (acc : List UInt8) : List UInt8 :=
  if v > 0 then uintToStringLoop (v / 10) (UInt8.ofNat (48 + v % 10) :: acc) else acc
termination_by v
decreasing_by omega

/-- `uintToString`: the decimal digits of `v`. -/
def uintToString (v : UInt64) : List UInt8 :=
  if v = 0 then [48] else uintToStringLoop v.toNat []

/-- A reader call, its error wrapped. -/
def liftReader {α : Type} (x : Except TlvError α) : Except TlvDataError α := x.mapError .reader

/-- `parseCommonTag`. -/
def parseCommonTag (opt : OptionalData) (reader : Reader) (tag : UInt8) :
    Except TlvDataError (OptionalData × Reader) :=
  if tag = tagSerialNumber then
    -- a serial number is a string or an unsigned integer
    if reader.elemType.isUTF8String then do
      let (s, reader) ← liftReader reader.string
      .ok ({ opt with serialNumber := s, hasSerialNumber := true }, reader)
    else if reader.elemType.isUnsignedInt then do
      let (v, reader) ← liftReader reader.uint
      .ok ({ opt with serialNumber := uintToString v, hasSerialNumber := true }, reader)
    else .error .invalidType
  else if tag = tagPBKDFIterations then
    if !reader.elemType.isUnsignedInt then .error .invalidType
    else do
      let (v, reader) ← liftReader reader.uint
      .ok ({ opt with pbkdfIterations := v.toUInt32, hasPBKDFIterations := true }, reader)
  else if tag = tagBPKFSalt then
    if !reader.elemType.isBytes then .error .invalidType
    else do
      let (b, reader) ← liftReader reader.bytes
      .ok ({ opt with bpkfSalt := b }, reader)
  else if tag = tagNumberOfDevices then
    if !reader.elemType.isUnsignedInt then .error .invalidType
    else do
      let (v, reader) ← liftReader reader.uint
      .ok ({ opt with numberOfDevices := v.toUInt8, hasNumberOfDevices := true }, reader)
  else if tag = tagCommissioningTimeout then
    if !reader.elemType.isUnsignedInt then .error .invalidType
    else do
      let (v, reader) ← liftReader reader.uint
      .ok ({ opt with commissioningTimeout := v.toUInt16, hasCommissioningTimeout := true },
        reader)
  -- an unknown common tag is left unread
  else .ok (opt, reader)

/-- `parseVendorTag`: the map is made first, whatever the member's type. -/
def parseVendorTag (opt : OptionalData) (reader : Reader) (tag : UInt8) :
    Except TlvDataError (OptionalData × Reader) :=
  let vendorData := opt.vendorData.getD GoMap.empty
  let opt := { opt with vendorData := some vendorData }
  let store (v : VendorValue) : OptionalData := { opt with vendorData := some (vendorData.insert tag v) }
  if reader.elemType.isUTF8String then do
    let (s, reader) ← liftReader reader.string
    .ok (store (.string s), reader)
  else if reader.elemType.isSignedInt then do
    let (v, reader) ← liftReader reader.int
    .ok (store (.int v), reader)
  else if reader.elemType.isUnsignedInt then do
    let (v, reader) ← liftReader reader.uint
    .ok (store (.uint v), reader)
  else if reader.elemType.isBytes then do
    let (b, reader) ← liftReader reader.bytes
    .ok (store (.bytes b), reader)
  -- containers, null, booleans and floats are left unread
  else .ok (opt, reader)

/-- The body of `parseTLVData`'s loop for a member with the context tag `tagNum`. -/
def parseMember (opt : OptionalData) (reader : Reader) (tagNum : UInt8) :
    Except TlvDataError (OptionalData × Reader) :=
  if isCommonTag tagNum then parseCommonTag opt reader tagNum
  else parseVendorTag opt reader tagNum

/-! ## The member loop -/

/-- **What `parseMember` returns as its reader**: the reader it was given, with the member left
unread, or the reader of one of the getters, called on a member of the type it reads. -/
theorem parseMember_reader {opt opt' : OptionalData} {r r' : Reader} {tag : UInt8}
    (h : parseMember opt r tag = .ok (opt', r')) :
    r' = r ∨ (r.elemType.isUTF8String = true ∧ ∃ v, r.string = .ok (v, r')) ∨
      (r.elemType.isSignedInt = true ∧ ∃ v, r.int = .ok (v, r')) ∨
      (r.elemType.isUnsignedInt = true ∧ ∃ v, r.uint = .ok (v, r')) ∨
      (r.elemType.isBytes = true ∧ ∃ v, r.bytes = .ok (v, r')) := by
  unfold parseMember parseCommonTag parseVendorTag at h
  split_ifs at h <;>
    first
    | (cases h; exact .inl rfl)
    | (obtain ⟨⟨v, r1⟩, hx, h⟩ := Except.bind_eq_ok.mp h
       simp only [Except.ok.injEq, Prod.mk.injEq] at h
       obtain ⟨-, rfl⟩ := h
       have hx := Except.mapError_eq_ok.mp hx
       first
       | exact .inr (.inl ⟨by simp_all, v, hx⟩)
       | exact .inr (.inr (.inl ⟨by simp_all, v, hx⟩))
       | exact .inr (.inr (.inr (.inl ⟨by simp_all, v, hx⟩)))
       | exact .inr (.inr (.inr (.inr ⟨by simp_all, v, hx⟩))))

/-- A member's value is read from the bytes ahead, or left unread. -/
theorem length_input_parseMember_le {opt opt' : OptionalData} {r r' : Reader} {tag : UInt8}
    (h : parseMember opt r tag = .ok (opt', r')) : r'.input.length ≤ r.input.length := by
  rcases parseMember_reader h with rfl | ⟨-, v, hx⟩ | ⟨-, v, hx⟩ | ⟨-, v, hx⟩ | ⟨-, v, hx⟩
  · exact le_refl _
  · exact Reader.length_input_string_le hx
  · exact Nat.le_of_eq (congrArg List.length (Reader.input_int hx))
  · exact Nat.le_of_eq (congrArg List.length (Reader.input_uint hx))
  · exact Reader.length_input_bytes_le hx

/-- One turn of `parseTLVData`'s loop: `none` where the loop breaks, at the end of the input or
at an end marker, else the member parsed. -/
def parseTLVStep (opt : OptionalData) (reader : Reader) :
    Except TlvDataError (Option (OptionalData × Reader)) :=
  match reader.next with
  | .error e => if e = .eof then .ok none else .error (.reader e)
  | .ok r =>
    if r.elemType = .endOfContainer then .ok none
    else if !r.tag.isContext then .error .invalidTag
    else do
      let member ← parseMember opt r r.tag.tagNumber.toUInt8
      .ok (some member)

/-- Every turn that goes on reads input. -/
theorem length_input_parseTLVStep_lt {opt opt' : OptionalData} {r r' : Reader}
    (h : parseTLVStep opt r = .ok (some (opt', r'))) : r'.input.length < r.input.length := by
  unfold parseTLVStep at h
  split at h
  · split at h <;> cases h
  · rename_i r1 hnext
    split_ifs at h
    · cases h
    obtain ⟨p, hm, hp⟩ := Except.bind_eq_ok.mp h
    cases hp
    exact Nat.lt_of_le_of_lt (length_input_parseMember_le hm) (Reader.length_input_next_lt hnext)

-- `h` is used by `decreasing_by`, which the linter does not see through the nested patterns
set_option linter.unusedVariables false in
/-- The loop of `parseTLVData`. -/
def parseTLVLoop (opt : OptionalData) (reader : Reader) : Except TlvDataError OptionalData :=
  match h : parseTLVStep opt reader with
  | .error e => .error e
  | .ok none => .ok opt
  | .ok (some (opt', r')) => parseTLVLoop opt' r'
termination_by reader.input.length
decreasing_by exact length_input_parseTLVStep_lt h

/-- `parseTLVData` on the payload's `OptionalData`: the structure's header, then the loop. -/
def parseTLVData (optionalData : Option OptionalData) (data : List UInt8) :
    Except TlvDataError (Option OptionalData) :=
  if data = [] then .ok optionalData
  else
    match (newReader data).next with
    | .error .eof => .ok optionalData
    | .error e => .error (.reader e)
    | .ok reader =>
      if reader.elemType ≠ .struct then .error .invalidStructure
      else if !reader.tag.isAnonymous then .error .invalidStructure
      else do
        let reader ← liftReader reader.enterContainer
        let opt ← parseTLVLoop (optionalData.getD {}) reader
        .ok (some opt)

/-! ## Flat structures

`memberEffect` says what a top-level member sets, read off its element: a known common tag with
a value of its type sets that field, and with another value is an error; a vendor tag with a
string, an integer or an octet string stores it; every other member sets nothing. -/

/-- The value a vendor member stores. -/
def vendorValue : Element → Option VendorValue
  | .utf8 _ s => some (.string s)
  | .int _ v => some (.int v)
  | .uint _ v => some (.uint v)
  | .bytes _ b => some (.bytes b)
  | _ => none

/-- What a top-level member sets. -/
def memberEffect (opt : OptionalData) (e : Element) : Except TlvDataError OptionalData :=
  let tag := e.tag.tagNumber.toUInt8
  if isCommonTag tag then
    if tag = tagSerialNumber then
      match e with
      | .utf8 _ s => .ok { opt with serialNumber := s, hasSerialNumber := true }
      | .uint _ v => .ok { opt with serialNumber := uintToString v, hasSerialNumber := true }
      | _ => .error .invalidType
    else if tag = tagPBKDFIterations then
      match e with
      | .uint _ v => .ok { opt with pbkdfIterations := v.toUInt32, hasPBKDFIterations := true }
      | _ => .error .invalidType
    else if tag = tagBPKFSalt then
      match e with
      | .bytes _ b => .ok { opt with bpkfSalt := b }
      | _ => .error .invalidType
    else if tag = tagNumberOfDevices then
      match e with
      | .uint _ v => .ok { opt with numberOfDevices := v.toUInt8, hasNumberOfDevices := true }
      | _ => .error .invalidType
    else if tag = tagCommissioningTimeout then
      match e with
      | .uint _ v =>
        .ok { opt with commissioningTimeout := v.toUInt16, hasCommissioningTimeout := true }
      | _ => .error .invalidType
    else .ok opt
  else
    let vendorData := opt.vendorData.getD GoMap.empty
    .ok { opt with vendorData := some ((vendorValue e).elim vendorData (vendorData.insert tag)) }

/-- The type tests of `parseCommonTag` and `parseVendorTag` on the type of an element. -/
theorem typeTests_elementType (e : Element) :
    (e.elementType.isUTF8String, e.elementType.isSignedInt, e.elementType.isUnsignedInt,
      e.elementType.isBytes) =
    (match e with
     | .utf8 .. => (true, false, false, false)
     | .int .. => (false, true, false, false)
     | .uint .. => (false, false, true, false)
     | .bytes .. => (false, false, false, true)
     | _ => (false, false, false, false)) := by
  cases e with
  | int tag v =>
    rcases ofWidth_mem ElementType.int8.code (intWidth v.toInt) with h | h | h | h <;>
      simp only [Element.elementType, h] <;> decide
  | uint tag v =>
    rcases ofWidth_mem ElementType.uInt8.code (uintWidth v.toNat) with h | h | h | h <;>
      simp only [Element.elementType, h] <;> decide
  | utf8 tag v =>
    rcases ofWidth_mem ElementType.utf8_1.code (uintWidth v.length) with h | h | h | h <;>
      simp only [Element.elementType, h] <;> decide
  | bytes tag v =>
    rcases ofWidth_mem ElementType.bytes1.code (uintWidth v.length) with h | h | h | h <;>
      simp only [Element.elementType, h] <;> decide
  | bool tag v => cases v <;> rfl
  | container kind => cases kind <;> rfl
  | _ => rfl

/-- A reader whose value was read resumes where it is. -/
theorem resumes_of_valueRead {r : Reader} {rest : List UInt8} (hread : r.valueRead = true)
    (hin : r.input = rest) : r.Resumes rest :=
  hin ▸ Reader.resumes_self (.inr (.inl hread))

/-- **After a member, `next` resumes at the next one**, whether `parseMember` read its value or
not. -/
theorem resumes_parseMember {opt opt' : OptionalData} {r r' : Reader} {e : Element}
    {rest : List UInt8} {tag : UInt8} (hr : r.On e rest) (he : e.WellFormed)
    (hleaf : e.elementType.isContainer = false) (h : parseMember opt r tag = .ok (opt', r')) :
    r'.Resumes rest ∧ r'.containerStack = r.containerStack := by
  have htests := typeTests_elementType e
  have hin : r.input = e.body ++ rest := hr.input
  rcases parseMember_reader h with rfl | ⟨ht, v, hx⟩ | ⟨ht, v, hx⟩ | ⟨ht, v, hx⟩ | ⟨ht, v, hx⟩
  · exact ⟨Reader.resumes_on hr he hleaf, rfl⟩
  all_goals
    rw [hr.elemType] at ht
    cases e <;> simp only [Prod.mk.injEq] at htests <;>
      simp only [htests, Bool.false_eq_true] at ht
  · rw [Reader.string_on hr he.2.1 (by have := he.2.2; omega)] at hx
    cases hx
    exact ⟨resumes_of_valueRead rfl rfl, rfl⟩
  · rw [Reader.int_on hr] at hx
    cases hx
    exact ⟨resumes_of_valueRead rfl (by simpa [Element.body] using hin), rfl⟩
  · rw [Reader.uint_on hr] at hx
    cases hx
    exact ⟨resumes_of_valueRead rfl (by simpa [Element.body] using hin), rfl⟩
  · rw [Reader.bytes_on hr (by have := he.2; omega)] at hx
    cases hx
    exact ⟨resumes_of_valueRead rfl rfl, rfl⟩

/-- **A member's effect**: on a primitive member, `parseMember` sets what `memberEffect` says. -/
theorem parseMember_effect {opt : OptionalData} {r : Reader} {e : Element} {rest : List UInt8}
    (hr : r.On e rest) (he : e.WellFormed) (hleaf : e.elementType.isContainer = false) :
    (parseMember opt r e.tag.tagNumber.toUInt8).map Prod.fst = memberEffect opt e := by
  have htests := typeTests_elementType e
  rw [← hr.elemType] at htests
  simp only [parseMember, parseCommonTag, parseVendorTag, memberEffect, liftReader]
  -- the type tests pick the getter of the member's own type, which returns its value
  cases e with
  | container => simp [Element.isContainer_elementType] at hleaf
  | utf8 tag s =>
    simp only [Prod.mk.injEq] at htests
    obtain ⟨h1, h2, h3, h4⟩ := htests
    simp only [h1, h3, h4, Reader.string_on hr he.2.1 (by have := he.2.2; omega), vendorValue,
      Element.tag, ↓reduceIte, Bool.not_false]
    split_ifs <;> simp only [*, ↓reduceIte] <;> rfl
  | int tag v =>
    simp only [Prod.mk.injEq] at htests
    obtain ⟨h1, h2, h3, h4⟩ := htests
    simp only [h1, h2, h3, h4, Reader.int_on hr, vendorValue, Element.tag, ↓reduceIte,
      Bool.not_false, Bool.false_eq_true]
    split_ifs <;> simp only [*, ↓reduceIte] <;> rfl
  | uint tag v =>
    simp only [Prod.mk.injEq] at htests
    obtain ⟨h1, h2, h3, h4⟩ := htests
    simp only [h1, h2, h3, h4, Reader.uint_on hr, vendorValue, Element.tag, ↓reduceIte,
      Bool.not_false, Bool.not_true, Bool.false_eq_true]
    split_ifs <;> simp only [*, ↓reduceIte] <;> rfl
  | bytes tag b =>
    simp only [Prod.mk.injEq] at htests
    obtain ⟨h1, h2, h3, h4⟩ := htests
    simp only [h1, h2, h3, h4, Reader.bytes_on hr (by have := he.2; omega), vendorValue,
      Element.tag, ↓reduceIte, Bool.not_false, Bool.not_true, Bool.false_eq_true]
    split_ifs <;> simp only [*, ↓reduceIte] <;> rfl
  | _ =>
    simp only [Prod.mk.injEq] at htests
    obtain ⟨h1, h2, h3, h4⟩ := htests
    simp only [h1, h2, h3, h4, vendorValue, Element.tag, ↓reduceIte, Bool.not_false,
      Bool.false_eq_true]
    split_ifs <;> simp only [*, ↓reduceIte] <;> rfl

/-- At an end marker, the loop breaks. -/
theorem parseTLVStep_end {opt : OptionalData} {r : Reader} {rest : List UInt8}
    (hres : r.Resumes (ElementType.endOfContainer.code :: rest)) :
    parseTLVStep opt r = .ok none := by
  obtain ⟨r', hnext, -, -, hend, -, -⟩ := Reader.next_end hres
  simp [parseTLVStep, hnext, hend]

/-- At a member with a context tag, the loop parses it. -/
theorem parseTLVStep_member {opt : OptionalData} {r : Reader} {m : Element} {tail : List UInt8}
    (hres : r.Resumes (m.encode ++ tail)) (hm : m.WellFormed) (hctx : m.tag.isContext = true) :
    ∃ r1, r1.On m tail ∧ r1.containerStack = r.containerStack ∧
      parseTLVStep opt r = (do
        let member ← parseMember opt r1 m.tag.tagNumber.toUInt8
        .ok (some member)) := by
  obtain ⟨r1, hnext, hon, hstack⟩ := Reader.next_on hm hres
  refine ⟨r1, hon, hstack, ?_⟩
  have hend : r1.elemType ≠ .endOfContainer := hon.elemType ▸ Element.elementType_ne_end m
  simp [parseTLVStep, hnext, hend, hon.tag, hctx]

/-- **The loop over primitive members**: from the first of a list of primitive members with
context tags, up to the end marker, the loop applies their effects in order. The induction is
on the members, the reader resuming at the next one after each. -/
theorem parseTLVLoop_members : ∀ (members : List Element), Element.MembersWellFormed members →
    (∀ m ∈ members, m.elementType.isContainer = false) → (∀ m ∈ members, m.tag.isContext = true) →
    ∀ (opt : OptionalData) (r : Reader) (rest : List UInt8),
      r.Resumes (Element.encodeMembers members ++ ElementType.endOfContainer.code :: rest) →
      parseTLVLoop opt r = members.foldlM memberEffect opt
  | [], _, _, _, opt, r, rest, hres => by
    rw [parseTLVLoop, parseTLVStep_end (by simpa [Element.encodeMembers] using hres)]
    rfl
  | m :: ms, ⟨hm, hms⟩, hflat, hctx, opt, r, rest, hres => by
    have hres' : r.Resumes (m.encode ++ (Element.encodeMembers ms ++
        ElementType.endOfContainer.code :: rest)) := by
      simpa [Element.encodeMembers, List.append_assoc] using hres
    obtain ⟨r1, hon, -, hstep⟩ := parseTLVStep_member hres' hm (hctx m (by simp))
    have hleaf := hflat m (by simp)
    have heffect := @parseMember_effect opt _ _ _ hon hm hleaf
    rw [parseTLVLoop, hstep, List.foldlM_cons]
    cases hp : parseMember opt r1 m.tag.tagNumber.toUInt8 with
    | error err =>
      rw [hp] at heffect
      simp only [Except.map] at heffect
      simp [← heffect]
    | ok p =>
      obtain ⟨opt', r'⟩ := p
      rw [hp] at heffect
      simp only [Except.map] at heffect
      obtain ⟨hres'', -⟩ := resumes_parseMember hon hm hleaf hp
      rw [← heffect]
      exact parseTLVLoop_members ms hms (fun m' h => hflat m' (by simp [h]))
        (fun m' h => hctx m' (by simp [h])) opt' r' rest hres''

/-- **Into the structure**: on an anonymous structure, `parseTLVData` reads its header, enters
it and runs the loop from a reader with the members and the end marker ahead. -/
theorem parseTLVData_enter (optionalData : Option OptionalData) (members : List Element)
    (hwf : (Element.container .structure .anonymous members).WellFormed) :
    ∃ re : Reader,
      re.Resumes (Element.encodeMembers members ++ ElementType.endOfContainer.code :: []) ∧
      parseTLVData optionalData (Element.container .structure .anonymous members).encode = (do
        let opt ← parseTLVLoop (optionalData.getD {}) re
        .ok (some opt)) := by
  set S := Element.container .structure .anonymous members
  have hne : S.encode ≠ [] := by simp [S, Element.encode, header]
  obtain ⟨r1, hnext, hon, -⟩ :=
    @Reader.next_on _ _ [] hwf (by simpa using Reader.resumes_newReader S.encode)
  obtain ⟨re, hre, hreIn, hreEl⟩ : ∃ re, r1.enterContainer = .ok re ∧ re.input = r1.input ∧
      re.hasElement = false := ⟨_, Reader.enterContainer_on hon, rfl, rfl⟩
  -- inside the structure, with nothing to skip, the members are ahead
  have hres := Reader.resumes_self (r := re) (.inl hreEl)
  rw [hreIn, hon.input] at hres
  have hstruct : r1.elemType = .struct := hon.elemType
  have hanon : r1.tag.isAnonymous = true := by rw [hon.tag]; rfl
  refine ⟨re, by simpa [S, Element.body] using hres, ?_⟩
  simp only [parseTLVData, if_neg hne, hnext, hstruct, hanon, liftReader, hre]
  rfl

/-- **`parseTLVData` on a flat structure**: on an anonymous structure whose members are all
primitives with context tags, `parseTLVData` returns the members' effects applied in order to
the payload's `OptionalData`, or to a new one. -/
theorem parseTLVData_flat (optionalData : Option OptionalData) (members : List Element)
    (hwf : (Element.container .structure .anonymous members).WellFormed)
    (hflat : ∀ m ∈ members, m.elementType.isContainer = false)
    (hctx : ∀ m ∈ members, m.tag.isContext = true) :
    parseTLVData optionalData (Element.container .structure .anonymous members).encode =
      (members.foldlM memberEffect (optionalData.getD {})).map some := by
  obtain ⟨re, hres, hdata⟩ := parseTLVData_enter optionalData members hwf
  have hloop := parseTLVLoop_members members hwf.2 hflat hctx (optionalData.getD {}) re [] hres
  rw [hdata, hloop]
  cases members.foldlM memberEffect (optionalData.getD {}) <;> rfl

/-! ## Nested containers -/

/-- The members of the anonymous structure `{0x80: {1: 5}, 4: 60}`: a vendor member that is a
structure holding a member with tag 1, then a `CommissioningTimeout` of 60 seconds. -/
def nestedVendorMembers : List Element :=
  [.container .structure (.contextTag 0x80) [.uint (.contextTag 1) 5], .uint (.contextTag 4) 60]

example : (Element.container .structure .anonymous nestedVendorMembers).encode =
    [0x15, 0x35, 0x80, 0x24, 0x01, 0x05, 0x18, 0x24, 0x04, 0x3C, 0x18] := by
  decide

/-- The fields a nested container confuses: `PBKDFIterations` and `CommissioningTimeout`, each
with its flag. -/
def pbkdfAndTimeout (o : OptionalData) : (Bool × UInt32) × (Bool × UInt16) :=
  ((o.hasPBKDFIterations, o.pbkdfIterations), (o.hasCommissioningTimeout, o.commissioningTimeout))

/-- **A vendor container's members are read as top-level members**: by its top-level members,
`{0x80: {1: 5}, 4: 60}` sets `CommissioningTimeout` to 60 and no `PBKDFIterations`;
`parseTLVData` sets `PBKDFIterations` to 5 from inside the vendor member, then stops at that
member's end marker and never reads `CommissioningTimeout`. -/
theorem parseTLVData_nested_vendor_container :
    (nestedVendorMembers.foldlM memberEffect {}).map pbkdfAndTimeout =
      .ok ((false, 0), (true, 60)) ∧
    (parseTLVData none (Element.container .structure .anonymous nestedVendorMembers).encode).map
      (Option.map pbkdfAndTimeout) = .ok (some ((true, 5), (false, 0))) := by
  decide +kernel

/-- A container member with a vendor tag is left unread; only the map is made. -/
theorem parseMember_container {opt : OptionalData} {r : Reader} {kind : ContainerType}
    {tag : Tag} {members : List Element} {rest : List UInt8} {t : UInt8}
    (hr : r.On (.container kind tag members) rest) (ht : isCommonTag t = false) :
    parseMember opt r t =
      .ok ({ opt with vendorData := some (opt.vendorData.getD GoMap.empty) }, r) := by
  have htests := typeTests_elementType (.container kind tag members)
  rw [← hr.elemType] at htests
  simp only [Prod.mk.injEq] at htests
  obtain ⟨h1, h2, h3, h4⟩ := htests
  simp [parseMember, parseVendorTag, ht, h1, h2, h3, h4]

/-- **A vendor container ends the structure early**: after a container member with a vendor
tag, left unread, `parseTLVData` reads the container's members as top-level members and stops
at the container's end marker. The top-level members after it are never read, whatever they
are. -/
theorem parseTLVData_vendor_container (kind : ContainerType) (t : UInt8)
    (inner rest : List Element) (ht : isCommonTag t = false)
    (hwf : (Element.container .structure .anonymous
      (.container kind (.contextTag t) inner :: rest)).WellFormed)
    (hflat : ∀ m ∈ inner, m.elementType.isContainer = false)
    (hctx : ∀ m ∈ inner, m.tag.isContext = true) :
    parseTLVData none (Element.container .structure .anonymous
        (.container kind (.contextTag t) inner :: rest)).encode =
      (inner.foldlM memberEffect { vendorData := some GoMap.empty }).map some := by
  obtain ⟨re, hres, hdata⟩ := parseTLVData_enter none _ hwf
  have hvendor := hwf.2.1
  have hres' : re.Resumes ((Element.container kind (.contextTag t) inner).encode ++
      (Element.encodeMembers rest ++ ElementType.endOfContainer.code :: [])) := by
    simpa [Element.encodeMembers, List.append_assoc] using hres
  obtain ⟨r1, hon, -, hstep⟩ := @parseTLVStep_member {} _ _ _ hres' hvendor rfl
  have htag : (Element.container kind (.contextTag t) inner).tag.tagNumber.toUInt8 = t := by
    simp [Element.tag, Tag.contextTag]
  -- the loop goes on from inside the container, which `Next` does not skip
  have hinner := Reader.resumes_on_container hon
  have hloop := parseTLVLoop_members inner hvendor.2 hflat hctx { vendorData := some GoMap.empty }
    r1 _ (by simpa using hinner)
  rw [hdata, Option.getD_none, parseTLVLoop, hstep, htag, parseMember_container hon ht]
  simp only [Except.ok_bind, Option.getD_none]
  rw [hloop]
  cases inner.foldlM memberEffect { vendorData := some GoMap.empty } <;> rfl

theorem parseTLVData_vendor_container_nested :
    parseTLVData none (Element.container .structure .anonymous
        [.container .structure (.contextTag 0x80) [.uint (.contextTag 1) 5],
          .uint (.contextTag 4) 60]).encode =
      ([Element.uint (.contextTag 1) 5].foldlM memberEffect
        { vendorData := some GoMap.empty }).map some :=
  parseTLVData_vendor_container .structure 0x80 [.uint (.contextTag 1) 5]
    [.uint (.contextTag 4) 60] rfl
    ⟨.anonymous, ⟨.contextTag 0x80, .contextTag 1, trivial⟩, .contextTag 4, trivial⟩
    (by decide) (by decide)

end Matter.Payload
