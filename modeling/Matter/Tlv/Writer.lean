import Matter.Tlv.Tag
import Matter.Lib.Utf8
import Matter.Lib.Except

/-!
# The TLV writer (`pkg/tlv/writer.go`) and the encoding of element trees

Every caller of the package writes into a `bytes.Buffer`, whose writes do not fail, so the
writer is the bytes written so far with the stack of open containers. The methods that can
fail for a reason of their own (`PutString` on invalid UTF-8, `EndContainer` outside a
container, the `WithWidth` variants on a width other than 1, 2, 4, 8) return `Except`.

`Element` is a TLV element tree, the value the format carries, and `Element.encode` is its
encoding: the control octet, the tag, then the value in the narrowest width that holds it
(`intWidth`, `uintWidth`) or the length of a string in the narrowest width that holds it and
the string, or the members of a container and its end marker. `Element.write` writes a tree
with the writer's methods, as an encoder of a message does.

Results:
* `putInt_eq`, `putUint_eq`, `writeStringValue_eq`: the width each method picks is the
  narrowest one.
* `write_eq`: writing a tree whose strings are valid UTF-8 appends its encoding and leaves the
  container stack as it was; `write_withTag`: so does writing it under any other tag.
-/

namespace Matter.Tlv

/-- `Writer`. -/
structure Writer where
  out : List UInt8
  containerStack : List ElementType
  deriving DecidableEq, Repr

/-- `NewWriter` on an empty buffer. -/
def newWriter : Writer := ⟨[], []⟩

namespace Writer

/-- Append to the buffer. -/
def write (w : Writer) (bytes : List UInt8) : Writer := { w with out := w.out ++ bytes }

/-- `writeControlAndTag`. -/
def writeControlAndTag (w : Writer) (elemType : ElementType) (tag : Tag) : Writer :=
  (w.write [buildControlOctet elemType tag.control]).write tag.writeTo

/-- `writeFixedValue`. -/
def writeFixedValue (w : Writer) (elemType : ElementType) (tag : Tag) (value : List UInt8) :
    Writer :=
  (w.writeControlAndTag elemType tag).write value

/-- `PutInt`: the narrowest signed width that holds `v`. Go compares the `int64` values; here
their `toInt`. -/
def putInt (w : Writer) (tag : Tag) (v : Int64) : Writer :=
  if -128 ≤ v.toInt ∧ v.toInt ≤ 127 then
    w.writeFixedValue .int8 tag (Bytes.toLEInt 1 v.toInt)
  else if -32768 ≤ v.toInt ∧ v.toInt ≤ 32767 then
    w.writeFixedValue .int16 tag (Bytes.toLEInt 2 v.toInt)
  else if -2147483648 ≤ v.toInt ∧ v.toInt ≤ 2147483647 then
    w.writeFixedValue .int32 tag (Bytes.toLEInt 4 v.toInt)
  else
    w.writeFixedValue .int64 tag (Bytes.toLEInt 8 v.toInt)

/-- `PutUint`: the narrowest unsigned width that holds `v`. -/
def putUint (w : Writer) (tag : Tag) (v : UInt64) : Writer :=
  if v ≤ 255 then w.writeFixedValue .uInt8 tag (Bytes.toLE 1 v.toNat)
  else if v ≤ 65535 then w.writeFixedValue .uInt16 tag (Bytes.toLE 2 v.toNat)
  else if v ≤ 4294967295 then w.writeFixedValue .uInt32 tag (Bytes.toLE 4 v.toNat)
  else w.writeFixedValue .uInt64 tag (Bytes.toLE 8 v.toNat)

/-- `PutUintWithWidth`: `v` truncated to the given width. -/
def putUintWithWidth (w : Writer) (tag : Tag) (v : UInt64) (width : Nat) :
    Except TlvError Writer :=
  match width with
  | 1 => .ok (w.writeFixedValue .uInt8 tag (Bytes.toLE 1 v.toNat))
  | 2 => .ok (w.writeFixedValue .uInt16 tag (Bytes.toLE 2 v.toNat))
  | 4 => .ok (w.writeFixedValue .uInt32 tag (Bytes.toLE 4 v.toNat))
  | 8 => .ok (w.writeFixedValue .uInt64 tag (Bytes.toLE 8 v.toNat))
  | _ => .error .invalidElementType

/-- `PutBool`. -/
def putBool (w : Writer) (tag : Tag) (v : Bool) : Writer :=
  w.writeControlAndTag (if v then .boolTrue else .boolFalse) tag

/-- `PutFloat32`, given the bits `math.Float32bits(v)`. -/
def putFloat32 (w : Writer) (tag : Tag) (bits : UInt32) : Writer :=
  w.writeFixedValue .float32 tag (Bytes.toLE 4 bits.toNat)

/-- `PutFloat64`, given the bits `math.Float64bits(v)`. -/
def putFloat64 (w : Writer) (tag : Tag) (bits : UInt64) : Writer :=
  w.writeFixedValue .float64 tag (Bytes.toLE 8 bits.toNat)

/-- `writeStringValue`: the length in the narrowest width that holds it, then the data. -/
def writeStringValue (w : Writer) (isUTF8 : Bool) (tag : Tag) (data : List UInt8) : Writer :=
  let length := UInt64.ofNat data.length
  let (elemType, lenBuf) :=
    if length ≤ 255 then
      (if isUTF8 then ElementType.utf8_1 else .bytes1, Bytes.toLE 1 length.toNat)
    else if length ≤ 65535 then
      (if isUTF8 then ElementType.utf8_2 else .bytes2, Bytes.toLE 2 length.toNat)
    else if length ≤ 4294967295 then
      (if isUTF8 then ElementType.utf8_4 else .bytes4, Bytes.toLE 4 length.toNat)
    else
      (if isUTF8 then ElementType.utf8_8 else .bytes8, Bytes.toLE 8 length.toNat)
  ((w.writeControlAndTag elemType tag).write lenBuf).write data

/-- `PutString`. -/
def putString (w : Writer) (tag : Tag) (v : List UInt8) : Except TlvError Writer :=
  if !Utf8.valid v then .error .invalidUTF8 else .ok (w.writeStringValue true tag v)

/-- `PutBytes`. -/
def putBytes (w : Writer) (tag : Tag) (v : List UInt8) : Writer :=
  w.writeStringValue false tag v

/-- `PutNull`. -/
def putNull (w : Writer) (tag : Tag) : Writer := w.writeControlAndTag .null tag

/-- `StartStructure`, `StartArray` and `StartList`: the container's header, and the container
pushed on the stack. -/
def startContainer (w : Writer) (elemType : ElementType) (tag : Tag) : Writer :=
  { w.writeControlAndTag elemType tag with containerStack := w.containerStack ++ [elemType] }

/-- `StartStructure`. -/
def startStructure (w : Writer) (tag : Tag) : Writer := w.startContainer .struct tag

/-- `StartArray`. -/
def startArray (w : Writer) (tag : Tag) : Writer := w.startContainer .array tag

/-- `StartList`. -/
def startList (w : Writer) (tag : Tag) : Writer := w.startContainer .list tag

/-- `EndContainer`. -/
def endContainer (w : Writer) : Except TlvError Writer :=
  if w.containerStack = [] then .error .notInContainer
  else .ok ({ w with containerStack := w.containerStack.dropLast }.write
    [ElementType.endOfContainer.code])

/-- `ContainerDepth`. -/
def containerDepth (w : Writer) : Nat := w.containerStack.length

@[simp] theorem containerStack_write (w : Writer) (bytes : List UInt8) :
    (w.write bytes).containerStack = w.containerStack := rfl

@[simp] theorem out_write (w : Writer) (bytes : List UInt8) :
    (w.write bytes).out = w.out ++ bytes := rfl

theorem write_write (w : Writer) (a b : List UInt8) : (w.write a).write b = w.write (a ++ b) := by
  simp [write, List.append_assoc]

@[simp] theorem write_nil (w : Writer) : w.write [] = w := by
  simp [write]

end Writer

/-! ## Element trees and their encoding -/

/-- The three kinds of container. -/
inductive ContainerType
  | structure : ContainerType
  | array : ContainerType
  | list : ContainerType
  deriving DecidableEq, Repr

/-- The element type of a container kind. -/
def ContainerType.elementType : ContainerType → ElementType
  | .structure => .struct
  | .array => .array
  | .list => .list

/-- A TLV element tree: a value of one of the TLV types, with its tag. Floats are their bit
patterns, strings their bytes. -/
inductive Element
  | int (tag : Tag) (v : Int64)
  | uint (tag : Tag) (v : UInt64)
  | bool (tag : Tag) (v : Bool)
  | float32 (tag : Tag) (bits : UInt32)
  | float64 (tag : Tag) (bits : UInt64)
  | utf8 (tag : Tag) (v : List UInt8)
  | bytes (tag : Tag) (v : List UInt8)
  | null (tag : Tag)
  | container (kind : ContainerType) (tag : Tag) (members : List Element)
  deriving Repr

/-- The narrowest of the widths 1, 2, 4 and 8 bytes whose two's complement range holds `v`. -/
def intWidth (v : Int) : Nat :=
  if -2 ^ 7 ≤ v ∧ v < 2 ^ 7 then 1
  else if -2 ^ 15 ≤ v ∧ v < 2 ^ 15 then 2
  else if -2 ^ 31 ≤ v ∧ v < 2 ^ 31 then 4
  else 8

/-- The narrowest of the widths 1, 2, 4 and 8 bytes that holds `n`. -/
def uintWidth (n : Nat) : Nat :=
  if n < 2 ^ 8 then 1 else if n < 2 ^ 16 then 2 else if n < 2 ^ 32 then 4 else 8

theorem intWidth_cases (v : Int) :
    intWidth v = 1 ∨ intWidth v = 2 ∨ intWidth v = 4 ∨ intWidth v = 8 := by
  unfold intWidth
  split_ifs <;> simp

theorem uintWidth_cases (n : Nat) :
    uintWidth n = 1 ∨ uintWidth n = 2 ∨ uintWidth n = 4 ∨ uintWidth n = 8 := by
  unfold uintWidth
  split_ifs <;> simp

/-- A 64-bit value lies in the signed range of the width `intWidth` picks. -/
theorem intWidth_fits {v : Int} (hlo : -2 ^ 63 ≤ v) (hhi : v < 2 ^ 63) :
    -2 ^ (8 * intWidth v - 1) ≤ v ∧ v < 2 ^ (8 * intWidth v - 1) := by
  unfold intWidth
  split_ifs <;> simp only [Nat.reduceMul, Nat.reduceSub] <;> omega

/-- A 64-bit value fits the width `uintWidth` picks. -/
theorem uintWidth_fits {n : Nat} (h : n < 2 ^ 64) : n < 256 ^ uintWidth n := by
  unfold uintWidth
  split_ifs <;> simp only [Nat.reducePow] <;> omega

/-- The element type of each width of a kind of value: `fixed 1`, `fixed 2`, `fixed 4` and
`fixed 8` for the codes `base`, `base + 1`, `base + 2`, `base + 3`. -/
def ofWidth (base : UInt8) (width : Nat) : ElementType :=
  ⟨base + if width = 1 then 0 else if width = 2 then 1 else if width = 4 then 2 else 3⟩

/-- The control octet and tag of an element. -/
def header (elemType : ElementType) (tag : Tag) : List UInt8 :=
  buildControlOctet elemType tag.control :: tag.writeTo

namespace Element

/-- The tag of an element. -/
def tag : Element → Tag
  | int tag _ | uint tag _ | bool tag _ | float32 tag _ | float64 tag _ | utf8 tag _
  | bytes tag _ | null tag | container _ tag _ => tag

/-- The element type of an element. -/
def elementType : Element → ElementType
  | int _ v => ofWidth ElementType.int8.code (intWidth v.toInt)
  | uint _ v => ofWidth ElementType.uInt8.code (uintWidth v.toNat)
  | bool _ v => if v then .boolTrue else .boolFalse
  | float32 .. => .float32
  | float64 .. => .float64
  | utf8 _ v => ofWidth ElementType.utf8_1.code (uintWidth v.length)
  | bytes _ v => ofWidth ElementType.bytes1.code (uintWidth v.length)
  | null _ => .null
  | container kind .. => kind.elementType

/-- The bytes `Next` reads after the tag: the value of a fixed-size element, the length of a
string. -/
def field : Element → List UInt8
  | int _ v => Bytes.toLEInt (intWidth v.toInt) v.toInt
  | uint _ v => Bytes.toLE (uintWidth v.toNat) v.toNat
  | float32 _ bits => Bytes.toLE 4 bits.toNat
  | float64 _ bits => Bytes.toLE 8 bits.toNat
  | utf8 _ v | bytes _ v => Bytes.toLE (uintWidth v.length) v.length
  | _ => []

mutual
/-- The encoding of an element. -/
def encode : Element → List UInt8
  | int tag v =>
    header (ofWidth ElementType.int8.code (intWidth v.toInt)) tag ++
      Bytes.toLEInt (intWidth v.toInt) v.toInt
  | uint tag v =>
    header (ofWidth ElementType.uInt8.code (uintWidth v.toNat)) tag ++
      Bytes.toLE (uintWidth v.toNat) v.toNat
  | bool tag v => header (if v then .boolTrue else .boolFalse) tag
  | float32 tag bits => header .float32 tag ++ Bytes.toLE 4 bits.toNat
  | float64 tag bits => header .float64 tag ++ Bytes.toLE 8 bits.toNat
  | utf8 tag v =>
    header (ofWidth ElementType.utf8_1.code (uintWidth v.length)) tag ++
      Bytes.toLE (uintWidth v.length) v.length ++ v
  | bytes tag v =>
    header (ofWidth ElementType.bytes1.code (uintWidth v.length)) tag ++
      Bytes.toLE (uintWidth v.length) v.length ++ v
  | null tag => header .null tag
  | container kind tag members =>
    header kind.elementType tag ++ encodeMembers members ++ [ElementType.endOfContainer.code]

/-- The encodings of the members of a container, one after the other. -/
def encodeMembers : List Element → List UInt8
  | [] => []
  | e :: es => e.encode ++ encodeMembers es
end

/-- The bytes of an element after its field: a string's data, a container's members and end
marker. -/
def body : Element → List UInt8
  | utf8 _ v | bytes _ v => v
  | container _ _ members => encodeMembers members ++ [ElementType.endOfContainer.code]
  | _ => []

/-- An encoding is the header, the field `Next` reads with it, and the body. -/
theorem encode_eq (e : Element) : e.encode = header e.elementType e.tag ++ e.field ++ e.body := by
  cases e <;> simp [encode, elementType, field, body, tag]

/-- A context-tagged octet string takes its control octet, its tag byte, the narrowest length
field and its bytes. -/
theorem length_encode_bytes (n : UInt8) (v : List UInt8) :
    (bytes (.contextTag n) v).encode.length = 2 + uintWidth v.length + v.length := by
  simp [encode_eq, header, field, body, tag, Tag.contextTag, TagControl.size]
  omega

/-- The element with its tag replaced by `t`, the value kept. -/
def withTag (e : Element) (t : Tag) : Element :=
  match e with
  | int _ v => int t v
  | uint _ v => uint t v
  | bool _ v => bool t v
  | float32 _ bits => float32 t bits
  | float64 _ bits => float64 t bits
  | utf8 _ v => utf8 t v
  | bytes _ v => bytes t v
  | null _ => null t
  | container kind _ members => container kind t members

@[simp] theorem tag_withTag (e : Element) (t : Tag) : (e.withTag t).tag = t := by
  cases e <;> rfl

@[simp] theorem withTag_tag (e : Element) : e.withTag e.tag = e := by
  cases e <;> rfl

@[simp] theorem elementType_withTag (e : Element) (t : Tag) :
    (e.withTag t).elementType = e.elementType := by
  cases e <;> rfl

@[simp] theorem field_withTag (e : Element) (t : Tag) : (e.withTag t).field = e.field := by
  cases e <;> rfl

@[simp] theorem body_withTag (e : Element) (t : Tag) : (e.withTag t).body = e.body := by
  cases e <;> rfl

/-- Another tag changes the header only. -/
theorem encode_withTag (e : Element) (t : Tag) :
    (e.withTag t).encode = header e.elementType t ++ e.field ++ e.body := by
  simp [encode_eq (e.withTag t)]

mutual
/-- The strings of a tree are valid UTF-8 and as long as a Go slice can be (its length an
`int`), and every tag is one the constructors of `tag.go` build. -/
def WellFormed : Element → Prop
  | int tag _ | uint tag _ | bool tag _ | float32 tag _ | float64 tag _ | null tag => tag.Built
  | utf8 tag v => tag.Built ∧ Utf8.valid v = true ∧ v.length < 2 ^ 63
  | bytes tag v => tag.Built ∧ v.length < 2 ^ 63
  | container _ tag members => tag.Built ∧ MembersWellFormed members

/-- Every member is well formed. -/
def MembersWellFormed : List Element → Prop
  | [] => True
  | e :: es => e.WellFormed ∧ MembersWellFormed es
end

mutual
/-- Write an element with the writer's methods. -/
def write : Element → Writer → Except TlvError Writer
  | int tag v, w => .ok (w.putInt tag v)
  | uint tag v, w => .ok (w.putUint tag v)
  | bool tag v, w => .ok (w.putBool tag v)
  | float32 tag bits, w => .ok (w.putFloat32 tag bits)
  | float64 tag bits, w => .ok (w.putFloat64 tag bits)
  | utf8 tag v, w => w.putString tag v
  | bytes tag v, w => .ok (w.putBytes tag v)
  | null tag, w => .ok (w.putNull tag)
  | container .structure tag members, w => do
    let w ← writeMembers members (w.startStructure tag)
    w.endContainer
  | container .array tag members, w => do
    let w ← writeMembers members (w.startArray tag)
    w.endContainer
  | container .list tag members, w => do
    let w ← writeMembers members (w.startList tag)
    w.endContainer

/-- Write the members of a container, one after the other. -/
def writeMembers : List Element → Writer → Except TlvError Writer
  | [], w => .ok w
  | e :: es, w => do
    let w ← e.write w
    writeMembers es w
end

end Element

/-! ## The writer writes the encoding -/

@[simp] theorem ofWidth_one (base : UInt8) : ofWidth base 1 = ⟨base⟩ := by simp [ofWidth]
@[simp] theorem ofWidth_two (base : UInt8) : ofWidth base 2 = ⟨base + 1⟩ := by simp [ofWidth]
@[simp] theorem ofWidth_four (base : UInt8) : ofWidth base 4 = ⟨base + 2⟩ := by simp [ofWidth]
@[simp] theorem ofWidth_eight (base : UInt8) : ofWidth base 8 = ⟨base + 3⟩ := by simp [ofWidth]

/-- The four element types of a kind of value. -/
theorem ofWidth_mem (base : UInt8) (width : Nat) :
    ofWidth base width = ⟨base⟩ ∨ ofWidth base width = ⟨base + 1⟩ ∨
      ofWidth base width = ⟨base + 2⟩ ∨ ofWidth base width = ⟨base + 3⟩ := by
  unfold ofWidth
  split_ifs <;> simp

namespace Writer

theorem writeControlAndTag_eq (w : Writer) (elemType : ElementType) (tag : Tag) :
    w.writeControlAndTag elemType tag = w.write (header elemType tag) := by
  simp [writeControlAndTag, write_write, header]

theorem writeFixedValue_eq (w : Writer) (elemType : ElementType) (tag : Tag)
    (value : List UInt8) :
    w.writeFixedValue elemType tag value = w.write (header elemType tag ++ value) := by
  simp [writeFixedValue, writeControlAndTag_eq, write_write]

/-- **`PutInt` picks the narrowest width.** -/
theorem putInt_eq (w : Writer) (tag : Tag) (v : Int64) :
    w.putInt tag v = w.write (Element.int tag v).encode := by
  simp only [putInt, Element.encode, writeFixedValue_eq, intWidth]
  split_ifs <;> first | rfl | omega

/-- **`PutUint` picks the narrowest width.** -/
theorem putUint_eq (w : Writer) (tag : Tag) (v : UInt64) :
    w.putUint tag v = w.write (Element.uint tag v).encode := by
  simp only [putUint, Element.encode, writeFixedValue_eq, uintWidth, UInt64.le_iff_toNat_le, UInt64.reduceToNat]
  split_ifs <;> first | rfl | omega

/-- **A string's length goes in the narrowest width**, for a string whose length fits the
`uint64` it is converted to. -/
theorem writeStringValue_eq (w : Writer) (isUTF8 : Bool) (tag : Tag) (data : List UInt8)
    (hlen : data.length < 2 ^ 64) :
    w.writeStringValue isUTF8 tag data =
      w.write (header (ofWidth (if isUTF8 then ElementType.utf8_1.code else ElementType.bytes1.code)
        (uintWidth data.length)) tag ++ Bytes.toLE (uintWidth data.length) data.length ++ data) := by
  have hn : (UInt64.ofNat data.length).toNat = data.length := UInt64.toNat_ofNat_of_lt' hlen
  simp only [writeStringValue, UInt64.le_iff_toNat_le, UInt64.reduceToNat, hn, writeControlAndTag_eq, write_write,
    uintWidth, List.append_assoc]
  cases isUTF8 <;> split_ifs <;> first | rfl | simp_all <;> omega

/-- `PutBytes` writes the encoding of an octet string, for a length that fits a `uint64`. -/
theorem putBytes_eq (w : Writer) (tag : Tag) {v : List UInt8} (hlen : v.length < 2 ^ 64) :
    w.putBytes tag v = w.write (Element.bytes tag v).encode := by
  simp [putBytes, writeStringValue_eq _ _ _ _ hlen, Element.encode]

/-- `PutBytes` leaves the open containers as they are, whatever the length. -/
@[simp] theorem containerStack_putBytes (w : Writer) (tag : Tag) (v : List UInt8) :
    (w.putBytes tag v).containerStack = w.containerStack := by
  simp only [putBytes, writeStringValue]
  split_ifs <;> simp [writeControlAndTag_eq]

/-- `PutUintWithWidth` at width 2: a `UInt16` header and the two low bytes. -/
theorem putUintWithWidth_two (w : Writer) (tag : Tag) (v : UInt64) :
    w.putUintWithWidth tag v 2 = .ok (w.write (header .uInt16 tag ++ Bytes.toLE 2 v.toNat)) := by
  simp [putUintWithWidth, writeFixedValue_eq]

/-- A container's header, what is written inside it, and its end marker: `Start*`, the
members, and `EndContainer` leave the stack as it was. -/
theorem startContainer_endContainer (w : Writer) (t : ElementType) (tag : Tag)
    (body : List UInt8) :
    ((w.startContainer t tag).write body).endContainer =
      .ok (w.write (header t tag ++ body ++ [ElementType.endOfContainer.code])) := by
  simp [startContainer, endContainer, writeControlAndTag_eq, write, List.append_assoc]

end Writer

namespace Element

open Writer in
mutual
/-- **The writer writes the encoding, under any tag**: writing a well-formed tree, retagged
with any tag, appends its encoding and leaves the container stack as it was. -/
theorem write_withTag : ∀ (e : Element), e.WellFormed → ∀ (t : Tag) (w : Writer),
    (e.withTag t).write w = .ok (w.write (e.withTag t).encode)
  | int _ v, _, t, w => by simp [withTag, write, putInt_eq]
  | uint _ v, _, t, w => by simp [withTag, write, putUint_eq]
  | bool _ v, _, t, w => by simp [withTag, write, putBool, encode, writeControlAndTag_eq]
  | float32 _ bits, _, t, w => by simp [withTag, write, putFloat32, encode, writeFixedValue_eq]
  | float64 _ bits, _, t, w => by simp [withTag, write, putFloat64, encode, writeFixedValue_eq]
  | utf8 _ v, ⟨_, hvalid, hlen⟩, t, w => by
    have hlen' : v.length < 2 ^ 64 := by omega
    simp [withTag, write, putString, hvalid, writeStringValue_eq _ _ _ _ hlen', encode]
  | bytes _ v, ⟨_, hlen⟩, t, w => by
    have hlen' : v.length < 2 ^ 64 := by omega
    simp [withTag, write, putBytes, writeStringValue_eq _ _ _ _ hlen', encode]
  | null _, _, t, w => by simp [withTag, write, putNull, encode, writeControlAndTag_eq]
  | container kind _ members, ⟨_, hms⟩, t, w => by
    cases kind <;>
      simp only [withTag, write, startStructure, startArray, startList,
        writeMembers_eq members hms, Except.ok_bind] <;>
      exact startContainer_endContainer w _ t _

/-- Writing the members writes their encodings, one after the other. -/
theorem writeMembers_eq : ∀ (es : List Element), MembersWellFormed es →
    ∀ w, writeMembers es w = .ok (w.write (encodeMembers es))
  | [], _, w => by simp [writeMembers, encodeMembers, Writer.write]
  | e :: es, ⟨he, hes⟩, w => by
    have hw := write_withTag e he e.tag w
    rw [withTag_tag] at hw
    simp [writeMembers, encodeMembers, hw, writeMembers_eq es hes, write_write]
end

/-- **The writer writes the encoding**: writing a well-formed tree appends its encoding and
leaves the container stack as it was. -/
theorem write_eq (e : Element) (he : e.WellFormed) (w : Writer) :
    e.write w = .ok (w.write e.encode) := by
  simpa using write_withTag e he e.tag w

end Element

end Matter.Tlv
