import Matter.Lib.Bytes
import Mathlib.Data.FinEnum

/-!
# TLV control octets and tags (`pkg/tlv/element.go`, `pkg/tlv/tag.go`)

A TLV element starts with a control octet: the element type in its low five bits and the tag
control, which says how the tag is written, in its high three. The tag follows in
`TagControl.size` little-endian bytes.

The reader reads from an `io.Reader`; here the input is the list of bytes not yet read, and
`readFull` is `io.ReadFull` on it: `io.EOF` when nothing is left, `io.ErrUnexpectedEOF` when
some but too few bytes are. An error of the reader leaves its input in a state no caller of the
package reads again, so the functions here return the rest of the input with their result only.

Results:
* `parseControlOctet_buildControlOctet`: the control octet of every element type and tag
  control parses back to them.
* `readTag_writeTo`: every tag built by `Anonymous`, `ContextTag`, `CommonProfileTag`,
  `ImplicitProfileTag` or `FullyQualifiedTag` reads back from its bytes, whatever follows them.
-/

namespace Matter.Tlv

/-- The errors of `pkg/tlv` that its reader and writer return, and the two `io` errors the
reader passes on. -/
inductive TlvError
  /-- `io.EOF`: no byte was left. -/
  | eof
  /-- `io.ErrUnexpectedEOF`: some bytes were left, fewer than asked for. -/
  | unexpectedEOF
  | invalidElementType
  | invalidTagControl
  | typeMismatch
  | notInContainer
  | invalidUTF8
  | noElement
  | valueAlreadyRead
  deriving DecidableEq, Repr

/-- `io.ReadFull(r, buf[:n])`: the first `n` bytes and the rest. -/
def readFull (n : Nat) (input : List UInt8) : Except TlvError (List UInt8 × List UInt8) :=
  if n = 0 then .ok ([], input)
  else if input = [] then .error .eof
  else if input.length < n then .error .unexpectedEOF
  else .ok (input.take n, input.drop n)

/-- Reading a field of the bytes in front of the rest. -/
@[simp] theorem readFull_append {n : Nat} {l : List UInt8} (h : l.length = n)
    (rest : List UInt8) : readFull n (l ++ rest) = .ok (l, rest) := by
  unfold readFull
  by_cases hn : n = 0
  · subst h
    simp [List.length_eq_zero_iff.mp hn]
  · have hl : l ≠ [] := fun hnil => hn (by rw [← h, hnil, List.length_nil])
    rw [if_neg hn, if_neg (by simp [hl]), if_neg (by simp; omega)]
    simp [← h]

/-- What a successful read returns: a prefix of the input, of the length asked for. -/
theorem readFull_ok {n : Nat} {input bytes rest : List UInt8}
    (h : readFull n input = .ok (bytes, rest)) : bytes.length = n ∧ input = bytes ++ rest := by
  unfold readFull at h
  split at h
  · cases h
    simp_all
  · split at h
    · cases h
    · split at h
      · cases h
      · cases h
        exact ⟨by simp; omega, (List.take_append_drop n input).symm⟩

/-! ## Element types -/

/-- `ElementType`: the low five bits of a control octet. -/
structure ElementType where
  code : UInt8
  deriving DecidableEq, Repr

namespace ElementType

def int8 : ElementType := ⟨0x00⟩
def int16 : ElementType := ⟨0x01⟩
def int32 : ElementType := ⟨0x02⟩
def int64 : ElementType := ⟨0x03⟩
def uInt8 : ElementType := ⟨0x04⟩
def uInt16 : ElementType := ⟨0x05⟩
def uInt32 : ElementType := ⟨0x06⟩
def uInt64 : ElementType := ⟨0x07⟩
/-- `ElementTypeFalse`. -/
def boolFalse : ElementType := ⟨0x08⟩
/-- `ElementTypeTrue`. -/
def boolTrue : ElementType := ⟨0x09⟩
def float32 : ElementType := ⟨0x0A⟩
def float64 : ElementType := ⟨0x0B⟩
def utf8_1 : ElementType := ⟨0x0C⟩
def utf8_2 : ElementType := ⟨0x0D⟩
def utf8_4 : ElementType := ⟨0x0E⟩
def utf8_8 : ElementType := ⟨0x0F⟩
def bytes1 : ElementType := ⟨0x10⟩
def bytes2 : ElementType := ⟨0x11⟩
def bytes4 : ElementType := ⟨0x12⟩
def bytes8 : ElementType := ⟨0x13⟩
def null : ElementType := ⟨0x14⟩
def struct : ElementType := ⟨0x15⟩
def array : ElementType := ⟨0x16⟩
def list : ElementType := ⟨0x17⟩
/-- `ElementTypeEnd`, the end-of-container marker. -/
def endOfContainer : ElementType := ⟨0x18⟩

def isSignedInt (e : ElementType) : Bool := int8.code ≤ e.code && e.code ≤ int64.code

def isUnsignedInt (e : ElementType) : Bool := uInt8.code ≤ e.code && e.code ≤ uInt64.code

def isInt (e : ElementType) : Bool := e.isSignedInt || e.isUnsignedInt

def isBool (e : ElementType) : Bool := e == boolFalse || e == boolTrue

def isFloat (e : ElementType) : Bool := e == float32 || e == float64

def isUTF8String (e : ElementType) : Bool := utf8_1.code ≤ e.code && e.code ≤ utf8_8.code

def isBytes (e : ElementType) : Bool := bytes1.code ≤ e.code && e.code ≤ bytes8.code

def isString (e : ElementType) : Bool := e.isUTF8String || e.isBytes

def isContainer (e : ElementType) : Bool := e == struct || e == array || e == list

/-- `ValueSize`: the width of a fixed-size value. -/
def valueSize (e : ElementType) : Nat :=
  if e = int8 ∨ e = uInt8 then 1
  else if e = int16 ∨ e = uInt16 then 2
  else if e = int32 ∨ e = uInt32 ∨ e = float32 then 4
  else if e = int64 ∨ e = uInt64 ∨ e = float64 then 8
  else 0

/-- `LengthFieldSize`: the width of a string's length field. -/
def lengthFieldSize (e : ElementType) : Nat :=
  if e = utf8_1 ∨ e = bytes1 then 1
  else if e = utf8_2 ∨ e = bytes2 then 2
  else if e = utf8_4 ∨ e = bytes4 then 4
  else if e = utf8_8 ∨ e = bytes8 then 8
  else 0

end ElementType

/-! ## Tag controls and tags -/

/-- `TagControl`: how the tag of an element is written. -/
inductive TagControl
  | anonymous
  | context
  | commonProfile2
  | commonProfile4
  | implicitProfile2
  | implicitProfile4
  | fullyQualified6
  | fullyQualified8
  deriving DecidableEq, Repr

namespace TagControl

/-- The three-bit code of a tag control. -/
def toUInt8 : TagControl → UInt8
  | anonymous => 0
  | context => 1
  | commonProfile2 => 2
  | commonProfile4 => 3
  | implicitProfile2 => 4
  | implicitProfile4 => 5
  | fullyQualified6 => 6
  | fullyQualified8 => 7

/-- `TagControl(c)` of a three-bit code. -/
def ofUInt8 (c : UInt8) : TagControl :=
  match c with
  | 0 => anonymous
  | 1 => context
  | 2 => commonProfile2
  | 3 => commonProfile4
  | 4 => implicitProfile2
  | 5 => implicitProfile4
  | 6 => fullyQualified6
  | _ => fullyQualified8

/-- `Size`: the bytes the tag takes. -/
def size : TagControl → Nat
  | anonymous => 0
  | context => 1
  | commonProfile2 | implicitProfile2 => 2
  | commonProfile4 | implicitProfile4 => 4
  | fullyQualified6 => 6
  | fullyQualified8 => 8

end TagControl

/-- `ParseControlOctet`. -/
def parseControlOctet (b : UInt8) : ElementType × TagControl :=
  (⟨b &&& 0x1F⟩, TagControl.ofUInt8 ((b &&& 0xE0) >>> 5))

/-- `BuildControlOctet`. -/
def buildControlOctet (e : ElementType) (t : TagControl) : UInt8 :=
  (e.code &&& (0x1F : UInt8)) ||| (t.toUInt8 <<< (5 : UInt8))

theorem code_buildControlOctet (c : UInt8) (hc : c < 32) (t : TagControl) :
    ((c &&& (0x1F : UInt8)) ||| (t.toUInt8 <<< (5 : UInt8))) &&& (0x1F : UInt8) = c := by
  revert c
  cases t <;> decide +kernel

theorem control_buildControlOctet (c : UInt8) (t : TagControl) :
    TagControl.ofUInt8
      ((((c &&& (0x1F : UInt8)) ||| (t.toUInt8 <<< (5 : UInt8))) &&& (0xE0 : UInt8)) >>>
        (5 : UInt8)) = t := by
  revert c
  cases t <;> decide +kernel

/-- **The control octet parses back**: for every element type (a five-bit code) and tag
control. -/
theorem parseControlOctet_buildControlOctet (e : ElementType) (he : e.code < 32)
    (t : TagControl) : parseControlOctet (buildControlOctet e t) = (e, t) := by
  simp only [parseControlOctet, buildControlOctet, code_buildControlOctet e.code he,
    control_buildControlOctet]

/-- `Tag`. -/
structure Tag where
  control : TagControl
  /-- Only for fully-qualified tags. -/
  vendorID : UInt16
  /-- Only for fully-qualified tags. -/
  profileNumber : UInt16
  tagNumber : UInt32
  deriving DecidableEq, Repr

namespace Tag

/-- `Anonymous()`. -/
def anonymous : Tag := ⟨.anonymous, 0, 0, 0⟩

/-- `ContextTag(tagNum)`. -/
def contextTag (tagNum : UInt8) : Tag := ⟨.context, 0, 0, tagNum.toUInt32⟩

/-- `CommonProfileTag(tagNum)`. -/
def commonProfileTag (tagNum : UInt32) : Tag :=
  ⟨if tagNum ≥ 65536 then .commonProfile4 else .commonProfile2, 0, 0, tagNum⟩

/-- `ImplicitProfileTag(tagNum)`. -/
def implicitProfileTag (tagNum : UInt32) : Tag :=
  ⟨if tagNum ≥ 65536 then .implicitProfile4 else .implicitProfile2, 0, 0, tagNum⟩

/-- `FullyQualifiedTag(vendorID, profileNum, tagNum)`. -/
def fullyQualifiedTag (vendorID profileNum : UInt16) (tagNum : UInt32) : Tag :=
  ⟨if tagNum ≥ 65536 then .fullyQualified8 else .fullyQualified6, vendorID, profileNum, tagNum⟩

def isAnonymous (t : Tag) : Bool := t.control == .anonymous

def isContext (t : Tag) : Bool := t.control == .context

/-- `WriteTo`: the bytes of the tag. -/
def writeTo (t : Tag) : List UInt8 :=
  match t.control with
  | .anonymous => []
  | .context => Bytes.toLE 1 t.tagNumber.toNat
  | .commonProfile2 | .implicitProfile2 => Bytes.toLE 2 t.tagNumber.toNat
  | .commonProfile4 | .implicitProfile4 => Bytes.toLE 4 t.tagNumber.toNat
  | .fullyQualified6 =>
    Bytes.toLE 2 t.vendorID.toNat ++ Bytes.toLE 2 t.profileNumber.toNat ++
      Bytes.toLE 2 t.tagNumber.toNat
  | .fullyQualified8 =>
    Bytes.toLE 2 t.vendorID.toNat ++ Bytes.toLE 2 t.profileNumber.toNat ++
      Bytes.toLE 4 t.tagNumber.toNat

@[simp] theorem length_writeTo (t : Tag) : t.writeTo.length = t.control.size := by
  unfold writeTo
  split <;> simp_all [TagControl.size]

/-- The tags the constructors of `tag.go` build. -/
inductive Built : Tag → Prop
  | anonymous : Built anonymous
  | contextTag (tagNum : UInt8) : Built (contextTag tagNum)
  | commonProfileTag (tagNum : UInt32) : Built (commonProfileTag tagNum)
  | implicitProfileTag (tagNum : UInt32) : Built (implicitProfileTag tagNum)
  | fullyQualifiedTag (vendorID profileNum : UInt16) (tagNum : UInt32) :
      Built (fullyQualifiedTag vendorID profileNum tagNum)

end Tag

/-- `ReadTag`: the tag of control `ctrl` at the front of the input. -/
def readTag (input : List UInt8) (ctrl : TagControl) : Except TlvError (Tag × List UInt8) :=
  let tag : Tag := ⟨ctrl, 0, 0, 0⟩
  match ctrl with
  | .anonymous => .ok (tag, input)
  | .context => do
    let (buf, rest) ← readFull 1 input
    .ok ({ tag with tagNumber := UInt32.ofNat (Bytes.ofLE buf) }, rest)
  | .commonProfile2 | .implicitProfile2 => do
    let (buf, rest) ← readFull 2 input
    .ok ({ tag with tagNumber := UInt32.ofNat (Bytes.ofLE buf) }, rest)
  | .commonProfile4 | .implicitProfile4 => do
    let (buf, rest) ← readFull 4 input
    .ok ({ tag with tagNumber := UInt32.ofNat (Bytes.ofLE buf) }, rest)
  | .fullyQualified6 => do
    let (buf, rest) ← readFull 6 input
    .ok ({ tag with vendorID := UInt16.ofNat (Bytes.ofLE (buf.take 2)),
                    profileNumber := UInt16.ofNat (Bytes.ofLE ((buf.drop 2).take 2)),
                    tagNumber := UInt32.ofNat (Bytes.ofLE (buf.drop 4)) }, rest)
  | .fullyQualified8 => do
    let (buf, rest) ← readFull 8 input
    .ok ({ tag with vendorID := UInt16.ofNat (Bytes.ofLE (buf.take 2)),
                    profileNumber := UInt16.ofNat (Bytes.ofLE ((buf.drop 2).take 2)),
                    tagNumber := UInt32.ofNat (Bytes.ofLE (buf.drop 4)) }, rest)

/-! ## Tags read back -/

theorem uint32_ofLE_toLE {w : Nat} {n : UInt32} (h : n.toNat < 256 ^ w) :
    UInt32.ofNat (Bytes.ofLE (Bytes.toLE w n.toNat)) = n := by
  rw [Bytes.ofLE_toLE_of_lt h, UInt32.ofNat_toNat]

theorem uint16_ofLE_toLE (n : UInt16) : UInt16.ofNat (Bytes.ofLE (Bytes.toLE 2 n.toNat)) = n := by
  rw [Bytes.ofLE_toLE_of_lt (by simpa using n.toNat_lt), UInt16.ofNat_toNat]

/-- Past the vendor and profile fields of a fully-qualified tag is its tag number. -/
theorem drop_four (v p : Nat) (rest : List UInt8) :
    (Bytes.toLE 2 v ++ (Bytes.toLE 2 p ++ rest)).drop 4 = rest := by
  rw [show 4 = 2 + 2 from rfl, ← List.drop_drop]
  simp

/-- **A built tag reads back** from its bytes, whatever follows them. -/
theorem readTag_writeTo {t : Tag} (ht : t.Built) (rest : List UInt8) :
    readTag (t.writeTo ++ rest) t.control = .ok (t, rest) := by
  cases ht with
  | anonymous => rfl
  | contextTag n =>
    have hn : n.toNat < 256 ^ 1 := by simpa using n.toNat_lt
    simp only [Tag.contextTag, Tag.writeTo, readTag, UInt8.toNat_toUInt32]
    rw [readFull_append (by simp) rest]
    simp only [bind, Except.bind, Bytes.ofLE_toLE_of_lt hn]
    rw [← UInt8.toNat_toUInt32, UInt32.ofNat_toNat]
  | commonProfileTag n =>
    by_cases hn : n ≥ 65536
    · have hlt : n.toNat < 256 ^ 4 := by simpa using n.toNat_lt
      simp [Tag.commonProfileTag, hn, Tag.writeTo, readTag, uint32_ofLE_toLE hlt, bind,
        Except.bind]
    · have hlt : n.toNat < 256 ^ 2 := by simp [UInt32.le_iff_toNat_le] at hn; omega
      simp [Tag.commonProfileTag, hn, Tag.writeTo, readTag, uint32_ofLE_toLE hlt, bind,
        Except.bind]
  | implicitProfileTag n =>
    by_cases hn : n ≥ 65536
    · have hlt : n.toNat < 256 ^ 4 := by simpa using n.toNat_lt
      simp [Tag.implicitProfileTag, hn, Tag.writeTo, readTag, uint32_ofLE_toLE hlt, bind,
        Except.bind]
    · have hlt : n.toNat < 256 ^ 2 := by simp [UInt32.le_iff_toNat_le] at hn; omega
      simp [Tag.implicitProfileTag, hn, Tag.writeTo, readTag, uint32_ofLE_toLE hlt, bind,
        Except.bind]
  | fullyQualifiedTag v p n =>
    by_cases hn : n ≥ 65536
    · have hlt : n.toNat < 256 ^ 4 := by simpa using n.toNat_lt
      simp only [Tag.fullyQualifiedTag, if_pos hn, Tag.writeTo, readTag]
      rw [readFull_append (by simp) rest]
      simp [bind, Except.bind, drop_four, uint32_ofLE_toLE hlt, uint16_ofLE_toLE]
    · have hlt : n.toNat < 256 ^ 2 := by simp [UInt32.le_iff_toNat_le] at hn; omega
      simp only [Tag.fullyQualifiedTag, if_neg hn, Tag.writeTo, readTag]
      rw [readFull_append (by simp) rest]
      simp [bind, Except.bind, drop_four, uint32_ofLE_toLE hlt, uint16_ofLE_toLE]

end Matter.Tlv
