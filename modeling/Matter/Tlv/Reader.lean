import Matter.Tlv.Writer

/-!
# The TLV reader (`pkg/tlv/reader.go`)

The reader is a state machine over the bytes not yet read: `next` reads the control octet, the
tag and the fixed-size value or the length of a string of the next element, after skipping the
bytes of a string whose value was not read; the getters check the type and read the value;
`enterContainer` and `exitContainer` keep the stack of entered containers.

Go keeps the fixed-size value in an 8-byte buffer of which a getter reads the first
`ValueSize` bytes, the ones `Next` just filled; `valueBuf` holds those bytes. `exitContainer`'s
loop runs until its depth count is back to zero; every turn reads a control octet, so it
terminates, on the length of the input.

Results:
* `next_on`: on the encoding of a well-formed element, `next` leaves the reader resting on that
  element (`Reader.On`): its type, its tag, the value or length read, the rest of its bytes
  ahead.
* `int_on`, `uint_on`, `string_on`, `bytes_on`, …: each getter returns the element's value and
  consumes its string.
* `length_input_next_lt`: every successful `next` consumes input.
-/

namespace Matter.Tlv

open Element

/-- `Reader`. -/
structure Reader where
  input : List UInt8
  containerStack : List ElementType
  hasElement : Bool
  elemType : ElementType
  tag : Tag
  /-- Whether the value has been consumed. -/
  valueRead : Bool
  valueBuf : List UInt8
  valueLen : Nat
  stringLen : UInt64
  deriving DecidableEq, Repr

/-- `NewReader`. -/
def newReader (input : List UInt8) : Reader :=
  { input, containerStack := [], hasElement := false, elemType := ⟨0⟩,
    tag := ⟨.anonymous, 0, 0, 0⟩, valueRead := false, valueBuf := [], valueLen := 0,
    stringLen := 0 }

namespace Reader

/-- `skipValue`. -/
def skipValue (r : Reader) : Except TlvError Reader :=
  if r.valueRead then .ok r
  else
    let r := { r with valueRead := true }
    if r.elemType.isString && r.stringLen > 0 then
      -- `io.CopyN(io.Discard, r.r, int64(r.stringLen))`: past `MaxInt64` the count is negative
      -- and `CopyN` copies nothing and reports no error; a short input is `io.EOF`
      if r.stringLen.toNat ≥ 2 ^ 63 then .ok r
      else if r.input.length < r.stringLen.toNat then .error .eof
      else .ok { r with input := r.input.drop r.stringLen.toNat }
    else .ok r

/-- The first step of `Next`: skip the value of the current element if it was not read. -/
def settle (r : Reader) : Except TlvError Reader :=
  if r.hasElement && !r.valueRead then r.skipValue else .ok r

/-- `readValueOrLength`. -/
def readValueOrLength (r : Reader) : Except TlvError Reader :=
  if r.elemType.isInt || r.elemType.isFloat then
    let valueLen := r.elemType.valueSize
    if valueLen > 0 then do
      let (buf, rest) ← readFull valueLen r.input
      .ok { r with valueLen, valueBuf := buf, input := rest }
    else .ok { r with valueLen }
  else if r.elemType.isString then do
    let (lenBuf, rest) ← readFull r.elemType.lengthFieldSize r.input
    .ok { r with input := rest, stringLen := UInt64.ofNat (Bytes.ofLE lenBuf) }
  else .ok { r with valueLen := 0, stringLen := 0 }

/-- `Next`. -/
def next (r : Reader) : Except TlvError Reader := do
  let r ← r.settle
  let (ctrl, rest) ← readFull 1 r.input
  let (elemType, tagCtrl) := parseControlOctet (ctrl.headD 0)
  if elemType.code > ElementType.endOfContainer.code then .error .invalidElementType
  else do
    let (tag, rest) ← readTag rest tagCtrl
    let r ← readValueOrLength { r with input := rest, elemType, tag }
    .ok { r with hasElement := true, valueRead := false }

/-- The checks every getter makes before it reads: an element, its value not yet read, and a
type the getter reads (`accepts`). -/
def takeValue (r : Reader) (accepts : ElementType → Bool) : Except TlvError Reader :=
  if !r.hasElement then .error .noElement
  else if r.valueRead then .error .valueAlreadyRead
  else if !accepts r.elemType then .error .typeMismatch
  else .ok { r with valueRead := true }

/-- `Int`. -/
def int (r : Reader) : Except TlvError (Int64 × Reader) := do
  let r ← r.takeValue ElementType.isSignedInt
  let signed (width : Nat) : Int64 :=
    Int64.ofInt (Bytes.signExtend width (Bytes.ofLE (r.valueBuf.take width)))
  if r.elemType = .int8 then .ok (signed 1, r)
  else if r.elemType = .int16 then .ok (signed 2, r)
  else if r.elemType = .int32 then .ok (signed 4, r)
  else if r.elemType = .int64 then .ok (signed 8, r)
  else .error .typeMismatch

/-- `Uint`. -/
def uint (r : Reader) : Except TlvError (UInt64 × Reader) := do
  let r ← r.takeValue ElementType.isUnsignedInt
  let unsigned (width : Nat) : UInt64 := UInt64.ofNat (Bytes.ofLE (r.valueBuf.take width))
  if r.elemType = .uInt8 then .ok (unsigned 1, r)
  else if r.elemType = .uInt16 then .ok (unsigned 2, r)
  else if r.elemType = .uInt32 then .ok (unsigned 4, r)
  else if r.elemType = .uInt64 then .ok (unsigned 8, r)
  else .error .typeMismatch

/-- `Bool`. -/
def bool (r : Reader) : Except TlvError (Bool × Reader) := do
  let r ← r.takeValue ElementType.isBool
  .ok (r.elemType == .boolTrue, r)

/-- `Float32`: the bits, `math.Float32frombits` of which Go returns. -/
def float32 (r : Reader) : Except TlvError (UInt32 × Reader) := do
  let r ← r.takeValue (· == .float32)
  .ok (UInt32.ofNat (Bytes.ofLE (r.valueBuf.take 4)), r)

/-- `Float64`: the bits, `math.Float64frombits` of which Go returns. -/
def float64 (r : Reader) : Except TlvError (UInt64 × Reader) := do
  let r ← r.takeValue (· == .float64)
  .ok (UInt64.ofNat (Bytes.ofLE (r.valueBuf.take 8)), r)

/-- `String`. Go allocates the `stringLen` bytes before reading them, which panics for a length
past what memory holds; here the read then fails. -/
def string (r : Reader) : Except TlvError (List UInt8 × Reader) := do
  let r ← r.takeValue ElementType.isUTF8String
  if r.stringLen = 0 then .ok ([], r)
  else do
    let (data, rest) ← readFull r.stringLen.toNat r.input
    if !Utf8.valid data then .error .invalidUTF8 else .ok (data, { r with input := rest })

/-- `Bytes`; the empty string is Go's `nil`. -/
def bytes (r : Reader) : Except TlvError (List UInt8 × Reader) := do
  let r ← r.takeValue ElementType.isBytes
  if r.stringLen = 0 then .ok ([], r)
  else do
    let (data, rest) ← readFull r.stringLen.toNat r.input
    .ok (data, { r with input := rest })

/-- `Null`. -/
def null (r : Reader) : Except TlvError Reader := r.takeValue (· == .null)

/-- `EnterContainer`. -/
def enterContainer (r : Reader) : Except TlvError Reader :=
  if !r.hasElement then .error .noElement
  else if !r.elemType.isContainer then .error .typeMismatch
  else .ok { r with containerStack := r.containerStack ++ [r.elemType], hasElement := false,
                    valueRead := true }

/-! ## Every `next` consumes input -/

/-- `skipValue` leaves the input, or drops the string's bytes. -/
theorem input_skipValue {r r' : Reader} (h : r.skipValue = .ok r') :
    r'.input = r.input ∨ r'.input = r.input.drop r.stringLen.toNat := by
  unfold skipValue at h
  dsimp only at h
  split at h
  · cases h
    exact .inl rfl
  · split at h
    · split at h
      · cases h
        exact .inl rfl
      · split at h
        · cases h
        · cases h
          exact .inr rfl
    · cases h
      exact .inl rfl

theorem length_settle_le {r r' : Reader} (h : r.settle = .ok r') :
    r'.input.length ≤ r.input.length := by
  unfold settle at h
  split at h
  · rcases input_skipValue h with h' | h' <;> simp [h']
  · cases h
    exact le_refl _

theorem length_readTag_le {input rest : List UInt8} {ctrl : TagControl} {t : Tag}
    (h : readTag input ctrl = .ok (t, rest)) : rest.length ≤ input.length := by
  unfold readTag at h
  split at h
  · cases h
    exact le_refl _
  all_goals
    obtain ⟨⟨buf, rest'⟩, hread, hok⟩ := Except.bind_eq_ok.mp h
    cases hok
    rw [(readFull_ok hread).2, List.length_append]
    omega

theorem length_readValueOrLength_le {r r' : Reader} (h : r.readValueOrLength = .ok r') :
    r'.input.length ≤ r.input.length := by
  unfold readValueOrLength at h
  dsimp only at h
  split at h
  · split at h
    · obtain ⟨⟨buf, rest⟩, hread, hok⟩ := Except.bind_eq_ok.mp h
      cases hok
      rw [(readFull_ok hread).2, List.length_append]
      simp
    · cases h
      exact le_refl _
  · split at h
    · obtain ⟨⟨buf, rest⟩, hread, hok⟩ := Except.bind_eq_ok.mp h
      cases hok
      rw [(readFull_ok hread).2, List.length_append]
      simp
    · cases h
      exact le_refl _

/-- Every successful `next` reads at least its control octet. -/
theorem length_input_next_lt {r r' : Reader} (h : r.next = .ok r') :
    r'.input.length < r.input.length := by
  obtain ⟨r0, hsettle, h⟩ := Except.bind_eq_ok.mp h
  obtain ⟨⟨ctrl, rest⟩, hctrl, h⟩ := Except.bind_eq_ok.mp h
  have hsplit := readFull_ok hctrl
  dsimp only at h
  split at h
  · cases h
  · obtain ⟨⟨tag, rest'⟩, htag, h⟩ := Except.bind_eq_ok.mp h
    obtain ⟨r1, hvalue, h⟩ := Except.bind_eq_ok.mp h
    cases h
    have h1 := length_settle_le hsettle
    have h2 := length_readTag_le htag
    have h3 := length_readValueOrLength_le hvalue
    simp only [hsplit.2, List.length_append, hsplit.1] at h1
    simp only at h3 ⊢
    omega

/-! ## `ExitContainer` -/

/-- The loop of `ExitContainer`: read elements until as many end markers as open containers
(`depth`) have gone by. -/
def exitLoop (depth : Nat) (r : Reader) : Except TlvError Reader :=
  if depth = 0 then .ok r
  else
    match h : r.next with
    | .error e => .error e
    | .ok r' =>
      if r'.elemType = .endOfContainer then exitLoop (depth - 1) r'
      else if r'.elemType.isContainer then exitLoop (depth + 1) r'
      else exitLoop depth r'
termination_by r.input.length
decreasing_by all_goals exact length_input_next_lt h

/-- `ExitContainer`. -/
def exitContainer (r : Reader) : Except TlvError Reader :=
  if r.containerStack = [] then .error .notInContainer
  else if r.hasElement && r.elemType == .endOfContainer then
    .ok { r with containerStack := r.containerStack.dropLast, hasElement := false }
  else do
    let r ← exitLoop 1 r
    .ok { r with containerStack := r.containerStack.dropLast, hasElement := false }

/-- `ContainerDepth`. -/
def containerDepth (r : Reader) : Nat := r.containerStack.length

/-- `IsEndOfContainer`. -/
def isEndOfContainer (r : Reader) : Bool := r.hasElement && r.elemType == .endOfContainer

/-- `Skip`. -/
def skip (r : Reader) : Except TlvError Reader :=
  if !r.hasElement then .error .noElement
  else if r.elemType.isContainer then do
    let r ← r.enterContainer
    r.exitContainer
  else r.skipValue

end Reader

/-! ## Reading an encoding -/

namespace Element

/-- How `readValueOrLength` treats an element type: a fixed-size value of `valueSize` bytes, a
string with a length field of `lengthFieldSize` bytes, or nothing to read. -/
inductive Shape (t : ElementType) (field : List UInt8) : Prop
  | fixed : (t.isInt || t.isFloat) = true → t.isString = false → t.valueSize = field.length →
      0 < field.length → Shape t field
  | string : (t.isInt || t.isFloat) = false → t.isString = true →
      t.lengthFieldSize = field.length → Shape t field
  | other : (t.isInt || t.isFloat) = false → t.isString = false → field = [] → Shape t field

theorem shape (e : Element) : Shape e.elementType e.field := by
  cases e with
  | int tag v =>
    rcases intWidth_cases v.toInt with h | h | h | h <;>
      simp only [elementType, field, h] <;> exact .fixed (by decide) (by decide) (by simp; decide) (by simp)
  | uint tag v =>
    rcases uintWidth_cases v.toNat with h | h | h | h <;>
      simp only [elementType, field, h] <;> exact .fixed (by decide) (by decide) (by simp; decide) (by simp)
  | bool tag v =>
    cases v <;> simp only [elementType, field] <;> exact .other (by decide) (by decide) rfl
  | float32 => simp only [elementType, field]; exact .fixed (by decide) (by decide) (by simp; decide) (by simp)
  | float64 => simp only [elementType, field]; exact .fixed (by decide) (by decide) (by simp; decide) (by simp)
  | utf8 tag v =>
    rcases uintWidth_cases v.length with h | h | h | h <;>
      simp only [elementType, field, h] <;> exact .string (by decide) (by decide) (by simp; decide)
  | bytes tag v =>
    rcases uintWidth_cases v.length with h | h | h | h <;>
      simp only [elementType, field, h] <;> exact .string (by decide) (by decide) (by simp; decide)
  | null => simp only [elementType, field]; exact .other (by decide) (by decide) rfl
  | container kind =>
    cases kind <;> simp only [elementType, field, ContainerType.elementType] <;>
      exact .other (by decide) (by decide) rfl

/-- Every element type the encoding writes is a valid one, at most the end marker. -/
theorem elementType_code_le (e : Element) : e.elementType.code ≤ 0x18 := by
  cases e with
  | int tag v => rcases intWidth_cases v.toInt with h | h | h | h <;> simp [elementType, h] <;> decide
  | uint tag v => rcases uintWidth_cases v.toNat with h | h | h | h <;> simp [elementType, h] <;> decide
  | bool tag v => cases v <;> simp [elementType] <;> decide
  | utf8 tag v => rcases uintWidth_cases v.length with h | h | h | h <;> simp [elementType, h] <;> decide
  | bytes tag v => rcases uintWidth_cases v.length with h | h | h | h <;> simp [elementType, h] <;> decide
  | container kind => cases kind <;> simp [elementType, ContainerType.elementType] <;> decide
  | _ => simp only [elementType]; decide

/-- The string elements are those whose element type is a string's. -/
theorem isString_elementType (e : Element) :
    e.elementType.isString = (match e with | utf8 .. | bytes .. => true | _ => false) := by
  cases e with
  | int tag v =>
    rcases ofWidth_mem ElementType.int8.code (intWidth v.toInt) with h | h | h | h <;>
      simp only [elementType, h] <;> decide
  | uint tag v =>
    rcases ofWidth_mem ElementType.uInt8.code (uintWidth v.toNat) with h | h | h | h <;>
      simp only [elementType, h] <;> decide
  | utf8 tag v =>
    rcases ofWidth_mem ElementType.utf8_1.code (uintWidth v.length) with h | h | h | h <;>
      simp only [elementType, h] <;> decide
  | bytes tag v =>
    rcases ofWidth_mem ElementType.bytes1.code (uintWidth v.length) with h | h | h | h <;>
      simp only [elementType, h] <;> decide
  | bool tag v => cases v <;> rfl
  | container kind => cases kind <;> rfl
  | _ => rfl

/-- The container elements are those whose element type is a container's. -/
theorem isContainer_elementType (e : Element) :
    e.elementType.isContainer = (match e with | container .. => true | _ => false) := by
  cases e with
  | int tag v =>
    rcases ofWidth_mem ElementType.int8.code (intWidth v.toInt) with h | h | h | h <;>
      simp only [elementType, h] <;> decide
  | uint tag v =>
    rcases ofWidth_mem ElementType.uInt8.code (uintWidth v.toNat) with h | h | h | h <;>
      simp only [elementType, h] <;> decide
  | utf8 tag v =>
    rcases ofWidth_mem ElementType.utf8_1.code (uintWidth v.length) with h | h | h | h <;>
      simp only [elementType, h] <;> decide
  | bytes tag v =>
    rcases ofWidth_mem ElementType.bytes1.code (uintWidth v.length) with h | h | h | h <;>
      simp only [elementType, h] <;> decide
  | bool tag v => cases v <;> rfl
  | container kind => cases kind <;> rfl
  | _ => rfl

/-- No element is an end marker. -/
theorem elementType_ne_end (e : Element) : e.elementType ≠ .endOfContainer := by
  cases e with
  | int tag v =>
    rcases ofWidth_mem ElementType.int8.code (intWidth v.toInt) with h | h | h | h <;>
      simp only [elementType, h] <;> decide
  | uint tag v =>
    rcases ofWidth_mem ElementType.uInt8.code (uintWidth v.toNat) with h | h | h | h <;>
      simp only [elementType, h] <;> decide
  | utf8 tag v =>
    rcases ofWidth_mem ElementType.utf8_1.code (uintWidth v.length) with h | h | h | h <;>
      simp only [elementType, h] <;> decide
  | bytes tag v =>
    rcases ofWidth_mem ElementType.bytes1.code (uintWidth v.length) with h | h | h | h <;>
      simp only [elementType, h] <;> decide
  | bool tag v => cases v <;> simp only [elementType] <;> decide
  | container kind => cases kind <;> simp only [elementType, ContainerType.elementType] <;> decide
  | _ => simp only [elementType]; decide

theorem WellFormed.built {e : Element} (he : e.WellFormed) : e.tag.Built := by
  cases e <;> simp only [WellFormed] at he <;> first | exact he | exact he.1

end Element

namespace Reader

/-- The reader rests on an element of type `t` and tag `tag`: `next` has read its header and
its field (the value of a fixed-size element, the length of a string), and `after` is ahead. -/
structure AtHeader (r : Reader) (t : ElementType) (tag : Tag) (field after : List UInt8) :
    Prop where
  hasElement : r.hasElement = true
  valueRead : r.valueRead = false
  elemType : r.elemType = t
  tag : r.tag = tag
  loaded : ((t.isInt || t.isFloat) = true → r.valueBuf = field) ∧
    (t.isString = true → r.stringLen = UInt64.ofNat (Bytes.ofLE field))
  input : r.input = after

/-- The reader rests on the element `e`, with its body and `rest` ahead. -/
abbrev On (r : Reader) (e : Element) (rest : List UInt8) : Prop :=
  r.AtHeader e.elementType e.tag e.field (e.body ++ rest)

/-- After the first step of `next`, skipping what was left of the current element, the input
is `input`. -/
def Resumes (r : Reader) (input : List UInt8) : Prop :=
  ∃ r0, r.settle = .ok r0 ∧ r0.input = input ∧ r0.containerStack = r.containerStack

theorem readValueOrLength_fixed {r : Reader} {field after : List UInt8}
    (hfixed : (r.elemType.isInt || r.elemType.isFloat) = true)
    (hsize : r.elemType.valueSize = field.length) (hpos : 0 < field.length)
    (hin : r.input = field ++ after) :
    r.readValueOrLength = .ok { r with valueLen := field.length, valueBuf := field, input := after } := by
  simp [readValueOrLength, hfixed, hsize, hpos, hin]

theorem readValueOrLength_string {r : Reader} {field after : List UInt8}
    (hfixed : (r.elemType.isInt || r.elemType.isFloat) = false) (hstring : r.elemType.isString = true)
    (hsize : r.elemType.lengthFieldSize = field.length) (hin : r.input = field ++ after) :
    r.readValueOrLength =
      .ok { r with input := after, stringLen := UInt64.ofNat (Bytes.ofLE field) } := by
  simp [readValueOrLength, hfixed, hstring, hsize, hin]

theorem readValueOrLength_other {r : Reader}
    (hfixed : (r.elemType.isInt || r.elemType.isFloat) = false) (hstring : r.elemType.isString = false) :
    r.readValueOrLength = .ok { r with valueLen := 0, stringLen := 0 } := by
  simp [readValueOrLength, hfixed, hstring]

/-- **`next` reads a header**: from a valid element type's control octet, a built tag and
the type's field, it leaves the reader on that element with what follows ahead, and unless the
element is a string its buffered value (`valueBuf[:valueLen]`) is the field. -/
theorem next_header_buffered {r : Reader} {t : ElementType} {tag : Tag}
    {field after : List UInt8} (ht : t.code ≤ 0x18) (hshape : Shape t field) (htag : tag.Built)
    (hr : r.Resumes (header t tag ++ field ++ after)) :
    ∃ r', r.next = .ok r' ∧ r'.AtHeader t tag field after ∧
      r'.containerStack = r.containerStack ∧
      (t.isString = false → r'.valueBuf.take r'.valueLen = field) := by
  obtain ⟨r0, hs, hin, hstack⟩ := hr
  have hctrl : readFull 1 r0.input = .ok ([buildControlOctet t tag.control],
      tag.writeTo ++ (field ++ after)) := by
    rw [hin]
    simpa [header, List.append_assoc] using
      readFull_append (l := [buildControlOctet t tag.control]) rfl _
  have hparse := parseControlOctet_buildControlOctet t (by
    have : t.code.toNat ≤ 24 := ht
    exact UInt8.lt_iff_toNat_lt.mpr (by simp; omega)) tag.control
  have hvalid : ¬ t.code > ElementType.endOfContainer.code := UInt8.not_lt.mpr ht
  unfold next
  simp only [hs, Except.ok_bind, hctrl, List.headD_cons, hparse, if_neg hvalid,
    readTag_writeTo htag]
  rcases hshape with ⟨h1, h2, h3, h4⟩ | ⟨h1, h2, h3⟩ | ⟨h1, h2, h3⟩
  · rw [readValueOrLength_fixed h1 h3 h4 rfl]
    exact ⟨_, rfl, ⟨rfl, rfl, rfl, rfl, ⟨fun _ => rfl, fun h => by simp_all⟩, rfl⟩, hstack,
      fun _ => List.take_length⟩
  · rw [readValueOrLength_string h1 h2 h3 rfl]
    exact ⟨_, rfl, ⟨rfl, rfl, rfl, rfl, ⟨fun h => by simp_all, fun _ => rfl⟩, rfl⟩, hstack,
      fun h => by simp_all⟩
  · rw [readValueOrLength_other h1 h2, h3]
    exact ⟨_, rfl, ⟨rfl, rfl, rfl, rfl, ⟨fun h => by simp_all, fun h => by simp_all⟩, rfl⟩,
      hstack, fun _ => List.take_zero⟩

/-- **`next` reads a header**: from a valid element type's control octet, a built tag and
the type's field, it leaves the reader on that element with what follows ahead. -/
theorem next_header {r : Reader} {t : ElementType} {tag : Tag} {field after : List UInt8}
    (ht : t.code ≤ 0x18) (hshape : Shape t field) (htag : tag.Built)
    (hr : r.Resumes (header t tag ++ field ++ after)) :
    ∃ r', r.next = .ok r' ∧ r'.AtHeader t tag field after ∧
      r'.containerStack = r.containerStack := by
  obtain ⟨r', hnext, hat, hstack, _⟩ := next_header_buffered ht hshape htag hr
  exact ⟨r', hnext, hat, hstack⟩

/-- **`next` reads an element's header**: from the encoding of a well-formed element, it leaves
the reader resting on the element, with the element's body and what follows ahead. -/
theorem next_on {r : Reader} {e : Element} {rest : List UInt8} (he : e.WellFormed)
    (hr : r.Resumes (e.encode ++ rest)) :
    ∃ r', r.next = .ok r' ∧ r'.On e rest ∧ r'.containerStack = r.containerStack :=
  next_header e.elementType_code_le e.shape he.built
    (by simpa [encode_eq, List.append_assoc] using hr)

/-! ## The getters read the element's value -/

theorem takeValue_on {r : Reader} {t : ElementType} {tag : Tag} {field after : List UInt8}
    (hr : r.AtHeader t tag field after) {accepts : ElementType → Bool} (h : accepts t = true) :
    r.takeValue accepts = .ok { r with valueRead := true } := by
  simp [takeValue, hr.hasElement, hr.valueRead, hr.elemType, h]

/-- The sign extension of a signed field gives back the `int64` it was written from. -/
theorem ofInt_signExtend {w : Nat} (hw : 0 < w) {v : Int64}
    (hlo : -2 ^ (8 * w - 1) ≤ v.toInt) (hhi : v.toInt < 2 ^ (8 * w - 1)) :
    Int64.ofInt (Bytes.signExtend w (Bytes.ofLE ((Bytes.toLEInt w v.toInt).take w))) = v := by
  rw [List.take_of_length_le (by simp), Bytes.signExtend_ofLE_toLEInt hw hlo hhi,
    Int64.ofInt_toInt]

/-- An unsigned field gives back the `uint64` it was written from. -/
theorem ofNat_ofLE {w : Nat} {v : UInt64} (h : v.toNat < 256 ^ w) :
    UInt64.ofNat (Bytes.ofLE ((Bytes.toLE w v.toNat).take w)) = v := by
  rw [List.take_of_length_le (by simp), Bytes.ofLE_toLE_of_lt h, UInt64.ofNat_toNat]

/-- **`Int` returns the integer written**, in whichever width. -/
theorem int_on {r : Reader} {tag : Tag} {v : Int64} {rest : List UInt8}
    (hr : r.On (.int tag v) rest) : r.int = .ok (v, { r with valueRead := true }) := by
  obtain ⟨hlo, hhi⟩ := intWidth_fits (Int64.le_toInt v) (Int64.toInt_lt v)
  have hw := intWidth_cases v.toInt
  have hbuf := hr.loaded.1 (by rcases hw with h | h | h | h <;> simp [elementType, h] <;> decide)
  unfold int
  rw [takeValue_on hr (by rcases hw with h | h | h | h <;> simp [elementType, h] <;> decide)]
  simp only [Except.ok_bind, hr.elemType, hbuf, elementType, field]
  rcases hw with h | h | h | h <;> simp only [h] at hlo hhi ⊢ <;>
    simp +decide [ofInt_signExtend (by decide) hlo hhi]

/-- **`Uint` returns the integer written**, in whichever width. -/
theorem uint_on {r : Reader} {tag : Tag} {v : UInt64} {rest : List UInt8}
    (hr : r.On (.uint tag v) rest) : r.uint = .ok (v, { r with valueRead := true }) := by
  have hfits := uintWidth_fits (UInt64.toNat_lt v)
  have hw := uintWidth_cases v.toNat
  have hbuf := hr.loaded.1 (by rcases hw with h | h | h | h <;> simp [elementType, h] <;> decide)
  unfold uint
  rw [takeValue_on hr (by rcases hw with h | h | h | h <;> simp [elementType, h] <;> decide)]
  simp only [Except.ok_bind, hr.elemType, hbuf, elementType, field]
  rcases hw with h | h | h | h <;> simp only [h] at hfits ⊢ <;> simp +decide [ofNat_ofLE hfits]


/-- `Uint` on a session ID, which `PutSessionID` writes as two bytes whatever its value. -/
theorem uint_uInt16 {r : Reader} {tag : Tag} {v : UInt16} {after : List UInt8}
    (hr : r.AtHeader .uInt16 tag (Bytes.toLE 2 v.toNat) after) :
    r.uint = .ok (v.toUInt64, { r with valueRead := true }) := by
  have hbuf := hr.loaded.1 rfl
  have hfits : v.toUInt64.toNat < 256 ^ 2 := by simpa using v.toNat_lt
  unfold uint
  rw [takeValue_on hr rfl]
  simp +decide only [Except.ok_bind, hr.elemType, hbuf, ← UInt16.toNat_toUInt64,
    ofNat_ofLE hfits, if_neg, if_pos]

theorem bool_on {r : Reader} {tag : Tag} {v : Bool} {rest : List UInt8}
    (hr : r.On (.bool tag v) rest) : r.bool = .ok (v, { r with valueRead := true }) := by
  unfold bool
  rw [takeValue_on hr (by cases v <;> rfl)]
  cases v <;> simp only [Except.ok_bind, hr.elemType, elementType] <;> rfl

theorem float32_on {r : Reader} {tag : Tag} {bits : UInt32} {rest : List UInt8}
    (hr : r.On (.float32 tag bits) rest) :
    r.float32 = .ok (bits, { r with valueRead := true }) := by
  have hbuf := hr.loaded.1 rfl
  have hfits : bits.toNat < 256 ^ 4 := bits.toNat_lt
  unfold float32
  rw [takeValue_on hr rfl]
  simp only [Except.ok_bind, hbuf, field, List.take_of_length_le (by simp : (Bytes.toLE 4 bits.toNat).length ≤ 4),
    Bytes.ofLE_toLE_of_lt hfits, UInt32.ofNat_toNat]

theorem float64_on {r : Reader} {tag : Tag} {bits : UInt64} {rest : List UInt8}
    (hr : r.On (.float64 tag bits) rest) :
    r.float64 = .ok (bits, { r with valueRead := true }) := by
  have hbuf := hr.loaded.1 rfl
  have hfits : bits.toNat < 256 ^ 8 := bits.toNat_lt
  unfold float64
  rw [takeValue_on hr rfl]
  simp only [Except.ok_bind, hbuf, field, ofNat_ofLE hfits]

theorem null_on {r : Reader} {tag : Tag} {rest : List UInt8} (hr : r.On (.null tag) rest) :
    r.null = .ok { r with valueRead := true } :=
  takeValue_on hr rfl

/-- The length a string's field holds is the string's length. -/
theorem stringLen_on {r : Reader} {e : Element} {rest : List UInt8} {v : List UInt8}
    (hr : r.On e rest) (hstring : e.elementType.isString = true)
    (hfield : e.field = Bytes.toLE (uintWidth v.length) v.length) (hlen : v.length < 2 ^ 64) :
    r.stringLen = UInt64.ofNat v.length := by
  rw [hr.loaded.2 hstring, hfield, Bytes.ofLE_toLE_of_lt (uintWidth_fits hlen)]

/-- A non-empty string's length is not zero as a `uint64`. -/
theorem ofNat_length_ne_zero {v : List UInt8} (hlen : v.length < 2 ^ 64) (hv : v ≠ []) :
    UInt64.ofNat v.length ≠ 0 := by
  intro h0
  have h := congrArg UInt64.toNat h0
  rw [UInt64.toNat_ofNat_of_lt' hlen] at h
  exact hv (List.length_eq_zero_iff.mp (by simpa using h))

/-- **`String` returns the string written** and consumes its bytes. -/
theorem string_on {r : Reader} {tag : Tag} {v rest : List UInt8}
    (hr : r.On (.utf8 tag v) rest) (hv : Utf8.valid v = true) (hlen : v.length < 2 ^ 64) :
    r.string = .ok (v, { r with valueRead := true, input := rest }) := by
  have hw := uintWidth_cases v.length
  have hstring : (utf8 tag v).elementType.isString = true := by
    rcases hw with h | h | h | h <;> simp [elementType, h] <;> decide
  have hsl := stringLen_on hr hstring rfl hlen
  have hn : (UInt64.ofNat v.length).toNat = v.length := UInt64.toNat_ofNat_of_lt' hlen
  have hin : r.input = v ++ rest := hr.input
  unfold string
  rw [takeValue_on hr (by rcases hw with h | h | h | h <;> simp [elementType, h] <;> decide)]
  by_cases hv0 : v = []
  · subst hv0
    simpa [hsl] using hin
  · simp [hsl, ofNat_length_ne_zero hlen hv0, hn, hin, hv]

/-- **`Bytes` returns the octet string written** and consumes it. -/
theorem bytes_on {r : Reader} {tag : Tag} {v rest : List UInt8}
    (hr : r.On (.bytes tag v) rest) (hlen : v.length < 2 ^ 64) :
    r.bytes = .ok (v, { r with valueRead := true, input := rest }) := by
  have hw := uintWidth_cases v.length
  have hstring : (Element.bytes tag v).elementType.isString = true := by
    rcases hw with h | h | h | h <;> simp [elementType, h] <;> decide
  have hsl := stringLen_on hr hstring rfl hlen
  have hn : (UInt64.ofNat v.length).toNat = v.length := UInt64.toNat_ofNat_of_lt' hlen
  have hin : r.input = v ++ rest := hr.input
  unfold bytes
  rw [takeValue_on hr (by rcases hw with h | h | h | h <;> simp [elementType, h] <;> decide)]
  by_cases hv0 : v = []
  · subst hv0
    simpa [hsl] using hin
  · simp [hsl, ofNat_length_ne_zero hlen hv0, hn, hin]

theorem enterContainer_atHeader {r : Reader} {t : ElementType} {tag : Tag}
    {field after : List UInt8} (hr : r.AtHeader t tag field after) (hc : t.isContainer = true) :
    r.enterContainer = .ok
      { r with containerStack := r.containerStack ++ [t], hasElement := false,
               valueRead := true } := by
  simp [enterContainer, hr.hasElement, hr.elemType, hc]

theorem enterContainer_on {r : Reader} {kind : ContainerType} {tag : Tag}
    {members : List Element} {rest : List UInt8} (hr : r.On (.container kind tag members) rest) :
    r.enterContainer = .ok
      { r with containerStack := r.containerStack ++ [kind.elementType], hasElement := false,
               valueRead := true } :=
  enterContainer_atHeader hr (by cases kind <;> decide)

/-! ## Where `next` resumes -/

/-- With nothing to skip, the reader resumes where it is. -/
theorem resumes_self {r : Reader}
    (h : r.hasElement = false ∨ r.valueRead = true ∨ r.elemType.isString = false) :
    r.Resumes r.input := by
  by_cases hs : (r.hasElement && !r.valueRead) = true
  · have hel : r.hasElement = true := by simp_all
    have hread : r.valueRead = false := by simp_all
    have hstring : r.elemType.isString = false := by simp_all
    refine ⟨{ r with valueRead := true }, ?_, rfl, rfl⟩
    simp [settle, hel, skipValue, hread, hstring]
  · exact ⟨r, by simp [settle, hs], rfl, rfl⟩

/-- A new reader starts at its input. -/
theorem resumes_newReader (input : List UInt8) : (newReader input).Resumes input :=
  resumes_self (.inl rfl)

/-- Skipping an unread string drops its bytes. -/
theorem skipValue_string {r : Reader} {v rest : List UInt8} (hread : r.valueRead = false)
    (hstring : r.elemType.isString = true) (hlen : r.stringLen = UInt64.ofNat v.length)
    (hfits : v.length < 2 ^ 63) (hin : r.input = v ++ rest) :
    ∃ r', r.skipValue = .ok r' ∧ r'.input = rest ∧ r'.containerStack = r.containerStack := by
  have h64 : v.length < 2 ^ 64 := by omega
  have hn : (UInt64.ofNat v.length).toNat = v.length := UInt64.toNat_ofNat_of_lt' h64
  by_cases hv : v = []
  · subst hv
    refine ⟨{ r with valueRead := true }, ?_, by simpa using hin, rfl⟩
    simp [skipValue, hread, hlen]
  · have hpos : 0 < UInt64.ofNat v.length := by
      rw [UInt64.lt_iff_toNat_lt, hn]
      simpa [List.length_pos_iff] using hv
    have hsmall : ¬ 2 ^ 63 ≤ v.length := by omega
    refine ⟨{ r with valueRead := true, input := rest }, ?_, rfl, rfl⟩
    simp only [skipValue, hread, hstring, hlen, Bool.false_eq_true, if_false, Bool.true_and,
      decide_eq_true_eq, gt_iff_lt, hpos, if_true, ge_iff_le, hn, if_neg hsmall, hin,
      List.length_append, if_neg (Nat.not_lt.mpr (Nat.le_add_right _ _)), List.drop_left]

/-- **Past a primitive**: from a reader resting on a well-formed element that is not a
container, `next` resumes after the element, whether or not its value was read. -/
theorem resumes_on {r : Reader} {e : Element} {rest : List UInt8} (hr : r.On e rest)
    (he : e.WellFormed) (hleaf : e.elementType.isContainer = false) : r.Resumes rest := by
  cases e with
  | utf8 tag v =>
    have hs : r.elemType.isString = true := by
      rw [hr.elemType]
      exact isString_elementType (.utf8 tag v)
    obtain ⟨r', hskip, hin, hstack⟩ := skipValue_string hr.valueRead hs
      (stringLen_on hr (isString_elementType (.utf8 tag v)) rfl (by have := he.2.2; omega))
      he.2.2 hr.input
    exact ⟨r', by simp [settle, hr.hasElement, hr.valueRead, hskip], hin, hstack⟩
  | bytes tag v =>
    have hs : r.elemType.isString = true := by
      rw [hr.elemType]
      exact isString_elementType (.bytes tag v)
    obtain ⟨r', hskip, hin, hstack⟩ := skipValue_string hr.valueRead hs
      (stringLen_on hr (isString_elementType (.bytes tag v)) rfl (by have := he.2; omega))
      he.2 hr.input
    exact ⟨r', by simp [settle, hr.hasElement, hr.valueRead, hskip], hin, hstack⟩
  | container kind tag members => simp [isContainer_elementType] at hleaf
  | _ =>
    have h := resumes_self (.inr (.inr (hr.elemType.trans rfl ▸ isString_elementType _)))
    simpa [hr.input, body] using h

/-- **Into a container not entered**: `next` resumes at its first member. -/
theorem resumes_on_container {r : Reader} {kind : ContainerType} {tag : Tag}
    {members : List Element} {rest : List UInt8} (hr : r.On (.container kind tag members) rest) :
    r.Resumes (encodeMembers members ++ [ElementType.endOfContainer.code] ++ rest) := by
  have h := resumes_self (.inr (.inr (hr.elemType ▸ isString_elementType _)))
  simpa [hr.input, body] using h

/-- **`next` reads an end marker.** -/
theorem next_end {r : Reader} {rest : List UInt8}
    (hr : r.Resumes (ElementType.endOfContainer.code :: rest)) :
    ∃ r', r.next = .ok r' ∧ r'.hasElement = true ∧ r'.valueRead = false ∧
      r'.elemType = .endOfContainer ∧ r'.input = rest ∧ r'.containerStack = r.containerStack := by
  obtain ⟨r0, hs, hin, hstack⟩ := hr
  have hctrl : readFull 1 r0.input = .ok ([ElementType.endOfContainer.code], rest) := by
    rw [hin]
    exact readFull_append (l := [ElementType.endOfContainer.code]) rfl rest
  have hparse : parseControlOctet ElementType.endOfContainer.code =
      (.endOfContainer, .anonymous) := by decide
  have hvalid : ¬ ElementType.endOfContainer.code > ElementType.endOfContainer.code := by decide
  unfold next
  simp only [hs, Except.ok_bind, hctrl, List.headD_cons, hparse, if_neg hvalid, readTag]
  rw [readValueOrLength_other rfl rfl]
  exact ⟨_, rfl, rfl, rfl, rfl, rfl, hstack⟩

/-- At the end marker of the innermost container, `ExitContainer` pops it without reading. -/
theorem exitContainer_at_end {r : Reader} (hstack : r.containerStack ≠ [])
    (hel : r.hasElement = true) (hend : r.elemType = .endOfContainer) :
    r.exitContainer =
      .ok { r with containerStack := r.containerStack.dropLast, hasElement := false } := by
  simp [exitContainer, hstack, hel, hend]

/-! ## What the getters consume -/

theorem input_takeValue {r r' : Reader} {accepts : ElementType → Bool}
    (h : r.takeValue accepts = .ok r') : r'.input = r.input := by
  unfold takeValue at h
  split_ifs at h
  cases h
  rfl

/-- `Int` and `Uint` read the value `next` loaded and consume no input. -/
theorem input_int {r r' : Reader} {v : Int64} (h : r.int = .ok (v, r')) :
    r'.input = r.input := by
  obtain ⟨r0, htake, h⟩ := Except.bind_eq_ok.mp h
  split_ifs at h <;> cases h <;> exact input_takeValue htake

theorem input_uint {r r' : Reader} {v : UInt64} (h : r.uint = .ok (v, r')) :
    r'.input = r.input := by
  obtain ⟨r0, htake, h⟩ := Except.bind_eq_ok.mp h
  split_ifs at h <;> cases h <;> exact input_takeValue htake

/-- `String` and `Bytes` consume the string's bytes. -/
theorem length_input_string_le {r r' : Reader} {v : List UInt8} (h : r.string = .ok (v, r')) :
    r'.input.length ≤ r.input.length := by
  obtain ⟨r0, htake, h⟩ := Except.bind_eq_ok.mp h
  have h0 := input_takeValue htake
  split at h
  · cases h
    exact h0 ▸ le_refl _
  · obtain ⟨⟨data, rest⟩, hread, h⟩ := Except.bind_eq_ok.mp h
    simp only [Bool.not_eq_true'] at h
    split_ifs at h
    cases h
    simp only [← h0, (readFull_ok hread).2, List.length_append]
    omega

theorem length_input_bytes_le {r r' : Reader} {v : List UInt8} (h : r.bytes = .ok (v, r')) :
    r'.input.length ≤ r.input.length := by
  obtain ⟨r0, htake, h⟩ := Except.bind_eq_ok.mp h
  have h0 := input_takeValue htake
  split at h
  · cases h
    exact h0 ▸ le_refl _
  · obtain ⟨⟨data, rest⟩, hread, h⟩ := Except.bind_eq_ok.mp h
    cases h
    simp only [← h0, (readFull_ok hread).2, List.length_append]
    omega

end Reader

end Matter.Tlv
