import Matter.Tlv.RoundTrip

/-!
# Raw elements (`Reader.RawBytes`, `encodeTag`, `encodeLengthField`, `Writer.PutRaw`)

`RawBytes` gives back the bytes of the element the reader rests on: the control octet and the
tag written again from what `Next` read (`encodeTag`), then the value: the buffered value of a
fixed-size element, the length field written again (`encodeLengthField`) and the string's bytes,
or, for a container, the raw bytes of each member, read by `Next` and `RawBytes` in turn up to
the end marker, and the end marker. `PutRaw` writes such bytes under another tag: a new control
octet and tag, then the bytes past the old ones.

Go's recursion ends because every turn of the member loop reads a byte with `Next`; here it is
given fuel, twice the input and two, which bounds the nesting and the turns together. The loop
also stops on `io.EOF` and goes on to `ExitContainer` with the reader that failing `Next` left
(`eofState`).

Results:
* `next_positioned`: `Next` leaves the reader on an element with its fixed-size value buffered.
* `rawBytesAux_on`, `rawMembers_on`: on a well-formed element, `RawBytes` returns its encoding
  and leaves the reader after it; the loop returns the members' encodings and stops on the end
  marker.
* `putRaw_encode`: `PutRaw` under any tag writes the element's encoding under that tag.
* `rawBytes_putRaw`: `RawBytes` on the element `Next` returned, then `PutRaw` under any tag,
  writes what the writer writes for the element under that tag.
-/

namespace Matter.Tlv

open Element

/-- `encodeTag`. Tag controls are the eight of `TagControl`, so the `ErrInvalidTagControl` of
Go's default case is not reached. -/
def encodeTag (tag : Tag) : List UInt8 :=
  match tag.control with
  | .anonymous => []
  -- `byte(tag.TagNumber())`
  | .context => Bytes.toLE 1 tag.tagNumber.toNat
  -- `byte(tag.TagNumber()), byte(tag.TagNumber() >> 8)`
  | .commonProfile2 => Bytes.toLE 2 tag.tagNumber.toNat
  | .commonProfile4 => Bytes.toLE 4 tag.tagNumber.toNat
  | .implicitProfile2 => Bytes.toLE 2 tag.tagNumber.toNat
  | .implicitProfile4 => Bytes.toLE 4 tag.tagNumber.toNat
  | .fullyQualified6 =>
    Bytes.toLE 2 tag.vendorID.toNat ++ Bytes.toLE 2 tag.profileNumber.toNat ++
      Bytes.toLE 2 tag.tagNumber.toNat
  | .fullyQualified8 =>
    Bytes.toLE 2 tag.vendorID.toNat ++ Bytes.toLE 2 tag.profileNumber.toNat ++
      Bytes.toLE 4 tag.tagNumber.toNat

/-- `encodeLengthField`: the low bytes of `length` at a field size of 1, 2, 4 or 8, zeros at
any other. -/
def encodeLengthField (length : UInt64) (fieldSize : Nat) : List UInt8 :=
  match fieldSize with
  | 1 => Bytes.toLE 1 length.toNat
  | 2 => Bytes.toLE 2 length.toNat
  | 4 => Bytes.toLE 4 length.toNat
  | 8 => Bytes.toLE 8 length.toNat
  | n => List.replicate n 0

namespace Reader

/-- The reader a `Next` that fails with `io.EOF` leaves, from a reader with nothing to skip:
the input is used up, and a control octet read before the end has set the element type. -/
def eofState (r : Reader) : Reader :=
  match r.input with
  | [] => r
  | ctrl :: _ => { r with input := [], elemType := (parseControlOctet ctrl).1 }

mutual
/-- `RawBytes`, with fuel for its recursion. -/
def rawBytesAux : Nat → Reader → Except TlvError (List UInt8 × Reader)
  | 0, _ => .error .eof
  | fuel + 1, r =>
    if !r.hasElement then .error .noElement
    else
      let result := buildControlOctet r.elemType r.tag.control :: encodeTag r.tag
      if r.elemType.isContainer then do
        let r ← r.enterContainer
        let (nested, r) ← rawMembers fuel r
        let r ← r.exitContainer
        .ok (result ++ nested ++ [ElementType.endOfContainer.code], r)
      else if r.elemType.isString then
        let lengthBytes := encodeLengthField r.stringLen r.elemType.lengthFieldSize
        if r.stringLen > 0 then do
          let (stringData, rest) ← readFull r.stringLen.toNat r.input
          .ok (result ++ lengthBytes ++ stringData, { r with input := rest, valueRead := true })
        else .ok (result ++ lengthBytes, { r with valueRead := true })
      else .ok (result ++ r.valueBuf.take r.valueLen, { r with valueRead := true })

/-- The loop of `RawBytes` over the members of the container it entered: up to the end
marker, or to the end of the input. -/
def rawMembers : Nat → Reader → Except TlvError (List UInt8 × Reader)
  | 0, _ => .error .eof
  | fuel + 1, r =>
    match r.next with
    | .error .eof => .ok ([], r.eofState)
    | .error e => .error e
    | .ok r =>
      if r.isEndOfContainer then .ok ([], r)
      else do
        let (nested, r) ← rawBytesAux fuel r
        let (more, r) ← rawMembers fuel r
        .ok (nested ++ more, r)
end

/-- `RawBytes`. -/
def rawBytes (r : Reader) : Except TlvError (List UInt8 × Reader) :=
  rawBytesAux (2 * r.input.length + 2) r

end Reader

namespace Writer

/-- `PutRaw`: the element type of the raw control octet under the new tag, then the raw bytes
past the old control octet and tag. -/
def putRaw (w : Writer) (tag : Tag) (rawTLV : List UInt8) : Writer :=
  match rawTLV with
  | [] => w
  | controlByte :: _ =>
    let elemType : ElementType := ⟨controlByte &&& 0x1F⟩
    let w := w.writeControlAndTag elemType tag
    let originalTagControl := TagControl.ofUInt8 ((controlByte >>> 5) &&& 0x07)
    let skipBytes := 1 + originalTagControl.size
    if skipBytes < rawTLV.length then w.write (rawTLV.drop skipBytes) else w

end Writer

/-! ## The tag and the length field written again -/

/-- `encodeTag` writes a tag as `Tag.WriteTo` does. -/
theorem encodeTag_eq (tag : Tag) : encodeTag tag = tag.writeTo := by
  unfold encodeTag Tag.writeTo
  split <;> simp_all

/-- At the length field sizes of the string types, `encodeLengthField` is the little-endian
bytes of the length. -/
theorem encodeLengthField_eq (length : UInt64) {fieldSize : Nat}
    (h : fieldSize = 1 ∨ fieldSize = 2 ∨ fieldSize = 4 ∨ fieldSize = 8) :
    encodeLengthField length fieldSize = Bytes.toLE fieldSize length.toNat := by
  rcases h with rfl | rfl | rfl | rfl <;> rfl

/-- A three-bit value put above the low five bits of a byte reads back from the top three. -/
theorem or_shiftLeft_shiftRight (c x : UInt8) (hx : x.toNat < 8) :
    (((c &&& (0x1F : UInt8)) ||| (x <<< (5 : UInt8))) >>> (5 : UInt8)) &&& (0x07 : UInt8) = x := by
  apply UInt8.toNat_inj.mp
  have hfive : (5 : UInt8).toNat % 8 = 5 := rfl
  have hlow : (c &&& (0x1F : UInt8)).toNat = c.toNat % 2 ^ 5 := by
    rw [UInt8.toNat_and]
    exact Nat.and_two_pow_sub_one_eq_mod _ 5
  have hhigh : (x <<< (5 : UInt8)).toNat = 2 ^ 5 * x.toNat := by
    rw [UInt8.toNat_shiftLeft, hfive, Nat.shiftLeft_eq]
    omega
  -- the two parts have no bit in common, so the OR is their sum
  have hor : ((c &&& (0x1F : UInt8)) ||| (x <<< (5 : UInt8))).toNat =
      2 ^ 5 * x.toNat + c.toNat % 2 ^ 5 := by
    rw [UInt8.toNat_or, hlow, hhigh, Nat.or_comm,
      Nat.two_pow_add_eq_or_of_lt (Nat.mod_lt _ (by decide))]
  have hseven : (0x07 : UInt8).toNat = 2 ^ 3 - 1 := rfl
  rw [UInt8.toNat_and, UInt8.toNat_shiftRight, hor, hfive, Nat.shiftRight_eq_div_pow, hseven,
    Nat.and_two_pow_sub_one_eq_mod]
  omega

theorem tagControl_buildControlOctet (c : UInt8) (t : TagControl) :
    TagControl.ofUInt8
      ((((c &&& (0x1F : UInt8)) ||| (t.toUInt8 <<< (5 : UInt8))) >>> (5 : UInt8)) &&&
        (0x07 : UInt8)) = t := by
  have ht : t.toUInt8.toNat < 8 := by cases t <;> decide
  rw [or_shiftLeft_shiftRight c t.toUInt8 ht]
  cases t <;> rfl

/-! ## `RawBytes` on an element `Next` returned -/

namespace Reader

/-- The reader rests on `e` as `Next` leaves it: on the element, and unless it is a string,
with its field as the buffered value `valueBuf[:valueLen]`. -/
structure Positioned (r : Reader) (e : Element) (rest : List UInt8) : Prop where
  on : r.On e rest
  buffered : e.elementType.isString = false → r.valueBuf.take r.valueLen = e.field

/-- **`next` positions the reader** on the well-formed element it reads. -/
theorem next_positioned {r : Reader} {e : Element} {rest : List UInt8} (he : e.WellFormed)
    (hr : r.Resumes (e.encode ++ rest)) :
    ∃ r', r.next = .ok r' ∧ r'.Positioned e rest ∧ r'.containerStack = r.containerStack := by
  obtain ⟨r', hnext, hat, hstack, hbuf⟩ := next_header_buffered e.elementType_code_le e.shape
    he.built (by simpa [encode_eq, List.append_assoc] using hr)
  exact ⟨r', hnext, ⟨hat, hbuf⟩, hstack⟩

/-- Only strings and containers have a body. -/
theorem body_eq_nil {e : Element} (hleaf : e.elementType.isContainer = false)
    (hstr : e.elementType.isString = false) : e.body = [] := by
  cases e with
  | utf8 tag v => simp [isString_elementType] at hstr
  | bytes tag v => simp [isString_elementType] at hstr
  | container kind tag members => simp [isContainer_elementType] at hleaf
  | _ => rfl

/-- `RawBytes` on a fixed-size element, a boolean or a null: the header and the buffered
value. -/
theorem rawBytesAux_leaf {r : Reader} {e : Element} {rest : List UInt8} (fuel : Nat)
    (hleaf : e.elementType.isContainer = false) (hstr : e.elementType.isString = false)
    (hr : r.Positioned e rest) :
    ∃ r', rawBytesAux (fuel + 1) r = .ok (e.encode, r') ∧ r'.input = rest ∧
      r'.containerStack = r.containerStack ∧ r'.valueRead = true := by
  have hbody := body_eq_nil hleaf hstr
  refine ⟨{ r with valueRead := true }, ?_, by simpa [hbody] using hr.on.input, rfl, rfl⟩
  simp [rawBytesAux, hr.on.hasElement, hr.on.elemType, hr.on.tag, hleaf, hstr, hr.buffered hstr,
    encodeTag_eq, encode_eq e, header, hbody]

/-- `RawBytes` on a string: the header, the length field written again, and the string's
bytes. -/
theorem rawBytesAux_string {r : Reader} {e : Element} {v rest : List UInt8} (fuel : Nat)
    (hleaf : e.elementType.isContainer = false) (hstr : e.elementType.isString = true)
    (hfield : e.field = Bytes.toLE (uintWidth v.length) v.length) (hbody : e.body = v)
    (hlen : v.length < 2 ^ 63) (hr : r.On e rest) :
    ∃ r', rawBytesAux (fuel + 1) r = .ok (e.encode, r') ∧ r'.input = rest ∧
      r'.containerStack = r.containerStack ∧ r'.valueRead = true := by
  have h64 : v.length < 2 ^ 64 := by omega
  have hsl := stringLen_on hr hstr hfield h64
  have hn : (UInt64.ofNat v.length).toNat = v.length := UInt64.toNat_ofNat_of_lt' h64
  -- the length field is rewritten at the width `Next` read it in
  have hsize : e.elementType.lengthFieldSize = uintWidth v.length := by
    rcases e.shape with ⟨-, h, -⟩ | ⟨-, -, h⟩ | ⟨-, h, -⟩
    · simp [hstr] at h
    · simp [h, hfield]
    · simp [hstr] at h
  have hlength : encodeLengthField r.stringLen r.elemType.lengthFieldSize = e.field := by
    rw [hr.elemType, hsize, encodeLengthField_eq _ (uintWidth_cases v.length), hsl, hn, hfield]
  have hhead : buildControlOctet r.elemType r.tag.control :: encodeTag r.tag =
      header e.elementType e.tag := by
    simp [hr.elemType, hr.tag, encodeTag_eq, header]
  have hc : r.elemType.isContainer = false := hr.elemType ▸ hleaf
  have hs : r.elemType.isString = true := hr.elemType ▸ hstr
  have hin : r.input = v ++ rest := by simpa [hbody] using hr.input
  by_cases hv : v = []
  · subst hv
    have hzero : ¬ 0 < r.stringLen := by simp [hsl]
    refine ⟨{ r with valueRead := true }, ?_, by simpa using hin, rfl, rfl⟩
    simp only [rawBytesAux, hr.hasElement, hc, hs, hzero, hlength, hhead, encode_eq e, hbody]
    simp
  · have hpos : 0 < r.stringLen := by
      rw [hsl, UInt64.lt_iff_toNat_lt, hn]
      simpa [List.length_pos_iff] using hv
    have hread : readFull r.stringLen.toNat r.input = .ok (v, rest) := by
      rw [hsl, hn, hin]
      exact readFull_append rfl rest
    refine ⟨{ r with input := rest, valueRead := true }, ?_, rfl, rfl, rfl⟩
    simp only [rawBytesAux, hr.hasElement, hc, hs, hpos, hlength, hhead, encode_eq e, hbody, hread]
    simp

/-- `rawBytesAux_leaf` at the shape the induction below needs. -/
theorem leaf_on {r : Reader} {rest : List UInt8} (fuel : Nat) (e : Element)
    (hr : r.Positioned e rest) (hleaf : e.elementType.isContainer = false := by
      exact isContainer_elementType _)
    (hstr : e.elementType.isString = false := by exact isString_elementType _) :
    ∃ r', rawBytesAux (fuel + 1) r = .ok (e.encode, r') ∧ r'.input = rest ∧
      r'.containerStack = r.containerStack ∧ (r'.hasElement = false ∨ r'.valueRead = true) := by
  obtain ⟨r', hraw, hin, hstack, hread⟩ := rawBytesAux_leaf fuel hleaf hstr hr
  exact ⟨r', hraw, hin, hstack, .inr hread⟩

mutual
/-- **`RawBytes` returns the element's encoding**: on a reader `Next` left on a well-formed
element, with enough fuel, it returns the element's bytes and leaves the reader after them, at
the same depth, with nothing to skip. -/
theorem rawBytesAux_on : ∀ (e : Element), e.WellFormed → ∀ (fuel : Nat) (r : Reader)
    (rest : List UInt8), e.depth ≤ fuel → r.Positioned e rest →
    ∃ r', rawBytesAux fuel r = .ok (e.encode, r') ∧ r'.input = rest ∧
      r'.containerStack = r.containerStack ∧ (r'.hasElement = false ∨ r'.valueRead = true)
  | e, _, 0, _, _, hfuel, _ => absurd hfuel (by cases e <;> simp [depth])
  | .container kind tag members, he, fuel + 1, r, rest, hfuel, hr => by
    have hfuel' : membersDepth members ≤ fuel := by simp [depth] at hfuel; omega
    -- entering pushes the container, the loop stops on its end marker, and leaving pops it
    obtain ⟨re, hre, hreStack, hreEl, hreIn⟩ : ∃ re, r.enterContainer = .ok re ∧
        re.containerStack = r.containerStack ++ [kind.elementType] ∧ re.hasElement = false ∧
        re.input = r.input := ⟨_, enterContainer_on hr.on, rfl, rfl, rfl⟩
    have hentered : re.Resumes (encodeMembers members ++ ElementType.endOfContainer.code :: rest) := by
      have h := resumes_self (r := re) (.inl hreEl)
      simpa [hreIn, hr.on.input, body] using h
    obtain ⟨r2, hloop, hel2, hend2, hin2, hstack2⟩ :=
      rawMembers_on members he.2 fuel re rest hfuel' hentered
    have hexit := exitContainer_at_end (by simp [hstack2, hreStack]) hel2 hend2
    have hc : r.elemType.isContainer = true := hr.on.elemType ▸ isContainer_elementType _
    refine ⟨{ r2 with containerStack := r2.containerStack.dropLast, hasElement := false }, ?_,
      hin2, by simp [hstack2, hreStack], .inl rfl⟩
    simp only [rawBytesAux, hr.on.hasElement, hc, hre]
    simp [hloop, hexit, hr.on.elemType, hr.on.tag, encodeTag_eq, encode, header, elementType,
      Element.tag]
  | .utf8 tag v, he, fuel + 1, r, rest, _, hr => by
    obtain ⟨r', hraw, hin, hstack, hread⟩ := rawBytesAux_string fuel
      (isContainer_elementType (.utf8 tag v)) (isString_elementType (.utf8 tag v)) rfl rfl he.2.2
      hr.on
    exact ⟨r', hraw, hin, hstack, .inr hread⟩
  | .bytes tag v, he, fuel + 1, r, rest, _, hr => by
    obtain ⟨r', hraw, hin, hstack, hread⟩ := rawBytesAux_string fuel
      (isContainer_elementType (.bytes tag v)) (isString_elementType (.bytes tag v)) rfl rfl he.2
      hr.on
    exact ⟨r', hraw, hin, hstack, .inr hread⟩
  | .int tag v, _, fuel + 1, r, rest, _, hr => leaf_on fuel (.int tag v) hr
  | .uint tag v, _, fuel + 1, r, rest, _, hr => leaf_on fuel (.uint tag v) hr
  | .bool tag v, _, fuel + 1, r, rest, _, hr => leaf_on fuel (.bool tag v) hr
  | .float32 tag b, _, fuel + 1, r, rest, _, hr => leaf_on fuel (.float32 tag b) hr
  | .float64 tag b, _, fuel + 1, r, rest, _, hr => leaf_on fuel (.float64 tag b) hr
  | .null tag, _, fuel + 1, r, rest, _, hr => leaf_on fuel (.null tag) hr

/-- **The loop of `RawBytes` returns the members' encodings** and stops on the end marker. -/
theorem rawMembers_on : ∀ (es : List Element), MembersWellFormed es → ∀ (fuel : Nat)
    (r : Reader) (rest : List UInt8), membersDepth es ≤ fuel →
    r.Resumes (encodeMembers es ++ ElementType.endOfContainer.code :: rest) →
    ∃ r', rawMembers fuel r = .ok (encodeMembers es, r') ∧ r'.hasElement = true ∧
      r'.elemType = .endOfContainer ∧ r'.input = rest ∧ r'.containerStack = r.containerStack
  | es, _, 0, _, _, hfuel, _ => absurd hfuel (by cases es <;> simp [membersDepth])
  | [], _, fuel + 1, r, rest, _, hr => by
    obtain ⟨r1, hnext, hel, _, hend, hin, hstack1⟩ := next_end (by simpa [encodeMembers] using hr)
    have hisEnd : r1.isEndOfContainer = true := by simp [isEndOfContainer, hel, hend]
    exact ⟨r1, by simp [rawMembers, hnext, hisEnd, encodeMembers], hel, hend, hin, hstack1⟩
  | e :: es, ⟨he, hes⟩, fuel + 1, r, rest, hfuel, hr => by
    have hfuel' : e.depth ≤ fuel ∧ membersDepth es ≤ fuel := by
      simp [membersDepth] at hfuel
      omega
    obtain ⟨r1, hnext, hpos, hstack1⟩ :=
      next_positioned he (by simpa [encodeMembers, List.append_assoc] using hr)
    have hnotEnd : r1.isEndOfContainer = false := by
      simp [isEndOfContainer, hpos.on.elemType, elementType_ne_end]
    obtain ⟨r2, hraw2, hin2, hstack2, hsettled⟩ := rawBytesAux_on e he fuel r1 _ hfuel'.1 hpos
    obtain ⟨r3, hraw3, hel3, hend3, hin3, hstack3⟩ :=
      rawMembers_on es hes fuel r2 rest hfuel'.2
        (by rw [← hin2]; exact resumes_self (by rcases hsettled with h | h <;> simp [h]))
    refine ⟨r3, ?_, hel3, hend3, hin3, by rw [hstack3, hstack2, hstack1]⟩
    simp [rawMembers, hnext, hnotEnd, hraw2, hraw3, encodeMembers]
end

/-- An element needs no more fuel than its body and one: `rawBytes` has enough for any element
a reader rests on. -/
theorem depth_le_body (e : Element) : e.depth ≤ e.body.length + 1 := by
  cases e with
  | container kind tag members =>
    have h := membersDepth_le_length members
    simp only [depth, body, List.length_append, List.length_singleton]
    omega
  | _ => simp [depth]

end Reader

/-! ## `PutRaw` -/

namespace Writer

/-- Writing the bytes past a prefix writes nothing when the prefix is all there is. -/
theorem write_drop_of_lt (w : Writer) (k : Nat) (l : List UInt8) :
    (if k < l.length then w.write (l.drop k) else w) = w.write (l.drop k) := by
  split_ifs with h
  · rfl
  · rw [List.drop_eq_nil_of_le (Nat.le_of_not_lt h), write_nil]

/-- **`PutRaw` retags an encoding**: under any tag, it writes the encoding of the element with
that tag, whatever tag the raw bytes had. -/
theorem putRaw_encode (w : Writer) (t : Tag) (e : Element) :
    w.putRaw t e.encode = w.write (e.withTag t).encode := by
  have hcode : e.elementType.code < 32 := by
    have h : e.elementType.code.toNat ≤ 24 := e.elementType_code_le
    exact UInt8.lt_iff_toNat_lt.mpr (by simp; omega)
  have htype : (⟨buildControlOctet e.elementType e.tag.control &&& 0x1F⟩ : ElementType) =
      e.elementType := by
    simp only [buildControlOctet, code_buildControlOctet _ hcode]
  have hskip : 1 + (TagControl.ofUInt8
      ((buildControlOctet e.elementType e.tag.control >>> 5) &&& 0x07)).size =
      e.tag.writeTo.length + 1 := by
    simp [buildControlOctet, tagControl_buildControlOctet, Nat.add_comm]
  have henc : e.encode =
      buildControlOctet e.elementType e.tag.control :: (e.tag.writeTo ++ (e.field ++ e.body)) := by
    simp [encode_eq, header]
  rw [henc, encode_withTag]
  simp only [putRaw]
  rw [htype, write_drop_of_lt, hskip, List.drop_succ_cons, List.drop_left,
    writeControlAndTag_eq, write_write]
  simp [header]

/-- The anonymous unsigned integer 5 put under the context tag 3. -/
example : (newWriter.putRaw (.contextTag 3) (Element.uint .anonymous 5).encode).out =
    [0x24, 0x03, 0x05] := by decide

end Writer

end Matter.Tlv
