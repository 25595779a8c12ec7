import Matter.Case.Codec

/-!
# PASE messages and their TLV codec (`pkg/securechannel/pase/messages.go`)

The PBKDF exchange and the three Pake messages, as the Go structures have them, with the
`Encode` methods and `Decode` functions of `messages.go`. A `[32]byte` random is a byte list
whose size `Sized` states; an optional pointer is an `Option`. `pase.MRPParameters` has the
fields of `case.MRPParameters`, and `encodeMRPParams`/`decodeMRPParams` are the same code in
both packages: the model uses the CASE ones.

The decoders run the loop of every TLV decoder (`Case.decodeMembers`); unlike CASE's, those of
the PBKDF messages check no member for presence, so an absent one keeps Go's zero value, and
those of the Pake messages only check that their octet strings are non-empty. `Bytes()`
returns `nil` for an empty string: the model's `[]`. The decoders' errors are
`pase.ErrInvalidMessage`, `pase.ErrInvalidRandom` and the reader's, the shape of
`Case.CodecError`.

Results:
* `PBKDFParamRequest.roundTrip`, `PBKDFParamResponse.roundTrip`, `Pake1.roundTrip`,
  `Pake2.roundTrip`, `Pake3.roundTrip`: every message with its declared sizes is encoded, and
  its encoding decodes back to it.
-/

namespace Matter.Pase

open Tlv
open Case (CodecError MRPParameters ReadsMember decodeMembers readFixedBytes decodeMRPParams
  enterMessage putSessionID encodeMRPParams sessionIDBytes mrpBytes)

/-- `RandomSize`. -/
def randomSize : Nat := 32

/-- `PBKDFParameters`. -/
structure PBKDFParameters where
  iterations : UInt32
  salt : List UInt8
  deriving DecidableEq, Repr

/-- `PBKDFParamRequest`. -/
structure PBKDFParamRequest where
  initiatorRandom : List UInt8
  initiatorSessionID : UInt16
  passcodeID : UInt16
  hasPBKDFParameters : Bool
  mrpParams : Option MRPParameters
  deriving DecidableEq, Repr

/-- `PBKDFParamResponse`. -/
structure PBKDFParamResponse where
  initiatorRandom : List UInt8
  responderRandom : List UInt8
  responderSessionID : UInt16
  pbkdfParams : Option PBKDFParameters
  mrpParams : Option MRPParameters
  deriving DecidableEq, Repr

/-- `Pake1`: the initiator's share. -/
structure Pake1 where
  pA : List UInt8
  deriving DecidableEq, Repr

/-- `Pake2`: the responder's share and confirmation. -/
structure Pake2 where
  pB : List UInt8
  cB : List UInt8
  deriving DecidableEq, Repr

/-- `Pake3`: the initiator's confirmation. -/
structure Pake3 where
  cA : List UInt8
  deriving DecidableEq, Repr

/-! ## Declared sizes -/

/-- The random of a `PBKDFParamRequest` has its 32 bytes. -/
def PBKDFParamRequest.Sized (m : PBKDFParamRequest) : Prop := m.initiatorRandom.length = randomSize

/-- The salt is a Go slice. -/
def PBKDFParameters.Sized (p : PBKDFParameters) : Prop := p.salt.length < 2 ^ 63

/-- The randoms of a `PBKDFParamResponse` have their 32 bytes; its salt is a Go slice. -/
def PBKDFParamResponse.Sized (m : PBKDFParamResponse) : Prop :=
  m.initiatorRandom.length = randomSize ∧ m.responderRandom.length = randomSize ∧
    ∀ p ∈ m.pbkdfParams, p.Sized

/-- The share is a non-empty Go slice. -/
def Pake1.Sized (m : Pake1) : Prop := m.pA ≠ [] ∧ m.pA.length < 2 ^ 63

/-- The share and the confirmation are non-empty Go slices. -/
def Pake2.Sized (m : Pake2) : Prop :=
  m.pB ≠ [] ∧ m.pB.length < 2 ^ 63 ∧ m.cB ≠ [] ∧ m.cB.length < 2 ^ 63

/-- The confirmation is a non-empty Go slice. -/
def Pake3.Sized (m : Pake3) : Prop := m.cA ≠ [] ∧ m.cA.length < 2 ^ 63

/-! ## Encoding -/

/-- `messages.PutPasscodeID`: a passcode ID always as a two-byte unsigned integer. -/
def putPasscodeID (w : Writer) (tag : Tag) (passcodeID : UInt16) : Except TlvError Writer :=
  w.putUintWithWidth tag passcodeID.toUInt64 2

/-- `encodePBKDFParams`: the iterations and the salt, in a structure. -/
def encodePBKDFParams (w : Writer) (tag : UInt8) (params : PBKDFParameters) :
    Except TlvError Writer :=
  let w := w.startStructure (.contextTag tag)
  let w := w.putUint (.contextTag 1) params.iterations.toUInt64
  let w := w.putBytes (.contextTag 2) params.salt
  w.endContainer

/-- `PBKDFParamRequest.Encode`. -/
def PBKDFParamRequest.encode (p : PBKDFParamRequest) : Except TlvError (List UInt8) := do
  let w := newWriter.startStructure .anonymous
  let w := w.putBytes (.contextTag 1) p.initiatorRandom
  let w ← putSessionID w (.contextTag 2) p.initiatorSessionID
  let w ← putPasscodeID w (.contextTag 3) p.passcodeID
  let w := w.putBool (.contextTag 4) p.hasPBKDFParameters
  let w ← match p.mrpParams with
    | some params => encodeMRPParams w 5 params
    | none => pure w
  let w ← w.endContainer
  pure w.out

/-- `PBKDFParamResponse.Encode`. -/
def PBKDFParamResponse.encode (p : PBKDFParamResponse) : Except TlvError (List UInt8) := do
  let w := newWriter.startStructure .anonymous
  let w := w.putBytes (.contextTag 1) p.initiatorRandom
  let w := w.putBytes (.contextTag 2) p.responderRandom
  let w ← putSessionID w (.contextTag 3) p.responderSessionID
  let w ← match p.pbkdfParams with
    | some params => encodePBKDFParams w 4 params
    | none => pure w
  let w ← match p.mrpParams with
    | some params => encodeMRPParams w 5 params
    | none => pure w
  let w ← w.endContainer
  pure w.out

/-- `Pake1.Encode`. -/
def Pake1.encode (p : Pake1) : Except TlvError (List UInt8) := do
  let w := newWriter.startStructure .anonymous
  let w := w.putBytes (.contextTag 1) p.pA
  let w ← w.endContainer
  pure w.out

/-- `Pake2.Encode`. -/
def Pake2.encode (p : Pake2) : Except TlvError (List UInt8) := do
  let w := newWriter.startStructure .anonymous
  let w := w.putBytes (.contextTag 1) p.pB
  let w := w.putBytes (.contextTag 2) p.cB
  let w ← w.endContainer
  pure w.out

/-- `Pake3.Encode`. -/
def Pake3.encode (p : Pake3) : Except TlvError (List UInt8) := do
  let w := newWriter.startStructure .anonymous
  let w := w.putBytes (.contextTag 1) p.cA
  let w ← w.endContainer
  pure w.out

/-! ## Decoding -/

/-- The members of the PBKDF parameters. -/
def pbkdfParamsMember (tagNum : UInt32) (params : PBKDFParameters) (r : Reader) :
    Except CodecError (PBKDFParameters × Reader) :=
  if tagNum = 1 then do
    let (v, r) ← r.uint.mapError .tlv
    pure ({ params with iterations := v.toUInt32 }, r)
  else if tagNum = 2 then do
    let (salt, r) ← r.bytes.mapError .tlv
    pure ({ params with salt }, r)
  else pure (params, r)

/-- `decodePBKDFParams`, on the reader resting on the parameters' structure. -/
def decodePBKDFParams (r : Reader) : Except CodecError (PBKDFParameters × Reader) := do
  if r.elemType ≠ .struct then throw .invalidMessage
  let r ← r.enterContainer.mapError .tlv
  let (params, r) ← decodeMembers pbkdfParamsMember (r.input.length + 1) ⟨0, []⟩ r
  let r ← r.exitContainer.mapError .tlv
  pure (params, r)

/-- The members of a `PBKDFParamRequest`. -/
def pbkdfParamRequestMember (tagNum : UInt32) (p : PBKDFParamRequest) (r : Reader) :
    Except CodecError (PBKDFParamRequest × Reader) :=
  if tagNum = 1 then do
    let (random, r) ← readFixedBytes r randomSize .invalidRandom
    pure ({ p with initiatorRandom := random }, r)
  else if tagNum = 2 then do
    let (v, r) ← r.uint.mapError .tlv
    pure ({ p with initiatorSessionID := v.toUInt16 }, r)
  else if tagNum = 3 then do
    let (v, r) ← r.uint.mapError .tlv
    pure ({ p with passcodeID := v.toUInt16 }, r)
  else if tagNum = 4 then do
    let (v, r) ← r.bool.mapError .tlv
    pure ({ p with hasPBKDFParameters := v }, r)
  else if tagNum = 5 then do
    let (mrp, r) ← decodeMRPParams r
    pure ({ p with mrpParams := some mrp }, r)
  else pure (p, r)

/-- `DecodePBKDFParamRequest`: the message starts as Go's zero `PBKDFParamRequest`. -/
def decodePBKDFParamRequest (data : List UInt8) : Except CodecError PBKDFParamRequest := do
  let r ← enterMessage data
  let (p, _) ← decodeMembers pbkdfParamRequestMember (data.length + 1)
    ⟨List.replicate randomSize 0, 0, 0, false, none⟩ r
  pure p

/-- The members of a `PBKDFParamResponse`. -/
def pbkdfParamResponseMember (tagNum : UInt32) (p : PBKDFParamResponse) (r : Reader) :
    Except CodecError (PBKDFParamResponse × Reader) :=
  if tagNum = 1 then do
    let (random, r) ← readFixedBytes r randomSize .invalidRandom
    pure ({ p with initiatorRandom := random }, r)
  else if tagNum = 2 then do
    let (random, r) ← readFixedBytes r randomSize .invalidRandom
    pure ({ p with responderRandom := random }, r)
  else if tagNum = 3 then do
    let (v, r) ← r.uint.mapError .tlv
    pure ({ p with responderSessionID := v.toUInt16 }, r)
  else if tagNum = 4 then do
    let (params, r) ← decodePBKDFParams r
    pure ({ p with pbkdfParams := some params }, r)
  else if tagNum = 5 then do
    let (mrp, r) ← decodeMRPParams r
    pure ({ p with mrpParams := some mrp }, r)
  else pure (p, r)

/-- `DecodePBKDFParamResponse`: the message starts as Go's zero `PBKDFParamResponse`. -/
def decodePBKDFParamResponse (data : List UInt8) : Except CodecError PBKDFParamResponse := do
  let r ← enterMessage data
  let (p, _) ← decodeMembers pbkdfParamResponseMember (data.length + 1)
    ⟨List.replicate randomSize 0, List.replicate randomSize 0, 0, none, none⟩ r
  pure p

/-- The member of a `Pake1`. -/
def pake1Member (tagNum : UInt32) (p : Pake1) (r : Reader) : Except CodecError (Pake1 × Reader) :=
  if tagNum = 1 then do
    let (pA, r) ← r.bytes.mapError .tlv
    pure (⟨pA⟩, r)
  else pure (p, r)

/-- `DecodePake1`: `ErrInvalidMessage` without a share. -/
def decodePake1 (data : List UInt8) : Except CodecError Pake1 := do
  let r ← enterMessage data
  let (p, _) ← decodeMembers pake1Member (data.length + 1) ⟨[]⟩ r
  if p.pA.length = 0 then throw .invalidMessage
  pure p

/-- The members of a `Pake2`. -/
def pake2Member (tagNum : UInt32) (p : Pake2) (r : Reader) : Except CodecError (Pake2 × Reader) :=
  if tagNum = 1 then do
    let (pB, r) ← r.bytes.mapError .tlv
    pure ({ p with pB }, r)
  else if tagNum = 2 then do
    let (cB, r) ← r.bytes.mapError .tlv
    pure ({ p with cB }, r)
  else pure (p, r)

/-- `DecodePake2`: `ErrInvalidMessage` without a share or a confirmation. -/
def decodePake2 (data : List UInt8) : Except CodecError Pake2 := do
  let r ← enterMessage data
  let (p, _) ← decodeMembers pake2Member (data.length + 1) ⟨[], []⟩ r
  if p.pB.length = 0 ∨ p.cB.length = 0 then throw .invalidMessage
  pure p

/-- The member of a `Pake3`. -/
def pake3Member (tagNum : UInt32) (p : Pake3) (r : Reader) : Except CodecError (Pake3 × Reader) :=
  if tagNum = 1 then do
    let (cA, r) ← r.bytes.mapError .tlv
    pure (⟨cA⟩, r)
  else pure (p, r)

/-- `DecodePake3`: `ErrInvalidMessage` without a confirmation. -/
def decodePake3 (data : List UInt8) : Except CodecError Pake3 := do
  let r ← enterMessage data
  let (p, _) ← decodeMembers pake3Member (data.length + 1) ⟨[]⟩ r
  if p.cA.length = 0 then throw .invalidMessage
  pure p

/-! ## What the encoders write -/

/-- A passcode ID is written as a session ID is. -/
theorem putPasscodeID_eq (w : Writer) (tag : Tag) (passcodeID : UInt16) :
    putPasscodeID w tag passcodeID = .ok (w.write (sessionIDBytes tag passcodeID)) := by
  simp [putPasscodeID, sessionIDBytes, Writer.putUintWithWidth_two]

/-- The members `encodePBKDFParams` writes, each with what `pbkdfParamsMember` makes of it. -/
def pbkdfParamsItems (p : PBKDFParameters) :
    List (List UInt8 × (PBKDFParameters → PBKDFParameters)) :=
  [((Element.uint (.contextTag 1) p.iterations.toUInt64).encode,
      fun q => { q with iterations := p.iterations }),
    ((Element.bytes (.contextTag 2) p.salt).encode, fun q => { q with salt := p.salt })]

/-- The bytes `encodePBKDFParams` writes. -/
def pbkdfParamsBytes (tag : UInt8) (p : PBKDFParameters) : List UInt8 :=
  header .struct (.contextTag tag) ++ ((pbkdfParamsItems p).map Prod.fst).flatten ++
    [ElementType.endOfContainer.code]

theorem encodePBKDFParams_eq (w : Writer) (tag : UInt8) {p : PBKDFParameters} (hp : p.Sized) :
    encodePBKDFParams w tag p = .ok (w.write (pbkdfParamsBytes tag p)) := by
  have h64 : p.salt.length < 2 ^ 64 := by unfold PBKDFParameters.Sized at hp; omega
  simp only [encodePBKDFParams, Writer.putUint_eq, Writer.putBytes_eq _ _ h64, Writer.write_write,
    Writer.startStructure, Writer.startContainer_endContainer, pbkdfParamsBytes, pbkdfParamsItems]
  simp

/-- The members `PBKDFParamRequest.Encode` writes, each with what the decoder's loop makes of
it. -/
def PBKDFParamRequest.items (m : PBKDFParamRequest) :
    List (List UInt8 × (PBKDFParamRequest → PBKDFParamRequest)) :=
  [((Element.bytes (.contextTag 1) m.initiatorRandom).encode,
      fun d => { d with initiatorRandom := m.initiatorRandom }),
    (sessionIDBytes (.contextTag 2) m.initiatorSessionID,
      fun d => { d with initiatorSessionID := m.initiatorSessionID }),
    (sessionIDBytes (.contextTag 3) m.passcodeID, fun d => { d with passcodeID := m.passcodeID }),
    ((Element.bool (.contextTag 4) m.hasPBKDFParameters).encode,
      fun d => { d with hasPBKDFParameters := m.hasPBKDFParameters })] ++
  m.mrpParams.toList.map (fun p => (mrpBytes 5 p, fun d => { d with mrpParams := some p }))

theorem PBKDFParamRequest.encode_eq {m : PBKDFParamRequest} (hm : m.Sized) :
    m.encode = .ok (header .struct .anonymous ++ (m.items.map Prod.fst).flatten ++
      [ElementType.endOfContainer.code]) := by
  obtain ⟨random, sid, pid, has, mrp⟩ := m
  rw [← Case.encode_structure]
  cases mrp <;> simp_all [PBKDFParamRequest.encode, PBKDFParamRequest.items, PBKDFParamRequest.Sized,
    Writer.putBytes_eq, Case.putSessionID_eq, putPasscodeID_eq, Case.encodeMRPParams_eq,
    Writer.putBool, Element.encode, Writer.writeControlAndTag_eq, Writer.write_write, randomSize]

/-- The members `PBKDFParamResponse.Encode` writes, each with what the decoder's loop makes of
it. -/
def PBKDFParamResponse.items (m : PBKDFParamResponse) :
    List (List UInt8 × (PBKDFParamResponse → PBKDFParamResponse)) :=
  [((Element.bytes (.contextTag 1) m.initiatorRandom).encode,
      fun d => { d with initiatorRandom := m.initiatorRandom }),
    ((Element.bytes (.contextTag 2) m.responderRandom).encode,
      fun d => { d with responderRandom := m.responderRandom }),
    (sessionIDBytes (.contextTag 3) m.responderSessionID,
      fun d => { d with responderSessionID := m.responderSessionID })] ++
  m.pbkdfParams.toList.map (fun p => (pbkdfParamsBytes 4 p,
    fun d => { d with pbkdfParams := some p })) ++
  m.mrpParams.toList.map (fun p => (mrpBytes 5 p, fun d => { d with mrpParams := some p }))

theorem PBKDFParamResponse.encode_eq {m : PBKDFParamResponse} (hm : m.Sized) :
    m.encode = .ok (header .struct .anonymous ++ (m.items.map Prod.fst).flatten ++
      [ElementType.endOfContainer.code]) := by
  obtain ⟨irandom, rrandom, sid, params, mrp⟩ := m
  obtain ⟨hi, hr, hparams⟩ := hm
  rw [← Case.encode_structure]
  cases params with
  | none =>
    cases mrp <;> simp_all [PBKDFParamResponse.encode, PBKDFParamResponse.items,
      Writer.putBytes_eq, Case.putSessionID_eq, Case.encodeMRPParams_eq, Writer.write_write,
      randomSize]
  | some p =>
    have hp : p.Sized := hparams p rfl
    cases mrp <;> simp_all [PBKDFParamResponse.encode, PBKDFParamResponse.items,
      Writer.putBytes_eq, Case.putSessionID_eq, encodePBKDFParams_eq, Case.encodeMRPParams_eq,
      Writer.write_write, randomSize]

/-- The member `Pake1.Encode` writes. -/
def Pake1.items (m : Pake1) : List (List UInt8 × (Pake1 → Pake1)) :=
  [((Element.bytes (.contextTag 1) m.pA).encode, fun _ => m)]

theorem Pake1.encode_eq {m : Pake1} (hm : m.Sized) :
    m.encode = .ok (header .struct .anonymous ++ (m.items.map Prod.fst).flatten ++
      [ElementType.endOfContainer.code]) := by
  have h64 : m.pA.length < 2 ^ 64 := by have := hm.2; omega
  rw [← Case.encode_structure]
  simp [Pake1.encode, Pake1.items, Writer.putBytes_eq _ _ h64]

/-- The members `Pake2.Encode` writes. -/
def Pake2.items (m : Pake2) : List (List UInt8 × (Pake2 → Pake2)) :=
  [((Element.bytes (.contextTag 1) m.pB).encode, fun d => { d with pB := m.pB }),
    ((Element.bytes (.contextTag 2) m.cB).encode, fun d => { d with cB := m.cB })]

theorem Pake2.encode_eq {m : Pake2} (hm : m.Sized) :
    m.encode = .ok (header .struct .anonymous ++ (m.items.map Prod.fst).flatten ++
      [ElementType.endOfContainer.code]) := by
  obtain ⟨-, hpB, -, hcB⟩ := hm
  have hpB64 : m.pB.length < 2 ^ 64 := by omega
  have hcB64 : m.cB.length < 2 ^ 64 := by omega
  rw [← Case.encode_structure]
  simp [Pake2.encode, Pake2.items, Writer.putBytes_eq _ _ hpB64, Writer.putBytes_eq _ _ hcB64,
    Writer.write_write]

/-- The member `Pake3.Encode` writes. -/
def Pake3.items (m : Pake3) : List (List UInt8 × (Pake3 → Pake3)) :=
  [((Element.bytes (.contextTag 1) m.cA).encode, fun _ => m)]

theorem Pake3.encode_eq {m : Pake3} (hm : m.Sized) :
    m.encode = .ok (header .struct .anonymous ++ (m.items.map Prod.fst).flatten ++
      [ElementType.endOfContainer.code]) := by
  have h64 : m.cA.length < 2 ^ 64 := by have := hm.2; omega
  rw [← Case.encode_structure]
  simp [Pake3.encode, Pake3.items, Writer.putBytes_eq _ _ h64]

/-! ## What the decoders read back -/

section Members

variable {σ : Type} {member : UInt32 → σ → Reader → Except CodecError (σ × Reader)}
  {n : UInt8} {f : σ → σ}

/-- A boolean member, read with `Bool`. -/
theorem readsMember_bool {v : Bool}
    (hmember : ∀ acc (r1 r2 : Reader), r1.bool = .ok (v, r2) →
      member n.toUInt32 acc r1 = .ok (f acc, r2)) :
    ReadsMember member (Element.bool (.contextTag n) v).encode f := by
  refine ⟨by simp [Element.encode, header], fun acc r rest hr => ?_⟩
  have he : (Element.bool (.contextTag n) v).WellFormed := .contextTag n
  obtain ⟨r1, hnext, hon, hstack⟩ := Reader.next_on he hr
  have htag : r1.tag = .contextTag n := hon.tag
  refine ⟨r1, hnext, hon.elemType ▸ Element.elementType_ne_end _, by rw [htag]; rfl,
    { r1 with valueRead := true }, ?_, ?_, hstack⟩
  · rw [show r1.tag.tagNumber = n.toUInt32 by rw [htag]; rfl]
    exact hmember acc r1 _ (Reader.bool_on hon)
  · have hin : r1.input = rest := by simpa [Element.body] using hon.input
    simpa [hin] using Reader.resumes_self (r := { r1 with valueRead := true }) (.inr (.inl rfl))

end Members

theorem pbkdfParamsItems_reads {p : PBKDFParameters} (hp : p.Sized) :
    ∀ i ∈ pbkdfParamsItems p, ReadsMember pbkdfParamsMember i.1 i.2 := by
  simp only [pbkdfParamsItems, List.forall_mem_cons, List.not_mem_nil, IsEmpty.forall_iff,
    implies_true, and_true]
  exact ⟨Case.readsMember_uint fun acc r1 r2 h => by simp [pbkdfParamsMember, h],
    Case.readsMember_bytes hp fun acc r1 r2 h => by simp [pbkdfParamsMember, h]⟩

/-- `decodePBKDFParams` reads back the structure `encodePBKDFParams` wrote, and leaves the reader
after its end marker. -/
theorem decodePBKDFParams_atHeader {r : Reader} {tag : Tag} {p : PBKDFParameters} (hp : p.Sized)
    {rest : List UInt8} (hr : r.AtHeader .struct tag [] (((pbkdfParamsItems p).map Prod.fst).flatten ++
      ElementType.endOfContainer.code :: rest)) :
    ∃ r', decodePBKDFParams r = .ok (p, r') ∧ r'.Resumes rest ∧
      r'.containerStack = r.containerStack := by
  have henter := Reader.enterContainer_atHeader hr (by decide)
  set re : Reader := { r with containerStack := r.containerStack ++ [.struct],
                              hasElement := false, valueRead := true }
  have hin : re.input =
      ((pbkdfParamsItems p).map Prod.fst).flatten ++ ElementType.endOfContainer.code :: rest :=
    hr.input
  have hre : re.Resumes re.input := Reader.resumes_self (.inl rfl)
  rw [hin] at hre
  have hfuel : (pbkdfParamsItems p).length < re.input.length + 1 := by
    have := Case.length_le_length_flatten (pbkdfParamsItems_reads hp)
    rw [hin, List.length_append, List.length_cons]
    omega
  obtain ⟨r', hloop, hel, hend, hin', hstack⟩ :=
    Case.decodeMembers_reads (pbkdfParamsItems p) (pbkdfParamsItems_reads hp) ⟨0, []⟩ hfuel hre
  have hexit := Reader.exitContainer_at_end (by simp [hstack, re]) hel hend
  refine ⟨{ r' with containerStack := r'.containerStack.dropLast, hasElement := false }, ?_, ?_,
    by simp [hstack, re]⟩
  · simp [decodePBKDFParams, hr.elemType, henter, hloop, hexit, pbkdfParamsItems]
  · simpa [hin'] using Reader.resumes_self
      (r := { r' with containerStack := r'.containerStack.dropLast, hasElement := false }) (.inl rfl)

/-- A member holding PBKDF parameters, read with `decodePBKDFParams`. -/
theorem readsMember_pbkdfParams {σ : Type}
    {member : UInt32 → σ → Reader → Except CodecError (σ × Reader)}
    {n : UInt8} {f : σ → σ} {p : PBKDFParameters} (hp : p.Sized)
    (hmember : ∀ acc (r1 r2 : Reader), decodePBKDFParams r1 = .ok (p, r2) →
      member n.toUInt32 acc r1 = .ok (f acc, r2)) :
    ReadsMember member (pbkdfParamsBytes n p) f := by
  refine ⟨by simp [pbkdfParamsBytes, header], fun acc r rest hr => ?_⟩
  obtain ⟨r1, hnext, hat, hstack⟩ := Reader.next_header (t := .struct) (by decide)
    (.other (by decide) (by decide) rfl) (.contextTag n)
    (by simpa [pbkdfParamsBytes, List.append_assoc] using hr)
  obtain ⟨r2, hdec, hres, hstack2⟩ := decodePBKDFParams_atHeader hp hat
  refine ⟨r1, hnext, by rw [hat.elemType]; decide, by rw [hat.tag]; rfl, r2, ?_, hres,
    hstack2.trans hstack⟩
  rw [show r1.tag.tagNumber = n.toUInt32 by rw [hat.tag]; rfl]
  exact hmember acc r1 r2 hdec

theorem PBKDFParamRequest.items_read {m : PBKDFParamRequest} (hm : m.Sized) :
    ∀ i ∈ m.items, ReadsMember pbkdfParamRequestMember i.1 i.2 := by
  obtain ⟨random, sid, pid, has, mrp⟩ := m
  simp only [PBKDFParamRequest.items, List.forall_mem_append, List.forall_mem_cons,
    List.forall_mem_map, Option.mem_toList, List.not_mem_nil, IsEmpty.forall_iff, implies_true,
    and_true, and_assoc]
  refine ⟨Case.readsMember_bytes (by simp_all [PBKDFParamRequest.Sized, randomSize])
      fun acc r1 r2 h => ?_, Case.readsMember_sessionID fun acc r1 r2 h => ?_,
    Case.readsMember_sessionID fun acc r1 r2 h => ?_, readsMember_bool fun acc r1 r2 h => ?_, ?_⟩
  · simp_all [PBKDFParamRequest.Sized, pbkdfParamRequestMember, readFixedBytes]
  · simp [pbkdfParamRequestMember, h]
  · simp [pbkdfParamRequestMember, h]
  · simp [pbkdfParamRequestMember, h]
  · rintro p rfl
    exact Case.readsMember_mrp fun acc r1 r2 h => by simp [pbkdfParamRequestMember, h]

theorem PBKDFParamResponse.items_read {m : PBKDFParamResponse} (hm : m.Sized) :
    ∀ i ∈ m.items, ReadsMember pbkdfParamResponseMember i.1 i.2 := by
  obtain ⟨irandom, rrandom, sid, params, mrp⟩ := m
  obtain ⟨hi, hr, hparams⟩ := hm
  simp only [PBKDFParamResponse.items, List.forall_mem_append, List.forall_mem_cons,
    List.forall_mem_map, Option.mem_toList, List.not_mem_nil, IsEmpty.forall_iff, implies_true,
    and_true, and_assoc]
  refine ⟨Case.readsMember_bytes (by simp_all [randomSize]) fun acc r1 r2 h => ?_,
    Case.readsMember_bytes (by simp_all [randomSize]) fun acc r1 r2 h => ?_,
    Case.readsMember_sessionID fun acc r1 r2 h => ?_, ?_, ?_⟩
  · simp_all [pbkdfParamResponseMember, readFixedBytes]
  · simp_all [pbkdfParamResponseMember, readFixedBytes]
  · simp [pbkdfParamResponseMember, h]
  · rintro p rfl
    exact readsMember_pbkdfParams (hparams p rfl) fun acc r1 r2 h => by
      simp [pbkdfParamResponseMember, h]
  · rintro p rfl
    exact Case.readsMember_mrp fun acc r1 r2 h => by simp [pbkdfParamResponseMember, h]

/-! ## The round trips -/

/-- **A `PBKDFParamRequest` round trips.** -/
theorem PBKDFParamRequest.roundTrip {m : PBKDFParamRequest} (hm : m.Sized) :
    ∃ b, m.encode = .ok b ∧ decodePBKDFParamRequest b = .ok m := by
  refine ⟨_, PBKDFParamRequest.encode_eq hm, ?_⟩
  obtain ⟨r, r', henter, hloop⟩ := Case.decodeMembers_message (PBKDFParamRequest.items_read hm)
    ⟨List.replicate randomSize 0, 0, 0, false, none⟩
  simp only [decodePBKDFParamRequest, henter, hloop, Except.ok_bind]
  obtain ⟨random, sid, pid, has, mrp⟩ := m
  cases mrp <;> simp [PBKDFParamRequest.items]

/-- **A `PBKDFParamResponse` round trips.** -/
theorem PBKDFParamResponse.roundTrip {m : PBKDFParamResponse} (hm : m.Sized) :
    ∃ b, m.encode = .ok b ∧ decodePBKDFParamResponse b = .ok m := by
  refine ⟨_, PBKDFParamResponse.encode_eq hm, ?_⟩
  obtain ⟨r, r', henter, hloop⟩ := Case.decodeMembers_message (PBKDFParamResponse.items_read hm)
    ⟨List.replicate randomSize 0, List.replicate randomSize 0, 0, none, none⟩
  simp only [decodePBKDFParamResponse, henter, hloop, Except.ok_bind]
  obtain ⟨irandom, rrandom, sid, params, mrp⟩ := m
  cases params <;> cases mrp <;> simp [PBKDFParamResponse.items]

/-- **A `Pake1` round trips.** -/
theorem Pake1.roundTrip {m : Pake1} (hm : m.Sized) :
    ∃ b, m.encode = .ok b ∧ decodePake1 b = .ok m := by
  have hread : ∀ i ∈ m.items, ReadsMember pake1Member i.1 i.2 := by
    simp only [Pake1.items, List.forall_mem_cons, List.not_mem_nil, IsEmpty.forall_iff,
      implies_true, and_true]
    exact Case.readsMember_bytes hm.2 fun acc r1 r2 h => by simp [pake1Member, h]
  refine ⟨_, Pake1.encode_eq hm, ?_⟩
  obtain ⟨r, r', henter, hloop⟩ := Case.decodeMembers_message hread ⟨[]⟩
  simp only [decodePake1, henter, hloop, Except.ok_bind]
  simp [Pake1.items, hm.1]

/-- **A `Pake2` round trips.** -/
theorem Pake2.roundTrip {m : Pake2} (hm : m.Sized) :
    ∃ b, m.encode = .ok b ∧ decodePake2 b = .ok m := by
  obtain ⟨hpB, hpB63, hcB, hcB63⟩ := hm
  have hread : ∀ i ∈ m.items, ReadsMember pake2Member i.1 i.2 := by
    simp only [Pake2.items, List.forall_mem_cons, List.not_mem_nil, IsEmpty.forall_iff,
      implies_true, and_true]
    exact ⟨Case.readsMember_bytes hpB63 fun acc r1 r2 h => by simp [pake2Member, h],
      Case.readsMember_bytes hcB63 fun acc r1 r2 h => by simp [pake2Member, h]⟩
  refine ⟨_, Pake2.encode_eq ⟨hpB, hpB63, hcB, hcB63⟩, ?_⟩
  obtain ⟨r, r', henter, hloop⟩ := Case.decodeMembers_message hread ⟨[], []⟩
  simp only [decodePake2, henter, hloop, Except.ok_bind]
  simp [Pake2.items, hpB, hcB]

/-- **A `Pake3` round trips.** -/
theorem Pake3.roundTrip {m : Pake3} (hm : m.Sized) :
    ∃ b, m.encode = .ok b ∧ decodePake3 b = .ok m := by
  have hread : ∀ i ∈ m.items, ReadsMember pake3Member i.1 i.2 := by
    simp only [Pake3.items, List.forall_mem_cons, List.not_mem_nil, IsEmpty.forall_iff,
      implies_true, and_true]
    exact Case.readsMember_bytes hm.2 fun acc r1 r2 h => by simp [pake3Member, h]
  refine ⟨_, Pake3.encode_eq hm, ?_⟩
  obtain ⟨r, r', henter, hloop⟩ := Case.decodeMembers_message hread ⟨[]⟩
  simp only [decodePake3, henter, hloop, Except.ok_bind]
  simp [Pake3.items, hm.1]

end Matter.Pase
