import Matter.Case.Messages
import Matter.Tlv.RoundTrip

/-!
# The TLV codec of the CASE messages (`case/messages.go`)

Every message is an anonymous TLV structure of context-tagged members. `Encode` writes them with
the TLV writer: octet strings, session IDs as two-byte unsigned integers (`PutSessionID`), and
the MRP parameters as a nested structure of their non-zero fields. Every `Decode` function runs
the same loop over the members of the structure (`decodeMembers`): `Next` until `io.EOF` or an
end marker, skipping a member without a context tag, and handing the others to the message's
member function by tag number, which ignores the numbers it does not know. It then checks that
every required member was seen.

`Next` skips the bytes of a string whose value was not read, but not the members of a container
that was not entered: the loop then takes the members of an unknown container for members of
the message, and its end marker for the message's.

Results:
* `decodeMembers_reads`: the loop reads back any list of members, each one a `ReadsMember`, and
  stops on the end marker; `readsMember_bytes`, `readsMember_uint`, `readsMember_sessionID` and
  `readsMember_mrp` are the kinds of member the messages have.
* `tlvCodec_roundTrip`: every message with its declared sizes is encoded, and its encoding
  decodes back to it; `tlvCodec` is a `MessageCodec` the handshake theorems apply to.
* `decodeMembers_unknown_container`, `sigma1_unknown_member_breaks_decode`: an empty container
  under an unknown tag ends the loop at its own end marker, so with one inserted before its
  members the encoding of a `Sigma1` no longer decodes.
-/

namespace Matter.Case

open Tlv

/-- The errors of the decoders: `ErrInvalidMessage`, `ErrInvalidRandom`, and the reader's. -/
inductive CodecError
  | tlv (e : TlvError)
  | invalidMessage
  | invalidRandom
  deriving DecidableEq, Repr

/-! ## Writing the members -/

/-- `messages.PutSessionID`: a session ID always as a two-byte unsigned integer. -/
def putSessionID (w : Writer) (tag : Tag) (sessionID : UInt16) : Except TlvError Writer :=
  w.putUintWithWidth tag sessionID.toUInt64 2

/-- `encodeMRPParams`: a structure of the non-zero parameters. -/
def encodeMRPParams (w : Writer) (tag : UInt8) (params : MRPParameters) :
    Except TlvError Writer :=
  let w := w.startStructure (.contextTag tag)
  let w := if params.idleRetransTimeout ≠ 0 then
    w.putUint (.contextTag 1) params.idleRetransTimeout.toUInt64 else w
  let w := if params.activeRetransTimeout ≠ 0 then
    w.putUint (.contextTag 2) params.activeRetransTimeout.toUInt64 else w
  let w := if params.activeThreshold ≠ 0 then
    w.putUint (.contextTag 4) params.activeThreshold.toUInt64 else w
  w.endContainer

/-- `Sigma1.Encode`. -/
def Sigma1.encode (s : Sigma1) : Except TlvError (List UInt8) := do
  let w := newWriter.startStructure .anonymous
  let w := w.putBytes (.contextTag 1) s.initiatorRandom
  let w ← putSessionID w (.contextTag 2) s.initiatorSessionID
  let w := w.putBytes (.contextTag 3) s.destinationID
  let w := w.putBytes (.contextTag 4) s.initiatorEphPubKey
  let w ← match s.mrpParams with
    | some params => encodeMRPParams w 5 params
    | none => pure w
  let w := match s.resumptionID with
    | some resumptionID => w.putBytes (.contextTag 6) resumptionID
    | none => w
  let w := match s.initiatorResumeMIC with
    | some mic => w.putBytes (.contextTag 7) mic
    | none => w
  let w ← w.endContainer
  pure w.out

/-- `Sigma2.Encode`. -/
def Sigma2.encode (s : Sigma2) : Except TlvError (List UInt8) := do
  let w := newWriter.startStructure .anonymous
  let w := w.putBytes (.contextTag 1) s.responderRandom
  let w ← putSessionID w (.contextTag 2) s.responderSessionID
  let w := w.putBytes (.contextTag 3) s.responderEphPubKey
  let w := w.putBytes (.contextTag 4) s.encrypted2
  let w ← match s.mrpParams with
    | some params => encodeMRPParams w 5 params
    | none => pure w
  let w ← w.endContainer
  pure w.out

/-- `TBEData2.Encode`: the ICAC only when non-empty. -/
def TBEData2.encode (t : TBEData2) : Except TlvError (List UInt8) := do
  let w := newWriter.startStructure .anonymous
  let w := w.putBytes (.contextTag 1) t.responderNOC
  let w := if t.responderICAC.length > 0 then w.putBytes (.contextTag 2) t.responderICAC else w
  let w := w.putBytes (.contextTag 3) t.signature
  let w := w.putBytes (.contextTag 4) t.resumptionID
  let w ← w.endContainer
  pure w.out

/-- `TBSData2.Encode`: the ICAC only when non-empty. -/
def TBSData2.encode (t : TBSData2) : Except TlvError (List UInt8) := do
  let w := newWriter.startStructure .anonymous
  let w := w.putBytes (.contextTag 1) t.responderNOC
  let w := if t.responderICAC.length > 0 then w.putBytes (.contextTag 2) t.responderICAC else w
  let w := w.putBytes (.contextTag 3) t.responderEphPubKey
  let w := w.putBytes (.contextTag 4) t.initiatorEphPubKey
  let w ← w.endContainer
  pure w.out

/-- `Sigma3.Encode`. -/
def Sigma3.encode (s : Sigma3) : Except TlvError (List UInt8) := do
  let w := newWriter.startStructure .anonymous
  let w := w.putBytes (.contextTag 1) s.encrypted3
  let w ← w.endContainer
  pure w.out

/-- `TBEData3.Encode`: the ICAC only when non-empty. -/
def TBEData3.encode (t : TBEData3) : Except TlvError (List UInt8) := do
  let w := newWriter.startStructure .anonymous
  let w := w.putBytes (.contextTag 1) t.initiatorNOC
  let w := if t.initiatorICAC.length > 0 then w.putBytes (.contextTag 2) t.initiatorICAC else w
  let w := w.putBytes (.contextTag 3) t.signature
  let w ← w.endContainer
  pure w.out

/-- `TBSData3.Encode`: the ICAC only when non-empty. -/
def TBSData3.encode (t : TBSData3) : Except TlvError (List UInt8) := do
  let w := newWriter.startStructure .anonymous
  let w := w.putBytes (.contextTag 1) t.initiatorNOC
  let w := if t.initiatorICAC.length > 0 then w.putBytes (.contextTag 2) t.initiatorICAC else w
  let w := w.putBytes (.contextTag 3) t.initiatorEphPubKey
  let w := w.putBytes (.contextTag 4) t.responderEphPubKey
  let w ← w.endContainer
  pure w.out

/-- `Sigma2Resume.Encode`. -/
def Sigma2Resume.encode (s : Sigma2Resume) : Except TlvError (List UInt8) := do
  let w := newWriter.startStructure .anonymous
  let w := w.putBytes (.contextTag 1) s.resumptionID
  let w := w.putBytes (.contextTag 2) s.resume2MIC
  let w ← putSessionID w (.contextTag 3) s.responderSessionID
  let w ← match s.mrpParams with
    | some params => encodeMRPParams w 4 params
    | none => pure w
  let w ← w.endContainer
  pure w.out

/-! ## Reading the members -/

/-- The loop of every decoder, inside the message's structure: `Next` until `io.EOF` or an end
marker, skipping members without a context tag, and handing the others to `member` with their
tag number. Every turn reads a byte, so one turn more than there are bytes is enough fuel. -/
def decodeMembers {σ : Type} (member : UInt32 → σ → Reader → Except CodecError (σ × Reader)) :
    Nat → σ → Reader → Except CodecError (σ × Reader)
  | 0, _, _ => .error (.tlv .eof)
  | fuel + 1, acc, r =>
    match r.next with
    | .error .eof => .ok (acc, r)
    | .error e => .error (.tlv e)
    | .ok r =>
      if r.elemType = .endOfContainer then .ok (acc, r)
      else if !r.tag.isContext then decodeMembers member fuel acc r
      else do
        let (acc, r) ← member r.tag.tagNumber acc r
        decodeMembers member fuel acc r

/-- `r.Bytes()`, with the length check of a fixed-size field: `err` unless it has `size` bytes. -/
def readFixedBytes (r : Reader) (size : Nat) (err : CodecError) :
    Except CodecError (List UInt8 × Reader) := do
  let (v, r) ← r.bytes.mapError .tlv
  if v.length ≠ size then throw err
  pure (v, r)

/-- The members of the MRP parameters. -/
def mrpMember (tagNum : UInt32) (params : MRPParameters) (r : Reader) :
    Except CodecError (MRPParameters × Reader) :=
  if tagNum = 1 then do
    let (v, r) ← r.uint.mapError .tlv
    pure ({ params with idleRetransTimeout := v.toUInt32 }, r)
  else if tagNum = 2 then do
    let (v, r) ← r.uint.mapError .tlv
    pure ({ params with activeRetransTimeout := v.toUInt32 }, r)
  else if tagNum = 4 then do
    let (v, r) ← r.uint.mapError .tlv
    pure ({ params with activeThreshold := v.toUInt16 }, r)
  else pure (params, r)

/-- `decodeMRPParams`, on the reader resting on the parameters' structure. -/
def decodeMRPParams (r : Reader) : Except CodecError (MRPParameters × Reader) := do
  if r.elemType ≠ .struct then throw .invalidMessage
  let r ← r.enterContainer.mapError .tlv
  let (params, r) ← decodeMembers mrpMember (r.input.length + 1) ⟨0, 0, 0⟩ r
  let r ← r.exitContainer.mapError .tlv
  pure (params, r)

/-- What every decoder does first: `Next`, a structure, `EnterContainer`. -/
def enterMessage (data : List UInt8) : Except CodecError Reader := do
  let r ← (newReader data).next.mapError .tlv
  if r.elemType ≠ .struct then throw .invalidMessage
  r.enterContainer.mapError .tlv

/-- The state of `DecodeSigma1`'s loop. -/
structure Sigma1Decoding where
  msg : Sigma1
  hasInitiatorRandom : Bool
  hasSessionID : Bool
  hasDestinationID : Bool
  hasEphPubKey : Bool

/-- The members of a `Sigma1`. -/
def sigma1Member (tagNum : UInt32) (d : Sigma1Decoding) (r : Reader) :
    Except CodecError (Sigma1Decoding × Reader) :=
  if tagNum = 1 then do
    let (random, r) ← readFixedBytes r randomSize .invalidRandom
    pure ({ d with msg.initiatorRandom := random, hasInitiatorRandom := true }, r)
  else if tagNum = 2 then do
    let (v, r) ← r.uint.mapError .tlv
    pure ({ d with msg.initiatorSessionID := v.toUInt16, hasSessionID := true }, r)
  else if tagNum = 3 then do
    let (destID, r) ← readFixedBytes r destinationIDSize .invalidMessage
    pure ({ d with msg.destinationID := destID, hasDestinationID := true }, r)
  else if tagNum = 4 then do
    let (pubKey, r) ← readFixedBytes r 65 .invalidMessage
    pure ({ d with msg.initiatorEphPubKey := pubKey, hasEphPubKey := true }, r)
  else if tagNum = 5 then do
    let (mrp, r) ← decodeMRPParams r
    pure ({ d with msg.mrpParams := some mrp }, r)
  else if tagNum = 6 then do
    let (resumptionID, r) ← readFixedBytes r resumptionIDSize .invalidMessage
    pure ({ d with msg.resumptionID := some resumptionID }, r)
  else if tagNum = 7 then do
    let (mic, r) ← readFixedBytes r micSize .invalidMessage
    pure ({ d with msg.initiatorResumeMIC := some mic }, r)
  else pure (d, r)

/-- `DecodeSigma1`: the message starts as Go's zero `Sigma1`. -/
def decodeSigma1 (data : List UInt8) : Except CodecError Sigma1 := do
  let r ← enterMessage data
  let zero : Sigma1 := ⟨List.replicate randomSize 0, 0, List.replicate destinationIDSize 0,
    List.replicate 65 0, none, none, none⟩
  let (d, _) ← decodeMembers sigma1Member (data.length + 1) ⟨zero, false, false, false, false⟩ r
  if !d.hasInitiatorRandom || !d.hasSessionID || !d.hasDestinationID || !d.hasEphPubKey then
    throw .invalidMessage
  pure d.msg

/-- The state of `DecodeSigma2`'s loop. -/
structure Sigma2Decoding where
  msg : Sigma2
  hasResponderRandom : Bool
  hasSessionID : Bool
  hasEphPubKey : Bool
  hasEncrypted2 : Bool

/-- The members of a `Sigma2`. -/
def sigma2Member (tagNum : UInt32) (d : Sigma2Decoding) (r : Reader) :
    Except CodecError (Sigma2Decoding × Reader) :=
  if tagNum = 1 then do
    let (random, r) ← readFixedBytes r randomSize .invalidRandom
    pure ({ d with msg.responderRandom := random, hasResponderRandom := true }, r)
  else if tagNum = 2 then do
    let (v, r) ← r.uint.mapError .tlv
    pure ({ d with msg.responderSessionID := v.toUInt16, hasSessionID := true }, r)
  else if tagNum = 3 then do
    let (pubKey, r) ← readFixedBytes r 65 .invalidMessage
    pure ({ d with msg.responderEphPubKey := pubKey, hasEphPubKey := true }, r)
  else if tagNum = 4 then do
    let (encrypted, r) ← r.bytes.mapError .tlv
    pure ({ d with msg.encrypted2 := encrypted, hasEncrypted2 := true }, r)
  else if tagNum = 5 then do
    let (mrp, r) ← decodeMRPParams r
    pure ({ d with msg.mrpParams := some mrp }, r)
  else pure (d, r)

/-- `DecodeSigma2`. -/
def decodeSigma2 (data : List UInt8) : Except CodecError Sigma2 := do
  let r ← enterMessage data
  let zero : Sigma2 := ⟨List.replicate randomSize 0, 0, List.replicate 65 0, [], none⟩
  let (d, _) ← decodeMembers sigma2Member (data.length + 1) ⟨zero, false, false, false, false⟩ r
  if !d.hasResponderRandom || !d.hasSessionID || !d.hasEphPubKey || !d.hasEncrypted2 then
    throw .invalidMessage
  pure d.msg

/-- The state of `DecodeTBEData2`'s loop. -/
structure TBEData2Decoding where
  msg : TBEData2
  hasNOC : Bool
  hasSignature : Bool
  hasResumptionID : Bool

/-- The members of a `TBEData2`. -/
def tbeData2Member (tagNum : UInt32) (d : TBEData2Decoding) (r : Reader) :
    Except CodecError (TBEData2Decoding × Reader) :=
  if tagNum = 1 then do
    let (noc, r) ← r.bytes.mapError .tlv
    pure ({ d with msg.responderNOC := noc, hasNOC := true }, r)
  else if tagNum = 2 then do
    let (icac, r) ← r.bytes.mapError .tlv
    pure ({ d with msg.responderICAC := icac }, r)
  else if tagNum = 3 then do
    let (sig, r) ← readFixedBytes r 64 .invalidMessage
    pure ({ d with msg.signature := sig, hasSignature := true }, r)
  else if tagNum = 4 then do
    let (resumptionID, r) ← readFixedBytes r resumptionIDSize .invalidMessage
    pure ({ d with msg.resumptionID := resumptionID, hasResumptionID := true }, r)
  else pure (d, r)

/-- `DecodeTBEData2`. -/
def decodeTBEData2 (data : List UInt8) : Except CodecError TBEData2 := do
  let r ← enterMessage data
  let zero : TBEData2 := ⟨[], [], List.replicate 64 0, List.replicate resumptionIDSize 0⟩
  let (d, _) ← decodeMembers tbeData2Member (data.length + 1) ⟨zero, false, false, false⟩ r
  if !d.hasNOC || !d.hasSignature || !d.hasResumptionID then throw .invalidMessage
  pure d.msg

/-- The members of a `Sigma3`: `DecodeSigma3` tests for a context tag and tag number 1 in one
condition, which skips the same members as the loop's `continue`. -/
def sigma3Member (tagNum : UInt32) (d : Sigma3 × Bool) (r : Reader) :
    Except CodecError ((Sigma3 × Bool) × Reader) :=
  if tagNum = 1 then do
    let (encrypted, r) ← r.bytes.mapError .tlv
    pure ((⟨encrypted⟩, true), r)
  else pure (d, r)

/-- `DecodeSigma3`. -/
def decodeSigma3 (data : List UInt8) : Except CodecError Sigma3 := do
  let r ← enterMessage data
  let (d, _) ← decodeMembers sigma3Member (data.length + 1) (⟨[]⟩, false) r
  if !d.2 then throw .invalidMessage
  pure d.1

/-- The state of `DecodeTBEData3`'s loop. -/
structure TBEData3Decoding where
  msg : TBEData3
  hasNOC : Bool
  hasSignature : Bool

/-- The members of a `TBEData3`. -/
def tbeData3Member (tagNum : UInt32) (d : TBEData3Decoding) (r : Reader) :
    Except CodecError (TBEData3Decoding × Reader) :=
  if tagNum = 1 then do
    let (noc, r) ← r.bytes.mapError .tlv
    pure ({ d with msg.initiatorNOC := noc, hasNOC := true }, r)
  else if tagNum = 2 then do
    let (icac, r) ← r.bytes.mapError .tlv
    pure ({ d with msg.initiatorICAC := icac }, r)
  else if tagNum = 3 then do
    let (sig, r) ← readFixedBytes r 64 .invalidMessage
    pure ({ d with msg.signature := sig, hasSignature := true }, r)
  else pure (d, r)

/-- `DecodeTBEData3`. -/
def decodeTBEData3 (data : List UInt8) : Except CodecError TBEData3 := do
  let r ← enterMessage data
  let zero : TBEData3 := ⟨[], [], List.replicate 64 0⟩
  let (d, _) ← decodeMembers tbeData3Member (data.length + 1) ⟨zero, false, false⟩ r
  if !d.hasNOC || !d.hasSignature then throw .invalidMessage
  pure d.msg

/-- The state of `DecodeSigma2Resume`'s loop. -/
structure Sigma2ResumeDecoding where
  msg : Sigma2Resume
  hasResumptionID : Bool
  hasMIC : Bool
  hasSessionID : Bool

/-- The members of a `Sigma2Resume`. -/
def sigma2ResumeMember (tagNum : UInt32) (d : Sigma2ResumeDecoding) (r : Reader) :
    Except CodecError (Sigma2ResumeDecoding × Reader) :=
  if tagNum = 1 then do
    let (resumptionID, r) ← readFixedBytes r resumptionIDSize .invalidMessage
    pure ({ d with msg.resumptionID := resumptionID, hasResumptionID := true }, r)
  else if tagNum = 2 then do
    let (mic, r) ← readFixedBytes r micSize .invalidMessage
    pure ({ d with msg.resume2MIC := mic, hasMIC := true }, r)
  else if tagNum = 3 then do
    let (v, r) ← r.uint.mapError .tlv
    pure ({ d with msg.responderSessionID := v.toUInt16, hasSessionID := true }, r)
  else if tagNum = 4 then do
    let (mrp, r) ← decodeMRPParams r
    pure ({ d with msg.mrpParams := some mrp }, r)
  else pure (d, r)

/-- `DecodeSigma2Resume`. -/
def decodeSigma2Resume (data : List UInt8) : Except CodecError Sigma2Resume := do
  let r ← enterMessage data
  let zero : Sigma2Resume :=
    ⟨List.replicate resumptionIDSize 0, List.replicate micSize 0, 0, none⟩
  let (d, _) ← decodeMembers sigma2ResumeMember (data.length + 1) ⟨zero, false, false, false⟩ r
  if !d.hasResumptionID || !d.hasMIC || !d.hasSessionID then throw .invalidMessage
  pure d.msg

/-- The codec of `messages.go`, as the session calls it: `none` for an error. -/
def tlvCodec : MessageCodec where
  encodeSigma1 m := m.encode.toOption
  decodeSigma1 b := (decodeSigma1 b).toOption
  encodeSigma2 m := m.encode.toOption
  decodeSigma2 b := (decodeSigma2 b).toOption
  encodeTBEData2 m := m.encode.toOption
  decodeTBEData2 b := (decodeTBEData2 b).toOption
  encodeTBSData2 m := m.encode.toOption
  encodeSigma3 m := m.encode.toOption
  decodeSigma3 b := (decodeSigma3 b).toOption
  encodeTBEData3 m := m.encode.toOption
  decodeTBEData3 b := (decodeTBEData3 b).toOption
  encodeTBSData3 m := m.encode.toOption
  encodeSigma2Resume m := m.encode.toOption
  decodeSigma2Resume b := (decodeSigma2Resume b).toOption

/-! ## What the encoders write -/

/-- What every encoder ends with: the message's structure closed, and the buffer's bytes. -/
theorem encode_structure (body : List UInt8) :
    (do let w ← ((newWriter.startStructure .anonymous).write body).endContainer; pure w.out) =
      (.ok (header .struct .anonymous ++ body ++ [ElementType.endOfContainer.code]) :
        Except TlvError (List UInt8)) := by
  simp [Writer.startStructure, Writer.startContainer_endContainer, newWriter]

/-- The bytes `putSessionID` writes. -/
def sessionIDBytes (tag : Tag) (sessionID : UInt16) : List UInt8 :=
  header .uInt16 tag ++ Bytes.toLE 2 sessionID.toNat

theorem putSessionID_eq (w : Writer) (tag : Tag) (sessionID : UInt16) :
    putSessionID w tag sessionID = .ok (w.write (sessionIDBytes tag sessionID)) := by
  simp [putSessionID, sessionIDBytes, Writer.putUintWithWidth_two]

/-- The members `encodeMRPParams` writes, the non-zero parameters as unsigned integers, each
with what `mrpMember` makes of it. -/
def mrpItems (p : MRPParameters) : List (List UInt8 × (MRPParameters → MRPParameters)) :=
  (if p.idleRetransTimeout ≠ 0 then
    [((Element.uint (.contextTag 1) p.idleRetransTimeout.toUInt64).encode,
      fun q => { q with idleRetransTimeout := p.idleRetransTimeout })] else []) ++
  (if p.activeRetransTimeout ≠ 0 then
    [((Element.uint (.contextTag 2) p.activeRetransTimeout.toUInt64).encode,
      fun q => { q with activeRetransTimeout := p.activeRetransTimeout })] else []) ++
  (if p.activeThreshold ≠ 0 then
    [((Element.uint (.contextTag 4) p.activeThreshold.toUInt64).encode,
      fun q => { q with activeThreshold := p.activeThreshold })] else [])

/-- The bytes `encodeMRPParams` writes. -/
def mrpBytes (tag : UInt8) (p : MRPParameters) : List UInt8 :=
  header .struct (.contextTag tag) ++ ((mrpItems p).map Prod.fst).flatten ++
    [ElementType.endOfContainer.code]

theorem encodeMRPParams_eq (w : Writer) (tag : UInt8) (p : MRPParameters) :
    encodeMRPParams w tag p = .ok (w.write (mrpBytes tag p)) := by
  have hbody : encodeMRPParams w tag p = ((w.startStructure (.contextTag tag)).write
      ((mrpItems p).map Prod.fst).flatten).endContainer := by
    unfold encodeMRPParams mrpItems
    split_ifs <;> simp [Writer.putUint_eq, Writer.write_write]
  rw [hbody, Writer.startStructure, Writer.startContainer_endContainer, mrpBytes]

/-- The members `Sigma1.Encode` writes, each with what `DecodeSigma1`'s loop makes of it. -/
def Sigma1.items (s : Sigma1) : List (List UInt8 × (Sigma1Decoding → Sigma1Decoding)) :=
  [((Element.bytes (.contextTag 1) s.initiatorRandom).encode,
      fun d => { d with msg.initiatorRandom := s.initiatorRandom, hasInitiatorRandom := true }),
    (sessionIDBytes (.contextTag 2) s.initiatorSessionID,
      fun d => { d with msg.initiatorSessionID := s.initiatorSessionID, hasSessionID := true }),
    ((Element.bytes (.contextTag 3) s.destinationID).encode,
      fun d => { d with msg.destinationID := s.destinationID, hasDestinationID := true }),
    ((Element.bytes (.contextTag 4) s.initiatorEphPubKey).encode,
      fun d => { d with msg.initiatorEphPubKey := s.initiatorEphPubKey, hasEphPubKey := true })] ++
  s.mrpParams.toList.map (fun p => (mrpBytes 5 p, fun d => { d with msg.mrpParams := some p })) ++
  s.resumptionID.toList.map (fun resumptionID => ((Element.bytes (.contextTag 6) resumptionID).encode,
    fun d => { d with msg.resumptionID := some resumptionID })) ++
  s.initiatorResumeMIC.toList.map (fun mic => ((Element.bytes (.contextTag 7) mic).encode,
    fun d => { d with msg.initiatorResumeMIC := some mic }))

theorem Sigma1.encode_eq {s : Sigma1} (hs : s.Sized) :
    s.encode = .ok (header .struct .anonymous ++ (s.items.map Prod.fst).flatten ++
      [ElementType.endOfContainer.code]) := by
  obtain ⟨random, sid, dest, pub, mrp, rid, mic⟩ := s
  obtain ⟨hrandom, hdest, hpub, hrid, hmic⟩ := hs
  rw [← encode_structure]
  cases mrp <;> cases rid <;> cases mic <;>
    simp_all [Sigma1.encode, Sigma1.items, Writer.putBytes_eq, putSessionID_eq, encodeMRPParams_eq,
      Writer.write_write, randomSize, destinationIDSize, resumptionIDSize, micSize]

/-- The members `Sigma2.Encode` writes, each with what `DecodeSigma2`'s loop makes of it. -/
def Sigma2.items (s : Sigma2) : List (List UInt8 × (Sigma2Decoding → Sigma2Decoding)) :=
  [((Element.bytes (.contextTag 1) s.responderRandom).encode,
      fun d => { d with msg.responderRandom := s.responderRandom, hasResponderRandom := true }),
    (sessionIDBytes (.contextTag 2) s.responderSessionID,
      fun d => { d with msg.responderSessionID := s.responderSessionID, hasSessionID := true }),
    ((Element.bytes (.contextTag 3) s.responderEphPubKey).encode,
      fun d => { d with msg.responderEphPubKey := s.responderEphPubKey, hasEphPubKey := true }),
    ((Element.bytes (.contextTag 4) s.encrypted2).encode,
      fun d => { d with msg.encrypted2 := s.encrypted2, hasEncrypted2 := true })] ++
  s.mrpParams.toList.map (fun p => (mrpBytes 5 p, fun d => { d with msg.mrpParams := some p }))

theorem Sigma2.encode_eq {s : Sigma2} (hs : s.Sized) :
    s.encode = .ok (header .struct .anonymous ++ (s.items.map Prod.fst).flatten ++
      [ElementType.endOfContainer.code]) := by
  obtain ⟨random, sid, pub, enc, mrp⟩ := s
  obtain ⟨hrandom, hpub, henc⟩ := hs
  have henc64 : enc.length < 2 ^ 64 := by dsimp only at henc; omega
  rw [← encode_structure]
  cases mrp <;> simp_all [Sigma2.encode, Sigma2.items, Writer.putBytes_eq, putSessionID_eq,
    encodeMRPParams_eq, Writer.write_write, randomSize]

/-- The members `TBEData2.Encode` writes, each with what `DecodeTBEData2`'s loop makes of it. -/
def TBEData2.items (t : TBEData2) : List (List UInt8 × (TBEData2Decoding → TBEData2Decoding)) :=
  [((Element.bytes (.contextTag 1) t.responderNOC).encode,
      fun d => { d with msg.responderNOC := t.responderNOC, hasNOC := true })] ++
  (if t.responderICAC.length > 0 then
    [((Element.bytes (.contextTag 2) t.responderICAC).encode,
      fun d => { d with msg.responderICAC := t.responderICAC })] else []) ++
  [((Element.bytes (.contextTag 3) t.signature).encode,
      fun d => { d with msg.signature := t.signature, hasSignature := true }),
    ((Element.bytes (.contextTag 4) t.resumptionID).encode,
      fun d => { d with msg.resumptionID := t.resumptionID, hasResumptionID := true })]

theorem TBEData2.encode_eq {t : TBEData2} (ht : t.Sized) :
    t.encode = .ok (header .struct .anonymous ++ (t.items.map Prod.fst).flatten ++
      [ElementType.endOfContainer.code]) := by
  obtain ⟨noc, icac, sig, rid⟩ := t
  obtain ⟨hnoc, hicac, hsig, hrid⟩ := ht
  dsimp only at hnoc hicac hsig hrid
  have hnoc64 : noc.length < 2 ^ 64 := by omega
  have hicac64 : icac.length < 2 ^ 64 := by omega
  rw [← encode_structure]
  unfold TBEData2.encode TBEData2.items
  split_ifs <;> simp_all [Writer.putBytes_eq, Writer.write_write, resumptionIDSize]

/-- The member `Sigma3.Encode` writes, with what `DecodeSigma3`'s loop makes of it. -/
def Sigma3.items (s : Sigma3) : List (List UInt8 × (Sigma3 × Bool → Sigma3 × Bool)) :=
  [((Element.bytes (.contextTag 1) s.encrypted3).encode, fun _ => (s, true))]

theorem Sigma3.encode_eq {s : Sigma3} (hs : s.Sized) :
    s.encode = .ok (header .struct .anonymous ++ (s.items.map Prod.fst).flatten ++
      [ElementType.endOfContainer.code]) := by
  have h64 : s.encrypted3.length < 2 ^ 64 := by unfold Sigma3.Sized at hs; omega
  rw [← encode_structure]
  simp [Sigma3.encode, Sigma3.items, Writer.putBytes_eq _ _ h64]

/-- The members `TBEData3.Encode` writes, each with what `DecodeTBEData3`'s loop makes of it. -/
def TBEData3.items (t : TBEData3) : List (List UInt8 × (TBEData3Decoding → TBEData3Decoding)) :=
  [((Element.bytes (.contextTag 1) t.initiatorNOC).encode,
      fun d => { d with msg.initiatorNOC := t.initiatorNOC, hasNOC := true })] ++
  (if t.initiatorICAC.length > 0 then
    [((Element.bytes (.contextTag 2) t.initiatorICAC).encode,
      fun d => { d with msg.initiatorICAC := t.initiatorICAC })] else []) ++
  [((Element.bytes (.contextTag 3) t.signature).encode,
      fun d => { d with msg.signature := t.signature, hasSignature := true })]

theorem TBEData3.encode_eq {t : TBEData3} (ht : t.Sized) :
    t.encode = .ok (header .struct .anonymous ++ (t.items.map Prod.fst).flatten ++
      [ElementType.endOfContainer.code]) := by
  obtain ⟨noc, icac, sig⟩ := t
  obtain ⟨hnoc, hicac, hsig⟩ := ht
  dsimp only at hnoc hicac hsig
  have hnoc64 : noc.length < 2 ^ 64 := by omega
  have hicac64 : icac.length < 2 ^ 64 := by omega
  rw [← encode_structure]
  unfold TBEData3.encode TBEData3.items
  split_ifs <;> simp_all [Writer.putBytes_eq, Writer.write_write]

/-- The members `Sigma2Resume.Encode` writes, each with what `DecodeSigma2Resume`'s loop makes of
it. -/
def Sigma2Resume.items (s : Sigma2Resume) :
    List (List UInt8 × (Sigma2ResumeDecoding → Sigma2ResumeDecoding)) :=
  [((Element.bytes (.contextTag 1) s.resumptionID).encode,
      fun d => { d with msg.resumptionID := s.resumptionID, hasResumptionID := true }),
    ((Element.bytes (.contextTag 2) s.resume2MIC).encode,
      fun d => { d with msg.resume2MIC := s.resume2MIC, hasMIC := true }),
    (sessionIDBytes (.contextTag 3) s.responderSessionID,
      fun d => { d with msg.responderSessionID := s.responderSessionID, hasSessionID := true })] ++
  s.mrpParams.toList.map (fun p => (mrpBytes 4 p, fun d => { d with msg.mrpParams := some p }))

theorem Sigma2Resume.encode_eq {s : Sigma2Resume} (hs : s.Sized) :
    s.encode = .ok (header .struct .anonymous ++ (s.items.map Prod.fst).flatten ++
      [ElementType.endOfContainer.code]) := by
  obtain ⟨rid, mic, sid, mrp⟩ := s
  obtain ⟨hrid, hmic⟩ := hs
  rw [← encode_structure]
  cases mrp <;> simp_all [Sigma2Resume.encode, Sigma2Resume.items, Writer.putBytes_eq,
    putSessionID_eq, encodeMRPParams_eq, Writer.write_write, resumptionIDSize, micSize]

/-- `TBSData2.Encode` succeeds: `PutBytes` cannot fail and the structure is closed once. -/
theorem TBSData2.encode_ok (t : TBSData2) : ∃ b, t.encode = .ok b := by
  unfold TBSData2.encode
  split_ifs <;> simp [Writer.endContainer, Writer.startStructure, Writer.startContainer, newWriter]

/-- `TBSData3.Encode` succeeds. -/
theorem TBSData3.encode_ok (t : TBSData3) : ∃ b, t.encode = .ok b := by
  unfold TBSData3.encode
  split_ifs <;> simp [Writer.endContainer, Writer.startStructure, Writer.startContainer, newWriter]

/-! ## Reading the members back -/

/-- `member` reads the member written as `bytes` (at least its control octet) and applies `f` to
the loop's state: `Next` stops on a context-tagged element that is not an end marker, and
`member`, given its tag number, leaves the reader where the next member starts. -/
def ReadsMember {σ : Type} (member : UInt32 → σ → Reader → Except CodecError (σ × Reader))
    (bytes : List UInt8) (f : σ → σ) : Prop :=
  bytes ≠ [] ∧ ∀ acc (r : Reader) rest, r.Resumes (bytes ++ rest) →
    ∃ r1, r.next = .ok r1 ∧ r1.elemType ≠ .endOfContainer ∧ r1.tag.isContext = true ∧
      ∃ r2, member r1.tag.tagNumber acc r1 = .ok (f acc, r2) ∧ r2.Resumes rest ∧
        r2.containerStack = r.containerStack

section Members

variable {σ : Type} {member : UInt32 → σ → Reader → Except CodecError (σ × Reader)}

theorem length_le_length_flatten :
    ∀ {items : List (List UInt8 × (σ → σ))}, (∀ i ∈ items, ReadsMember member i.1 i.2) →
      items.length ≤ (items.map Prod.fst).flatten.length
  | [], _ => by simp
  | i :: items, h => by
    have hi : i.1.length ≠ 0 := by simpa using (h i (by simp)).1
    have ih : items.length ≤ (items.map Prod.fst).flatten.length :=
      length_le_length_flatten fun j hj => h j (by simp [hj])
    simp only [List.length_cons, List.map_cons, List.flatten_cons, List.length_append]
    omega

/-- **The decoders' loop reads every member.** From a reader that resumes at the members, each
read by `member`, and the end marker, with a turn of fuel for each of them, the loop applies the
members' effects in order and stops on the end marker. -/
theorem decodeMembers_reads :
    ∀ (items : List (List UInt8 × (σ → σ))), (∀ i ∈ items, ReadsMember member i.1 i.2) →
    ∀ {fuel : Nat} (acc : σ) {r : Reader} {rest : List UInt8}, items.length < fuel →
    r.Resumes ((items.map Prod.fst).flatten ++ ElementType.endOfContainer.code :: rest) →
    ∃ r', decodeMembers member fuel acc r = .ok (items.foldl (fun a i => i.2 a) acc, r') ∧
      r'.hasElement = true ∧ r'.elemType = .endOfContainer ∧ r'.input = rest ∧
      r'.containerStack = r.containerStack
  | _, _, 0, _, _, _, hfuel, _ => absurd hfuel (Nat.not_lt_zero _)
  | [], _, fuel + 1, acc, r, rest, _, hr => by
    obtain ⟨r1, hnext, hel, _, hend, hin, hstack⟩ := Reader.next_end (by simpa using hr)
    exact ⟨r1, by simp [decodeMembers, hnext, hend], hel, hend, hin, hstack⟩
  | i :: items, hitems, fuel + 1, acc, r, rest, hfuel, hr => by
    obtain ⟨r1, hnext, hne, hctx, r2, hmember, hr2, hstack2⟩ :=
      (hitems i (by simp)).2 acc r _ (by simpa [List.append_assoc] using hr)
    obtain ⟨r', hloop, hel, hend, hin, hstack⟩ :=
      decodeMembers_reads items (fun j hj => hitems j (by simp [hj])) (i.2 acc)
        (by simp at hfuel; omega) hr2
    refine ⟨r', ?_, hel, hend, hin, hstack.trans hstack2⟩
    simp [decodeMembers, hnext, hne, hctx, hmember, hloop]

variable {n : UInt8} {f : σ → σ}

/-- An octet string member, read with `Bytes`. -/
theorem readsMember_bytes {v : List UInt8} (hlen : v.length < 2 ^ 63)
    (hmember : ∀ acc (r1 r2 : Reader), r1.bytes = .ok (v, r2) →
      member n.toUInt32 acc r1 = .ok (f acc, r2)) :
    ReadsMember member (Element.bytes (.contextTag n) v).encode f := by
  refine ⟨by simp [Element.encode_eq, header], fun acc r rest hr => ?_⟩
  have he : (Element.bytes (.contextTag n) v).WellFormed := ⟨.contextTag n, hlen⟩
  obtain ⟨r1, hnext, hon, hstack⟩ := Reader.next_on he hr
  have htag : r1.tag = .contextTag n := hon.tag
  refine ⟨r1, hnext, hon.elemType ▸ Element.elementType_ne_end _, by rw [htag]; rfl,
    { r1 with valueRead := true, input := rest }, ?_, ?_, hstack⟩
  · rw [show r1.tag.tagNumber = n.toUInt32 by rw [htag]; rfl]
    exact hmember acc r1 _ (Reader.bytes_on hon (by omega))
  · simpa using Reader.resumes_self
      (r := { r1 with valueRead := true, input := rest }) (.inr (.inl rfl))

/-- An unsigned integer member of the narrowest width, read with `Uint`. -/
theorem readsMember_uint {v : UInt64}
    (hmember : ∀ acc (r1 r2 : Reader), r1.uint = .ok (v, r2) →
      member n.toUInt32 acc r1 = .ok (f acc, r2)) :
    ReadsMember member (Element.uint (.contextTag n) v).encode f := by
  refine ⟨by simp [Element.encode_eq, header], fun acc r rest hr => ?_⟩
  have he : (Element.uint (.contextTag n) v).WellFormed := .contextTag n
  obtain ⟨r1, hnext, hon, hstack⟩ := Reader.next_on he hr
  have htag : r1.tag = .contextTag n := hon.tag
  refine ⟨r1, hnext, hon.elemType ▸ Element.elementType_ne_end _, by rw [htag]; rfl,
    { r1 with valueRead := true }, ?_, ?_, hstack⟩
  · rw [show r1.tag.tagNumber = n.toUInt32 by rw [htag]; rfl]
    exact hmember acc r1 _ (Reader.uint_on hon)
  · have hin : r1.input = rest := by simpa [Element.body] using hon.input
    simpa [hin] using Reader.resumes_self (r := { r1 with valueRead := true }) (.inr (.inl rfl))

/-- A session ID member, two bytes wide, read with `Uint`. -/
theorem readsMember_sessionID {v : UInt16}
    (hmember : ∀ acc (r1 r2 : Reader), r1.uint = .ok (v.toUInt64, r2) →
      member n.toUInt32 acc r1 = .ok (f acc, r2)) :
    ReadsMember member (sessionIDBytes (.contextTag n) v) f := by
  refine ⟨by simp [sessionIDBytes, header], fun acc r rest hr => ?_⟩
  obtain ⟨r1, hnext, hat, hstack⟩ := Reader.next_header (t := .uInt16) (by decide)
    (.fixed (by decide) (by decide) (by simp; decide) (by simp)) (.contextTag n) hr
  refine ⟨r1, hnext, by rw [hat.elemType]; decide, by rw [hat.tag]; rfl,
    { r1 with valueRead := true }, ?_, ?_, hstack⟩
  · rw [show r1.tag.tagNumber = n.toUInt32 by rw [hat.tag]; rfl]
    exact hmember acc r1 _ (Reader.uint_uInt16 hat)
  · simpa [hat.input] using Reader.resumes_self (r := { r1 with valueRead := true }) (.inr (.inl rfl))

end Members

theorem mrpItems_reads (p : MRPParameters) :
    ∀ i ∈ mrpItems p, ReadsMember mrpMember i.1 i.2 := by
  intro i hi
  simp only [mrpItems, List.mem_append] at hi
  rcases hi with (hi | hi) | hi <;> split_ifs at hi <;>
    simp only [List.mem_singleton, List.not_mem_nil] at hi <;> subst hi <;>
    exact readsMember_uint fun acc r1 r2 h => by simp [mrpMember, h]

theorem foldl_mrpItems (p : MRPParameters) :
    (mrpItems p).foldl (fun q i => i.2 q) ⟨0, 0, 0⟩ = p := by
  obtain ⟨idle, active, threshold⟩ := p
  unfold mrpItems
  split_ifs <;> simp_all

/-- `decodeMRPParams` reads back the structure `encodeMRPParams` wrote, and leaves the reader
after its end marker. -/
theorem decodeMRPParams_atHeader {r : Reader} {tag : Tag} {p : MRPParameters}
    {rest : List UInt8} (hr : r.AtHeader .struct tag [] (((mrpItems p).map Prod.fst).flatten ++
      ElementType.endOfContainer.code :: rest)) :
    ∃ r', decodeMRPParams r = .ok (p, r') ∧ r'.Resumes rest ∧
      r'.containerStack = r.containerStack := by
  have henter := Reader.enterContainer_atHeader hr (by decide)
  set re : Reader := { r with containerStack := r.containerStack ++ [.struct],
                              hasElement := false, valueRead := true }
  have hin : re.input =
      ((mrpItems p).map Prod.fst).flatten ++ ElementType.endOfContainer.code :: rest := hr.input
  have hre : re.Resumes re.input := Reader.resumes_self (.inl rfl)
  rw [hin] at hre
  have hfuel : (mrpItems p).length < re.input.length + 1 := by
    have := length_le_length_flatten (mrpItems_reads p)
    rw [hin, List.length_append, List.length_cons]
    omega
  obtain ⟨r', hloop, hel, hend, hin', hstack⟩ :=
    decodeMembers_reads (mrpItems p) (mrpItems_reads p) ⟨0, 0, 0⟩ hfuel hre
  have hexit := Reader.exitContainer_at_end (by simp [hstack, re]) hel hend
  refine ⟨{ r' with containerStack := r'.containerStack.dropLast, hasElement := false }, ?_, ?_,
    by simp [hstack, re]⟩
  · simp [decodeMRPParams, hr.elemType, henter, hloop, foldl_mrpItems, hexit]
  · simpa [hin'] using Reader.resumes_self
      (r := { r' with containerStack := r'.containerStack.dropLast, hasElement := false }) (.inl rfl)

/-- A member holding the MRP parameters, read with `decodeMRPParams`. -/
theorem readsMember_mrp {σ : Type} {member : UInt32 → σ → Reader → Except CodecError (σ × Reader)}
    {n : UInt8} {f : σ → σ} {p : MRPParameters}
    (hmember : ∀ acc (r1 r2 : Reader), decodeMRPParams r1 = .ok (p, r2) →
      member n.toUInt32 acc r1 = .ok (f acc, r2)) :
    ReadsMember member (mrpBytes n p) f := by
  refine ⟨by simp [mrpBytes, header], fun acc r rest hr => ?_⟩
  obtain ⟨r1, hnext, hat, hstack⟩ := Reader.next_header (t := .struct) (by decide)
    (.other (by decide) (by decide) rfl) (.contextTag n)
    (by simpa [mrpBytes, List.append_assoc] using hr)
  obtain ⟨r2, hdec, hres, hstack2⟩ := decodeMRPParams_atHeader hat
  refine ⟨r1, hnext, by rw [hat.elemType]; decide, by rw [hat.tag]; rfl, r2, ?_, hres,
    hstack2.trans hstack⟩
  rw [show r1.tag.tagNumber = n.toUInt32 by rw [hat.tag]; rfl]
  exact hmember acc r1 r2 hdec

/-- `enterMessage` enters an anonymous structure and rests before its members. -/
theorem enterMessage_eq (body : List UInt8) :
    ∃ r, enterMessage (header .struct .anonymous ++ body) = .ok r ∧ r.Resumes body := by
  have h0 : (newReader (header .struct .anonymous ++ body)).Resumes
      (header .struct .anonymous ++ body) := Reader.resumes_self (.inl rfl)
  obtain ⟨r1, hnext, hat, -⟩ := Reader.next_header (t := .struct) (by decide)
    (.other (by decide) (by decide) rfl) .anonymous (by simpa using h0)
  have henter := Reader.enterContainer_atHeader hat (by decide)
  refine ⟨{ r1 with containerStack := r1.containerStack ++ [.struct], hasElement := false,
                    valueRead := true }, by simp [enterMessage, hnext, hat.elemType, henter], ?_⟩
  simpa [hat.input] using Reader.resumes_self
    (r := { r1 with containerStack := r1.containerStack ++ [.struct], hasElement := false,
                    valueRead := true }) (.inl rfl)

/-- **A decoder reads back the members of its message.** Entered at an anonymous structure of
members each read by `member`, the loop, with the fuel every decoder gives it, applies their
effects in order. -/
theorem decodeMembers_message {σ : Type}
    {member : UInt32 → σ → Reader → Except CodecError (σ × Reader)}
    {items : List (List UInt8 × (σ → σ))} (hitems : ∀ i ∈ items, ReadsMember member i.1 i.2)
    (acc : σ) :
    ∃ r r', enterMessage (header .struct .anonymous ++ (items.map Prod.fst).flatten ++
        [ElementType.endOfContainer.code]) = .ok r ∧
      decodeMembers member ((header .struct .anonymous ++ (items.map Prod.fst).flatten ++
        [ElementType.endOfContainer.code]).length + 1) acc r =
        .ok (items.foldl (fun a i => i.2 a) acc, r') := by
  obtain ⟨r, henter, hr⟩ :=
    enterMessage_eq ((items.map Prod.fst).flatten ++ [ElementType.endOfContainer.code])
  have hfuel : items.length < (header .struct .anonymous ++ (items.map Prod.fst).flatten ++
      [ElementType.endOfContainer.code]).length + 1 := by
    have := length_le_length_flatten hitems
    simp only [List.length_append]
    omega
  have hr' : r.Resumes ((items.map Prod.fst).flatten ++ [ElementType.endOfContainer.code]) := hr
  obtain ⟨r', hloop, -⟩ := decodeMembers_reads items hitems acc hfuel hr'
  exact ⟨r, r', by simpa [List.append_assoc] using henter, hloop⟩

/-! ## The round trips -/

theorem Sigma1.items_read {s : Sigma1} (hs : s.Sized) :
    ∀ i ∈ s.items, ReadsMember sigma1Member i.1 i.2 := by
  obtain ⟨random, sid, dest, pub, mrp, rid, mic⟩ := s
  obtain ⟨hrandom, hdest, hpub, hrid, hmic⟩ := hs
  simp only [Sigma1.items, List.forall_mem_append, List.forall_mem_cons, List.forall_mem_map,
    Option.mem_toList, List.not_mem_nil, IsEmpty.forall_iff, implies_true, and_true, and_assoc]
  refine ⟨readsMember_bytes (by simp_all [randomSize]) fun acc r1 r2 h => ?_,
    readsMember_sessionID fun acc r1 r2 h => ?_,
    readsMember_bytes (by simp_all [destinationIDSize]) fun acc r1 r2 h => ?_,
    readsMember_bytes (by simp_all) fun acc r1 r2 h => ?_, ?_, ?_, ?_⟩
  · simp [sigma1Member, readFixedBytes, h, hrandom]
  · simp [sigma1Member, h]
  · simp [sigma1Member, readFixedBytes, h, hdest]
  · simp [sigma1Member, readFixedBytes, h, hpub]
  · rintro p rfl
    exact readsMember_mrp fun acc r1 r2 h => by simp [sigma1Member, h]
  · rintro rid rfl
    have hlen : rid.length = resumptionIDSize := hrid rid rfl
    exact readsMember_bytes (by simp [hlen, resumptionIDSize]) fun acc r1 r2 h => by
      simp [sigma1Member, readFixedBytes, h, hlen]
  · rintro mic rfl
    have hlen : mic.length = micSize := hmic mic rfl
    exact readsMember_bytes (by simp [hlen, micSize]) fun acc r1 r2 h => by
      simp [sigma1Member, readFixedBytes, h, hlen]

theorem decodeSigma1_encode {s : Sigma1} (hs : s.Sized) :
    decodeSigma1 (header .struct .anonymous ++ (s.items.map Prod.fst).flatten ++
      [ElementType.endOfContainer.code]) = .ok s := by
  obtain ⟨r, r', henter, hloop⟩ := decodeMembers_message (Sigma1.items_read hs)
    ⟨⟨List.replicate randomSize 0, 0, List.replicate destinationIDSize 0, List.replicate 65 0,
      none, none, none⟩, false, false, false, false⟩
  simp only [decodeSigma1, henter, hloop, Except.ok_bind]
  obtain ⟨random, sid, dest, pub, mrp, rid, mic⟩ := s
  cases mrp <;> cases rid <;> cases mic <;> simp [Sigma1.items]

theorem Sigma2.items_read {s : Sigma2} (hs : s.Sized) :
    ∀ i ∈ s.items, ReadsMember sigma2Member i.1 i.2 := by
  obtain ⟨random, sid, pub, enc, mrp⟩ := s
  obtain ⟨hrandom, hpub, henc⟩ := hs
  simp only [Sigma2.items, List.forall_mem_append, List.forall_mem_cons, List.forall_mem_map,
    Option.mem_toList, List.not_mem_nil, IsEmpty.forall_iff, implies_true, and_true, and_assoc]
  refine ⟨readsMember_bytes (by simp_all [randomSize]) fun acc r1 r2 h => ?_,
    readsMember_sessionID fun acc r1 r2 h => ?_,
    readsMember_bytes (by simp_all) fun acc r1 r2 h => ?_,
    readsMember_bytes henc fun acc r1 r2 h => ?_, ?_⟩
  · simp [sigma2Member, readFixedBytes, h, hrandom]
  · simp [sigma2Member, h]
  · simp [sigma2Member, readFixedBytes, h, hpub]
  · simp [sigma2Member, h]
  · rintro p rfl
    exact readsMember_mrp fun acc r1 r2 h => by simp [sigma2Member, h]

theorem decodeSigma2_encode {s : Sigma2} (hs : s.Sized) :
    decodeSigma2 (header .struct .anonymous ++ (s.items.map Prod.fst).flatten ++
      [ElementType.endOfContainer.code]) = .ok s := by
  obtain ⟨r, r', henter, hloop⟩ := decodeMembers_message (Sigma2.items_read hs)
    ⟨⟨List.replicate randomSize 0, 0, List.replicate 65 0, [], none⟩, false, false, false, false⟩
  simp only [decodeSigma2, henter, hloop, Except.ok_bind]
  obtain ⟨random, sid, pub, enc, mrp⟩ := s
  cases mrp <;> simp [Sigma2.items]

theorem TBEData2.items_read {t : TBEData2} (ht : t.Sized) :
    ∀ i ∈ t.items, ReadsMember tbeData2Member i.1 i.2 := by
  obtain ⟨noc, icac, sig, rid⟩ := t
  obtain ⟨hnoc, hicac, hsig, hrid⟩ := ht
  dsimp only at hnoc hicac hsig hrid
  simp only [TBEData2.items, List.forall_mem_append, List.forall_mem_cons, List.not_mem_nil,
    IsEmpty.forall_iff, implies_true, and_true, and_assoc]
  refine ⟨readsMember_bytes hnoc fun acc r1 r2 h => ?_, ?_,
    readsMember_bytes (by simp_all) fun acc r1 r2 h => ?_,
    readsMember_bytes (by simp_all [resumptionIDSize]) fun acc r1 r2 h => ?_⟩
  · simp [tbeData2Member, h]
  · split_ifs
    · simpa using readsMember_bytes hicac fun acc r1 r2 h => by simp [tbeData2Member, h]
    · simp
  · simp [tbeData2Member, readFixedBytes, h, hsig]
  · simp [tbeData2Member, readFixedBytes, h, hrid]

theorem decodeTBEData2_encode {t : TBEData2} (ht : t.Sized) :
    decodeTBEData2 (header .struct .anonymous ++ (t.items.map Prod.fst).flatten ++
      [ElementType.endOfContainer.code]) = .ok t := by
  obtain ⟨r, r', henter, hloop⟩ := decodeMembers_message (TBEData2.items_read ht)
    ⟨⟨[], [], List.replicate 64 0, List.replicate resumptionIDSize 0⟩, false, false, false⟩
  simp only [decodeTBEData2, henter, hloop, Except.ok_bind]
  obtain ⟨noc, icac, sig, rid⟩ := t
  -- an ICAC that is not written is decoded as the empty one it was
  unfold TBEData2.items
  split_ifs with hicac <;> simp_all

theorem decodeSigma3_encode {s : Sigma3} (hs : s.Sized) :
    decodeSigma3 (header .struct .anonymous ++ (s.items.map Prod.fst).flatten ++
      [ElementType.endOfContainer.code]) = .ok s := by
  have hread : ∀ i ∈ s.items, ReadsMember sigma3Member i.1 i.2 := by
    simp only [Sigma3.items, List.forall_mem_cons, List.not_mem_nil, IsEmpty.forall_iff,
      implies_true, and_true]
    exact readsMember_bytes hs fun acc r1 r2 h => by simp [sigma3Member, h]
  obtain ⟨r, r', henter, hloop⟩ := decodeMembers_message hread (⟨[]⟩, false)
  simp only [decodeSigma3, henter, hloop, Except.ok_bind]
  simp [Sigma3.items]

theorem TBEData3.items_read {t : TBEData3} (ht : t.Sized) :
    ∀ i ∈ t.items, ReadsMember tbeData3Member i.1 i.2 := by
  obtain ⟨noc, icac, sig⟩ := t
  obtain ⟨hnoc, hicac, hsig⟩ := ht
  dsimp only at hnoc hicac hsig
  simp only [TBEData3.items, List.forall_mem_append, List.forall_mem_cons, List.not_mem_nil,
    IsEmpty.forall_iff, implies_true, and_true, and_assoc]
  refine ⟨readsMember_bytes hnoc fun acc r1 r2 h => ?_, ?_,
    readsMember_bytes (by simp_all) fun acc r1 r2 h => ?_⟩
  · simp [tbeData3Member, h]
  · split_ifs
    · simpa using readsMember_bytes hicac fun acc r1 r2 h => by simp [tbeData3Member, h]
    · simp
  · simp [tbeData3Member, readFixedBytes, h, hsig]

theorem decodeTBEData3_encode {t : TBEData3} (ht : t.Sized) :
    decodeTBEData3 (header .struct .anonymous ++ (t.items.map Prod.fst).flatten ++
      [ElementType.endOfContainer.code]) = .ok t := by
  obtain ⟨r, r', henter, hloop⟩ := decodeMembers_message (TBEData3.items_read ht)
    ⟨⟨[], [], List.replicate 64 0⟩, false, false⟩
  simp only [decodeTBEData3, henter, hloop, Except.ok_bind]
  obtain ⟨noc, icac, sig⟩ := t
  unfold TBEData3.items
  split_ifs with hicac <;> simp_all

theorem Sigma2Resume.items_read {s : Sigma2Resume} (hs : s.Sized) :
    ∀ i ∈ s.items, ReadsMember sigma2ResumeMember i.1 i.2 := by
  obtain ⟨rid, mic, sid, mrp⟩ := s
  obtain ⟨hrid, hmic⟩ := hs
  simp only [Sigma2Resume.items, List.forall_mem_append, List.forall_mem_cons,
    List.forall_mem_map, Option.mem_toList, List.not_mem_nil, IsEmpty.forall_iff, implies_true,
    and_true, and_assoc]
  refine ⟨readsMember_bytes (by simp_all [resumptionIDSize]) fun acc r1 r2 h => ?_,
    readsMember_bytes (by simp_all [micSize]) fun acc r1 r2 h => ?_,
    readsMember_sessionID fun acc r1 r2 h => ?_, ?_⟩
  · simp [sigma2ResumeMember, readFixedBytes, h, hrid]
  · simp [sigma2ResumeMember, readFixedBytes, h, hmic]
  · simp [sigma2ResumeMember, h]
  · rintro p rfl
    exact readsMember_mrp fun acc r1 r2 h => by simp [sigma2ResumeMember, h]

theorem decodeSigma2Resume_encode {s : Sigma2Resume} (hs : s.Sized) :
    decodeSigma2Resume (header .struct .anonymous ++ (s.items.map Prod.fst).flatten ++
      [ElementType.endOfContainer.code]) = .ok s := by
  obtain ⟨r, r', henter, hloop⟩ := decodeMembers_message (Sigma2Resume.items_read hs)
    ⟨⟨List.replicate resumptionIDSize 0, List.replicate micSize 0, 0, none⟩, false, false, false⟩
  simp only [decodeSigma2Resume, henter, hloop, Except.ok_bind]
  obtain ⟨rid, mic, sid, mrp⟩ := s
  cases mrp <;> simp [Sigma2Resume.items]

theorem roundTrips_toOption {α : Type} {Sized : α → Prop}
    {encode : α → Except TlvError (List UInt8)} {decode : List UInt8 → Except CodecError α}
    (h : ∀ m, Sized m → ∃ b, encode m = .ok b ∧ decode b = .ok m) :
    RoundTrips Sized (fun m => (encode m).toOption) (fun b => (decode b).toOption) := by
  intro m hm
  obtain ⟨b, henc, hdec⟩ := h m hm
  exact ⟨b, by simp only [henc]; rfl, by simp only [hdec]; rfl⟩

/-- **The TLV codec round trips.** Every message with its declared sizes is encoded, and its
encoding decodes back to it; the signed data is always encoded. -/
theorem tlvCodec_roundTrip : tlvCodec.RoundTrip where
  sigma1 := roundTrips_toOption fun _ hm => ⟨_, Sigma1.encode_eq hm, decodeSigma1_encode hm⟩
  sigma2 := roundTrips_toOption fun _ hm => ⟨_, Sigma2.encode_eq hm, decodeSigma2_encode hm⟩
  tbeData2 := roundTrips_toOption fun _ hm => ⟨_, TBEData2.encode_eq hm, decodeTBEData2_encode hm⟩
  sigma3 := roundTrips_toOption fun _ hm => ⟨_, Sigma3.encode_eq hm, decodeSigma3_encode hm⟩
  tbeData3 := roundTrips_toOption fun _ hm => ⟨_, TBEData3.encode_eq hm, decodeTBEData3_encode hm⟩
  sigma2Resume := roundTrips_toOption fun _ hm =>
    ⟨_, Sigma2Resume.encode_eq hm, decodeSigma2Resume_encode hm⟩
  tbsData2 m := (TBSData2.encode_ok m).imp fun _ h => by
    change m.encode.toOption = _
    rw [h]
    rfl
  tbsData3 m := (TBSData3.encode_ok m).imp fun _ h => by
    change m.encode.toOption = _
    rw [h]
    rfl

/-! ## A member the decoders do not know -/

/-- **An unknown container ends the loop.** A context-tagged, empty container whose tag number
`member` ignores is not entered, so the next `Next` reads its end marker, and the loop stops
there as at the end of the message. -/
theorem decodeMembers_unknown_container {σ : Type}
    {member : UInt32 → σ → Reader → Except CodecError (σ × Reader)} {fuel : Nat} {acc : σ}
    {r : Reader} {kind : ContainerType} {n : UInt8} {rest : List UInt8}
    (hunknown : ∀ acc r, member n.toUInt32 acc r = .ok (acc, r))
    (hr : r.Resumes ((Element.container kind (.contextTag n) []).encode ++ rest)) :
    ∃ r', decodeMembers member (fuel + 2) acc r = .ok (acc, r') ∧ r'.input = rest := by
  have he : (Element.container kind (.contextTag n) []).WellFormed := ⟨.contextTag n, trivial⟩
  obtain ⟨r1, hnext, hon, -⟩ := Reader.next_on he hr
  have htag : r1.tag = .contextTag n := hon.tag
  have hres := Reader.resumes_on_container hon
  obtain ⟨r2, hnext2, -, -, hend, hin, -⟩ :=
    Reader.next_end (by simpa [Element.encodeMembers] using hres)
  refine ⟨r2, ?_, hin⟩
  have hne : r1.elemType ≠ .endOfContainer := hon.elemType ▸ Element.elementType_ne_end _
  simp [decodeMembers, hnext, hne, htag, Tag.isContext, Tag.contextTag, hunknown, hnext2, hend]

/-- `DecodeSigma1`'s member function ignores every tag number above 7. -/
theorem sigma1Member_unknown {n : UInt8} (hn : 7 < n) (d : Sigma1Decoding) (r : Reader) :
    sigma1Member n.toUInt32 d r = .ok (d, r) := by
  have h : ∀ k : UInt32, k ≤ 7 → n.toUInt32 ≠ k := by
    intro k hk heq
    have h1 : n.toNat = k.toNat := by rw [← heq, UInt8.toNat_toUInt32]
    have h2 := UInt8.lt_iff_toNat_lt.mp hn
    have h3 := UInt32.le_iff_toNat_le.mp hk
    simp only [UInt8.reduceToNat, UInt32.reduceToNat] at h2 h3
    omega
  simp [sigma1Member, h 1 (by decide), h 2 (by decide), h 3 (by decide), h 4 (by decide),
    h 5 (by decide), h 6 (by decide), h 7 (by decide)]

/-- `DecodeSigma1` rejects every message whose first member is an empty container under a tag
number it does not know, whatever follows: the container is inserted after the message's
control octet. -/
theorem decodeSigma1_unknown_first (kind : ContainerType) {n : UInt8} (hn : 7 < n)
    (body : List UInt8) :
    decodeSigma1 ((header .struct .anonymous ++ body).take 1 ++
      (Element.container kind (.contextTag n) []).encode ++
      (header .struct .anonymous ++ body).drop 1) = .error .invalidMessage := by
  have hheader : header .struct .anonymous = [ElementType.struct.code] := rfl
  set data := (Element.container kind (.contextTag n) []).encode ++ body
  have hsplit : (header .struct .anonymous ++ body).take 1 ++
      (Element.container kind (.contextTag n) []).encode ++
      (header .struct .anonymous ++ body).drop 1 = header .struct .anonymous ++ data := by
    simp [hheader, data]
  obtain ⟨r, henter, hr⟩ := enterMessage_eq data
  obtain ⟨k, hk⟩ : ∃ k, (header .struct .anonymous ++ data).length + 1 = k + 2 :=
    ⟨(header .struct .anonymous ++ data).length - 1, by simp [data, header]⟩
  obtain ⟨r', hloop, -⟩ := @decodeMembers_unknown_container _ _ k
    ⟨⟨List.replicate randomSize 0, 0, List.replicate destinationIDSize 0, List.replicate 65 0,
      none, none, none⟩, false, false, false, false⟩ _ _ _ _ (sigma1Member_unknown hn) hr
  rw [hsplit]
  unfold decodeSigma1
  rw [henter, Except.ok_bind, hk]
  simp only [hloop, Except.ok_bind]
  rfl

/-- **An unknown container member breaks `DecodeSigma1`.** Every `Sigma1` with its declared
sizes is encoded, and its encoding decodes back to it; with an empty structure under the unknown
context tag 9 inserted before its first member, the same encoding no longer decodes. -/
theorem sigma1_unknown_member_breaks_decode {m : Sigma1} (hm : m.Sized) :
    ∃ e, m.encode = .ok e ∧ decodeSigma1 e = .ok m ∧
      decodeSigma1 (e.take 1 ++ (Element.container .structure (.contextTag 9) []).encode ++
        e.drop 1) = .error .invalidMessage := by
  refine ⟨_, Sigma1.encode_eq hm, decodeSigma1_encode hm, ?_⟩
  rw [List.append_assoc (header _ _)]
  exact decodeSigma1_unknown_first .structure (by decide) _

theorem sigma1_unknown_member_breaks_decode_zero :
    (⟨List.replicate 32 0, 0, List.replicate 32 0, List.replicate 65 0, none, none, none⟩ :
      Sigma1).Sized ∧
    ∃ e, (⟨List.replicate 32 0, 0, List.replicate 32 0, List.replicate 65 0, none, none, none⟩ :
        Sigma1).encode = .ok e ∧
      decodeSigma1 e = .ok ⟨List.replicate 32 0, 0, List.replicate 32 0, List.replicate 65 0, none,
        none, none⟩ ∧
      decodeSigma1 (e.take 1 ++ (Element.container .structure (.contextTag 9) []).encode ++
        e.drop 1) = .error .invalidMessage := by
  have hm : (⟨List.replicate 32 0, 0, List.replicate 32 0, List.replicate 65 0, none, none, none⟩ :
      Sigma1).Sized := by
    simp [Sigma1.Sized, randomSize, destinationIDSize]
  exact ⟨hm, sigma1_unknown_member_breaks_decode hm⟩

/-- A `Sigma1` of zeros with an empty structure under tag 9 before its members: the bytes do not
decode to it. -/
theorem sigma1_unknown_member_counterexample :
    ∃ m : Sigma1, m.Sized ∧ ∃ e, m.encode = .ok e ∧
      decodeSigma1 (e.take 1 ++ (Element.container .structure (.contextTag 9) []).encode ++
        e.drop 1) ≠ .ok m := by
  have hm : (⟨List.replicate 32 0, 0, List.replicate 32 0, List.replicate 65 0, none, none, none⟩ :
      Sigma1).Sized := by
    simp [Sigma1.Sized, randomSize, destinationIDSize]
  refine ⟨_, hm, _, Sigma1.encode_eq hm, ?_⟩
  rw [List.append_assoc (header _ _), decodeSigma1_unknown_first .structure (by decide) _]
  exact nofun

end Matter.Case
