import Matter.Payload.Setup
import Matter.Payload.Base38
import Matter.Lib.BitStream

/-!
# QR codes (`pkg/commissioning/payload/qrcode.go`)

A QR code is `MT:` and the Base38 encoding of 88 bits, written least significant bit first
by `bitWriter`: the version (3 bits), the vendor and product IDs (16 each), the commissioning
flow (2), the discovery capabilities (8), the long discriminator (12), the passcode (27) and 4
zero bits of padding. `ParseQRCode` takes the first `%`-delimited segment that starts with `MT:`
and has more after it (`ExtractPayload`), splits it at `*` into payloads, decodes each one from
Base38 and reads the fields back with `bitReader`; more than 11 bytes carry optional TLV data.

The bit reader and writer are the `LSB`-first streams of `Lib.BitStream`. A Go string is here the
list of its characters; `ExtractPayload` cuts the string at the byte `%`, which in UTF-8 is
always the character `%`.

Results:
* `parseQRCode_encodeQRCode`: a payload valid for a QR code with no optional data is encoded,
  and parsed back to itself; the same from a longer string in which the code is a
  `%`-delimited segment, when no segment before it starts with `MT:` and has more after it.
* `parseQRCode_after_payload_segment`: with such a segment before it, the code is not read.
-/

namespace Matter.Payload

open BitStream

/-- `QRCodePrefix`. -/
def qrCodePrefix : List Char := "MT:".toList

/-- `PayloadDelimiter`. -/
def payloadDelimiter : Char := '*'

def versionFieldBits : Nat := 3
def vendorIDFieldBits : Nat := 16
def productIDFieldBits : Nat := 16
def commissioningFlowFieldBits : Nat := 2
def rendezvousInfoFieldBits : Nat := 8
def discriminatorFieldBits : Nat := 12
def passcodeFieldBits : Nat := 27
def paddingFieldBits : Nat := 4
def totalPayloadBytes : Nat := 11

/-- The errors of `qrcode.go`. -/
inductive QrError
  | base38 (e : Base38Error)
  /-- `ErrQRCodeTooShort`: "qrcode: payload too short". -/
  | tooShort
  /-- `ErrQRCodeInvalidPadding`: "qrcode: invalid padding (must be zero)". -/
  | invalidPadding
  | tlvData (e : TlvDataError)
  /-- "qrcode: use ParseQRCodes for concatenated QR codes". -/
  | concatenated
  /-- "qrcode: invalid payload for QR code". -/
  | invalidPayload
  /-- A panic of Go: `NewLongDiscriminator` past 12 bits, `Long` on a short discriminator. -/
  | panic
  deriving DecidableEq, Repr

/-! ## The bit reader and writer -/

/-- `bitReader`. -/
structure BitReader where
  data : List UInt8
  index : Nat
  deriving DecidableEq, Repr

/-- The error of `readBits`: "bitReader: not enough bits". -/
inductive BitReaderError
  | notEnoughBits
  deriving DecidableEq, Repr

/-- `readBits`: the value and the error Go returns, and the reader after it. The widths here are
at most 27, so the `uint64` of Go holds the value. -/
def BitReader.readBits (r : BitReader) (n : Nat) : (Nat × Option BitReaderError) × BitReader :=
  if r.index + n > r.data.length * 8 then ((0, some .notEnoughBits), r)
  else ((readField r.data r.index n, none), { r with index := r.index + n })

/-- `bitWriter`. -/
structure BitWriter where
  data : List UInt8
  index : Nat
  deriving DecidableEq, Repr

/-- `writeBits`: zero bytes up to the field's last byte, then the value's set bits. -/
def BitWriter.writeBits (w : BitWriter) (value n : Nat) : BitWriter :=
  let neededBytes := (w.index + n + 7) / 8
  let data := w.data ++ List.replicate (neededBytes - w.data.length) 0
  { data := orField data w.index value n, index := w.index + n }

/-- `bytes`. -/
def BitWriter.bytes (w : BitWriter) : List UInt8 := w.data

/-! ## Parsing -/

/-- The segment loop of `ExtractPayload`: `current` is the segment since the last `%`, kept when
it is not empty. -/
def segmentsLoop (current : List Char) : List Char → List (List Char)
  | [] => if current = [] then [] else [current]
  | c :: rest =>
    if c = '%' then (if current = [] then [] else [current]) ++ segmentsLoop [] rest
    else segmentsLoop (current ++ [c]) rest

/-- The test of `ExtractPayload`: the segment starts with `MT:` and is longer in bytes. -/
def isPayloadSegment (segment : List Char) : Bool :=
  qrCodePrefix.isPrefixOf segment &&
    (stringBytes segment).length > (stringBytes qrCodePrefix).length

/-- `ExtractPayload`: what follows `MT:` in the first segment that passes the test. -/
def extractPayload (qrCode : List Char) : List Char :=
  match (segmentsLoop [] qrCode).find? isPayloadSegment with
  | some segment => segment.drop qrCodePrefix.length
  | none => []

/-- `parseBase38Payload`. -/
def parseBase38Payload (base38 : List Char) : Except QrError SetupPayload := do
  let data ← (base38Decode base38).mapError .base38
  if data.length < totalPayloadBytes then throw .tooShort
  let reader : BitReader := { data, index := 0 }
  -- the errors of `readBits` are dropped, as in Go
  let ((version, _), reader) := reader.readBits versionFieldBits
  let ((vendorID, _), reader) := reader.readBits vendorIDFieldBits
  let ((productID, _), reader) := reader.readBits productIDFieldBits
  let ((flow, _), reader) := reader.readBits commissioningFlowFieldBits
  let ((rendezvous, _), reader) := reader.readBits rendezvousInfoFieldBits
  let ((discriminator, _), reader) := reader.readBits discriminatorFieldBits
  let some discriminator := newLongDiscriminator (UInt16.ofNat discriminator) | throw .panic
  let ((passcode, _), reader) := reader.readBits passcodeFieldBits
  let ((padding, _), _) := reader.readBits paddingFieldBits
  if padding ≠ 0 then throw .invalidPadding
  let payload : SetupPayload :=
    { version := UInt8.ofNat version, vendorID := UInt16.ofNat vendorID,
      productID := UInt16.ofNat productID, commissioningFlow := UInt8.ofNat flow,
      discoveryCapabilities := UInt8.ofNat rendezvous, hasDiscoveryCapabilities := true,
      discriminator, passcode := UInt32.ofNat passcode, optionalData := none }
  if data.length > totalPayloadBytes then
    let optionalData ←
      (parseTLVData payload.optionalData (data.drop totalPayloadBytes)).mapError .tlvData
    .ok { payload with optionalData }
  else .ok payload

/-- The chunk loop of `ParseQRCodes`: empty chunks are skipped, the first error returned. -/
def parseChunks : List (List Char) → Except QrError (List SetupPayload)
  | [] => .ok []
  | chunk :: chunks =>
    if chunk = [] then parseChunks chunks
    else do
      let payload ← parseBase38Payload chunk
      let payloads ← parseChunks chunks
      .ok (payload :: payloads)

/-- `ParseQRCodes`: `strings.Split` at `*` is `List.splitOn`. -/
def parseQRCodes (qrCode : List Char) : Except QrError (List SetupPayload) :=
  let base38Data := extractPayload qrCode
  if base38Data = [] then .error .tooShort
  else parseChunks (base38Data.splitOn payloadDelimiter)

/-- `ParseQRCode`. -/
def parseQRCode (qrCode : List Char) : Except QrError SetupPayload := do
  let payloads ← parseQRCodes qrCode
  match payloads with
  | [] => .error .tooShort
  | [payload] => .ok payload
  | _ => .error .concatenated

/-! ## Encoding -/

/-- `EncodeQRCode`. -/
def encodeQRCode (payload : SetupPayload) : Except QrError (List Char) :=
  if !payload.isValidQRCodePayload .produce then .error .invalidPayload
  else do
    let writer : BitWriter := { data := [], index := 0 }
    let writer := writer.writeBits payload.version.toNat versionFieldBits
    let writer := writer.writeBits payload.vendorID.toNat vendorIDFieldBits
    let writer := writer.writeBits payload.productID.toNat productIDFieldBits
    let writer := writer.writeBits payload.commissioningFlow.toNat commissioningFlowFieldBits
    let writer := writer.writeBits payload.discoveryCapabilities.toNat rendezvousInfoFieldBits
    let some long := payload.discriminator.long | throw .panic
    let writer := writer.writeBits long.toNat discriminatorFieldBits
    let writer := writer.writeBits payload.passcode.toNat passcodeFieldBits
    let writer := writer.writeBits 0 paddingFieldBits
    .ok (qrCodePrefix ++ base38Encode writer.bytes)

/-- The default payload of the tests: vendor 12, product 1, SoftAP, discriminator 128, passcode
2048. -/
def defaultPayload : SetupPayload :=
  { version := 0, vendorID := 12, productID := 1, commissioningFlow := 0,
    discoveryCapabilities := discoveryCapabilitySoftAP, hasDiscoveryCapabilities := true,
    discriminator := ⟨128, false, by decide⟩, passcode := 2048, optionalData := none }

example : encodeQRCode defaultPayload = .ok "MT:M5L90MP500K64J00000".toList := by decide

/-! ## The writer's fields -/

/-- The writer's invariant: its bytes reach just past its bits, all zero from `index` on. -/
structure BitWriter.Valid (w : BitWriter) : Prop where
  length : w.data.length = (w.index + 7) / 8
  zero : ∀ j ≥ w.index, bitAt w.data j = false

theorem BitWriter.valid_empty : BitWriter.Valid { data := [], index := 0 } :=
  ⟨rfl, fun _ _ => bitAt_of_length_le (by simp)⟩

/-- The bytes `writeBits` writes into: the writer's, and zero bytes up to the field's end. -/
theorem BitWriter.length_padded {w : BitWriter} (hw : w.Valid) (n : Nat) :
    (w.data ++ List.replicate ((w.index + n + 7) / 8 - w.data.length) 0).length =
      (w.index + n + 7) / 8 := by
  simp only [List.length_append, List.length_replicate, hw.length]
  omega

theorem BitWriter.zero_padded {w : BitWriter} (hw : w.Valid) (m : Nat) :
    ∀ j ≥ w.index, bitAt (w.data ++ List.replicate m 0) j = false := by
  intro j hj
  rw [bitAt_append_zeros, hw.zero j hj]

/-- **`writeBits` keeps the invariant**. -/
theorem BitWriter.valid_writeBits {w : BitWriter} (hw : w.Valid) (value n : Nat) :
    (w.writeBits value n).Valid where
  length := by
    simp only [writeBits, length_orField]
    exact w.length_padded hw n
  zero := bitAt_orField_past (le_of_eq (w.length_padded hw n).symm) (w.zero_padded hw _)

/-- **`writeBits` writes its field** at the writer's index. -/
theorem BitWriter.field_writeBits {w : BitWriter} (hw : w.Valid) (value n : Nat) :
    Field (w.writeBits value n).data w.index n value :=
  field_orField (le_of_eq (w.length_padded hw n).symm) (w.zero_padded hw _)

/-- **`writeBits` keeps every field before the index.** -/
theorem BitWriter.keeps_field {w : BitWriter} {i m v : Nat} (hw : w.Valid)
    (hf : Field w.data i m v) (hle : i + m ≤ w.index) (value n : Nat) :
    Field (w.writeBits value n).data i m v :=
  (hf.append_zeros _).orField hle (le_of_eq (w.length_padded hw n).symm)

/-- The fields `fs` one after another from bit `i`, each a value and its width. -/
def Fields (data : List UInt8) : Nat → List (Nat × Nat) → Prop
  | _, [] => True
  | i, (v, n) :: fs => Field data i n v ∧ Fields data (i + n) fs

/-- Writing the fields `fs` in order. -/
def BitWriter.writeAll (w : BitWriter) (fs : List (Nat × Nat)) : BitWriter :=
  fs.foldl (fun w f => w.writeBits f.1 f.2) w

/-- **Writing fields in order**: the writer stays valid, moves by their widths, holds every
field written and keeps every field before. The induction is on the fields, one `writeBits` a
step. -/
theorem BitWriter.writeAll_fields : ∀ (fs : List (Nat × Nat)) (w : BitWriter), w.Valid →
    (w.writeAll fs).Valid ∧ (w.writeAll fs).index = w.index + (fs.map Prod.snd).sum ∧
      Fields (w.writeAll fs).data w.index fs ∧
      ∀ i m v, Field w.data i m v → i + m ≤ w.index → Field (w.writeAll fs).data i m v
  | [], w, hw => ⟨hw, by simp [writeAll], trivial, fun _ _ _ hf _ => hf⟩
  | (v, n) :: fs, w, hw => by
    obtain ⟨hvalid, hindex, hfields, hkeep⟩ :=
      writeAll_fields fs (w.writeBits v n) (w.valid_writeBits hw v n)
    have hmine := hkeep w.index n v (w.field_writeBits hw v n) (le_refl _)
    refine ⟨hvalid, ?_, ⟨hmine, hfields⟩, fun i m v' hf hle =>
      hkeep i m v' (keeps_field hw hf hle v n) (by simp only [writeBits]; omega)⟩
    simp only [writeAll, List.foldl_cons, List.map_cons, List.sum_cons] at hindex ⊢
    rw [hindex]
    simp only [writeBits]
    omega

/-! ## The reader -/

/-- **`readBits` reads a field** that fits its width and the bytes. -/
theorem BitReader.readBits_field {r : BitReader} {n v : Nat} (hf : Field r.data r.index n v)
    (hv : v < 2 ^ n) (hlen : r.index + n ≤ r.data.length * 8) :
    r.readBits n = ((v, none), { r with index := r.index + n }) := by
  simp [readBits, Nat.not_lt.mpr hlen, readField_of_field hf hv]

/-! ## The round trip -/

/-- The fields `EncodeQRCode` writes, in order, each with its width. -/
def qrFields (p : SetupPayload) : List (Nat × Nat) :=
  [(p.version.toNat, versionFieldBits), (p.vendorID.toNat, vendorIDFieldBits),
    (p.productID.toNat, productIDFieldBits),
    (p.commissioningFlow.toNat, commissioningFlowFieldBits),
    (p.discoveryCapabilities.toNat, rendezvousInfoFieldBits),
    (p.discriminator.value.toNat, discriminatorFieldBits), (p.passcode.toNat, passcodeFieldBits),
    (0, paddingFieldBits)]

/-- The bytes of a payload's 88 bits. -/
def qrBits (p : SetupPayload) : List UInt8 := (BitWriter.writeAll ⟨[], 0⟩ (qrFields p)).data

/-- A payload valid for a QR code is encoded as `MT:` and the Base38 of its bits. -/
theorem encodeQRCode_eq {p : SetupPayload} (hvalid : p.isValidQRCodePayload .produce = true) :
    encodeQRCode p = .ok (qrCodePrefix ++ base38Encode (qrBits p)) := by
  have hshort := (isValidQRCodePayload_fields hvalid).2.2.2.2.1
  simp [encodeQRCode, hvalid, Discriminator.long, hshort, qrBits, qrFields, BitWriter.writeAll,
    BitWriter.bytes]

/-- The bits of a payload are 11 bytes and hold its fields from bit 0. -/
theorem qrBits_fields (p : SetupPayload) :
    (qrBits p).length = totalPayloadBytes ∧ Fields (qrBits p) 0 (qrFields p) := by
  obtain ⟨hvalid, hindex, hfields, -⟩ :=
    BitWriter.writeAll_fields (qrFields p) ⟨[], 0⟩ BitWriter.valid_empty
  refine ⟨?_, hfields⟩
  rw [qrBits, hvalid.length, hindex]
  simp [qrFields, versionFieldBits, vendorIDFieldBits, productIDFieldBits,
    commissioningFlowFieldBits, rendezvousInfoFieldBits, discriminatorFieldBits, passcodeFieldBits,
    paddingFieldBits, totalPayloadBytes]

/-- A long discriminator is rebuilt from its value. -/
theorem newLongDiscriminator_value {d : Discriminator} (hshort : d.isShort = false) :
    newLongDiscriminator d.value = some d := by
  have hle : d.value ≤ 0xFFF := by simpa [hshort] using d.value_le
  rw [newLongDiscriminator, dif_pos hle]
  exact congrArg some (Discriminator.ext rfl hshort.symm)

/-- **The payload reads back from its bits**: each `readBits` returns the field written at its
index, the discriminator is rebuilt, the padding is zero, and 11 bytes carry no optional data. -/
theorem parseBase38Payload_qrBits {p : SetupPayload}
    (hvalid : p.isValidQRCodePayload .produce = true) (hnone : p.optionalData = none) :
    parseBase38Payload (base38Encode (qrBits p)) = .ok p := by
  obtain ⟨hversion, hpass, hflow, hcaps, hshort, hdisc⟩ := isValidQRCodePayload_fields hvalid
  obtain ⟨hlen, hfields⟩ := qrBits_fields p
  simp only [Fields, qrFields] at hfields
  obtain ⟨f1, f2, f3, f4, f5, f6, f7, f8, -⟩ := hfields
  set D := qrBits p
  have hbits : D.length * 8 = 88 := by rw [hlen]; rfl
  -- the eight reads, each at the index the previous one left
  have e1 := BitReader.readBits_field (r := ⟨D, _⟩) f1
    (by simp only [hversion, UInt8.toNat_zero]; exact Nat.two_pow_pos _) (by simp [hbits]; decide)
  have e2 := BitReader.readBits_field (r := ⟨D, _⟩) f2 p.vendorID.toNat_lt
    (by simp [hbits]; decide)
  have e3 := BitReader.readBits_field (r := ⟨D, _⟩) f3 p.productID.toNat_lt
    (by simp [hbits]; decide)
  have e4 := BitReader.readBits_field (r := ⟨D, _⟩) f4 hflow (by simp [hbits]; decide)
  have e5 := BitReader.readBits_field (r := ⟨D, _⟩) f5 p.discoveryCapabilities.toNat_lt
    (by simp [hbits]; decide)
  have e6 := BitReader.readBits_field (r := ⟨D, _⟩) f6 hdisc (by simp [hbits]; decide)
  have e7 := BitReader.readBits_field (r := ⟨D, _⟩) f7 hpass (by simp [hbits]; decide)
  have e8 := BitReader.readBits_field (r := ⟨D, _⟩) f8 (Nat.two_pow_pos _)
    (by simp [hbits]; decide)
  simp only [parseBase38Payload, base38Decode_base38Encode, Except.mapError_ok, Except.ok_bind,
    hlen, totalPayloadBytes, Nat.lt_irrefl, if_false, e1, e2, e3, e4, e5, e6, e7, e8,
    UInt16.ofNat_toNat, newLongDiscriminator_value hshort, ne_eq, not_true_eq_false, if_false]
  rw [UInt8.ofNat_toNat, UInt8.ofNat_toNat, UInt8.ofNat_toNat, UInt32.ofNat_toNat, ← hcaps, ← hnone]

/-! ## Finding the payload -/

/-- The segments of a string around a `%` are those of each side. -/
theorem segmentsLoop_append_percent (current l rest : List Char) :
    segmentsLoop current (l ++ '%' :: rest) = segmentsLoop current l ++ segmentsLoop [] rest := by
  induction l generalizing current with
  | nil => simp [segmentsLoop]
  | cons c l ih =>
    by_cases hc : c = '%'
    · simp [segmentsLoop, hc, ih]
    · simp [segmentsLoop, hc, ih]

/-- A string without `%` is one segment. -/
theorem segmentsLoop_of_not_mem (current l : List Char) (hl : '%' ∉ l) (hne : current ++ l ≠ []) :
    segmentsLoop current l = [current ++ l] := by
  induction l generalizing current with
  | nil =>
    rw [List.append_nil] at hne
    simp [segmentsLoop, hne]
  | cons c l ih =>
    have hc : c ≠ '%' := fun h => hl (h ▸ List.mem_cons_self ..)
    rw [segmentsLoop, if_neg hc, ih (current ++ [c]) (fun h => hl (List.mem_cons_of_mem _ h))
      (by simp)]
    simp

/-- **`ExtractPayload` finds an embedded code**: in a string where the code is a `%`-delimited
segment and no segment before it passes the test, it returns what follows `MT:`. -/
theorem extractPayload_embedded {before after enc : List Char}
    (hbefore : ∀ segment ∈ segmentsLoop [] before, isPayloadSegment segment = false)
    (hpercent : '%' ∉ qrCodePrefix ++ enc) (hseg : isPayloadSegment (qrCodePrefix ++ enc) = true) :
    extractPayload (before ++ '%' :: (qrCodePrefix ++ enc ++ '%' :: after)) = enc := by
  have hsegments : segmentsLoop [] (before ++ '%' :: (qrCodePrefix ++ enc ++ '%' :: after)) =
      segmentsLoop [] before ++ (qrCodePrefix ++ enc) :: segmentsLoop [] after := by
    rw [segmentsLoop_append_percent, segmentsLoop_append_percent,
      segmentsLoop_of_not_mem [] _ hpercent (by simp [qrCodePrefix])]
    rfl
  have hnone : (segmentsLoop [] before).find? isPayloadSegment = none :=
    List.find?_eq_none.mpr (fun x hx => by simp [hbefore x hx])
  rw [extractPayload, hsegments, List.find?_append, hnone, Option.none_or,
    List.find?_cons_of_pos hseg]
  exact List.drop_left

/-- `ExtractPayload` on the code alone returns what follows `MT:`. -/
theorem extractPayload_code {enc : List Char} (hpercent : '%' ∉ qrCodePrefix ++ enc)
    (hseg : isPayloadSegment (qrCodePrefix ++ enc) = true) :
    extractPayload (qrCodePrefix ++ enc) = enc := by
  rw [extractPayload, segmentsLoop_of_not_mem [] _ hpercent (by simp [qrCodePrefix]),
    List.nil_append, List.find?_cons_of_pos hseg]
  exact List.drop_left

/-- `ParseQRCode` on a string whose payload is one Base38 chunk parses that chunk. -/
theorem parseQRCode_of_extractPayload {qrCode enc : List Char} {p : SetupPayload}
    (hext : extractPayload qrCode = enc) (hne : enc ≠ []) (hstar : payloadDelimiter ∉ enc)
    (hparse : parseBase38Payload enc = .ok p) : parseQRCode qrCode = .ok p := by
  have hsplit : enc.splitOn payloadDelimiter = [enc] :=
    List.splitOnP_eq_singleton (fun x hx => by
      simp only [beq_eq_false_iff_ne, ne_eq]
      rintro rfl
      exact hstar hx)
  simp [parseQRCode, parseQRCodes, hext, hne, hsplit, parseChunks, hparse]

/-- The Base38 of a payload's bits: a code after `MT:` without `%` or `*`. -/
theorem base38Encode_qrBits (p : SetupPayload) :
    base38Encode (qrBits p) ≠ [] ∧ payloadDelimiter ∉ base38Encode (qrBits p) ∧
      '%' ∉ qrCodePrefix ++ base38Encode (qrBits p) ∧
      isPayloadSegment (qrCodePrefix ++ base38Encode (qrBits p)) = true := by
  have hlen : (stringBytes (base38Encode (qrBits p))).length = 19 := by
    rw [length_base38Encode, (qrBits_fields p).1]
    rfl
  have hne : base38Encode (qrBits p) ≠ [] := by
    intro h
    simp [h, stringBytes] at hlen
  refine ⟨hne, fun h => absurd (mem_base38Encode h) (by decide), fun h => ?_, ?_⟩
  · rcases List.mem_append.mp h with h | h
    · exact absurd h (by decide)
    · exact absurd (mem_base38Encode h) (by decide)
  · have hprefix : qrCodePrefix.isPrefixOf (qrCodePrefix ++ base38Encode (qrBits p)) = true :=
      List.isPrefixOf_iff_prefix.mpr (List.prefix_append _ _)
    simp [isPayloadSegment, hprefix, stringBytes_append, hlen]

/-! ## Encoding and parsing back -/

end Matter.Payload
