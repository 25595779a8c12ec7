import Matter.Payload.Setup
import Matter.Payload.Verhoeff
import Matter.Lib.Strconv
import Matter.Lib.GoWord
import Matter.Lib.Except

/-!
# Manual pairing codes (`pkg/commissioning/payload/manualcode.go`)

A manual pairing code is 10 or 20 decimal digits and a Verhoeff check digit. Its first three
chunks, of 1, 5 and 4 digits, hold 3, 16 and 13 bits: the two high bits of the 4-bit short
discriminator and a flag for the vendor and product IDs; the 14 low bits of the passcode and
the two low bits of the discriminator; the 13 high bits of the passcode. A long code, written
for the custom commissioning flow, adds the vendor and product IDs in 5 digits each.
`EncodeManualCode` packs the fields with `uint32` shifts and masks and zero-pads each chunk
(`padLeft`); `ParseManualCode` first drops every character that is not a digit
(`StripFormatting`), checks the check digit and the length, then reads the chunks back with
`strconv.ParseUint` (`parseDigits`).

A Go string is here the list of its characters. `parseDigits` and the length checks count
bytes; they run on a stripped code, whose characters are ASCII digits. Strings that are not
valid UTF-8 are not modelled. The `chunk*Max` constants, which no function reads, are left out.

Results:
* `encodeManualCode_eq`: a payload valid for a manual code is written as its fields
  (`manualCodeDigits`) and their check digit.
* `parseManualCode_encodeManualCode`: the code has 11 digits, or 21 for the custom flow, and
  parses back, with any non-digit characters inserted, to the payload's passcode and short
  discriminator, with its vendor and product IDs and the custom flow for a long code and zero
  IDs and the standard flow for a short one.
-/

namespace Matter.Payload

open Strconv

def manualCodeShortLength : Nat := 10
def manualCodeLongLength : Nat := 20

def chunk1Length : Nat := 1
def chunk2Length : Nat := 5
def chunk3Length : Nat := 4
def vendorIDLength : Nat := 5
def productIDLength : Nat := 5

def vendorIDMax : UInt32 := 65535
def productIDMax : UInt32 := 65535

def chunk1DiscMSBsPos : UInt32 := 0
def chunk1DiscMSBsLen : UInt32 := 2
def chunk1VIDPIDFlagPos : UInt32 := 2
def chunk2PasscodeLSBsPos : UInt32 := 0
def chunk2PasscodeLSBsLen : UInt32 := 14
def chunk2DiscLSBsPos : UInt32 := 14
def chunk2DiscLSBsLen : UInt32 := 2
def chunk3PasscodeMSBsPos : UInt32 := 0
def chunk3PasscodeMSBsLen : UInt32 := 13

/-- The errors of `manualcode.go`. -/
inductive ManualCodeError
  /-- `ErrManualCodeInvalidLength`: "manualcode: invalid length". -/
  | invalidLength
  /-- `ErrManualCodeInvalidChecksum`: "manualcode: invalid check digit". -/
  | invalidChecksum
  /-- `ErrManualCodeInvalidDigit`: "manualcode: invalid digit character". -/
  | invalidDigit
  /-- `ErrManualCodeInvalidChunk1`: "manualcode: chunk1 value 8-9 reserved". -/
  | invalidChunk1
  /-- `ErrManualCodeInvalidVendorID`: "manualcode: vendor ID exceeds 16 bits". -/
  | invalidVendorID
  /-- `ErrManualCodeInvalidProductID`: "manualcode: product ID exceeds 16 bits". -/
  | invalidProductID
  /-- An error of `payload.go`: `ErrInvalidPasscode` for a zero passcode. -/
  | payload (e : PayloadError)
  /-- "manualcode: invalid payload", from `EncodeManualCode`. -/
  | invalidPayload
  | verhoeff (e : VerhoeffError)
  /-- A panic of Go: `NewShortDiscriminator` past 4 bits. -/
  | panic
  deriving DecidableEq, Repr

/-- `StripFormatting`: the characters `'0'` to `'9'`, in order. -/
def stripFormatting (code : List Char) : List Char := code.filter isDecimalDigit

/-- `padLeft(s, length)`. -/
def padLeft (s : List Char) (length : Nat) : List Char :=
  if s.length ≥ length then s else List.replicate (length - s.length) '0' ++ s

/-- `parseDigits(code, pos, n)`: the value of the `n` digits at `*pos`, and `*pos` after them. -/
def parseDigits (code : List Char) (pos n : Nat) : Except ManualCodeError (UInt32 × Nat) :=
  if pos + n > code.length then .error .invalidLength
  else
    match parseUint ((code.drop pos).take n) 32 with
    | none => .error .invalidDigit
    | some value => .ok (value.toUInt32, pos + n)

/-- `ParseManualCode`. -/
def parseManualCode (code : List Char) : Except ManualCodeError SetupPayload := do
  let code := stripFormatting code
  if !verhoeffValidate code then throw .invalidChecksum
  let codeWithoutCheck := code.take (code.length - 1)
  let isLongCode ←
    if codeWithoutCheck.length = manualCodeShortLength then pure false
    else if codeWithoutCheck.length = manualCodeLongLength then pure true
    else throw .invalidLength
  let (chunk1, pos) ← parseDigits codeWithoutCheck 0 chunk1Length
  -- the values 8 and 9 of the first chunk are reserved
  if chunk1 ≥ 8 then throw .invalidChunk1
  let hasVIDPID := (chunk1 >>> chunk1VIDPIDFlagPos) &&& 1
  if (hasVIDPID == 1) != isLongCode then throw .invalidLength
  let (chunk2, pos) ← parseDigits codeWithoutCheck pos chunk2Length
  let (chunk3, pos) ← parseDigits codeWithoutCheck pos chunk3Length
  let discMSBs := (chunk1 >>> chunk1DiscMSBsPos) &&& ((1 <<< chunk1DiscMSBsLen) - 1)
  let discLSBs := (chunk2 >>> chunk2DiscLSBsPos) &&& ((1 <<< chunk2DiscLSBsLen) - 1)
  let discriminator := (discMSBs <<< chunk2DiscLSBsLen) ||| discLSBs
  let passcodeLSBs := (chunk2 >>> chunk2PasscodeLSBsPos) &&& ((1 <<< chunk2PasscodeLSBsLen) - 1)
  let passcodeMSBs := (chunk3 >>> chunk3PasscodeMSBsPos) &&& ((1 <<< chunk3PasscodeMSBsLen) - 1)
  let passcode := (passcodeMSBs <<< chunk2PasscodeLSBsLen) ||| passcodeLSBs
  if passcode = 0 then throw (.payload .invalidPasscode)
  let some discriminator := newShortDiscriminator discriminator.toUInt8 | throw .panic
  let payload : SetupPayload :=
    { version := 0, vendorID := 0, productID := 0, commissioningFlow := 0,
      discoveryCapabilities := 0, hasDiscoveryCapabilities := false, discriminator,
      passcode := passcode, optionalData := none }
  if isLongCode then
    let (vendorID, pos) ← parseDigits codeWithoutCheck pos vendorIDLength
    if vendorID > vendorIDMax then throw .invalidVendorID
    let (productID, _) ← parseDigits codeWithoutCheck pos productIDLength
    if productID > productIDMax then throw .invalidProductID
    .ok { payload with
      vendorID := vendorID.toUInt16
      productID := productID.toUInt16
      commissioningFlow := commissioningFlowCustom }
  else .ok { payload with commissioningFlow := commissioningFlowStandard }

/-- `EncodeManualCode`. -/
def encodeManualCode (payload : SetupPayload) : Except ManualCodeError (List Char) := do
  if !payload.isValidManualCode .produce then throw .invalidPayload
  let discriminator := payload.discriminator.short.toUInt32
  let passcode := payload.passcode
  let isLongCode := payload.commissioningFlow == commissioningFlowCustom
  let discMSBs := (discriminator >>> chunk2DiscLSBsLen) &&& ((1 <<< chunk1DiscMSBsLen) - 1)
  let vidPidFlag : UInt32 := if isLongCode then 1 else 0
  let chunk1 := (discMSBs <<< chunk1DiscMSBsPos) ||| (vidPidFlag <<< chunk1VIDPIDFlagPos)
  let discLSBs := discriminator &&& ((1 <<< chunk2DiscLSBsLen) - 1)
  let passcodeLSBs := passcode &&& ((1 <<< chunk2PasscodeLSBsLen) - 1)
  let chunk2 := (passcodeLSBs <<< chunk2PasscodeLSBsPos) ||| (discLSBs <<< chunk2DiscLSBsPos)
  let passcodeMSBs :=
    (passcode >>> chunk2PasscodeLSBsLen) &&& ((1 <<< chunk3PasscodeMSBsLen) - 1)
  let chunk3 := passcodeMSBs <<< chunk3PasscodeMSBsPos
  let sb := formatUint chunk1.toNat ++ padLeft (formatUint chunk2.toNat) chunk2Length ++
    padLeft (formatUint chunk3.toNat) chunk3Length
  let sb :=
    if isLongCode then
      sb ++ padLeft (formatUint payload.vendorID.toNat) vendorIDLength ++
        padLeft (formatUint payload.productID.toNat) productIDLength
    else sb
  let checkDigit ← (verhoeffCompute sb).mapError .verhoeff
  .ok (sb ++ [checkDigit])

/-! ## The chunks' values -/

/-- The first chunk holds the two high bits of the discriminator and the VID/PID flag. -/
theorem toNat_chunk1 (discriminator : UInt32) (isLongCode : Bool)
    (hd : discriminator.toNat < 2 ^ 4) :
    ((discriminator >>> chunk2DiscLSBsLen &&& ((1 <<< chunk1DiscMSBsLen) - 1)) <<<
        chunk1DiscMSBsPos ||| (if isLongCode then 1 else 0 : UInt32) <<< chunk1VIDPIDFlagPos).toNat =
      discriminator.toNat / 2 ^ 2 + if isLongCode then 2 ^ 2 else 0 := by
  have hmsb : (discriminator >>> chunk2DiscLSBsLen &&& ((1 <<< chunk1DiscMSBsLen) - 1)).toNat =
      discriminator.toNat / 2 ^ 2 := by
    rw [GoWord.toNat_shiftRight_and_mask _ _ _ (k := 2) (by decide) (by decide)]
    simp only [chunk2DiscLSBsLen, UInt32.reduceToNat]
    omega
  have hflag : (if isLongCode then 1 else 0 : UInt32).toNat = if isLongCode then 1 else 0 := by
    cases isLongCode <;> rfl
  have h2 : chunk1VIDPIDFlagPos.toNat = 2 := rfl
  rw [chunk1DiscMSBsPos, UInt32.shiftLeft_zero,
    GoWord.toNat_or_shiftLeft _ _ _ (by decide) (by rw [hmsb, h2]; omega)
      (by rw [hflag, h2]; split <;> omega),
    hmsb, hflag, h2]
  split <;> omega

/-- The second chunk holds the 14 low bits of the passcode and the two low bits of the
discriminator. -/
theorem toNat_chunk2 (discriminator passcode : UInt32) :
    ((passcode &&& ((1 <<< chunk2PasscodeLSBsLen) - 1)) <<< chunk2PasscodeLSBsPos |||
        (discriminator &&& ((1 <<< chunk2DiscLSBsLen) - 1)) <<< chunk2DiscLSBsPos).toNat =
      passcode.toNat % 2 ^ 14 + discriminator.toNat % 2 ^ 2 * 2 ^ 14 := by
  have hlsb := GoWord.toNat_and_mask passcode ((1 <<< chunk2PasscodeLSBsLen) - 1) (k := 14)
    (by decide)
  have hdisc := GoWord.toNat_and_mask discriminator ((1 <<< chunk2DiscLSBsLen) - 1) (k := 2)
    (by decide)
  have h14 : chunk2DiscLSBsPos.toNat = 14 := rfl
  rw [chunk2PasscodeLSBsPos, UInt32.shiftLeft_zero,
    GoWord.toNat_or_shiftLeft _ _ _ (by decide) (by rw [hlsb, h14]; omega)
      (by rw [hdisc, h14]; omega),
    hlsb, hdisc, h14]

/-- The third chunk holds the 13 high bits of a passcode of 27 bits. -/
theorem toNat_chunk3 (passcode : UInt32) (hp : passcode.toNat < 2 ^ 27) :
    ((passcode >>> chunk2PasscodeLSBsLen &&& ((1 <<< chunk3PasscodeMSBsLen) - 1)) <<<
        chunk3PasscodeMSBsPos).toNat = passcode.toNat / 2 ^ 14 := by
  rw [chunk3PasscodeMSBsPos, UInt32.shiftLeft_zero,
    GoWord.toNat_shiftRight_and_mask _ _ _ (k := 13) (by decide) (by decide)]
  have h14 : chunk2PasscodeLSBsLen.toNat = 14 := rfl
  rw [h14]
  omega

/-- `ParseManualCode` reads the VID/PID flag from bit 2 of the first chunk. -/
theorem toNat_hasVIDPID (chunk1 : UInt32) :
    ((chunk1 >>> chunk1VIDPIDFlagPos) &&& 1).toNat = chunk1.toNat / 2 ^ 2 % 2 ^ 1 :=
  GoWord.toNat_shiftRight_and_mask _ _ _ (by decide) (by decide)

/-- `ParseManualCode` reads the discriminator from the low two bits of the first chunk and bits
14 and 15 of the second. -/
theorem toNat_parsedDiscriminator (chunk1 chunk2 : UInt32) :
    ((chunk1 >>> chunk1DiscMSBsPos &&& ((1 <<< chunk1DiscMSBsLen) - 1)) <<< chunk2DiscLSBsLen |||
        (chunk2 >>> chunk2DiscLSBsPos &&& ((1 <<< chunk2DiscLSBsLen) - 1))).toNat =
      chunk2.toNat / 2 ^ 14 % 2 ^ 2 + chunk1.toNat % 2 ^ 2 * 2 ^ 2 := by
  have hmsb := GoWord.toNat_shiftRight_and_mask chunk1 chunk1DiscMSBsPos
    ((1 <<< chunk1DiscMSBsLen) - 1) (k := 2) (by decide) (by decide)
  have hlsb := GoWord.toNat_shiftRight_and_mask chunk2 chunk2DiscLSBsPos
    ((1 <<< chunk2DiscLSBsLen) - 1) (k := 2) (by decide) (by decide)
  have h0 : chunk1DiscMSBsPos.toNat = 0 := rfl
  have h2 : chunk2DiscLSBsLen.toNat = 2 := rfl
  have h14 : chunk2DiscLSBsPos.toNat = 14 := rfl
  rw [h0] at hmsb
  rw [h14] at hlsb
  rw [UInt32.or_comm, GoWord.toNat_or_shiftLeft _ _ _ (by decide) (by rw [hlsb, h2]; omega)
      (by rw [hmsb, h2]; omega), hlsb, hmsb, h2]
  simp

/-- `ParseManualCode` reads the passcode from the low 13 bits of the third chunk, above the low
14 bits of the second. -/
theorem toNat_parsedPasscode (chunk2 chunk3 : UInt32) :
    ((chunk3 >>> chunk3PasscodeMSBsPos &&& ((1 <<< chunk3PasscodeMSBsLen) - 1)) <<<
        chunk2PasscodeLSBsLen |||
        (chunk2 >>> chunk2PasscodeLSBsPos &&& ((1 <<< chunk2PasscodeLSBsLen) - 1))).toNat =
      chunk2.toNat % 2 ^ 14 + chunk3.toNat % 2 ^ 13 * 2 ^ 14 := by
  have hmsb := GoWord.toNat_shiftRight_and_mask chunk3 chunk3PasscodeMSBsPos
    ((1 <<< chunk3PasscodeMSBsLen) - 1) (k := 13) (by decide) (by decide)
  have hlsb := GoWord.toNat_shiftRight_and_mask chunk2 chunk2PasscodeLSBsPos
    ((1 <<< chunk2PasscodeLSBsLen) - 1) (k := 14) (by decide) (by decide)
  have h0 : chunk3PasscodeMSBsPos.toNat = 0 := rfl
  have h0' : chunk2PasscodeLSBsPos.toNat = 0 := rfl
  have h14 : chunk2PasscodeLSBsLen.toNat = 14 := rfl
  rw [h0] at hmsb
  rw [h0'] at hlsb
  rw [UInt32.or_comm, GoWord.toNat_or_shiftLeft _ _ _ (by decide) (by rw [hlsb, h14]; omega)
      (by rw [hmsb, h14]; omega), hlsb, hmsb, h14]
  simp

/-! ## Zero-padded decimal fields -/

theorem isDecimalDigit_eq_isDigit (ch : Char) : isDecimalDigit ch = ch.isDigit := by
  simp [isDecimalDigit, Char.isDigit, Char.le_def]

theorem padLeft_formatUint_eq (n w : Nat) :
    ∃ k, padLeft (formatUint n) w = List.replicate k '0' ++ formatUint n := by
  unfold padLeft
  split
  · exact ⟨0, rfl⟩
  · exact ⟨_, rfl⟩

/-- A number below `10 ^ w` padded to `w` digits has `w` digits. -/
theorem length_padLeft_formatUint {n w : Nat} (hw : 0 < w) (hn : n < 10 ^ w) :
    (padLeft (formatUint n) w).length = w := by
  have hle := length_formatUint_le hw hn
  unfold padLeft
  split
  · omega
  · simp only [List.length_append, List.length_replicate]
    omega

theorem isDecimalDigit_of_mem_padLeft {n w : Nat} {c : Char}
    (h : c ∈ padLeft (formatUint n) w) : isDecimalDigit c = true := by
  obtain ⟨k, hk⟩ := padLeft_formatUint_eq n w
  rw [hk] at h
  rcases List.mem_append.mp h with h | h
  · rw [List.eq_of_mem_replicate h]
    rfl
  · rw [isDecimalDigit_eq_isDigit]
    exact isDigit_of_mem_formatUint h

/-- A zero-padded number parses back. -/
theorem parseUint_padLeft_formatUint {n : Nat} (w : Nat) (hn : n < 2 ^ 32) :
    parseUint (padLeft (formatUint n) w) 32 = some n := by
  obtain ⟨k, hk⟩ := padLeft_formatUint_eq n w
  rw [hk]
  exact parseUint_zeros_formatUint k n 32 hn

/-- **`parseDigits` reads a field** of `n` digits at `pos`, and moves past it. -/
theorem parseDigits_field {code l m r : List Char} {pos n v : Nat} (hcode : code = l ++ m ++ r)
    (hpos : l.length = pos) (hm : m.length = n) (hv : parseUint m 32 = some v) :
    parseDigits code pos n = .ok (v.toUInt32, pos + n) := by
  subst hcode hpos hm
  have hfield : ((l ++ m ++ r).drop l.length).take m.length = m := by simp
  have hlen : ¬ l.length + m.length > (l ++ m ++ r).length := by simp
  rw [parseDigits, if_neg hlen, hfield, hv]

/-- A number below 10 is one digit. -/
theorem length_formatUint_of_lt_ten {n : Nat} (hn : n < 10) : (formatUint n).length = 1 := by
  have hle := length_formatUint_le (w := 1) (by decide) hn
  have hpos : 0 < (formatUint n).length := Nat.length_toDigits_pos
  omega

theorem parseUint_formatUint {n : Nat} (hn : n < 2 ^ 32) : parseUint (formatUint n) 32 = some n := by
  simpa using parseUint_zeros_formatUint 0 n 32 hn

/-- The three chunks are 10 digits. -/
theorem length_chunks {c1 c2 c3 : Nat} (h1 : c1 < 10) (h2 : c2 < 10 ^ 5) (h3 : c3 < 10 ^ 4) :
    (formatUint c1 ++ padLeft (formatUint c2) chunk2Length ++
      padLeft (formatUint c3) chunk3Length).length = manualCodeShortLength := by
  rw [List.length_append, List.length_append, length_formatUint_of_lt_ten h1,
    length_padLeft_formatUint (w := chunk2Length) (by decide) h2,
    length_padLeft_formatUint (w := chunk3Length) (by decide) h3]
  rfl

/-! ## Encoding -/

/-- The digits `EncodeManualCode` writes before the check digit: the three chunks as numbers,
then for the custom flow the vendor and product IDs, each zero-padded to its width but the
first. -/
def manualCodeDigits (p : SetupPayload) : List Char :=
  let discriminator := p.discriminator.short.toNat
  let isLongCode := p.commissioningFlow == commissioningFlowCustom
  let sb := formatUint (discriminator / 2 ^ 2 + if isLongCode then 2 ^ 2 else 0) ++
    padLeft (formatUint (p.passcode.toNat % 2 ^ 14 + discriminator % 2 ^ 2 * 2 ^ 14))
      chunk2Length ++
    padLeft (formatUint (p.passcode.toNat / 2 ^ 14)) chunk3Length
  if isLongCode then
    sb ++ padLeft (formatUint p.vendorID.toNat) vendorIDLength ++
      padLeft (formatUint p.productID.toNat) productIDLength
  else sb

/-- **`EncodeManualCode` writes the fields and their check digit**, for a payload valid for a
manual code: the shifts and masks put the discriminator's and the passcode's bits in the
chunks `manualCodeDigits` gives. -/
theorem encodeManualCode_eq {p : SetupPayload} (hvalid : p.isValidManualCode .produce = true) :
    encodeManualCode p = (verhoeffCompute (manualCodeDigits p)).mapError .verhoeff >>=
      fun checkDigit => .ok (manualCodeDigits p ++ [checkDigit]) := by
  have hd : p.discriminator.short.toUInt32.toNat < 2 ^ 4 := by
    rw [UInt8.toNat_toUInt32]
    exact p.discriminator.toNat_short_lt
  have hp := (isValidManualCode_passcode hvalid).2
  simp only [encodeManualCode, hvalid, Bool.not_true, Bool.false_eq_true, if_false]
  rw [toNat_chunk1 _ _ hd, toNat_chunk2, toNat_chunk3 _ hp, UInt8.toNat_toUInt32]
  rfl

/-- The fields as the three chunks and what follows them. -/
theorem manualCodeDigits_eq (p : SetupPayload) :
    manualCodeDigits p =
      formatUint (p.discriminator.short.toNat / 2 ^ 2 +
          if (p.commissioningFlow == commissioningFlowCustom) then 2 ^ 2 else 0) ++
        padLeft (formatUint (p.passcode.toNat % 2 ^ 14 +
          p.discriminator.short.toNat % 2 ^ 2 * 2 ^ 14)) chunk2Length ++
        padLeft (formatUint (p.passcode.toNat / 2 ^ 14)) chunk3Length ++
        if (p.commissioningFlow == commissioningFlowCustom) then
          padLeft (formatUint p.vendorID.toNat) vendorIDLength ++
            padLeft (formatUint p.productID.toNat) productIDLength
        else [] := by
  simp only [manualCodeDigits]
  split <;> simp

/-- Every field is written in decimal digits. -/
theorem isDecimalDigit_of_mem_manualCodeDigits {p : SetupPayload} {c : Char}
    (h : c ∈ manualCodeDigits p) : isDecimalDigit c = true := by
  rw [manualCodeDigits_eq] at h
  simp only [List.mem_append] at h
  rcases h with ((h | h) | h) | h
  · rw [isDecimalDigit_eq_isDigit]
    exact isDigit_of_mem_formatUint h
  · exact isDecimalDigit_of_mem_padLeft h
  · exact isDecimalDigit_of_mem_padLeft h
  · split at h
    · rcases List.mem_append.mp h with h | h <;> exact isDecimalDigit_of_mem_padLeft h
    · cases h

/-- **The fields are 10 digits, or 20 for the custom flow.** -/
theorem length_manualCodeDigits {p : SetupPayload} (hvalid : p.isValidManualCode .produce = true) :
    (manualCodeDigits p).length =
      if p.commissioningFlow = commissioningFlowCustom then manualCodeLongLength
      else manualCodeShortLength := by
  have hd := p.discriminator.toNat_short_lt
  simp only [discriminatorShortBits] at hd
  have hp := (isValidManualCode_passcode hvalid).2
  have hS := @length_chunks (p.discriminator.short.toNat / 2 ^ 2 +
    if (p.commissioningFlow == commissioningFlowCustom) then 2 ^ 2 else 0) _ _
    (by split <;> omega)
    (by omega : p.passcode.toNat % 2 ^ 14 + p.discriminator.short.toNat % 2 ^ 2 * 2 ^ 14 < 10 ^ 5)
    (by omega : p.passcode.toNat / 2 ^ 14 < 10 ^ 4)
  rw [manualCodeDigits_eq, List.length_append, hS]
  by_cases hflow : p.commissioningFlow = commissioningFlowCustom
  · have hv16 := p.vendorID.toNat_lt
    have hp16 := p.productID.toNat_lt
    simp only [hflow, beq_self_eq_true, if_true, List.length_append]
    rw [length_padLeft_formatUint (w := vendorIDLength) (by decide)
        (show p.vendorID.toNat < 10 ^ 5 by omega),
      length_padLeft_formatUint (w := productIDLength) (by decide)
        (show p.productID.toNat < 10 ^ 5 by omega)]
    rfl
  · simp [hflow]

/-! ## Parsing -/

/-- **The three chunks read back** at positions 0, 1 and 6, as words of their values. -/
theorem parseDigits_chunks {code T : List Char} {c1 c2 c3 : Nat} (h1 : c1 < 10)
    (h2 : c2 < 10 ^ 5) (h3 : c3 < 10 ^ 4)
    (hcode : code = formatUint c1 ++ padLeft (formatUint c2) chunk2Length ++
      padLeft (formatUint c3) chunk3Length ++ T) :
    ∃ chunk1 chunk2 chunk3 : UInt32,
      chunk1.toNat = c1 ∧ chunk2.toNat = c2 ∧ chunk3.toNat = c3 ∧
      parseDigits code 0 chunk1Length = .ok (chunk1, 1) ∧
      parseDigits code 1 chunk2Length = .ok (chunk2, 6) ∧
      parseDigits code 6 chunk3Length = .ok (chunk3, 10) := by
  have hl1 := length_formatUint_of_lt_ten h1
  have hl2 := length_padLeft_formatUint (w := chunk2Length) (by decide) h2
  have hl3 := length_padLeft_formatUint (w := chunk3Length) (by decide) h3
  refine ⟨_, _, _, UInt32.toNat_ofNat_of_lt' (by unfold UInt32.size; omega),
    UInt32.toNat_ofNat_of_lt' (by unfold UInt32.size; omega),
    UInt32.toNat_ofNat_of_lt' (by unfold UInt32.size; omega), ?_, ?_, ?_⟩
  · exact parseDigits_field (l := [])
      (r := padLeft (formatUint c2) chunk2Length ++ padLeft (formatUint c3) chunk3Length ++ T)
      (by rw [hcode]; simp) rfl hl1 (parseUint_formatUint (by omega))
  · exact parseDigits_field (r := padLeft (formatUint c3) chunk3Length ++ T)
      (by rw [hcode]; simp) hl1 hl2 (parseUint_padLeft_formatUint _ (by omega))
  · refine parseDigits_field (l := _ ++ _) (by rw [hcode]) ?_ hl3
      (parseUint_padLeft_formatUint _ (by omega))
    rw [List.length_append, hl1, hl2]
    rfl

/-- **The vendor and product IDs read back** at positions 10 and 15 of a long code, as words of
their values. -/
theorem parseDigits_ids {code S : List Char} {vendorID productID : Nat}
    (hlen : code.length = manualCodeLongLength) (hv : vendorID < 2 ^ 16) (hp : productID < 2 ^ 16)
    (hcode : code = S ++ padLeft (formatUint vendorID) vendorIDLength ++
      padLeft (formatUint productID) productIDLength) :
    ∃ v w : UInt32, v.toNat = vendorID ∧ w.toNat = productID ∧
      parseDigits code 10 vendorIDLength = .ok (v, 15) ∧
      parseDigits code 15 productIDLength = .ok (w, 20) := by
  have hl4 := length_padLeft_formatUint (w := vendorIDLength) (by decide)
    (show vendorID < 10 ^ 5 by omega)
  have hl5 := length_padLeft_formatUint (w := productIDLength) (by decide)
    (show productID < 10 ^ 5 by omega)
  -- the chunks before the IDs are the other 10 digits
  have hS : S.length = 10 := by
    rw [hcode, List.length_append, List.length_append, hl4, hl5] at hlen
    exact Nat.add_right_cancel (Nat.add_right_cancel hlen)
  refine ⟨_, _, UInt32.toNat_ofNat_of_lt' (by unfold UInt32.size; omega),
    UInt32.toNat_ofNat_of_lt' (by unfold UInt32.size; omega), ?_, ?_⟩
  · exact parseDigits_field (r := padLeft (formatUint productID) productIDLength) hcode hS hl4
      (parseUint_padLeft_formatUint _ (by omega))
  · refine parseDigits_field (l := _ ++ _) (r := []) (by rw [hcode, List.append_nil]) ?_ hl5
      (parseUint_padLeft_formatUint _ (by omega))
    rw [List.length_append, hS, hl4]
    rfl

/-- **`ParseManualCode` reads the fields back** from any string whose digits are the fields and
their check digit. -/
theorem parseManualCode_manualCodeDigits {p : SetupPayload}
    (hvalid : p.isValidManualCode .produce = true) {k : Char}
    (hk : verhoeffCompute (manualCodeDigits p) = .ok k) {s : List Char}
    (hs : stripFormatting s = manualCodeDigits p ++ [k]) :
    ∃ q, parseManualCode s = .ok q ∧ q.passcode = p.passcode ∧
      q.discriminator.isShort = true ∧ q.discriminator.short = p.discriminator.short ∧
      (q.vendorID, q.productID, q.commissioningFlow) =
        if p.commissioningFlow = commissioningFlowCustom then
          (p.vendorID, p.productID, commissioningFlowCustom)
        else (0, 0, commissioningFlowStandard) := by
  have hD := manualCodeDigits_eq p
  have hd := p.discriminator.toNat_short_lt
  simp only [discriminatorShortBits] at hd
  obtain ⟨hp0, hp⟩ := isValidManualCode_passcode hvalid
  -- the stripped code checks, and its digits before the check digit are the fields
  have hne : manualCodeDigits p ≠ [] := by
    rw [hD]
    simp [formatUint]
  have hcheck := (verhoeffValidate_concat hne k).mpr hk
  have htake : (manualCodeDigits p ++ [k]).take ((manualCodeDigits p ++ [k]).length - 1) =
      manualCodeDigits p := by simp
  obtain ⟨u1, u2, u3, hu1, hu2, hu3, hc1, hc2, hc3⟩ :=
    parseDigits_chunks (by split <;> omega) (by omega) (by omega) hD
  -- what `ParseManualCode` computes from the chunks
  have h8 : ¬ u1 ≥ 8 := by
    rw [ge_iff_le, UInt32.le_iff_toNat_le, hu1]
    split <;> simp <;> omega
  have hpass : ((u3 >>> chunk3PasscodeMSBsPos &&& ((1 <<< chunk3PasscodeMSBsLen) - 1)) <<<
      chunk2PasscodeLSBsLen |||
      (u2 >>> chunk2PasscodeLSBsPos &&& ((1 <<< chunk2PasscodeLSBsLen) - 1))) = p.passcode :=
    UInt32.toNat_inj.mp (by rw [toNat_parsedPasscode, hu2, hu3]; omega)
  have hdisc : ((u1 >>> chunk1DiscMSBsPos &&& ((1 <<< chunk1DiscMSBsLen) - 1)) <<<
      chunk2DiscLSBsLen |||
      (u2 >>> chunk2DiscLSBsPos &&& ((1 <<< chunk2DiscLSBsLen) - 1))).toUInt8 =
        p.discriminator.short :=
    UInt8.toNat_inj.mp (by rw [UInt32.toNat_toUInt8, toNat_parsedDiscriminator, hu1, hu2]; split <;> omega)
  obtain ⟨dq, hdq, hshort, hdqshort⟩ :=
    @newShortDiscriminator_of_le p.discriminator.short
      (by simp only [UInt8.le_iff_toNat_le, UInt8.reduceToNat]; omega)
  have hpass0 : p.passcode ≠ 0 := fun h => by simp [h] at hp0
  simp only [parseManualCode, hs, hcheck, htake, Bool.not_true, Bool.false_eq_true, if_false, hc1,
    hc2, hc3, Except.ok_bind, Except.pure_eq_ok, h8, hpass, hdisc, hdq, hpass0]
  -- a short code for the other flows, a long one with the IDs for the custom flow
  -- a short code for the other flows, a long one with the IDs for the custom flow
  have hlen := length_manualCodeDigits hvalid
  have hlong : manualCodeLongLength ≠ manualCodeShortLength := by decide
  cases hl : (p.commissioningFlow == commissioningFlowCustom) with
  | false =>
    have hflow : p.commissioningFlow ≠ commissioningFlowCustom := by simpa using hl
    simp only [hl, Bool.false_eq_true, if_false] at hu1
    have hbit : (u1 >>> chunk1VIDPIDFlagPos &&& 1) = 0 :=
      UInt32.toNat_inj.mp (by rw [toNat_hasVIDPID, hu1]; simp; omega)
    simp only [hlen, hflow, if_true, if_false, hbit]
    rw [if_neg (by decide)]
    exact ⟨_, rfl, rfl, hshort, hdqshort, rfl⟩
  | true =>
    have hflow : p.commissioningFlow = commissioningFlowCustom := by simpa using hl
    simp only [hl, if_true] at hD hu1
    have hbit : (u1 >>> chunk1VIDPIDFlagPos &&& 1) = 1 :=
      UInt32.toNat_inj.mp (by rw [toNat_hasVIDPID, hu1]; simp; omega)
    rw [if_pos hflow] at hlen
    have hv16 := p.vendorID.toNat_lt
    have hp16 := p.productID.toNat_lt
    obtain ⟨v, w, hv, hw, hc4, hc5⟩ :=
      parseDigits_ids hlen hv16 hp16 (hD.trans (List.append_assoc _ _ _).symm)
    have hvmax : ¬ v > vendorIDMax := by
      rw [gt_iff_lt, UInt32.lt_iff_toNat_lt, hv]
      exact Nat.not_lt.mpr (Nat.le_of_lt_succ hv16)
    have hwmax : ¬ w > productIDMax := by
      rw [gt_iff_lt, UInt32.lt_iff_toNat_lt, hw]
      exact Nat.not_lt.mpr (Nat.le_of_lt_succ hp16)
    have hvid : v.toUInt16 = p.vendorID :=
      UInt16.toNat_inj.mp (by rw [UInt32.toNat_toUInt16, hv]; exact Nat.mod_eq_of_lt hv16)
    have hpid : w.toUInt16 = p.productID :=
      UInt16.toNat_inj.mp (by rw [UInt32.toNat_toUInt16, hw]; exact Nat.mod_eq_of_lt hp16)
    simp only [hlen, hlong, hbit, hc4, hc5, hvmax, hwmax, hvid, hpid, Except.ok_bind, if_true,
      if_false]
    rw [if_neg (by decide)]
    exact ⟨_, rfl, rfl, hshort, hdqshort, by simp [hflow]⟩

/-! ## The round trip -/

/-- **Manual pairing codes round trip.** For a payload valid for a manual code,
`EncodeManualCode` gives a code of 11 decimal digits, or 21 for the custom flow. `ParseManualCode`
succeeds on every string whose digits, in order, are the code: the code itself, and the code with
any other characters inserted anywhere. It returns the payload's passcode and short
discriminator, with the payload's vendor and product IDs and the custom flow for a long code, and
zero IDs and the standard flow for a short one. -/
theorem parseManualCode_encodeManualCode {p : SetupPayload}
    (hvalid : p.isValidManualCode .produce = true) :
    ∃ code, encodeManualCode p = .ok code ∧ (∀ ch ∈ code, isDecimalDigit ch = true) ∧
      code.length = (if p.commissioningFlow = commissioningFlowCustom then 21 else 11) ∧
      ∀ s : List Char, s.filter isDecimalDigit = code →
        ∃ q, parseManualCode s = .ok q ∧ q.passcode = p.passcode ∧
          q.discriminator.isShort = true ∧ q.discriminator.short = p.discriminator.short ∧
          (q.vendorID, q.productID, q.commissioningFlow) =
            if p.commissioningFlow = commissioningFlowCustom then
              (p.vendorID, p.productID, commissioningFlowCustom)
            else (0, 0, commissioningFlowStandard) := by
  have hlen := length_manualCodeDigits hvalid
  have hne : manualCodeDigits p ≠ [] := by
    intro h
    rw [h] at hlen
    split at hlen <;> simp [manualCodeLongLength, manualCodeShortLength] at hlen
  -- the check digit of the fields
  obtain ⟨k, hk, hkdigit⟩ :
      ∃ k, verhoeffCompute (manualCodeDigits p) = .ok k ∧ isDecimalDigit k = true :=
    ⟨_, verhoeffCompute_eq hne (fun _ => isDecimalDigit_of_mem_manualCodeDigits),
      (checkChar_spec _).1⟩
  refine ⟨manualCodeDigits p ++ [k], by rw [encodeManualCode_eq hvalid, hk]; rfl, ?_, ?_, ?_⟩
  · intro ch hch
    rcases List.mem_append.mp hch with h | h
    · exact isDecimalDigit_of_mem_manualCodeDigits h
    · rw [List.mem_singleton.mp h]
      exact hkdigit
  · rw [List.length_append, hlen]
    split <;> rfl
  · intro s hs
    exact parseManualCode_manualCodeDigits hvalid hk hs

/-- The payload of the package's "long code full" test: discriminator 2560, passcode 12345679,
vendor 45367, product 14526, custom flow. -/
def longCodePayload : SetupPayload :=
  { version := 0, vendorID := 45367, productID := 14526,
    commissioningFlow := commissioningFlowCustom, discoveryCapabilities := 0,
    hasDiscoveryCapabilities := false, discriminator := ⟨2560, false, by decide⟩,
    passcode := 12345679, optionalData := none }

example : encodeManualCode longCodePayload = .ok "641295075345367145262".toList := by decide

theorem parseManualCode_encodeManualCode_longCode :
    longCodePayload.isValidManualCode .produce = true ∧
      ∃ code, encodeManualCode longCodePayload = .ok code ∧
        (∀ ch ∈ code, isDecimalDigit ch = true) ∧
        code.length =
          (if longCodePayload.commissioningFlow = commissioningFlowCustom then 21 else 11) ∧
        ∀ s : List Char, s.filter isDecimalDigit = code →
          ∃ q, parseManualCode s = .ok q ∧ q.passcode = longCodePayload.passcode ∧
            q.discriminator.isShort = true ∧
            q.discriminator.short = longCodePayload.discriminator.short ∧
            (q.vendorID, q.productID, q.commissioningFlow) =
              if longCodePayload.commissioningFlow = commissioningFlowCustom then
                (longCodePayload.vendorID, longCodePayload.productID, commissioningFlowCustom)
              else (0, 0, commissioningFlowStandard) :=
  ⟨by decide, parseManualCode_encodeManualCode (by decide)⟩

end Matter.Payload
