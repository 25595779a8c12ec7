import Matter.Payload.OptionalData

/-!
# The setup payload (`pkg/commissioning/payload/payload.go`)

`SetupPayload` holds what a QR code or a manual pairing code carries. Its discriminator is a
12-bit value from a QR code or the 4 high bits from a manual code; `NewLongDiscriminator` and
`NewShortDiscriminator` panic on a value past those widths, so every `Discriminator` the package
builds is within them, and `Discriminator` carries that bound as a field. `Long` panics on a
short discriminator, which is `none` here.

`Validate` checks the version, the passcode, and in the produce mode the commissioning flow and
the discovery capabilities; `IsValidQRCodePayload` adds that a QR code has discovery
capabilities and a long discriminator.

Results:
* `isValidQRCodePayload_fields`: a payload valid for a QR code in the produce mode has version
  0, a passcode below `2 ^ 27`, a commissioning flow below 4, discovery capabilities and a long
  discriminator below `2 ^ 12`: every field fits the width the QR code gives it.
-/

namespace Matter.Payload

/-- `DiscriminatorLongBits`. -/
def discriminatorLongBits : Nat := 12

/-- `DiscriminatorShortBits`. -/
def discriminatorShortBits : Nat := 4

/-- `Discriminator`: a 12-bit long or a 4-bit short value. -/
structure Discriminator where
  value : UInt16
  isShort : Bool
  value_le : value ≤ if isShort then 0xF else 0xFFF

/-- `NewLongDiscriminator`; `none` where Go panics. -/
def newLongDiscriminator (value : UInt16) : Option Discriminator :=
  if h : value ≤ 0xFFF then some ⟨value, false, by simpa using h⟩ else none

/-- `NewShortDiscriminator`; `none` where Go panics. -/
def newShortDiscriminator (value : UInt8) : Option Discriminator :=
  if h : value ≤ 0xF then
    some ⟨value.toUInt16, true, by simpa [UInt8.le_iff_toNat_le, UInt16.le_iff_toNat_le] using h⟩
  else none

/-- `Long`; `none` where Go panics, on a short discriminator. -/
def Discriminator.long (d : Discriminator) : Option UInt16 :=
  if d.isShort then none else some d.value

/-- `Short`: a short discriminator's value, or the 4 high bits of a long one. -/
def Discriminator.short (d : Discriminator) : UInt8 :=
  if d.isShort then d.value.toUInt8
  else (d.value >>> (discriminatorLongBits - discriminatorShortBits).toUInt16).toUInt8

/-- A value of 4 bits makes a short discriminator whose `Short` is the value. -/
theorem newShortDiscriminator_of_le {value : UInt8} (h : value ≤ 0xF) :
    ∃ d, newShortDiscriminator value = some d ∧ d.isShort = true ∧ d.short = value :=
  ⟨_, dif_pos h, rfl, by simp [Discriminator.short, UInt8.toUInt8_toUInt16]⟩

/-- Two discriminators are equal when their value and their kind are. -/
@[ext] theorem Discriminator.ext {d d' : Discriminator} (hv : d.value = d'.value)
    (hs : d.isShort = d'.isShort) : d = d' := by
  cases d
  cases d'
  simp_all

/-- `DiscoveryCapabilities`, an 8-bit mask. -/
abbrev DiscoveryCapabilities := UInt8

def discoveryCapabilitySoftAP : DiscoveryCapabilities := (1 : UInt8) <<< 0
def discoveryCapabilityBLE : DiscoveryCapabilities := (1 : UInt8) <<< 1
def discoveryCapabilityOnNetwork : DiscoveryCapabilities := (1 : UInt8) <<< 2
def discoveryCapabilityWiFiPAF : DiscoveryCapabilities := (1 : UInt8) <<< 3
def discoveryCapabilityNFC : DiscoveryCapabilities := (1 : UInt8) <<< 4

/-- `CommissioningFlow`, a `uint8`: the QR code has room for the values 0 to 3. -/
abbrev CommissioningFlow := UInt8

/-- `CommissioningFlowStandard`. -/
def commissioningFlowStandard : CommissioningFlow := 0

/-- `CommissioningFlowCustom`. -/
def commissioningFlowCustom : CommissioningFlow := 2

/-- `SetupPayload`. -/
structure SetupPayload where
  version : UInt8
  vendorID : UInt16
  productID : UInt16
  commissioningFlow : CommissioningFlow
  discoveryCapabilities : DiscoveryCapabilities
  hasDiscoveryCapabilities : Bool
  discriminator : Discriminator
  passcode : UInt32
  optionalData : Option OptionalData

/-- `ValidationMode`. -/
inductive ValidationMode
  | produce
  | consume
  deriving DecidableEq, Repr

/-- `PasscodeMin`. -/
def passcodeMin : UInt32 := 1
/-- `PasscodeMax`. -/
def passcodeMax : UInt32 := 99999998

/-- The keys of `invalidPasscodes`. -/
def invalidPasscodes : List UInt32 :=
  [0, 11111111, 22222222, 33333333, 44444444, 55555555, 66666666, 77777777, 88888888, 99999999,
    12345678, 87654321]

/-- The errors of `Validate`. -/
inductive PayloadError
  /-- `ErrInvalidVersion`: "payload: invalid version (must be 0)". -/
  | invalidVersion
  /-- `ErrInvalidPasscode`: "payload: invalid passcode". -/
  | invalidPasscode
  /-- `ErrInvalidCommissioningFlow`: "payload: invalid commissioning flow". -/
  | invalidCommissioningFlow
  /-- `ErrInvalidDiscoveryCapabilities`: "payload: invalid discovery capabilities". -/
  | invalidDiscoveryCapabilities
  deriving DecidableEq, Repr

/-- `ValidatePasscode`. -/
def validatePasscode (passcode : UInt32) : Except PayloadError Unit :=
  if passcode < passcodeMin || passcode > passcodeMax then .error .invalidPasscode
  else if invalidPasscodes.contains passcode then .error .invalidPasscode
  else .ok ()

/-- `Validate`. -/
def SetupPayload.validate (p : SetupPayload) (mode : ValidationMode) : Except PayloadError Unit :=
  if p.version ≠ 0 then .error .invalidVersion
  else do
    validatePasscode p.passcode
    if mode = .produce && p.commissioningFlow > commissioningFlowCustom then
      throw .invalidCommissioningFlow
    if p.hasDiscoveryCapabilities && mode = .produce then
      let knownBits := discoveryCapabilitySoftAP ||| discoveryCapabilityBLE |||
        discoveryCapabilityOnNetwork ||| discoveryCapabilityWiFiPAF ||| discoveryCapabilityNFC
      if p.discoveryCapabilities &&& ~~~knownBits ≠ 0 then throw .invalidDiscoveryCapabilities
    .ok ()

/-- `IsValidQRCodePayload`. -/
def SetupPayload.isValidQRCodePayload (p : SetupPayload) (mode : ValidationMode) : Bool :=
  match p.validate mode with
  | .error _ => false
  | .ok () => p.hasDiscoveryCapabilities && !p.discriminator.isShort

/-- `IsValidManualCode`. -/
def SetupPayload.isValidManualCode (p : SetupPayload) (mode : ValidationMode) : Bool :=
  match p.validate mode with
  | .error _ => false
  | .ok () => true

/-! ## What a valid payload holds -/

/-- A passcode `ValidatePasscode` accepts is at most `PasscodeMax`. -/
theorem le_passcodeMax_of_validatePasscode {passcode : UInt32}
    (h : validatePasscode passcode = .ok ()) : passcode ≤ passcodeMax := by
  unfold validatePasscode at h
  split at h
  · cases h
  · simp_all

/-- A passcode `ValidatePasscode` accepts is at least `PasscodeMin`. -/
theorem passcodeMin_le_of_validatePasscode {passcode : UInt32}
    (h : validatePasscode passcode = .ok ()) : passcodeMin ≤ passcode := by
  unfold validatePasscode at h
  split at h
  · cases h
  · simp_all

/-- `Short` is 4 bits wide. -/
theorem Discriminator.toNat_short_lt (d : Discriminator) :
    d.short.toNat < 2 ^ discriminatorShortBits := by
  have hv := d.value_le
  unfold Discriminator.short
  cases hs : d.isShort with
  | true =>
    simp only [hs, if_true, UInt16.le_iff_toNat_le, UInt16.reduceToNat] at hv ⊢
    simp only [UInt16.toNat_toUInt8, discriminatorShortBits]
    omega
  | false =>
    simp only [hs, Bool.false_eq_true, if_false, UInt16.le_iff_toNat_le, UInt16.reduceToNat]
      at hv ⊢
    -- the shift is by `12 - 4 = 8` bits
    have h8 : (discriminatorLongBits - discriminatorShortBits).toUInt16.toNat % 16 = 8 := rfl
    rw [UInt16.toNat_toUInt8, UInt16.toNat_shiftRight, h8, Nat.shiftRight_eq_div_pow]
    simp only [discriminatorShortBits]
    omega

/-- A payload that passes `Validate` has version 0 and a valid passcode, and in the produce mode
a commissioning flow of at most `CommissioningFlowCustom`. -/
theorem SetupPayload.validate_fields {p : SetupPayload} {mode : ValidationMode}
    (h : p.validate mode = .ok ()) :
    p.version = 0 ∧ validatePasscode p.passcode = .ok () ∧
      (mode = .produce → p.commissioningFlow ≤ commissioningFlowCustom) := by
  unfold validate at h
  split at h
  · cases h
  · rename_i hversion
    obtain ⟨u, hpass, h⟩ := Except.bind_eq_ok.mp h
    cases u
    refine ⟨by simpa using hversion, hpass, fun hmode => ?_⟩
    subst hmode
    by_cases hflow : p.commissioningFlow > commissioningFlowCustom
    · simp [hflow] at h
    · exact UInt8.not_lt.mp hflow

/-- A payload valid for a manual code has a passcode from 1 to below `2 ^ 27`. -/
theorem isValidManualCode_passcode {p : SetupPayload} {mode : ValidationMode}
    (h : p.isValidManualCode mode = true) : 0 < p.passcode.toNat ∧ p.passcode.toNat < 2 ^ 27 := by
  unfold SetupPayload.isValidManualCode at h
  split at h
  · cases h
  · rename_i hvalid
    obtain ⟨-, hpass, -⟩ := SetupPayload.validate_fields hvalid
    have hmin := UInt32.le_iff_toNat_le.mp (passcodeMin_le_of_validatePasscode hpass)
    have hmax := UInt32.le_iff_toNat_le.mp (le_passcodeMax_of_validatePasscode hpass)
    simp only [passcodeMin, passcodeMax, UInt32.reduceToNat] at hmin hmax
    omega

/-- **A payload valid for a QR code fits the QR code's fields**: in the produce mode, its
version is 0, its passcode below `2 ^ 27`, its commissioning flow below `2 ^ 2`, it has discovery
capabilities, and its discriminator is long with a value below `2 ^ 12`. -/
theorem isValidQRCodePayload_fields {p : SetupPayload}
    (h : p.isValidQRCodePayload .produce = true) :
    p.version = 0 ∧ p.passcode.toNat < 2 ^ 27 ∧ p.commissioningFlow.toNat < 2 ^ 2 ∧
      p.hasDiscoveryCapabilities = true ∧ p.discriminator.isShort = false ∧
      p.discriminator.value.toNat < 2 ^ discriminatorLongBits := by
  unfold SetupPayload.isValidQRCodePayload at h
  split at h
  · cases h
  · rename_i hvalid
    obtain ⟨hversion, hpass, hflow⟩ := SetupPayload.validate_fields hvalid
    have hmax := le_passcodeMax_of_validatePasscode hpass
    have hflow := hflow rfl
    simp only [Bool.and_eq_true, Bool.not_eq_true'] at h
    obtain ⟨hcaps, hlong⟩ := h
    have hdisc := p.discriminator.value_le
    simp only [hlong] at hdisc
    refine ⟨hversion, ?_, ?_, hcaps, hlong, ?_⟩
    · have : p.passcode.toNat ≤ 99999998 := UInt32.le_iff_toNat_le.mp hmax
      omega
    · have : p.commissioningFlow.toNat ≤ 2 := UInt8.le_iff_toNat_le.mp hflow
      omega
    · have : p.discriminator.value.toNat ≤ 0xFFF := UInt16.le_iff_toNat_le.mp hdisc
      simp only [discriminatorLongBits]
      omega

end Matter.Payload
