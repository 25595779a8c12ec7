import Matter.Lib.Strconv
import Matter.Lib.GoMap
import Matter.Lib.Except

/-!
# DNS-SD TXT records (`pkg/discovery/txt.go`)

A node advertises its commissionable (`_matterc._udp`), operational (`_matter._tcp`) and
commissioner (`_matterd._udp`) services with TXT records `key=value`; `Encode` writes them,
`ParseTXT` reads records back into a map from key to value (the value after the first `=`, the
last record of a key winning), and the `Parse*TXT` functions read the map's fields, each with
`strconv`. Strings are their bytes: `%d` writes the digits of `Strconv.formatUint` or
`Strconv.formatInt`, and `strconv` reads a value a character per byte (`Strconv.ofBytes`).

A duration is `time.Duration`, an `int64` count of nanoseconds: `Encode` writes its
`Milliseconds()` (a division that truncates), and the parser multiplies the count it reads by
`time.Millisecond`. `CommissioningMode` and `ICDMode` are Go `int`s, 64 bits wide; the parser
reads them with `ParseInt(v, 10, 8)`. The per-key blocks of the parsers are one reader,
`readField`, with the key, the parser and the field write as parameters; `D` and `VP`, which
check more, keep their own blocks.

`Encode` writes no value that `ParseTXT` misreads: keys are distinct, non-empty and hold no `=`,
and a value is what follows the first `=`. What does not read back is what `strconv` refuses
(a mode outside `int8`, a millisecond count past 32 bits) and what `Encode` drops (the name past
32 bytes, the nanoseconds below a millisecond, an ICD mode not marked set).

Results:
* `parse_operational_encode`, `parse_commissioner_encode`, `parse_commissionable_encode`: what
  each `Parse*TXT` returns on the records the matching `Encode` writes, for every record.
-/

namespace Matter.Discovery

open Strconv

/-- The errors of the TXT codec. -/
inductive DiscoveryError
  /-- `ErrInvalidDiscriminator`: "discovery: invalid discriminator (must be 0-4095)". -/
  | invalidDiscriminator
  /-- `ErrInvalidDeviceName`: "discovery: invalid device name (max 32 characters)". -/
  | invalidDeviceName
  /-- `ErrInvalidTXTRecord`: "discovery: invalid TXT record format". -/
  | invalidTXTRecord
  deriving DecidableEq, Repr

/-! ## Keys and limits -/

/-- `TXTKeyDiscriminator`: "D". -/
def txtKeyDiscriminator : List UInt8 := toBytes ['D']

/-- `TXTKeyCommissioningMode`: "CM". -/
def txtKeyCommissioningMode : List UInt8 := toBytes ['C', 'M']

/-- `TXTKeyVendorProduct`: "VP". -/
def txtKeyVendorProduct : List UInt8 := toBytes ['V', 'P']

/-- `TXTKeyDeviceType`: "DT". -/
def txtKeyDeviceType : List UInt8 := toBytes ['D', 'T']

/-- `TXTKeyDeviceName`: "DN". -/
def txtKeyDeviceName : List UInt8 := toBytes ['D', 'N']

/-- `TXTKeyIdleInterval`: "SII". -/
def txtKeyIdleInterval : List UInt8 := toBytes ['S', 'I', 'I']

/-- `TXTKeyActiveInterval`: "SAI". -/
def txtKeyActiveInterval : List UInt8 := toBytes ['S', 'A', 'I']

/-- `TXTKeyTCPSupported`: "T". -/
def txtKeyTCPSupported : List UInt8 := toBytes ['T']

/-- `TXTKeyICDMode`: "ICD". -/
def txtKeyICDMode : List UInt8 := toBytes ['I', 'C', 'D']

/-- `TXTKeyPairingHint`: "PH". -/
def txtKeyPairingHint : List UInt8 := toBytes ['P', 'H']

/-- `TXTKeyPairingInstructions`: "PI". -/
def txtKeyPairingInstructions : List UInt8 := toBytes ['P', 'I']

/-- `TXTKeyCommissionerPasscode`: "CP". -/
def txtKeyCommissionerPasscode : List UInt8 := toBytes ['C', 'P']

/-- `MaxDeviceNameLength`. -/
def maxDeviceNameLength : Nat := 32

/-- `MaxDiscriminator`. -/
def maxDiscriminator : Nat := 0xFFF

/-- `time.Millisecond`, in nanoseconds. -/
def millisecond : Int64 := 1000000

/-! ## Writing records -/

/-- `fmt.Sprintf("%s=%s", key, value)`. -/
def entry (key value : List UInt8) : List UInt8 := key ++ 0x3D :: value

/-- `%d` of an unsigned number. -/
def decimal (n : Nat) : List UInt8 := toBytes (formatUint n)

/-- `%d` of a signed number. -/
def signedDecimal (i : Int) : List UInt8 := toBytes (formatInt i)

/-- `Duration.Milliseconds()`: `int64(d) / 1e6`. -/
def milliseconds (d : Int64) : Int64 := d / millisecond

/-- `CommissionableTXT`. -/
structure CommissionableTXT where
  discriminator : UInt16 := 0
  commissioningMode : Int64 := 0
  vendorID : UInt16 := 0
  productID : UInt16 := 0
  deviceType : UInt32 := 0
  deviceName : List UInt8 := []
  idleInterval : Int64 := 0
  activeInterval : Int64 := 0
  tcpSupported : Bool := false
  icdMode : Int64 := 0
  icdSet : Bool := false
  pairingHint : UInt16 := 0
  pairingInstructions : List UInt8 := []
  deriving DecidableEq, Repr

/-- `OperationalTXT`. -/
structure OperationalTXT where
  idleInterval : Int64 := 0
  activeInterval : Int64 := 0
  tcpSupported : Bool := false
  icdMode : Int64 := 0
  icdSet : Bool := false
  deriving DecidableEq, Repr

/-- `CommissionerTXT`. -/
structure CommissionerTXT where
  vendorID : UInt16 := 0
  productID : UInt16 := 0
  deviceType : UInt32 := 0
  deviceName : List UInt8 := []
  commissionerPasscode : Bool := false
  deriving DecidableEq, Repr

/-- The `DN` value `Encode` writes: the name, cut to `MaxDeviceNameLength` bytes. -/
def encodeDeviceName (name : List UInt8) : List UInt8 :=
  if name.length > maxDeviceNameLength then name.take maxDeviceNameLength else name

/-- `CommissionableTXT.Encode()`. -/
def CommissionableTXT.encode (c : CommissionableTXT) : List (List UInt8) :=
  [entry txtKeyDiscriminator (decimal c.discriminator.toNat),
    entry txtKeyCommissioningMode (signedDecimal c.commissioningMode.toInt)] ++
  (if c.vendorID ≠ 0 ∨ c.productID ≠ 0 then
    [entry txtKeyVendorProduct (decimal c.vendorID.toNat ++ 0x2B :: decimal c.productID.toNat)]
  else []) ++
  (if c.deviceType ≠ 0 then [entry txtKeyDeviceType (decimal c.deviceType.toNat)] else []) ++
  (if c.deviceName ≠ [] then [entry txtKeyDeviceName (encodeDeviceName c.deviceName)] else []) ++
  (if c.idleInterval > 0 then
    [entry txtKeyIdleInterval (signedDecimal (milliseconds c.idleInterval).toInt)] else []) ++
  (if c.activeInterval > 0 then
    [entry txtKeyActiveInterval (signedDecimal (milliseconds c.activeInterval).toInt)] else []) ++
  (if c.tcpSupported then [entry txtKeyTCPSupported (toBytes ['1'])] else []) ++
  (if c.icdSet then [entry txtKeyICDMode (signedDecimal c.icdMode.toInt)] else []) ++
  (if c.pairingHint ≠ 0 then [entry txtKeyPairingHint (decimal c.pairingHint.toNat)] else []) ++
  (if c.pairingInstructions ≠ [] then
    [entry txtKeyPairingInstructions c.pairingInstructions] else [])

/-- `CommissionableTXT.Validate()`. -/
def CommissionableTXT.validate (c : CommissionableTXT) : Except DiscoveryError Unit :=
  if c.discriminator.toNat > maxDiscriminator then .error .invalidDiscriminator
  else if c.deviceName.length > maxDeviceNameLength then .error .invalidDeviceName
  else .ok ()

/-- `CommissionableTXT.ShortDiscriminator()`: `uint8((Discriminator >> 8) & 0xF)`. -/
def CommissionableTXT.shortDiscriminator (c : CommissionableTXT) : UInt8 :=
  ((c.discriminator >>> 8) &&& 0xF).toUInt8

/-- `OperationalTXT.Encode()`. -/
def OperationalTXT.encode (o : OperationalTXT) : List (List UInt8) :=
  (if o.idleInterval > 0 then
    [entry txtKeyIdleInterval (signedDecimal (milliseconds o.idleInterval).toInt)] else []) ++
  (if o.activeInterval > 0 then
    [entry txtKeyActiveInterval (signedDecimal (milliseconds o.activeInterval).toInt)] else []) ++
  (if o.tcpSupported then [entry txtKeyTCPSupported (toBytes ['1'])] else []) ++
  (if o.icdSet then [entry txtKeyICDMode (signedDecimal o.icdMode.toInt)] else [])

/-- `CommissionerTXT.Encode()`. -/
def CommissionerTXT.encode (c : CommissionerTXT) : List (List UInt8) :=
  (if c.vendorID ≠ 0 ∨ c.productID ≠ 0 then
    [entry txtKeyVendorProduct (decimal c.vendorID.toNat ++ 0x2B :: decimal c.productID.toNat)]
  else []) ++
  (if c.deviceType ≠ 0 then [entry txtKeyDeviceType (decimal c.deviceType.toNat)] else []) ++
  (if c.deviceName ≠ [] then [entry txtKeyDeviceName (encodeDeviceName c.deviceName)] else []) ++
  (if c.commissionerPasscode then [entry txtKeyCommissionerPasscode (toBytes ['1'])] else [])

/-- `CommissionerTXT.Validate()`. -/
def CommissionerTXT.validate (c : CommissionerTXT) : Except DiscoveryError Unit :=
  if c.deviceName.length > maxDeviceNameLength then .error .invalidDeviceName else .ok ()

/-! ## Reading records -/

/-- The body of `ParseTXT`'s loop: a record with a `=` after a non-empty key sets the key to
what follows the first `=`. `strings.IndexByte` is `-1` without a `=`, which `idxOf` reports
as the record's length. -/
def addRecord (result : GoMap (List UInt8) (List UInt8)) (record : List UInt8) :
    GoMap (List UInt8) (List UInt8) :=
  let idx := record.idxOf 0x3D
  if 0 < idx ∧ idx < record.length then result.insert (record.take idx) (record.drop (idx + 1))
  else result

/-- `ParseTXT(records)`. -/
def parseTXT (records : List (List UInt8)) : GoMap (List UInt8) (List UInt8) :=
  records.foldl addRecord GoMap.empty

/-- `strconv.ParseUint(v, 10, bitSize)`, on the bytes of `v`. -/
def parseUintField (bitSize : Nat) (v : List UInt8) : Option Nat := parseUint (ofBytes v) bitSize

/-- `parseVendorProduct(s)`: `VID+PID`. -/
def parseVendorProduct (s : List UInt8) : Except DiscoveryError (UInt16 × UInt16) := do
  let idx := s.idxOf 0x2B
  -- `strings.SplitN(s, "+", 2)` gives two parts exactly when `s` holds a `+`
  if idx = s.length then throw .invalidTXTRecord
  let some v := parseUintField 16 (s.take idx) | throw .invalidTXTRecord
  let some p := parseUintField 16 (s.drop (idx + 1)) | throw .invalidTXTRecord
  pure (UInt16.ofNat v, UInt16.ofNat p)

/-- `time.Duration(n) * time.Millisecond`. -/
def ofMilliseconds (n : Nat) : Int64 := Int64.ofNat n * millisecond

/-- One field of a `Parse*TXT`: `if v, ok := m[key]; ok { x, err := parse(v); if err != nil
{ return nil, ErrInvalidTXTRecord }; set(x) }`. Where the source assigns the value without
parsing it, `parse` is `some`. -/
def readField {σ β : Type} (m : GoMap (List UInt8) (List UInt8)) (key : List UInt8)
    (parse : List UInt8 → Option β) (set : β → σ → σ) (txt : σ) : Except DiscoveryError σ :=
  match m key with
  | some v =>
    match parse v with
    | some x => pure (set x txt)
    | none => throw .invalidTXTRecord
  | none => pure txt

/-- `strconv.ParseInt(v, 10, 8)`, converted to a 64-bit `int`. -/
def parseInt8Field (v : List UInt8) : Option Int64 := (parseInt (ofBytes v) 8).map Int64.ofInt

/-- `ParseUint(v, 10, 32)` of a millisecond count, converted to a `time.Duration`. -/
def parseDurationField (v : List UInt8) : Option Int64 := (parseUintField 32 v).map ofMilliseconds

/-- `ParseCommissionableTXT(records)`. -/
def parseCommissionableTXT (records : List (List UInt8)) :
    Except DiscoveryError CommissionableTXT := do
  let m := parseTXT records
  let txt : CommissionableTXT := {}
  -- `D` has a check of its own after parsing
  let txt ← match m txtKeyDiscriminator with
    | some v => do
      let some d := parseUintField 16 v | throw .invalidTXTRecord
      if d > maxDiscriminator then throw .invalidDiscriminator
      pure { txt with discriminator := UInt16.ofNat d }
    | none => pure txt
  let txt ← readField m txtKeyCommissioningMode parseInt8Field
    (fun cm txt => { txt with commissioningMode := cm }) txt
  let txt ← match m txtKeyVendorProduct with
    | some v => do
      let (vid, pid) ← parseVendorProduct v
      pure { txt with vendorID := vid, productID := pid }
    | none => pure txt
  let txt ← readField m txtKeyDeviceType (fun v => (parseUintField 32 v).map UInt32.ofNat)
    (fun dt txt => { txt with deviceType := dt }) txt
  let txt ← readField m txtKeyDeviceName some (fun v txt => { txt with deviceName := v }) txt
  let txt ← readField m txtKeyIdleInterval parseDurationField
    (fun sii txt => { txt with idleInterval := sii }) txt
  let txt ← readField m txtKeyActiveInterval parseDurationField
    (fun sai txt => { txt with activeInterval := sai }) txt
  let txt ← readField m txtKeyTCPSupported some
    (fun v txt => { txt with tcpSupported := v == toBytes ['1'] }) txt
  let txt ← readField m txtKeyICDMode parseInt8Field
    (fun icd txt => { txt with icdMode := icd, icdSet := true }) txt
  let txt ← readField m txtKeyPairingHint (fun v => (parseUintField 16 v).map UInt16.ofNat)
    (fun ph txt => { txt with pairingHint := ph }) txt
  readField m txtKeyPairingInstructions some
    (fun v txt => { txt with pairingInstructions := v }) txt

/-- `ParseOperationalTXT(records)`. -/
def parseOperationalTXT (records : List (List UInt8)) : Except DiscoveryError OperationalTXT := do
  let m := parseTXT records
  let txt : OperationalTXT := {}
  let txt ← readField m txtKeyIdleInterval parseDurationField
    (fun sii txt => { txt with idleInterval := sii }) txt
  let txt ← readField m txtKeyActiveInterval parseDurationField
    (fun sai txt => { txt with activeInterval := sai }) txt
  let txt ← readField m txtKeyTCPSupported some
    (fun v txt => { txt with tcpSupported := v == toBytes ['1'] }) txt
  readField m txtKeyICDMode parseInt8Field
    (fun icd txt => { txt with icdMode := icd, icdSet := true }) txt

/-- `ParseCommissionerTXT(records)`. -/
def parseCommissionerTXT (records : List (List UInt8)) : Except DiscoveryError CommissionerTXT := do
  let m := parseTXT records
  let txt : CommissionerTXT := {}
  let txt ← match m txtKeyVendorProduct with
    | some v => do
      let (vid, pid) ← parseVendorProduct v
      pure { txt with vendorID := vid, productID := pid }
    | none => pure txt
  let txt ← readField m txtKeyDeviceType (fun v => (parseUintField 32 v).map UInt32.ofNat)
    (fun dt txt => { txt with deviceType := dt }) txt
  let txt ← readField m txtKeyDeviceName some (fun v txt => { txt with deviceName := v }) txt
  readField m txtKeyCommissionerPasscode some
    (fun v txt => { txt with commissionerPasscode := v == toBytes ['1'] }) txt

/-! ## Reading back what `Encode` writes -/

/-- The first `a` of `l₁ ++ a :: l₂`, when `l₁` holds none, is right after `l₁`. -/
theorem idxOf_append_cons {l₁ l₂ : List UInt8} {a : UInt8} (h : a ∉ l₁) :
    (l₁ ++ a :: l₂).idxOf a = l₁.length := by
  rw [List.idxOf_append, if_neg h, List.idxOf_cons_self, Nat.zero_add]

/-- `ParseTXT` reads a record `key=value` under a non-empty key without `=` as `value`. -/
theorem addRecord_entry (m : GoMap (List UInt8) (List UInt8)) {k v : List UInt8} (hk : k ≠ [])
    (heq : 0x3D ∉ k) : addRecord m (entry k v) = m.insert k v := by
  have hidx : (entry k v).idxOf 0x3D = k.length := idxOf_append_cons heq
  have hpos : 0 < k.length := List.length_pos_iff.mpr hk
  have hlen : k.length < (entry k v).length := by simp [entry]
  simp only [addRecord]
  rw [hidx, if_pos ⟨hpos, hlen⟩, entry]
  have htake : (k ++ 0x3D :: v).take k.length = k := List.take_left
  have hdrop : (k ++ 0x3D :: v).drop (k.length + 1) = v := by
    rw [← List.drop_drop, List.drop_left]
    rfl
  rw [htake, hdrop]

/-- A record `Encode` may leave out does not change another key's value. -/
theorem lookup_ite_of_ne (m : GoMap (List UInt8) (List UInt8)) (b : Prop) [Decidable b]
    {k v K : List UInt8} (hk : k ≠ []) (heq : 0x3D ∉ k) (hK : K ≠ k) :
    ((if b then [entry k v] else []).foldl addRecord m) K = m K := by
  split <;> simp [addRecord_entry m hk heq, hK]

/-- A record `Encode` may leave out gives its key its value when written. -/
theorem lookup_ite_self (m : GoMap (List UInt8) (List UInt8)) (b : Prop) [Decidable b]
    {k v : List UInt8} (hk : k ≠ []) (heq : 0x3D ∉ k) :
    ((if b then [entry k v] else []).foldl addRecord m) k = if b then some v else m k := by
  split <;> simp [addRecord_entry m hk heq]

theorem ofBytes_decimal (n : Nat) : ofBytes (decimal n) = formatUint n :=
  ofBytes_toBytes_formatUint n

theorem ofBytes_signedDecimal (i : Int) : ofBytes (signedDecimal i) = formatInt i := by
  rw [signedDecimal, formatInt]
  split
  · rw [toBytes, List.map_cons, ofBytes, List.map_cons]
    have h := ofBytes_toBytes_formatUint i.natAbs
    rw [ofBytes, toBytes] at h
    rw [h]
    rfl
  · exact ofBytes_toBytes_formatUint _

theorem signedDecimal_of_nonneg {i : Int} (h : 0 ≤ i) : signedDecimal i = decimal i.natAbs := by
  rw [signedDecimal, formatInt, if_neg (Int.not_lt.mpr h), decimal]

/-- The digits `%d` writes hold no `+`. -/
theorem plus_not_mem_decimal (n : Nat) : (0x2B : UInt8) ∉ decimal n := by
  intro hmem
  obtain ⟨c, hc, heq⟩ := List.mem_map.mp hmem
  have hdig := isDigit_of_mem_formatUint hc
  simp only [Char.isDigit, Bool.and_eq_true, decide_eq_true_eq] at hdig
  have h1 : 48 ≤ c.toNat := UInt32.le_iff_toNat_le.mp hdig.1
  have h2 : c.toNat ≤ 57 := UInt32.le_iff_toNat_le.mp hdig.2
  have := congrArg UInt8.toNat heq
  rw [UInt8.toNat_ofNat', Nat.mod_eq_of_lt (by omega)] at this
  have h43 : (0x2B : UInt8).toNat = 43 := rfl
  omega

/-- `parseVendorProduct` reads back `VID+PID`. -/
theorem parseVendorProduct_decimal (vid pid : UInt16) :
    parseVendorProduct (decimal vid.toNat ++ 0x2B :: decimal pid.toNat) = .ok (vid, pid) := by
  have hidx : (decimal vid.toNat ++ 0x2B :: decimal pid.toNat).idxOf 0x2B =
      (decimal vid.toNat).length := idxOf_append_cons (plus_not_mem_decimal vid.toNat)
  have htake : (decimal vid.toNat ++ 0x2B :: decimal pid.toNat).take (decimal vid.toNat).length =
      decimal vid.toNat := List.take_left
  have hdrop : (decimal vid.toNat ++ 0x2B :: decimal pid.toNat).drop
      ((decimal vid.toNat).length + 1) = decimal pid.toNat := by
    rw [← List.drop_drop, List.drop_left]
    rfl
  simp only [parseVendorProduct, parseUintField, hidx, htake, hdrop, ofBytes_decimal, parseUint_formatUint,
    UInt16.toNat_lt, if_true]
  simp

/-! ## Round trips -/

/-- A duration `Encode` writes and `ParseUint(v, 10, 32)` reads back: one of zero or less is not
written, and a positive one's milliseconds must fit 32 bits. -/
def DurationFits (d : Int64) : Prop := 0 < d → (milliseconds d).toInt < 2 ^ 32

instance (d : Int64) : Decidable (DurationFits d) := inferInstanceAs (Decidable (_ → _))

/-- A mode that `ParseInt(v, 10, 8)` reads back. -/
def FitsInt8 (i : Int64) : Prop := -128 ≤ i.toInt ∧ i.toInt < 128

instance (i : Int64) : Decidable (FitsInt8 i) := inferInstanceAs (Decidable (_ ∧ _))

/-- What a duration reads back as: its whole milliseconds, zero where `Encode` leaves it out. -/
def readDuration (d : Int64) : Int64 := if 0 < d then milliseconds d * millisecond else 0

/-- The fields of an operational record that read back only within bounds. -/
def OperationalTXT.Fits (o : OperationalTXT) : Prop :=
  DurationFits o.idleInterval ∧ DurationFits o.activeInterval ∧ (o.icdSet → FitsInt8 o.icdMode)

instance (o : OperationalTXT) : Decidable o.Fits := inferInstanceAs (Decidable (_ ∧ _ ∧ _))

/-- What an operational record reads back as. -/
def OperationalTXT.readBack (o : OperationalTXT) : OperationalTXT :=
  { o with
    idleInterval := readDuration o.idleInterval
    activeInterval := readDuration o.activeInterval
    icdMode := if o.icdSet then o.icdMode else 0 }

/-- A field reader on a key `Encode` may leave out: it fails exactly when the key is written and
its value does not parse. -/
theorem readField_eq {σ β : Type} (parse : List UInt8 → Option β)
    {m : GoMap (List UInt8) (List UInt8)} {key v : List UInt8} {set : β → σ → σ} {txt : σ} {b f : Prop} [Decidable b]
    [Decidable f] {y : β} (hm : m key = if b then some v else none)
    (hp : b → parse v = if f then some y else none) :
    readField m key parse set txt =
      if b → f then .ok (if b then set y txt else txt) else .error .invalidTXTRecord := by
  by_cases hb : b
  · simp only [readField, hm, if_pos hb, hp hb]
    by_cases hf : f <;> simp [hb, hf]
  · simp only [readField, hm, if_neg hb]
    simp [hb]

/-- A check that either passes a value on or fails, followed by the rest of a `do` block. -/
theorem ite_ok_bind {α β : Type} {p : Prop} [Decidable p] (a : α) (e : DiscoveryError)
    (g : α → Except DiscoveryError β) :
    ((if p then Except.ok a else Except.error e) >>= g) = if p then g a else .error e := by
  split <;> rfl

/-- `Milliseconds()` of a positive duration is its truncated quotient by `10^6`: no wrap. -/
theorem toInt_milliseconds {d : Int64} (hd : 0 < d) :
    (milliseconds d).toInt = d.toInt / 1000000 := by
  have hpos : 0 < d.toInt := by simpa using Int64.lt_iff_toInt_lt.mp hd
  have hms : millisecond.toInt = 1000000 := by decide
  have hlt := Int64.toInt_lt d
  have hq : d.toInt / 1000000 ≤ d.toInt := Int.ediv_le_self _ (Int.le_of_lt hpos)
  have hq0 : 0 ≤ d.toInt / 1000000 := Int.ediv_nonneg (Int.le_of_lt hpos) (by decide)
  rw [milliseconds, Int64.toInt_div, hms, Int.tdiv_eq_ediv_of_nonneg (Int.le_of_lt hpos)]
  exact Int.bmod_eq_of_le (by omega) (by omega)

/-- `SII` and `SAI` read back as whole milliseconds, when the count fits 32 bits. -/
theorem parseDurationField_milliseconds {d : Int64} (hd : 0 < d) :
    parseDurationField (signedDecimal (milliseconds d).toInt) =
      if (milliseconds d).toInt < 2 ^ 32 then some (milliseconds d * millisecond) else none := by
  have h0 : 0 ≤ (milliseconds d).toInt := by
    have hpos : 0 < d.toInt := by simpa using Int64.lt_iff_toInt_lt.mp hd
    rw [toInt_milliseconds hd]
    exact Int.ediv_nonneg (Int.le_of_lt hpos) (by decide)
  have habs : ((milliseconds d).toInt.natAbs : Int) = (milliseconds d).toInt :=
    Int.natAbs_of_nonneg h0
  have hofNat : ofMilliseconds (milliseconds d).toInt.natAbs = milliseconds d * millisecond := by
    have hlt := Int64.toInt_lt (milliseconds d)
    rw [ofMilliseconds]
    congr 1
    apply Int64.toInt_inj.mp
    rw [Int64.toInt_ofNat_of_lt (by omega), habs]
  rw [parseDurationField, parseUintField, signedDecimal_of_nonneg h0, ofBytes_decimal,
    parseUint_formatUint]
  by_cases hlt : (milliseconds d).toInt < 2 ^ 32
  · rw [if_pos (by omega), if_pos hlt, Option.map_some, hofNat]
  · rw [if_neg (by omega), if_neg hlt, Option.map_none]

/-- `ICD` and `CM` read back exactly when they fit an `int8`. -/
theorem parseInt8Field_signedDecimal (i : Int64) :
    parseInt8Field (signedDecimal i.toInt) = if FitsInt8 i then some i else none := by
  rw [parseInt8Field, ofBytes_signedDecimal, parseInt_formatInt _ (by decide) (by decide)]
  have h : (2 : Int) ^ (8 - 1) = 128 := by decide
  rw [h]
  by_cases hf : FitsInt8 i
  · have hf' : -128 ≤ i.toInt ∧ i.toInt < 128 := hf
    rw [if_pos hf', if_pos hf, Option.map_some, Int64.ofInt_toInt]
  · have hf' : ¬(-128 ≤ i.toInt ∧ i.toInt < 128) := hf
    rw [if_neg hf', if_neg hf, Option.map_none]


/-- **Round trip of the operational record**: `ParseOperationalTXT` reads back what `Encode`
writes exactly when the intervals' milliseconds fit 32 bits and a set ICD mode fits an `int8`,
and then returns the record with its intervals cut to whole milliseconds and its ICD mode
cleared when not set; otherwise it fails with `ErrInvalidTXTRecord`. -/
theorem parse_operational_encode (o : OperationalTXT) :
    parseOperationalTXT o.encode = if o.Fits then .ok o.readBack else .error .invalidTXTRecord := by
  -- what `ParseTXT` files under each key: keys are distinct, non-empty and hold no `=`
  have hSII : parseTXT o.encode txtKeyIdleInterval = if 0 < o.idleInterval then
      some (signedDecimal (milliseconds o.idleInterval).toInt) else none := by
    simp only [parseTXT, OperationalTXT.encode, List.foldl_append]
    simp (disch := decide) only [lookup_ite_of_ne, lookup_ite_self]
    simp
  have hSAI : parseTXT o.encode txtKeyActiveInterval = if 0 < o.activeInterval then
      some (signedDecimal (milliseconds o.activeInterval).toInt) else none := by
    simp only [parseTXT, OperationalTXT.encode, List.foldl_append]
    simp (disch := decide) only [lookup_ite_of_ne, lookup_ite_self]
    simp
  have hT : parseTXT o.encode txtKeyTCPSupported = if o.tcpSupported then
      some (toBytes ['1']) else none := by
    simp only [parseTXT, OperationalTXT.encode, List.foldl_append]
    simp (disch := decide) only [lookup_ite_of_ne, lookup_ite_self]
    simp
  have hICD : parseTXT o.encode txtKeyICDMode = if o.icdSet then
      some (signedDecimal o.icdMode.toInt) else none := by
    simp only [parseTXT, OperationalTXT.encode, List.foldl_append]
    simp (disch := decide) only [lookup_ite_of_ne, lookup_ite_self]
    simp
  -- each field reader fails only on a written value that does not parse
  simp only [parseOperationalTXT,
    readField_eq parseDurationField hSII parseDurationField_milliseconds,
    readField_eq parseDurationField hSAI parseDurationField_milliseconds,
    readField_eq some (f := True) hT (fun _ => rfl),
    readField_eq parseInt8Field hICD (fun _ => parseInt8Field_signedDecimal _), ite_ok_bind,
    apply_ite OperationalTXT.idleInterval, apply_ite OperationalTXT.activeInterval,
    apply_ite OperationalTXT.tcpSupported, apply_ite OperationalTXT.icdMode,
    apply_ite OperationalTXT.icdSet, imp_true_iff, ite_true, ite_self, Except.ok_bind]
  -- the conditions of `Encode` decide which fields the record read back holds
  unfold OperationalTXT.Fits OperationalTXT.readBack readDuration DurationFits
  by_cases h1 : 0 < o.idleInterval <;> by_cases h2 : 0 < o.activeInterval <;>
    by_cases h3 : o.icdSet <;> simp [h1, h2, h3] <;> split_ifs <;> simp_all

/-- `ParseUint(v, 10, bitSize)` reads back the digits `%d` writes when they fit. -/
theorem parseUintField_decimal (n bitSize : Nat) :
    parseUintField bitSize (decimal n) = if n < 2 ^ bitSize then some n else none := by
  rw [parseUintField, ofBytes_decimal, parseUint_formatUint]

/-- **Round trip of the commissioner record**: `ParseCommissionerTXT` reads back every record
`Encode` writes, the device name cut to `MaxDeviceNameLength` bytes as `Encode` cuts it. -/
theorem parse_commissioner_encode (c : CommissionerTXT) :
    parseCommissionerTXT c.encode = .ok { c with deviceName := encodeDeviceName c.deviceName } := by
  -- what `ParseTXT` files under each key: keys are distinct, non-empty and hold no `=`
  have hVP : parseTXT c.encode txtKeyVendorProduct = if c.vendorID ≠ 0 ∨ c.productID ≠ 0 then
      some (decimal c.vendorID.toNat ++ 0x2B :: decimal c.productID.toNat) else none := by
    simp only [parseTXT, CommissionerTXT.encode, List.foldl_append]
    simp (disch := decide) only [lookup_ite_of_ne, lookup_ite_self]
    simp
  have hDT : parseTXT c.encode txtKeyDeviceType = if c.deviceType ≠ 0 then
      some (decimal c.deviceType.toNat) else none := by
    simp only [parseTXT, CommissionerTXT.encode, List.foldl_append]
    simp (disch := decide) only [lookup_ite_of_ne, lookup_ite_self]
    simp
  have hDN : parseTXT c.encode txtKeyDeviceName = if c.deviceName ≠ [] then
      some (encodeDeviceName c.deviceName) else none := by
    simp only [parseTXT, CommissionerTXT.encode, List.foldl_append]
    simp (disch := decide) only [lookup_ite_of_ne, lookup_ite_self]
    simp
  have hCP : parseTXT c.encode txtKeyCommissionerPasscode = if c.commissionerPasscode then
      some (toBytes ['1']) else none := by
    simp only [parseTXT, CommissionerTXT.encode, List.foldl_append]
    simp (disch := decide) only [lookup_ite_of_ne, lookup_ite_self]
    simp
  have hdt : (parseUintField 32 (decimal c.deviceType.toNat)).map UInt32.ofNat =
      if True then some c.deviceType else none := by
    rw [parseUintField_decimal, if_pos (UInt32.toNat_lt c.deviceType), Option.map_some,
      UInt32.ofNat_toNat, if_pos trivial]
  have hvp : parseVendorProduct (decimal c.vendorID.toNat ++ 0x2B :: decimal c.productID.toNat) =
      .ok (c.vendorID, c.productID) := parseVendorProduct_decimal _ _
  simp only [parseCommissionerTXT, hVP,
    readField_eq (fun v => (parseUintField 32 v).map UInt32.ofNat) hDT (fun _ => hdt),
    readField_eq some (f := True) hDN (fun _ => rfl), readField_eq some (f := True) hCP (fun _ => rfl),
    imp_true_iff, ite_true, Except.ok_bind]
  -- `VP` is read inline, not by `readField`: its lookup decides the match
  by_cases hvp : c.vendorID ≠ 0 ∨ c.productID ≠ 0
  · simp only [if_pos hvp, parseVendorProduct_decimal, Except.ok_bind, Except.pure_eq_ok]
    split_ifs <;> simp_all [encodeDeviceName]
  · simp only [if_neg hvp, Except.pure_eq_ok, Except.ok_bind]
    split_ifs <;> simp_all [encodeDeviceName]

/-- The fields of a commissionable record that read back only within bounds: the modes through
`ParseInt(v, 10, 8)`, the intervals through `ParseUint(v, 10, 32)`. -/
def CommissionableTXT.Fits (c : CommissionableTXT) : Prop :=
  FitsInt8 c.commissioningMode ∧ DurationFits c.idleInterval ∧ DurationFits c.activeInterval ∧
    (c.icdSet → FitsInt8 c.icdMode)

instance (c : CommissionableTXT) : Decidable c.Fits := inferInstanceAs (Decidable (_ ∧ _ ∧ _ ∧ _))

/-- What a commissionable record reads back as: the name cut as `Encode` cuts it, the intervals
in whole milliseconds, the ICD mode zero when not set. -/
def CommissionableTXT.readBack (c : CommissionableTXT) : CommissionableTXT :=
  { c with
    deviceName := encodeDeviceName c.deviceName
    idleInterval := readDuration c.idleInterval
    activeInterval := readDuration c.activeInterval
    icdMode := if c.icdSet then c.icdMode else 0 }

/-- A field `Encode` writes only when it is not the zero value reads back as itself. -/
theorem ite_ne_self {α : Type} [DecidableEq α] (a b : α) : (if a ≠ b then a else b) = a := by
  by_cases h : a = b
  · rw [if_neg (not_not.mpr h), h]
  · rw [if_pos h]

/-- `DN` reads back as the cut name, also when the empty name is not written. -/
theorem ite_encodeDeviceName (name : List UInt8) :
    (if name ≠ [] then encodeDeviceName name else []) = encodeDeviceName name := by
  by_cases h : name = []
  · rw [if_neg (not_not.mpr h), h]
    rfl
  · rw [if_pos h]

/-- A flag written only when set reads back as itself. -/
theorem ite_bool_self (t : Bool) : (if t = true then true else false) = t := by
  cases t <;> rfl

theorem readDuration_fold (d : Int64) :
    (if 0 < d then milliseconds d * millisecond else 0) = readDuration d := rfl

theorem readDuration_of_pos {d : Int64} (h : 0 < d) :
    readDuration d = milliseconds d * millisecond := if_pos h

theorem readDuration_of_not_pos {d : Int64} (h : ¬0 < d) : readDuration d = 0 := if_neg h

theorem encodeDeviceName_nil : encodeDeviceName [] = [] := rfl

/-- The checks of a parser in a row: when one of them fails, so does the parser. -/
theorem ite_chain_error {α : Type} {P Q R S : Prop} [Decidable P] [Decidable Q] [Decidable R]
    [Decidable S] {x : Except DiscoveryError α} {e : DiscoveryError} (h : ¬(P ∧ Q ∧ R ∧ S)) :
    (if P then if Q then if R then if S then x else .error e else .error e else .error e
      else .error e) = .error e := by
  by_cases hP : P <;> by_cases hQ : Q <;> by_cases hR : R <;> by_cases hS : S <;> simp_all

/-- What `ParseTXT` files under each key of the records `CommissionableTXT.Encode` writes: keys are
distinct, non-empty and hold no `=`, so each key holds its own value, or nothing where `Encode`
leaves it out. -/
theorem parseTXT_commissionable_encode (c : CommissionableTXT) :
    parseTXT c.encode txtKeyDiscriminator = some (decimal c.discriminator.toNat) ∧
    parseTXT c.encode txtKeyCommissioningMode =
      (if True then some (signedDecimal c.commissioningMode.toInt) else none) ∧
    parseTXT c.encode txtKeyVendorProduct = (if c.vendorID ≠ 0 ∨ c.productID ≠ 0 then
      some (decimal c.vendorID.toNat ++ 0x2B :: decimal c.productID.toNat) else none) ∧
    parseTXT c.encode txtKeyDeviceType = (if c.deviceType ≠ 0 then
      some (decimal c.deviceType.toNat) else none) ∧
    parseTXT c.encode txtKeyDeviceName = (if c.deviceName ≠ [] then
      some (encodeDeviceName c.deviceName) else none) ∧
    parseTXT c.encode txtKeyIdleInterval = (if 0 < c.idleInterval then
      some (signedDecimal (milliseconds c.idleInterval).toInt) else none) ∧
    parseTXT c.encode txtKeyActiveInterval = (if 0 < c.activeInterval then
      some (signedDecimal (milliseconds c.activeInterval).toInt) else none) ∧
    parseTXT c.encode txtKeyTCPSupported = (if c.tcpSupported then
      some (toBytes ['1']) else none) ∧
    parseTXT c.encode txtKeyICDMode = (if c.icdSet then
      some (signedDecimal c.icdMode.toInt) else none) ∧
    parseTXT c.encode txtKeyPairingHint = (if c.pairingHint ≠ 0 then
      some (decimal c.pairingHint.toNat) else none) ∧
    parseTXT c.encode txtKeyPairingInstructions = (if c.pairingInstructions ≠ [] then
      some c.pairingInstructions else none) := by
  simp only [parseTXT, CommissionableTXT.encode, List.foldl_append]
  -- one goal per key: step over the records of other keys, then read the key's own record
  refine ⟨?_, ?_, ?_, ?_, ?_, ?_, ?_, ?_, ?_, ?_, ?_⟩ <;>
    simp (disch := decide) only [lookup_ite_of_ne, lookup_ite_self] <;>
    simp (disch := decide) [addRecord_entry]

/-- **Round trip of the commissionable record**: `ParseCommissionableTXT` of what `Encode`
writes fails with `ErrInvalidDiscriminator` exactly when the discriminator is over `0xFFF`;
otherwise it reads the record back exactly when the commissioning mode and a set ICD mode fit an
`int8` and the intervals' milliseconds fit 32 bits, as the name cut as `Encode` cuts it, the
intervals in whole milliseconds and the ICD mode zero when not set, and fails with
`ErrInvalidTXTRecord` otherwise. -/
theorem parse_commissionable_encode (c : CommissionableTXT) :
    parseCommissionableTXT c.encode =
      if c.discriminator.toNat > maxDiscriminator then .error .invalidDiscriminator
      else if c.Fits then .ok c.readBack else .error .invalidTXTRecord := by
  obtain ⟨hD, hCM, hVP, hDT, hDN, hSII, hSAI, hT, hICD, hPH, hPI⟩ := parseTXT_commissionable_encode c
  have hd : parseUintField 16 (decimal c.discriminator.toNat) = some c.discriminator.toNat := by
    rw [parseUintField_decimal, if_pos (UInt16.toNat_lt c.discriminator)]
  have hdt : (parseUintField 32 (decimal c.deviceType.toNat)).map UInt32.ofNat =
      if True then some c.deviceType else none := by
    rw [parseUintField_decimal, if_pos (UInt32.toNat_lt c.deviceType), Option.map_some,
      UInt32.ofNat_toNat, if_pos trivial]
  have hph : (parseUintField 16 (decimal c.pairingHint.toNat)).map UInt16.ofNat =
      if True then some c.pairingHint else none := by
    rw [parseUintField_decimal, if_pos (UInt16.toNat_lt c.pairingHint), Option.map_some,
      UInt16.ofNat_toNat, if_pos trivial]
  -- each field reader fails only on a written value that does not parse; the record it builds
  -- is read field by field
  simp only [parseCommissionableTXT, hD, hd, hVP, UInt16.ofNat_toNat,
    readField_eq parseInt8Field hCM (fun _ => parseInt8Field_signedDecimal _),
    readField_eq (fun v => (parseUintField 32 v).map UInt32.ofNat) hDT (fun _ => hdt),
    readField_eq some (f := True) hDN (fun _ => rfl),
    readField_eq parseDurationField hSII parseDurationField_milliseconds,
    readField_eq parseDurationField hSAI parseDurationField_milliseconds,
    readField_eq some (f := True) hT (fun _ => rfl),
    readField_eq parseInt8Field hICD (fun _ => parseInt8Field_signedDecimal _),
    readField_eq (fun v => (parseUintField 16 v).map UInt16.ofNat) hPH (fun _ => hph),
    readField_eq some (f := True) hPI (fun _ => rfl),
    imp_true_iff, ite_true, true_imp_iff, Except.ok_bind, ite_ok_bind, Except.pure_eq_ok,
    apply_ite CommissionableTXT.discriminator, apply_ite CommissionableTXT.commissioningMode,
    apply_ite CommissionableTXT.vendorID, apply_ite CommissionableTXT.productID,
    apply_ite CommissionableTXT.deviceType, apply_ite CommissionableTXT.deviceName,
    apply_ite CommissionableTXT.idleInterval, apply_ite CommissionableTXT.activeInterval,
    apply_ite CommissionableTXT.tcpSupported, apply_ite CommissionableTXT.icdMode,
    apply_ite CommissionableTXT.icdSet, apply_ite CommissionableTXT.pairingHint,
    apply_ite CommissionableTXT.pairingInstructions, ite_self]
  clear hD hCM hDT hDN hSII hSAI hT hICD hPH hPI hd hdt hph
  -- `D` is checked first, so a discriminator out of range wins over every other error
  by_cases hdisc : c.discriminator.toNat > maxDiscriminator
  · simp only [if_pos hdisc, Except.throw_eq_error, Except.error_bind]
  simp only [if_neg hdisc]
  -- `VP` is read inline, not by `readField`: its lookup decides the match
  by_cases hvp : c.vendorID ≠ 0 ∨ c.productID ≠ 0
  on_goal 1 => simp only [if_pos hvp, parseVendorProduct_decimal, Except.ok_bind, ite_ne_self,
    ite_encodeDeviceName, beq_self_eq_true, ite_bool_self]
  on_goal 2 => simp only [if_neg hvp, ite_ne_self, ite_encodeDeviceName, beq_self_eq_true,
    ite_bool_self]
  -- either way the record read holds `c`'s IDs; what is left is the bounds
  all_goals
    by_cases hf : c.Fits
    · have h2 : 0 < c.idleInterval → (milliseconds c.idleInterval).toInt < 2 ^ 32 := hf.2.1
      have h3 : 0 < c.activeInterval → (milliseconds c.activeInterval).toInt < 2 ^ 32 := hf.2.2.1
      rw [if_pos hf.1, if_pos h2, if_pos h3, if_pos hf.2.2.2, if_pos hf]
      congr 1
      -- the record is built by a chain of `if`s over the fields `Encode` writes
      simp only [readDuration_fold]
      split_ifs <;> simp_all [CommissionableTXT.readBack, readDuration_of_pos,
        readDuration_of_not_pos, encodeDeviceName_nil]
    · rw [if_neg hf]
      exact ite_chain_error hf

end Matter.Discovery
