import Matter.Message.Header
import Matter.Lib.Except
import Mathlib.Data.FinEnum

/-!
# Header and frame round trips (`header.go`, `protocol.go`, `frame.go`)

`Decode` reads back what `Encode` wrote, from the front of any longer byte string. A decoder
sets every field the flags leave out to its default (`header.go:222-239`,
`protocol.go:169-186`): the node and group IDs to zero, the vendor ID to Matter's, the acked
counter to zero. What comes back is the header's `normalize`, equal to the header on every
field the wire carries, and encoding to the same bytes (`encode_normalize`).

The privacy layer of `codec.go` encrypts the header bytes after the fourth in place and
decodes the header before removing it. `encode_withObfuscated` shows that such bytes are still
the encoding of a header, one with the same flags and session ID as the original, so
`DecodeRaw` reads the same shape from them.

Results:
* `MessageHeader.decode_encode_append`, `ProtocolHeader.decode_encode_append`: each header and
  its size are read back from the front of any longer string;
* `decodeUnsecured_encodeUnsecured`: an unsecured frame is read back whole;
* `decodeRaw_encode_append`: a secure frame splits back into header, encrypted payload and MIC;
* `MessageHeader.decode_sound`, `ProtocolHeader.decode_sound`: conversely, a header `Decode`
  accepts with the reserved flag bits clear re-encodes to the bytes it consumed; with the round
  trips this is `frame_codec_round_trip`.
-/

namespace Matter.Message

open Bytes

/-! ## Fixed-width fields -/

theorem toLE_toNat_uint16 (m : Nat) : toLE 2 (UInt16.ofNat m).toNat = toLE 2 m := by
  rw [UInt16.toNat_ofNat', show 2 ^ 16 = 256 ^ 2 from rfl, toLE_mod]

theorem toLE_toNat_uint32 (m : Nat) : toLE 4 (UInt32.ofNat m).toNat = toLE 4 m := by
  rw [UInt32.toNat_ofNat', show 2 ^ 32 = 256 ^ 4 from rfl, toLE_mod]

theorem toLE_toNat_uint64 (m : Nat) : toLE 8 (UInt64.ofNat m).toNat = toLE 8 m := by
  rw [UInt64.toNat_ofNat', show 2 ^ 64 = 256 ^ 8 from rfl, toLE_mod]

/-- One byte of a string, as a one-byte slice. -/
theorem take_one_drop (l : List UInt8) {i : Nat} (h : i < l.length) :
    (l.drop i).take 1 = [l.getD i 0] := by
  simp [List.take_one, h]

/-- Writing back a little-endian field that was read gives the bytes it was read from. -/
theorem toLE_readLE (data : List UInt8) {off w : Nat} (h : off + w ≤ data.length) :
    toLE w (readLE data off w) = (data.drop off).take w :=
  toLE_ofLE_take (by simp only [List.length_drop]; omega)

namespace MessageHeader

/-- The header `Decode` reads from `h`'s encoding: the fields the flags leave out are zero. -/
def normalize (h : MessageHeader) : MessageHeader :=
  { h with
    sourceNodeID := if h.sourcePresent then h.sourceNodeID else 0
    destinationNodeID := if h.destinationType = .nodeID then h.destinationNodeID else 0
    destinationGroupID := if h.destinationType = .groupID then h.destinationGroupID else 0 }

/-- The bytes after the fourth of an encoded header: the counter and the optional fields. -/
def obfuscatedFields (h : MessageHeader) : List UInt8 :=
  toLE 4 h.messageCounter.toNat ++
    (if h.sourcePresent then toLE 8 h.sourceNodeID.toNat else []) ++ h.destinationBytes

/-- `h` with the counter and the optional fields read from `x`, as `Decode` reads them from
a header whose bytes after the fourth are `x`. -/
def withObfuscated (h : MessageHeader) (x : List UInt8) : MessageHeader :=
  let optional := x.drop 4
  let destination := optional.drop (if h.sourcePresent then 8 else 0)
  { h with
    messageCounter := UInt32.ofNat (ofLE (x.take 4))
    sourceNodeID := UInt64.ofNat (ofLE (optional.take 8))
    destinationNodeID := UInt64.ofNat (ofLE (destination.take 8))
    destinationGroupID := UInt16.ofNat (ofLE (destination.take 2)) }

/-! ### Flag bytes

Each flag byte is built from a few booleans and a two-bit enumeration, so what `Decode` reads
from it is a finite check over those. -/

theorem messageFlags_version (h : MessageHeader) : (h.messageFlags >>> 4) &&& 0x0F = 0 := by
  unfold messageFlags
  cases h.sourcePresent <;> cases h.destinationType <;> decide

theorem messageFlags_source (h : MessageHeader) :
    (h.messageFlags &&& 0x04 != 0) = h.sourcePresent := by
  unfold messageFlags
  cases h.sourcePresent <;> cases h.destinationType <;> decide

theorem decodeDestinationType_messageFlags (h : MessageHeader) :
    decodeDestinationType h.messageFlags = some h.destinationType := by
  unfold messageFlags
  cases h.sourcePresent <;> cases h.destinationType <;> decide

/-- The session type and the P, C and MX flags read back from the security flags. -/
theorem securityFlags_read (h : MessageHeader) :
    decodeSessionType h.securityFlags = some h.sessionType ∧
      (h.securityFlags &&& 0x80 != 0) = h.privacy ∧
      (h.securityFlags &&& 0x40 != 0) = h.control ∧
      (h.securityFlags &&& 0x20 != 0) = h.extensions := by
  unfold securityFlags
  cases h.sessionType <;> cases h.extensions <;> cases h.control <;> cases h.privacy <;> decide

/-! ### Layout -/

variable (h : MessageHeader) (rest : List UInt8)

theorem encode_eq_take_append : h.encode = h.encode.take 4 ++ h.obfuscatedFields := by
  simp [encode, obfuscatedFields, toLE]

theorem length_obfuscatedFields : h.obfuscatedFields.length = h.privacyObfuscatedSize := by
  cases hs : h.sourcePresent <;> cases hd : h.destinationType <;>
    simp [obfuscatedFields, privacyObfuscatedSize, destinationBytes, DestinationType.size, hs, hd]

theorem length_encode : h.encode.length = h.size := by
  cases hs : h.sourcePresent <;> cases hd : h.destinationType <;>
    simp [encode, size, minHeaderSize, destinationBytes, DestinationType.size, hs, hd]

theorem length_take_encode : (h.encode.take 4).length = 4 := by
  rw [List.length_take, length_encode]
  simp only [size, minHeaderSize]
  omega

@[simp] theorem encode_normalize : h.normalize.encode = h.encode := by
  cases hs : h.sourcePresent <;> cases hd : h.destinationType <;>
    simp [normalize, encode, messageFlags, securityFlags, destinationBytes, hs, hd]

@[simp] theorem size_normalize : h.normalize.size = h.size := rfl

@[simp] theorem securityFlags_normalize : h.normalize.securityFlags = h.securityFlags := rfl

@[simp] theorem isSecure_normalize : h.normalize.isSecure = h.isSecure := rfl

@[simp] theorem messageCounter_normalize : h.normalize.messageCounter = h.messageCounter := rfl

@[simp] theorem privacy_normalize : h.normalize.privacy = h.privacy := rfl

/-! ### Fields -/

theorem getD_encode_zero : (h.encode ++ rest).getD 0 0 = h.messageFlags := by
  simp [encode]

theorem getD_encode_three : (h.encode ++ rest).getD 3 0 = h.securityFlags := by
  simp [encode, toLE]

theorem read_sessionID : UInt16.ofNat (readLE (h.encode ++ rest) 1 2) = h.sessionID := by
  simp [readLE, encode, ofLE_toLE]

theorem read_messageCounter : UInt32.ofNat (readLE (h.encode ++ rest) 4 4) = h.messageCounter := by
  simp [readLE, encode, ofLE_toLE, List.drop_append]

theorem read_sourceNodeID :
    (if h.sourcePresent then UInt64.ofNat (readLE (h.encode ++ rest) 8 8) else 0) =
      h.normalize.sourceNodeID := by
  cases hs : h.sourcePresent <;>
    simp [readLE, encode, ofLE_toLE, List.drop_append, normalize, hs]

/-- The destination field starts after the source field, wherever that is. -/
theorem read_destination :
    (if h.destinationType = .nodeID then
        UInt64.ofNat (readLE (h.encode ++ rest) (minHeaderSize + if h.sourcePresent then 8 else 0) 8)
      else 0) = h.normalize.destinationNodeID ∧
    (if h.destinationType = .groupID then
        UInt16.ofNat (readLE (h.encode ++ rest) (minHeaderSize + if h.sourcePresent then 8 else 0) 2)
      else 0) = h.normalize.destinationGroupID := by
  cases hs : h.sourcePresent <;> cases hd : h.destinationType <;>
    simp [readLE, encode, ofLE_toLE, List.drop_append, normalize, destinationBytes, minHeaderSize,
      hs, hd]

/-- **The message header reads back** from the front of any longer string, with its size. -/
theorem decode_encode_append : decode (h.encode ++ rest) = .ok (h.normalize, h.size) := by
  have hlen : ¬ (h.encode ++ rest).length < minHeaderSize := by
    simp only [List.length_append, length_encode, size]
    omega
  have hreq : ¬ (h.encode ++ rest).length <
      minHeaderSize + (if h.sourcePresent then 8 else 0) + h.destinationType.size := by
    simp only [List.length_append, length_encode, size]
    omega
  obtain ⟨hst, hp, hc, hx⟩ := securityFlags_read h
  obtain ⟨hdn, hdg⟩ := read_destination h rest
  unfold decode
  simp only [hlen, if_false, getD_encode_zero, messageFlags_version, ne_eq, not_true_eq_false,
    messageFlags_source, decodeDestinationType_messageFlags, getD_encode_three, hst,
    read_sessionID, read_messageCounter, hreq, read_sourceNodeID, hdn, hdg, hp, hc, hx]
  rfl

/-- The message header alone reads back. -/
theorem decode_encode : decode h.encode = .ok (h.normalize, h.size) := by
  simpa using decode_encode_append h []

/-! ### Obfuscated headers -/

variable {h} {x : List UInt8}

/-- Bytes of the right length in place of the counter and optional fields still encode a
header: the one `withObfuscated` reads from them. -/
theorem encode_withObfuscated (hx : x.length = h.privacyObfuscatedSize) :
    (h.withObfuscated x).encode = h.encode.take 4 ++ x := by
  have hx4 : (x.take 4).length = 4 := by
    simp only [List.length_take, hx, privacyObfuscatedSize]
    omega
  have hctr : toLE 4 (h.withObfuscated x).messageCounter.toNat = x.take 4 :=
    (toLE_toNat_uint32 _).trans (toLE_ofLE_of_length hx4)
  -- the optional fields fill `x.drop 4` exactly, in the order the flags give
  have hopt : (if (h.withObfuscated x).sourcePresent then
      toLE 8 (h.withObfuscated x).sourceNodeID.toNat else []) ++
      (h.withObfuscated x).destinationBytes = x.drop 4 := by
    generalize hy : x.drop 4 = y
    have hl : y.length = (if h.sourcePresent then 8 else 0) + h.destinationType.size := by
      simp only [← hy, List.length_drop, hx, privacyObfuscatedSize]
      omega
    cases hs : h.sourcePresent <;> cases hd : h.destinationType <;>
      simp only [hs, hd, Bool.false_eq_true, if_true, if_false, DestinationType.size,
        Nat.add_zero, Nat.zero_add] at hl <;>
      simp only [withObfuscated, destinationBytes, hy, hs, hd, Bool.false_eq_true, if_true,
        if_false, List.drop_zero, toLE_toNat_uint64, toLE_toNat_uint16, List.nil_append,
        List.append_nil]
    · exact (List.eq_nil_of_length_eq_zero hl).symm
    · rw [toLE_ofLE_take (by omega), List.take_of_length_le (by omega)]
    · rw [toLE_ofLE_take (by omega), List.take_of_length_le (by omega)]
    · rw [toLE_ofLE_take (by omega), List.take_of_length_le (by omega)]
    · have hd8 : (y.drop 8).length = 8 := by
        rw [List.length_drop]
        omega
      rw [toLE_ofLE_take (by omega), toLE_ofLE_take (by omega),
        List.take_of_length_le (show (y.drop 8).length ≤ 8 by omega), List.take_append_drop]
    · have hd8 : (y.drop 8).length = 2 := by
        rw [List.length_drop]
        omega
      rw [toLE_ofLE_take (by omega), toLE_ofLE_take (by omega),
        List.take_of_length_le (show (y.drop 8).length ≤ 2 by omega), List.take_append_drop]
  have hhead : (h.withObfuscated x).encode.take 4 = h.encode.take 4 := rfl
  rw [encode_eq_take_append, hhead, obfuscatedFields, hctr, List.append_assoc, hopt,
    List.take_append_drop]

@[simp] theorem size_withObfuscated : (h.withObfuscated x).size = h.size := rfl

@[simp] theorem sessionID_withObfuscated : (h.withObfuscated x).sessionID = h.sessionID := rfl

@[simp] theorem privacy_withObfuscated : (h.withObfuscated x).privacy = h.privacy := rfl

@[simp] theorem isSecure_withObfuscated : (h.withObfuscated x).isSecure = h.isSecure := rfl

@[simp] theorem privacyObfuscatedSize_withObfuscated :
    (h.withObfuscated x).privacyObfuscatedSize = h.privacyObfuscatedSize := rfl

/-! ### Re-encoding what `Decode` accepted -/

/-- The first bytes of a string, cut where a header's fields lie: flags, session ID, security
flags, counter, then the `s` and `d` bytes of the optional fields. -/
theorem take_segments (data : List UInt8) {s d : Nat}
    (hlen : minHeaderSize + s + d ≤ data.length) :
    data.take (minHeaderSize + s + d) = [data.getD 0 0] ++ (data.drop 1).take 2 ++ [data.getD 3 0] ++
      (data.drop 4).take 4 ++ (data.drop 8).take s ++ (data.drop (minHeaderSize + s)).take d := by
  simp only [minHeaderSize] at hlen ⊢
  rw [show 8 + s + d = 1 + (2 + (1 + (4 + (s + d)))) by omega]
  simp only [List.take_add, List.drop_drop, List.append_assoc]
  rw [← take_one_drop data (by omega), ← take_one_drop data (by omega), List.drop_zero]

/-- The message flags `Decode` accepts with bit 3 clear are the ones the decoded header writes. -/
theorem messageFlags_of_decode {h : MessageHeader} (b : UInt8)
    (hversion : (b >>> 4) &&& 0x0F = 0) (hreserved : b &&& 0x08 = 0)
    (hsource : h.sourcePresent = (b &&& 0x04 != 0))
    (hdest : decodeDestinationType b = some h.destinationType) : h.messageFlags = b := by
  unfold messageFlags
  rw [hsource]
  clear hsource
  generalize h.destinationType = dt at hdest
  revert b
  cases dt <;> decide +kernel

/-- The security flags `Decode` accepts with bits 2-4 clear are the ones the decoded header
writes. -/
theorem securityFlags_of_decode {h : MessageHeader} (b : UInt8) (hreserved : b &&& 0x1C = 0)
    (hsession : decodeSessionType b = some h.sessionType)
    (hext : h.extensions = (b &&& 0x20 != 0)) (hcontrol : h.control = (b &&& 0x40 != 0))
    (hprivacy : h.privacy = (b &&& 0x80 != 0)) : h.securityFlags = b := by
  unfold securityFlags
  rw [hext, hcontrol, hprivacy]
  clear hext hcontrol hprivacy
  generalize h.sessionType = st at hsession
  revert b
  cases st <;> decide +kernel

/-- **A decoded header re-encodes to the bytes it was read from**, when the reserved flag bits
are clear. -/
theorem decode_sound {data : List UInt8} {h : MessageHeader} {n : Nat}
    (hd : decode data = .ok (h, n)) (hmsg : data.getD 0 0 &&& 0x08 = 0)
    (hsec : data.getD 3 0 &&& 0x1C = 0) : n ≤ data.length ∧ h.encode = data.take n := by
  unfold decode at hd
  dsimp only at hd
  split at hd
  · cases hd
  rename_i hshort
  split at hd
  · cases hd
  rename_i hversion
  split at hd
  · cases hd
  rename_i dt hdt
  split at hd
  · cases hd
  rename_i st hst
  by_cases hreq : data.length <
      minHeaderSize + (if (data.getD 0 0 &&& 0x04 != 0) then 8 else 0) + dt.size
  · rw [if_pos hreq] at hd
    cases hd
  rw [if_neg hreq] at hd
  obtain ⟨rfl, rfl⟩ := Prod.mk.inj (Except.ok.inj hd)
  clear hd
  generalize hS : (data.getD 0 0 &&& 0x04 != 0) = S at hreq ⊢
  have hlen : minHeaderSize + (if S then 8 else 0) + dt.size ≤ data.length := by omega
  refine ⟨hlen, ?_⟩
  have h8 : minHeaderSize ≤ data.length := by omega
  rw [take_segments data hlen]
  unfold encode
  rw [messageFlags_of_decode _ (not_not.mp hversion) hmsg hS.symm hdt,
    securityFlags_of_decode _ hsec hst rfl rfl rfl, toLE_toNat_uint16, toLE_toNat_uint32,
    toLE_readLE data (by simp only [minHeaderSize] at h8; omega),
    toLE_readLE data (by simp only [minHeaderSize] at h8; omega)]
  have hsrc : 8 + 8 ≤ data.length → toLE 8 (readLE data 8 8) = (data.drop 8).take 8 :=
    fun hle => toLE_readLE data hle
  congr 1
  · congr 1
    -- the source node ID, there when the S flag is
    cases S
    · rfl
    · simp only [↓reduceIte]
      rw [toLE_toNat_uint64, hsrc (by simp only [minHeaderSize, if_true] at hlen; omega)]
  · -- the destination, of the width DSIZ gives
    have hdst : ∀ w, minHeaderSize + (if S then 8 else 0) + w ≤ data.length →
        toLE w (readLE data (minHeaderSize + if S then 8 else 0) w) =
          (data.drop (minHeaderSize + if S then 8 else 0)).take w :=
      fun w hle => toLE_readLE data hle
    cases dt
    · rfl
    · simp only [destinationBytes, DestinationType.size, ↓reduceIte]
      rw [toLE_toNat_uint64, hdst 8 hlen]
    · simp only [destinationBytes, DestinationType.size, ↓reduceIte]
      rw [toLE_toNat_uint16, hdst 2 hlen]

end MessageHeader

namespace ProtocolHeader

/-- The header `Decode` reads from `p`'s encoding: Matter's vendor ID without the V flag, no
acked counter without the A flag. -/
def normalize (p : ProtocolHeader) : ProtocolHeader :=
  { p with
    protocolVendorID := if p.vendorPresent then p.protocolVendorID else vendorIDMatter
    ackedMessageCounter := if p.acknowledgement then p.ackedMessageCounter else 0 }

/-- The five flags read back from the exchange flags. -/
theorem exchangeFlags_read (p : ProtocolHeader) :
    (p.exchangeFlags &&& 0x01 != 0) = p.initiator ∧
      (p.exchangeFlags &&& 0x02 != 0) = p.acknowledgement ∧
      (p.exchangeFlags &&& 0x04 != 0) = p.reliability ∧
      (p.exchangeFlags &&& 0x08 != 0) = p.securedExtensions ∧
      (p.exchangeFlags &&& 0x10 != 0) = p.vendorPresent := by
  unfold exchangeFlags
  cases p.initiator <;> cases p.acknowledgement <;> cases p.reliability <;>
    cases p.securedExtensions <;> cases p.vendorPresent <;> decide

variable (p : ProtocolHeader) (rest : List UInt8)

theorem length_encode : p.encode.length = p.size := by
  cases hv : p.vendorPresent <;> cases ha : p.acknowledgement <;>
    simp [encode, size, minProtocolHeaderSize, hv, ha]

@[simp] theorem encode_normalize : p.normalize.encode = p.encode := by
  cases hv : p.vendorPresent <;> cases ha : p.acknowledgement <;>
    simp [normalize, encode, exchangeFlags, hv, ha]

theorem read_fields :
    (p.encode ++ rest).getD 1 0 = p.protocolOpcode ∧
      UInt16.ofNat (readLE (p.encode ++ rest) 2 2) = p.exchangeID ∧
      (if p.vendorPresent then UInt16.ofNat (readLE (p.encode ++ rest) 4 2) else vendorIDMatter) =
        p.normalize.protocolVendorID ∧
      UInt16.ofNat (readLE (p.encode ++ rest) (4 + if p.vendorPresent then 2 else 0) 2) =
        p.protocolID ∧
      (if p.acknowledgement then
          UInt32.ofNat (readLE (p.encode ++ rest) (4 + (if p.vendorPresent then 2 else 0) + 2) 4)
        else 0) = p.normalize.ackedMessageCounter := by
  cases hv : p.vendorPresent <;> cases ha : p.acknowledgement <;>
    simp [readLE, encode, ofLE_toLE, List.drop_append, normalize, hv, ha]

/-- **The protocol header reads back** from the front of any longer string, with its size. -/
theorem decode_encode_append : decode (p.encode ++ rest) = .ok (p.normalize, p.size) := by
  have hlen : ¬ (p.encode ++ rest).length < minProtocolHeaderSize := by
    simp only [List.length_append, length_encode, size]
    omega
  have hreq : ¬ (p.encode ++ rest).length <
      4 + (if p.vendorPresent then 2 else 0) + 2 + (if p.acknowledgement then 4 else 0) := by
    simp only [List.length_append, length_encode, size, minProtocolHeaderSize]
    omega
  have h0 : (p.encode ++ rest).getD 0 0 = p.exchangeFlags := by simp [encode]
  obtain ⟨hi, ha, hr, hs, hv⟩ := exchangeFlags_read p
  obtain ⟨hop, hex, hven, hpid, hack⟩ := read_fields p rest
  unfold decode
  simp only [hlen, if_false, h0, hi, ha, hr, hs, hv, hreq, hop, hex, hven, hpid, hack]
  have hsize : 4 + (if p.vendorPresent then 2 else 0) + 2 + (if p.acknowledgement then 4 else 0) =
      p.size := by
    simp only [size, minProtocolHeaderSize]
    omega
  rw [hsize]
  rfl

/-! ### Re-encoding what `Decode` accepted -/

/-- The first bytes of a string, cut where a protocol header's fields lie. -/
theorem take_segments (data : List UInt8) {v a : Nat} (hlen : 4 + v + 2 + a ≤ data.length) :
    data.take (4 + v + 2 + a) = [data.getD 0 0] ++ [data.getD 1 0] ++ (data.drop 2).take 2 ++
      (data.drop 4).take v ++ (data.drop (4 + v)).take 2 ++ (data.drop (4 + v + 2)).take a := by
  rw [show 4 + v + 2 + a = 1 + (1 + (2 + (v + (2 + a)))) by omega]
  simp only [List.take_add, List.drop_drop, List.append_assoc]
  rw [← take_one_drop data (by omega), ← take_one_drop data (by omega), List.drop_zero]

/-- The exchange flags `Decode` accepts with bits 5-7 clear are the ones the decoded header
writes. -/
theorem exchangeFlags_of_decode {p : ProtocolHeader} (b : UInt8) (hreserved : b &&& 0xE0 = 0)
    (hi : p.initiator = (b &&& 0x01 != 0)) (ha : p.acknowledgement = (b &&& 0x02 != 0))
    (hr : p.reliability = (b &&& 0x04 != 0)) (hs : p.securedExtensions = (b &&& 0x08 != 0))
    (hv : p.vendorPresent = (b &&& 0x10 != 0)) : p.exchangeFlags = b := by
  unfold exchangeFlags
  rw [hi, ha, hr, hs, hv]
  clear hi ha hr hs hv
  revert b
  decide +kernel

/-- **A decoded protocol header re-encodes to the bytes it was read from**, when the reserved
exchange flags are clear. -/
theorem decode_sound {data : List UInt8} {p : ProtocolHeader} {n : Nat}
    (hd : decode data = .ok (p, n)) (hexch : data.getD 0 0 &&& 0xE0 = 0) :
    n ≤ data.length ∧ p.encode = data.take n := by
  unfold decode at hd
  dsimp only at hd
  split at hd
  · cases hd
  generalize hV : (data.getD 0 0 &&& 0x10 != 0) = V at hd
  generalize hA : (data.getD 0 0 &&& 0x02 != 0) = A at hd
  by_cases hreq : data.length < 4 + (if V then 2 else 0) + 2 + (if A then 4 else 0)
  · rw [if_pos hreq] at hd
    cases hd
  rw [if_neg hreq] at hd
  obtain ⟨rfl, rfl⟩ := Prod.mk.inj (Except.ok.inj hd)
  clear hd
  have hlen : 4 + (if V then 2 else 0) + 2 + (if A then 4 else 0) ≤ data.length := by omega
  refine ⟨hlen, ?_⟩
  rw [take_segments data hlen]
  unfold encode
  rw [exchangeFlags_of_decode _ hexch rfl hA.symm rfl rfl hV.symm, toLE_toNat_uint16,
    toLE_toNat_uint16, toLE_readLE data (by omega), toLE_readLE data (by omega)]
  congr 1
  · congr 2
    -- the vendor ID, there when the V flag is
    cases V
    · rfl
    · simp only [↓reduceIte]
      rw [toLE_toNat_uint16, toLE_readLE data (by simp only [if_true] at hlen; omega)]
  · -- the acknowledged counter, there when the A flag is
    cases A
    · rfl
    · simp only [↓reduceIte]
      rw [toLE_toNat_uint32, toLE_readLE data (by simp only [if_true] at hlen; omega)]

end ProtocolHeader

/-! ## Frames -/

/-- **An unsecured frame reads back whole**: both headers normalised, the same payload. -/
theorem decodeUnsecured_encodeUnsecured (f : Frame) :
    decodeUnsecured f.encodeUnsecured =
      .ok { header := f.header.normalize, protocol := f.protocol.normalize, payload := f.payload } := by
  have hdata : f.encodeUnsecured = f.header.encode ++ (f.protocol.encode ++ f.payload) :=
    List.append_assoc _ _ _
  have hdrop₁ : (f.header.encode ++ (f.protocol.encode ++ f.payload)).drop f.header.size =
      f.protocol.encode ++ f.payload := by
    rw [← MessageHeader.length_encode, List.drop_left]
  have hdrop₂ : (f.header.encode ++ (f.protocol.encode ++ f.payload)).drop
      (f.header.size + f.protocol.size) = f.payload := by
    rw [← MessageHeader.length_encode, ← ProtocolHeader.length_encode, ← List.drop_drop,
      List.drop_left, List.drop_left]
  have hlen : ¬ (f.header.encode ++ (f.protocol.encode ++ f.payload)).length < f.header.size := by
    simp only [List.length_append, MessageHeader.length_encode]
    omega
  simp only [decodeUnsecured, hdata, MessageHeader.decode_encode_append, Except.ok_bind, hlen,
    if_false, hdrop₁, ProtocolHeader.decode_encode_append, hdrop₂, Except.pure_eq_ok]

/-- **A secure frame splits back** into its header, encrypted payload and MIC. -/
theorem decodeRaw_encode_append (h : MessageHeader) (hs : h.isSecure = true)
    (encryptedPayload mic : List UInt8) (hmic : mic.length = micSize) :
    decodeRaw (h.encode ++ encryptedPayload ++ mic) =
      .ok { header := h.normalize, encryptedPayload, mic } := by
  have hdata : h.encode ++ encryptedPayload ++ mic = h.encode ++ (encryptedPayload ++ mic) :=
    List.append_assoc _ _ _
  have hend : (h.encode ++ (encryptedPayload ++ mic)).length - micSize =
      (h.encode ++ encryptedPayload).length := by
    simp only [List.length_append, hmic]
    omega
  have hlen : ¬ (h.encode ++ (encryptedPayload ++ mic)).length < h.encode.length + micSize := by
    simp only [List.length_append, hmic]
    omega
  have htake : (h.encode ++ (encryptedPayload ++ mic)).take (h.encode ++ encryptedPayload).length =
      h.encode ++ encryptedPayload := by
    rw [← List.append_assoc, List.take_left]
  have hdrop : (h.encode ++ (encryptedPayload ++ mic)).drop (h.encode ++ encryptedPayload).length =
      mic := by
    rw [← List.append_assoc, List.drop_left]
  simp only [decodeRaw, hdata, MessageHeader.decode_encode_append, Except.ok_bind,
    MessageHeader.isSecure_normalize, hs, if_true, hlen, if_false, hend, htake, hdrop,
    Except.pure_eq_ok, ← MessageHeader.length_encode, List.drop_left]

/-- **The frame codec round trip, both ways.** A frame whose headers are as the wire carries
them (`normalize`) is read back whole by `DecodeUnsecured`, each header decoder consuming the
header's `Size()`. Conversely, whatever bytes both header decoders accept with the reserved
flag bits clear, the decoded headers re-encode to the bytes they consumed. -/
theorem frame_codec_round_trip :
    (∀ (h : MessageHeader) (p : ProtocolHeader) (payload : List UInt8),
      h.normalize = h → p.normalize = p →
      decodeUnsecured (Frame.encodeUnsecured ⟨h, p, payload⟩) = .ok ⟨h, p, payload⟩ ∧
      MessageHeader.decode (h.encode ++ p.encode ++ payload) = .ok (h, h.size) ∧
      ProtocolHeader.decode (p.encode ++ payload) = .ok (p, p.size)) ∧
    ∀ (data : List UInt8) (h : MessageHeader) (n : Nat) (p : ProtocolHeader) (m : Nat),
      MessageHeader.decode data = .ok (h, n) → ProtocolHeader.decode (data.drop n) = .ok (p, m) →
      data.getD 0 0 &&& 0x08 = 0 → data.getD 3 0 &&& 0x1C = 0 →
      (data.drop n).getD 0 0 &&& 0xE0 = 0 → h.encode ++ p.encode = data.take (n + m) := by
  refine ⟨fun h p payload hh hp => ⟨?_, ?_, ?_⟩, ?_⟩
  · have := decodeUnsecured_encodeUnsecured ⟨h, p, payload⟩
    rwa [hh, hp] at this
  · have := MessageHeader.decode_encode_append h (p.encode ++ payload)
    rwa [hh, ← List.append_assoc] at this
  · have := ProtocolHeader.decode_encode_append p payload
    rwa [hp] at this
  · intro data h n p m hdh hdp hmsg hsec hexch
    obtain ⟨-, hh⟩ := MessageHeader.decode_sound hdh hmsg hsec
    obtain ⟨-, hp⟩ := ProtocolHeader.decode_sound hdp hexch
    -- the protocol header's bytes follow the message header's
    rw [hh, hp, List.take_add]

end Matter.Message
