import Matter.Lib.Bytes

/-!
# Message and protocol headers (`pkg/message/header.go`, `protocol.go`, `frame.go`)

Model of the two headers of a Matter message (Spec 4.4.1 and 4.4.3) and of the frame
codecs that put them together. A Go `[]byte` is a `List UInt8`; `binary.LittleEndian` reads
and writes go through `Bytes.toLE` / `Bytes.ofLE`. The two-bit enumerations `SessionType`
and `DestinationType` are inductive types: `Decode` rejects every other bit pattern
(`ErrInvalidSessionType`, `ErrInvalidDSIZ`), so only these values reach the rest of the
stack. `ProtocolID` is a `uint16` with named constants and stays a `UInt16`.

* `MessageHeader.encode` is `Encode`/`EncodeTo` (`header.go:66-111`), `MessageHeader.decode`
  is `Decode` (`header.go:158-246`) with its error order: length, version, DSIZ, session
  type, then the length of the optional fields.
* `ProtocolHeader.encode` / `decode` are `protocol.go:60-192`.
* `Frame.encodeUnsecured`, `decodeUnsecured` and `decodeRaw` are `frame.go:19-118`. The
  decoded `Payload` is `nil` when no byte follows the headers; a `nil` and an empty slice are
  both the empty list here.

Go's `Decode` writes fields of the receiver before it can fail; every caller drops the
receiver on an error, so `decode` returns `Except`.
-/

namespace Matter.Message

/-- The message-layer errors of `errors.go`. -/
inductive MessageError
  | messageTooShort
  | invalidVersion
  | invalidSessionType
  | invalidDSIZ
  | payloadTooShort
  | decryptionFailed
  | invalidKey
  | invalidNonce
  | replayDetected
  | counterExhausted
  deriving DecidableEq, Repr

/-- `SessionType`: bits 0-1 of the security flags. -/
inductive SessionType
  | unicast
  | group
  deriving DecidableEq, Repr

/-- The numeric value of a `SessionType`. -/
def SessionType.toUInt8 : SessionType → UInt8
  | .unicast => 0
  | .group => 1

/-- `DestinationType`: the DSIZ bits 0-1 of the message flags. -/
inductive DestinationType
  | none
  | nodeID
  | groupID
  deriving DecidableEq, Repr

/-- The numeric value of a `DestinationType`. -/
def DestinationType.toUInt8 : DestinationType → UInt8
  | .none => 0
  | .nodeID => 1
  | .groupID => 2

/-- `DestinationType.Size()`. -/
def DestinationType.size : DestinationType → Nat
  | .none => 0
  | .nodeID => 8
  | .groupID => 2

/-- `MinHeaderSize`. -/
def minHeaderSize : Nat := 8

/-- `MinProtocolHeaderSize`. -/
def minProtocolHeaderSize : Nat := 6

/-- `MICSize`. -/
def micSize : Nat := 16

/-- `ProtocolSecureChannel`. -/
def protocolSecureChannel : UInt16 := 0x0000

/-- `VendorIDMatter`. -/
def vendorIDMatter : UInt16 := 0

/-- The `w` bytes at `offset` of `data`, as `binary.LittleEndian` reads them. -/
def readLE (data : List UInt8) (offset w : Nat) : Nat := Bytes.ofLE ((data.drop offset).take w)

/-- `MessageHeader` (`header.go:9-49`). -/
structure MessageHeader where
  sessionID : UInt16
  messageCounter : UInt32
  sessionType : SessionType
  sourceNodeID : UInt64
  destinationType : DestinationType
  destinationNodeID : UInt64
  destinationGroupID : UInt16
  sourcePresent : Bool
  privacy : Bool
  control : Bool
  extensions : Bool
  deriving DecidableEq, Repr

/-- The zero value `MessageHeader{}`. -/
def MessageHeader.zero : MessageHeader :=
  ⟨0, 0, .unicast, 0, .none, 0, 0, false, false, false, false⟩

namespace MessageHeader

/-- `Size()`. -/
def size (h : MessageHeader) : Nat :=
  minHeaderSize + (if h.sourcePresent then 8 else 0) + h.destinationType.size

/-- `messageFlags()`: version 0 in bits 4-7, the S flag, DSIZ. -/
def messageFlags (h : MessageHeader) : UInt8 :=
  ((0 : UInt8) <<< 4) ||| (if h.sourcePresent then 0x04 else 0) ||| (h.destinationType.toUInt8 &&& 0x03)

/-- `securityFlags()`: session type, MX, C and P flags. -/
def securityFlags (h : MessageHeader) : UInt8 :=
  (h.sessionType.toUInt8 &&& 0x03) ||| (if h.extensions then 0x20 else 0) |||
    (if h.control then 0x40 else 0) ||| (if h.privacy then 0x80 else 0)

/-- The optional destination field. -/
def destinationBytes (h : MessageHeader) : List UInt8 :=
  match h.destinationType with
  | .none => []
  | .nodeID => Bytes.toLE 8 h.destinationNodeID.toNat
  | .groupID => Bytes.toLE 2 h.destinationGroupID.toNat

/-- `Encode()`: flags, session ID, security flags, counter, then the optional fields. -/
def encode (h : MessageHeader) : List UInt8 :=
  [h.messageFlags] ++ Bytes.toLE 2 h.sessionID.toNat ++ [h.securityFlags] ++
    Bytes.toLE 4 h.messageCounter.toNat ++
    (if h.sourcePresent then Bytes.toLE 8 h.sourceNodeID.toNat else []) ++ h.destinationBytes

/-- `IsSecure()`: anything but a unicast message with session ID 0. -/
def isSecure (h : MessageHeader) : Bool :=
  !(h.sessionType == .unicast && h.sessionID == 0)

/-- `PrivacyObfuscatedSize()`: counter and the optional node/group fields. -/
def privacyObfuscatedSize (h : MessageHeader) : Nat :=
  4 + (if h.sourcePresent then 8 else 0) + h.destinationType.size

/-- `PrivacyHeaderOffset()`. -/
def privacyHeaderOffset (_ : MessageHeader) : Nat := 4

/-- The DSIZ value of the message flags. -/
def decodeDestinationType (flags : UInt8) : Option DestinationType :=
  match (flags &&& 0x03).toNat with
  | 0 => some .none
  | 1 => some .nodeID
  | 2 => some .groupID
  | _ => none

/-- The session type value of the security flags. -/
def decodeSessionType (flags : UInt8) : Option SessionType :=
  match (flags &&& 0x03).toNat with
  | 0 => some .unicast
  | 1 => some .group
  | _ => none

/-- `Decode(data)`: the header and the number of bytes it takes. -/
def decode (data : List UInt8) : Except MessageError (MessageHeader × Nat) :=
  if data.length < minHeaderSize then .error .messageTooShort
  else
    let msgFlags := data.getD 0 0
    if (msgFlags >>> 4) &&& 0x0F ≠ 0 then .error .invalidVersion
    else
      let sourcePresent := msgFlags &&& 0x04 != 0
      match decodeDestinationType msgFlags with
      | none => .error .invalidDSIZ
      | some destinationType =>
        let sessionID := UInt16.ofNat (readLE data 1 2)
        let secFlags := data.getD 3 0
        match decodeSessionType secFlags with
        | none => .error .invalidSessionType
        | some sessionType =>
          let messageCounter := UInt32.ofNat (readLE data 4 4)
          let sourceEnd := minHeaderSize + (if sourcePresent then 8 else 0)
          let requiredLen := sourceEnd + destinationType.size
          if data.length < requiredLen then .error .messageTooShort
          else
            .ok ({ sessionID, messageCounter, sessionType, destinationType, sourcePresent
                   sourceNodeID := if sourcePresent then UInt64.ofNat (readLE data 8 8) else 0
                   destinationNodeID :=
                     if destinationType = .nodeID then UInt64.ofNat (readLE data sourceEnd 8)
                     else 0
                   destinationGroupID :=
                     if destinationType = .groupID then UInt16.ofNat (readLE data sourceEnd 2)
                     else 0
                   privacy := secFlags &&& 0x80 != 0
                   control := secFlags &&& 0x40 != 0
                   extensions := secFlags &&& 0x20 != 0 }, requiredLen)

end MessageHeader

/-- `ProtocolHeader` (`protocol.go:9-42`). -/
structure ProtocolHeader where
  protocolID : UInt16
  protocolOpcode : UInt8
  exchangeID : UInt16
  protocolVendorID : UInt16
  ackedMessageCounter : UInt32
  initiator : Bool
  acknowledgement : Bool
  reliability : Bool
  securedExtensions : Bool
  vendorPresent : Bool
  deriving DecidableEq, Repr

/-- The zero value `ProtocolHeader{}`. -/
def ProtocolHeader.zero : ProtocolHeader := ⟨0, 0, 0, 0, 0, false, false, false, false, false⟩

namespace ProtocolHeader

/-- `Size()`. -/
def size (p : ProtocolHeader) : Nat :=
  minProtocolHeaderSize + (if p.vendorPresent then 2 else 0) + (if p.acknowledgement then 4 else 0)

/-- `exchangeFlags()`: the I, A, R, SX and V flags. -/
def exchangeFlags (p : ProtocolHeader) : UInt8 :=
  (if p.initiator then 0x01 else 0) ||| (if p.acknowledgement then 0x02 else 0) |||
    (if p.reliability then 0x04 else 0) ||| (if p.securedExtensions then 0x08 else 0) |||
    (if p.vendorPresent then 0x10 else 0)

/-- `Encode()`. -/
def encode (p : ProtocolHeader) : List UInt8 :=
  [p.exchangeFlags, p.protocolOpcode] ++ Bytes.toLE 2 p.exchangeID.toNat ++
    (if p.vendorPresent then Bytes.toLE 2 p.protocolVendorID.toNat else []) ++
    Bytes.toLE 2 p.protocolID.toNat ++
    (if p.acknowledgement then Bytes.toLE 4 p.ackedMessageCounter.toNat else [])

/-- `Decode(data)`: the header and the number of bytes it takes. -/
def decode (data : List UInt8) : Except MessageError (ProtocolHeader × Nat) :=
  if data.length < minProtocolHeaderSize then .error .payloadTooShort
  else
    let exchFlags := data.getD 0 0
    let vendorPresent := exchFlags &&& 0x10 != 0
    let acknowledgement := exchFlags &&& 0x02 != 0
    let vendorEnd := 4 + (if vendorPresent then 2 else 0)
    let requiredLen := vendorEnd + 2 + (if acknowledgement then 4 else 0)
    if data.length < requiredLen then .error .payloadTooShort
    else
      .ok ({ initiator := exchFlags &&& 0x01 != 0
             acknowledgement
             reliability := exchFlags &&& 0x04 != 0
             securedExtensions := exchFlags &&& 0x08 != 0
             vendorPresent
             protocolOpcode := data.getD 1 0
             exchangeID := UInt16.ofNat (readLE data 2 2)
             protocolVendorID := if vendorPresent then UInt16.ofNat (readLE data 4 2)
               else vendorIDMatter
             protocolID := UInt16.ofNat (readLE data vendorEnd 2)
             ackedMessageCounter :=
               if acknowledgement then UInt32.ofNat (readLE data (vendorEnd + 2) 4) else 0 },
           requiredLen)

end ProtocolHeader

/-- `Frame`: headers and the application payload. -/
structure Frame where
  header : MessageHeader
  protocol : ProtocolHeader
  payload : List UInt8
  deriving DecidableEq, Repr

/-- `Frame.EncodeUnsecured()`. -/
def Frame.encodeUnsecured (f : Frame) : List UInt8 :=
  f.header.encode ++ f.protocol.encode ++ f.payload

/-- `DecodeUnsecured(data)`. -/
def decodeUnsecured (data : List UInt8) : Except MessageError Frame := do
  let (header, headerLen) ← MessageHeader.decode data
  if data.length < headerLen then throw .messageTooShort
  let (protocol, protocolLen) ← ProtocolHeader.decode (data.drop headerLen)
  return { header, protocol, payload := data.drop (headerLen + protocolLen) }

/-- `RawFrame`: the header and the still encrypted rest. -/
structure RawFrame where
  header : MessageHeader
  encryptedPayload : List UInt8
  mic : List UInt8
  deriving DecidableEq, Repr

/-- `DecodeRaw(data)`: a secure frame's last `MICSize` bytes are its MIC. -/
def decodeRaw (data : List UInt8) : Except MessageError RawFrame := do
  let (header, headerLen) ← MessageHeader.decode data
  if header.isSecure then
    if data.length < headerLen + micSize then throw .messageTooShort
    let payloadEnd := data.length - micSize
    return { header, encryptedPayload := (data.take payloadEnd).drop headerLen,
             mic := data.drop payloadEnd }
  else
    return { header, encryptedPayload := data.drop headerLen, mic := [] }

end Matter.Message
