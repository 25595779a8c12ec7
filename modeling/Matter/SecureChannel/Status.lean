import Matter.Lib.Bytes

/-!
# Opcodes and status reports of the secure channel (`pkg/securechannel/opcodes.go`, `status.go`)

An opcode is a byte; `MessagePermitted` is the list of the opcodes a handshake exchange takes,
and `IsPASEOpcode` and `IsCASEOpcode` split them between the two handshakes. A `StatusReport`
is a general code, a protocol ID, a protocol code and optional protocol data, written little
endian in 2, 4 and 2 bytes; `DecodeStatusReport` takes the three fields from the first 8 bytes
and the rest as the protocol data.

The `String` methods and the codes no modelled function reads are left out.

Results:
* `decodeStatusReport_encode`: decoding an encoded status report gives it back.
-/

namespace Matter.SecureChannel

/-- `Opcode`, a byte. -/
abbrev Opcode := UInt8

def opcodeStandaloneAck : Opcode := 0x10
def opcodePBKDFParamRequest : Opcode := 0x20
def opcodePBKDFParamResponse : Opcode := 0x21
def opcodePASEPake1 : Opcode := 0x22
def opcodePASEPake2 : Opcode := 0x23
def opcodePASEPake3 : Opcode := 0x24
def opcodeCASESigma1 : Opcode := 0x30
def opcodeCASESigma2 : Opcode := 0x31
def opcodeCASESigma3 : Opcode := 0x32
def opcodeCASESigma2Resume : Opcode := 0x33
def opcodeStatusReport : Opcode := 0x40

/-- `ProtocolID`, the secure channel protocol's. -/
def protocolID : UInt16 := 0x0000

/-- `GeneralCode`. -/
abbrev GeneralCode := UInt16

def generalCodeSuccess : GeneralCode := 0
def generalCodeBusy : GeneralCode := 8

/-- `ProtocolCode`. -/
abbrev ProtocolCode := UInt16

def protocolCodeSuccess : ProtocolCode := 0x0000
def protocolCodeCloseSession : ProtocolCode := 0x0003
def protocolCodeBusy : ProtocolCode := 0x0004

/-- `MessagePermitted`. -/
def messagePermitted (opcode : Opcode) : Bool :=
  [opcodePBKDFParamRequest, opcodePBKDFParamResponse, opcodePASEPake1, opcodePASEPake2,
    opcodePASEPake3, opcodeCASESigma1, opcodeCASESigma2, opcodeCASESigma3, opcodeCASESigma2Resume,
    opcodeStandaloneAck, opcodeStatusReport].contains opcode

/-- `IsPASEOpcode`. -/
def isPASEOpcode (opcode : Opcode) : Bool :=
  [opcodePBKDFParamRequest, opcodePBKDFParamResponse, opcodePASEPake1, opcodePASEPake2,
    opcodePASEPake3].contains opcode

/-- `IsCASEOpcode`. -/
def isCASEOpcode (opcode : Opcode) : Bool :=
  [opcodeCASESigma1, opcodeCASESigma2, opcodeCASESigma3, opcodeCASESigma2Resume].contains opcode

/-- `StatusReportMinSize`. -/
def statusReportMinSize : Nat := 8

/-- `StatusReport`. -/
structure StatusReport where
  generalCode : GeneralCode
  protocolID : UInt32
  protocolCode : UInt16
  protocolData : List UInt8 := []
  deriving DecidableEq, Repr

/-- `ErrStatusReportTooShort`: "securechannel: status report too short". -/
inductive StatusError
  | tooShort
  deriving DecidableEq, Repr

/-- `NewSecureChannelStatusReport(general, code)`. -/
def newSecureChannelStatusReport (general : GeneralCode) (code : ProtocolCode) : StatusReport :=
  { generalCode := general, protocolID := protocolID.toUInt32, protocolCode := code }

/-- `Success()`. -/
def success : StatusReport := newSecureChannelStatusReport generalCodeSuccess protocolCodeSuccess

/-- `Busy(waitTimeMs)`. -/
def busy (waitTimeMs : UInt16) : StatusReport :=
  { generalCode := generalCodeBusy, protocolID := protocolID.toUInt32,
    protocolCode := protocolCodeBusy, protocolData := Bytes.toLE 2 waitTimeMs.toNat }

namespace StatusReport

/-- `Encode()`. -/
def encode (s : StatusReport) : List UInt8 :=
  Bytes.toLE 2 s.generalCode.toNat ++ Bytes.toLE 4 s.protocolID.toNat ++
    Bytes.toLE 2 s.protocolCode.toNat ++ s.protocolData

/-- `IsSuccess()`. -/
def isSuccess (s : StatusReport) : Bool := s.generalCode == generalCodeSuccess

/-- `IsBusy()`. -/
def isBusy (s : StatusReport) : Bool :=
  s.generalCode == generalCodeBusy && s.protocolID == SecureChannel.protocolID.toUInt32 &&
    s.protocolCode == protocolCodeBusy

/-- `IsSecureChannel()`. -/
def isSecureChannel (s : StatusReport) : Bool := s.protocolID == SecureChannel.protocolID.toUInt32

/-- `SecureChannelCode()`. -/
def secureChannelCode (s : StatusReport) : ProtocolCode := s.protocolCode

end StatusReport

/-- `DecodeStatusReport(data)`. -/
def decodeStatusReport (data : List UInt8) : Except StatusError StatusReport :=
  if data.length < statusReportMinSize then .error .tooShort
  else
    .ok { generalCode := UInt16.ofNat (Bytes.ofLE (data.take 2))
          protocolID := UInt32.ofNat (Bytes.ofLE ((data.drop 2).take 4))
          protocolCode := UInt16.ofNat (Bytes.ofLE ((data.drop 6).take 2))
          protocolData := data.drop statusReportMinSize }

/-- **Decoding an encoded status report gives it back.** -/
theorem decodeStatusReport_encode (s : StatusReport) : decodeStatusReport s.encode = .ok s := by
  have hlen : ¬ s.encode.length < statusReportMinSize := by
    simp only [StatusReport.encode, List.length_append, Bytes.length_toLE, statusReportMinSize]
    omega
  rw [decodeStatusReport, if_neg hlen]
  -- each field is the little-endian encoding of a value below its width's bound
  have hg := Bytes.ofLE_toLE_of_lt (w := 2) s.generalCode.toNat_lt
  have hp := Bytes.ofLE_toLE_of_lt (w := 4) s.protocolID.toNat_lt
  have hc := Bytes.ofLE_toLE_of_lt (w := 2) s.protocolCode.toNat_lt
  simp [StatusReport.encode, List.drop_append, statusReportMinSize, hg, hp, hc]

end Matter.SecureChannel
