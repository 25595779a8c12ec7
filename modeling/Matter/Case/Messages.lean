import Matter.Case.Keys

/-!
# CASE messages (`pkg/securechannel/case/messages.go`)

The Sigma messages and the signed and encrypted payloads inside them, as the Go structures
have them. A `[n]byte` field is a byte list, whose declared size is the message's `Sized`
predicate; an optional pointer field is an `Option`. A `[]byte` field is a byte list shorter
than `2^63`, as every Go slice is: `Sized` says so too, since the TLV length of a longer list
would not fit its eight bytes.

The TLV encoders and decoders of `messages.go` are the fields of `MessageCodec`; each returns
`none` where the Go function returns an error. What the session needs of them is
`MessageCodec.RoundTrip`: every message with its declared sizes is encoded, and decoding the
encoding gives the message back (an empty ICAC standing for an absent one, as `Encode` writes
it only when non-empty).
-/

namespace Matter.Case

/-- `MRPParameters`: zero stands for an absent field. -/
structure MRPParameters where
  idleRetransTimeout : UInt32
  activeRetransTimeout : UInt32
  activeThreshold : UInt16
  deriving DecidableEq, Repr

/-- `Sigma1`. -/
structure Sigma1 where
  initiatorRandom : List UInt8
  initiatorSessionID : UInt16
  destinationID : List UInt8
  initiatorEphPubKey : List UInt8
  mrpParams : Option MRPParameters
  resumptionID : Option (List UInt8)
  initiatorResumeMIC : Option (List UInt8)
  deriving DecidableEq, Repr

/-- `Sigma2`. -/
structure Sigma2 where
  responderRandom : List UInt8
  responderSessionID : UInt16
  responderEphPubKey : List UInt8
  encrypted2 : List UInt8
  mrpParams : Option MRPParameters
  deriving DecidableEq, Repr

/-- `TBEData2`: what Sigma2 encrypts. -/
structure TBEData2 where
  responderNOC : List UInt8
  responderICAC : List UInt8
  signature : List UInt8
  resumptionID : List UInt8
  deriving DecidableEq, Repr

/-- `TBSData2`: what the responder signs. -/
structure TBSData2 where
  responderNOC : List UInt8
  responderICAC : List UInt8
  responderEphPubKey : List UInt8
  initiatorEphPubKey : List UInt8
  deriving DecidableEq, Repr

/-- `Sigma3`. -/
structure Sigma3 where
  encrypted3 : List UInt8
  deriving DecidableEq, Repr

/-- `TBEData3`: what Sigma3 encrypts. -/
structure TBEData3 where
  initiatorNOC : List UInt8
  initiatorICAC : List UInt8
  signature : List UInt8
  deriving DecidableEq, Repr

/-- `TBSData3`: what the initiator signs. -/
structure TBSData3 where
  initiatorNOC : List UInt8
  initiatorICAC : List UInt8
  initiatorEphPubKey : List UInt8
  responderEphPubKey : List UInt8
  deriving DecidableEq, Repr

/-- `Sigma2Resume`. -/
structure Sigma2Resume where
  resumptionID : List UInt8
  resume2MIC : List UInt8
  responderSessionID : UInt16
  mrpParams : Option MRPParameters
  deriving DecidableEq, Repr

/-! ## Declared sizes -/

/-- The fixed-size fields of a `Sigma1` have their declared sizes. -/
def Sigma1.Sized (m : Sigma1) : Prop :=
  m.initiatorRandom.length = randomSize ∧ m.destinationID.length = destinationIDSize ∧
    m.initiatorEphPubKey.length = 65 ∧ (∀ r ∈ m.resumptionID, r.length = resumptionIDSize) ∧
    ∀ mic ∈ m.initiatorResumeMIC, mic.length = micSize

/-- The fixed-size fields of a `Sigma2` have their declared sizes; its ciphertext is a Go slice. -/
def Sigma2.Sized (m : Sigma2) : Prop :=
  m.responderRandom.length = randomSize ∧ m.responderEphPubKey.length = 65 ∧
    m.encrypted2.length < 2 ^ 63

/-- The certificates of a `TBEData2` are Go slices; its fixed-size fields have their declared
sizes. -/
def TBEData2.Sized (m : TBEData2) : Prop :=
  m.responderNOC.length < 2 ^ 63 ∧ m.responderICAC.length < 2 ^ 63 ∧
    m.signature.length = 64 ∧ m.resumptionID.length = resumptionIDSize

/-- The ciphertext of a `Sigma3` is a Go slice. -/
def Sigma3.Sized (m : Sigma3) : Prop := m.encrypted3.length < 2 ^ 63

/-- The certificates of a `TBEData3` are Go slices; its signature has its declared size. -/
def TBEData3.Sized (m : TBEData3) : Prop :=
  m.initiatorNOC.length < 2 ^ 63 ∧ m.initiatorICAC.length < 2 ^ 63 ∧ m.signature.length = 64

/-- The fixed-size fields of a `Sigma2Resume` have their declared sizes. -/
def Sigma2Resume.Sized (m : Sigma2Resume) : Prop :=
  m.resumptionID.length = resumptionIDSize ∧ m.resume2MIC.length = micSize

/-! ## The codec -/

/-- The `Encode` methods and `Decode` functions of `messages.go`. -/
structure MessageCodec where
  encodeSigma1 : Sigma1 → Option (List UInt8)
  decodeSigma1 : List UInt8 → Option Sigma1
  encodeSigma2 : Sigma2 → Option (List UInt8)
  decodeSigma2 : List UInt8 → Option Sigma2
  encodeTBEData2 : TBEData2 → Option (List UInt8)
  decodeTBEData2 : List UInt8 → Option TBEData2
  encodeTBSData2 : TBSData2 → Option (List UInt8)
  encodeSigma3 : Sigma3 → Option (List UInt8)
  decodeSigma3 : List UInt8 → Option Sigma3
  encodeTBEData3 : TBEData3 → Option (List UInt8)
  decodeTBEData3 : List UInt8 → Option TBEData3
  encodeTBSData3 : TBSData3 → Option (List UInt8)
  encodeSigma2Resume : Sigma2Resume → Option (List UInt8)
  decodeSigma2Resume : List UInt8 → Option Sigma2Resume

/-- A message with its declared sizes is encoded, and its encoding decodes back to it. -/
def RoundTrips {α : Type} (Sized : α → Prop) (encode : α → Option (List UInt8))
    (decode : List UInt8 → Option α) : Prop :=
  ∀ m, Sized m → ∃ b, encode m = some b ∧ decode b = some m

/-- The round trips of every transmitted message, and the encoders of the signed data. -/
structure MessageCodec.RoundTrip (C : MessageCodec) : Prop where
  sigma1 : RoundTrips Sigma1.Sized C.encodeSigma1 C.decodeSigma1
  sigma2 : RoundTrips Sigma2.Sized C.encodeSigma2 C.decodeSigma2
  tbeData2 : RoundTrips TBEData2.Sized C.encodeTBEData2 C.decodeTBEData2
  sigma3 : RoundTrips Sigma3.Sized C.encodeSigma3 C.decodeSigma3
  tbeData3 : RoundTrips TBEData3.Sized C.encodeTBEData3 C.decodeTBEData3
  sigma2Resume : RoundTrips Sigma2Resume.Sized C.encodeSigma2Resume C.decodeSigma2Resume
  tbsData2 : ∀ m, ∃ b, C.encodeTBSData2 m = some b
  tbsData3 : ∀ m, ∃ b, C.encodeTBSData3 m = some b

end Matter.Case
