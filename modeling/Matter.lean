import Matter.Lib.GoWord
import Matter.Lib.Mealy
import Matter.Message.Counter
import Matter.Message.ReplayWindow
import Matter.Lib.GoMap
import Matter.Exchange.Retransmit
import Matter.Lib.Bytes
import Matter.Message.Header
import Matter.Lib.BlockMode
import Matter.Crypto.AesCcm
import Matter.Lib.Except
import Matter.Message.RoundTrip
import Matter.Crypto.AesCtr
import Matter.Message.Codec
import Matter.Session.Secure
import Matter.Session.Channel
import Matter.Session.Manager
import Matter.Exchange.Context
import Matter.Exchange.Manager
import Matter.Exchange.Sessions
import Matter.Exchange.Mrp
import Matter.Exchange.Routing
import Matter.Acl.Types
import Matter.Acl.Checker
import Matter.Acl.Manager
import Matter.Case.Keys
import Matter.Case.Messages
import Matter.Case.Session
import Matter.Case.Handshake
import Matter.Case.Authentication
import Matter.Lib.Utf8
import Matter.Tlv.Tag
import Matter.Tlv.Writer
import Matter.Tlv.Reader
import Matter.Tlv.Navigation
import Matter.Tlv.RoundTrip
import Matter.Case.Codec
import Matter.Lib.Pack
import Matter.Im.Chunking
import Matter.Message.Rollover
import Matter.Acl.Limits
import Matter.Tlv.Raw
import Matter.Session.Table
import Matter.Payload.Base38
import Matter.Payload.OptionalData
import Matter.Lib.BitStream
import Matter.Payload.Setup
import Matter.Payload.QrCode
import Matter.Credentials.Dn
import Matter.SecureChannel.Status
import Matter.Lib.CheckDigit
import Matter.Payload.Verhoeff
import Matter.Lib.Strconv
import Matter.Payload.ManualCode
import Matter.SecureChannel.Manager
import Matter.Crypto.Spake2p
import Matter.Pase.Messages
import Matter.Pase.Verifier
import Matter.Pase.Session
import Matter.Pase.Handshake
import Matter.Pase.Machine
import Matter.SecureChannel.Pase
import Matter.Lib.Range
import Matter.Fabric.Table
import Matter.Discovery.Txt
