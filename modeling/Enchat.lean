import Enchat.Library.Run
import Enchat.Library.ListUpdate
import Enchat.Library.StreamCipher
import Enchat.Library.Buffer
import Enchat.Library.Utf8
import Enchat.Library.Base64
import Enchat.Library.Framing
import Enchat.Library.Symbolic
import Enchat.Library.LittleEndian
import Enchat.Library.Montgomery
import Enchat.Library.Primality
import Enchat.Library.Edwards
import Enchat.Model.Chacha20
import Enchat.Model.ChatSession
import Enchat.Model.Platform
import Enchat.Model.Connection
import Enchat.Model.Link
import Enchat.Model.Dialogue
import Enchat.Model.Endpoint
import Enchat.Model.Acceptor
import Enchat.Model.Generator
import Enchat.Model.PeerJson
import Enchat.Model.Shutdown
import Enchat.Model.Network
import Enchat.Model.Sample
import Enchat.Model.HelloMemory
import Enchat.Model.Field25519
import Enchat.Model.X25519
import Enchat.Model.BaseTable
import Enchat.Model.Edwards25519
import Enchat.Proofs.Keystream
import Enchat.Proofs.KeystreamReuse
import Enchat.Proofs.KeystreamLimit
import Enchat.Proofs.ConnStep
import Enchat.Proofs.HelloIntegrity
import Enchat.Proofs.PeerKeys
import Enchat.Proofs.PeerJson
import Enchat.Proofs.NetworkStep
import Enchat.Proofs.NetworkRun
import Enchat.Proofs.KeySecrecy
import Enchat.Proofs.Correspondence
import Enchat.Proofs.PacketTypes
import Enchat.Proofs.Receiver
import Enchat.Proofs.LinkRun
import Enchat.Proofs.SessionOrder
import Enchat.Proofs.EndpointStep
import Enchat.Proofs.EndpointRun
import Enchat.Proofs.Acceptor
import Enchat.Proofs.Generator
import Enchat.Proofs.Authentication
import Enchat.Proofs.SessionMap
import Enchat.Proofs.Closing
import Enchat.Proofs.Shutdown
import Enchat.Proofs.Retirement
import Enchat.Proofs.Routing
import Enchat.Proofs.KeyMaterial
import Enchat.Proofs.Independence
import Enchat.Proofs.SignalOrder
import Enchat.Proofs.OneReader
import Enchat.Proofs.FrameReader
import Enchat.Proofs.ReceiveBuffer
import Enchat.Proofs.SendBuffer
import Enchat.Proofs.QuietHandshake
import Enchat.Proofs.WireOrder
import Enchat.Proofs.Delivery
import Enchat.Proofs.CipherDrift
import Enchat.Proofs.TextRoundTrip
import Enchat.Proofs.Tampering
import Enchat.Proofs.LiveSession
import Enchat.Proofs.Field25519
import Enchat.Proofs.FieldBytes
import Enchat.Proofs.X25519
import Enchat.Proofs.Edwards25519
import Enchat.Proofs.KeyAgreement
import Enchat.Proofs.Dialogue
import Enchat.Proofs.DialogueRun
import Enchat.Proofs.DialogueSettled
