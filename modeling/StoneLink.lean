import StoneLink.Fault
import StoneLink.Bytes
import StoneLink.Text.Hex
import StoneLink.Text.Printable
import StoneLink.Text.Quote
import StoneLink.Text.ByteText
import StoneLink.Text.Space
import StoneLink.Text.Shortest
import StoneLink.Cipher.Aes
import StoneLink.Cipher.Ctr
import StoneLink.Access
import StoneLink.Key.Basic
import StoneLink.Envelope
import StoneLink.Cipher.Sha256
import StoneLink.Cipher.Rc5
import StoneLink.Key.Derive
import StoneLink.Key.Store
import StoneLink.Frame.Fields
import StoneLink.Frame.Packet
import StoneLink.Frame.Multipart
import StoneLink.Session
import StoneLink.Broadcast.Background
import StoneLink.Broadcast.Header
import StoneLink.Broadcast.Command
import StoneLink.Broadcast.Uuid
import StoneLink.Broadcast.Advert
import StoneLink.Broadcast.Queue
import StoneLink.Broadcast.Scheduler
import StoneLink.Text.Integer
import StoneLink.Text.Utf8
import StoneLink.Text.Base64
import StoneLink.Yaml.Timestamp
import StoneLink.Yaml.Token
import StoneLink.Yaml.Token.Buffer
import StoneLink.Yaml.Token.Lexer
import StoneLink.Yaml.Scalar
import StoneLink.Yaml.Value
import StoneLink.Yaml.Event
import StoneLink.Yaml.Node
import StoneLink.Yaml.Decode
import StoneLink.Yaml.Print
import StoneLink.Settings
import StoneLink.Settings.Read
import StoneLink.Settings.Write
import StoneLink.Link.Mode
import StoneLink.Link.Device
import StoneLink.Link.Connection
import StoneLink.Cli.World
import StoneLink.Cli.Flags
import StoneLink.Cli.Tool
import StoneLink.Cli.Commands
import StoneLink.Main
import StoneLink.Proofs.Bits
import StoneLink.Proofs.Cipher
import StoneLink.Proofs.Envelope
import StoneLink.Proofs.Broadcast.Codec
import StoneLink.Proofs.Broadcast.RoundTrip
import StoneLink.Proofs.Session.Agreement
import StoneLink.Proofs.Broadcast.QueueInvariant
import StoneLink.Proofs.Frame.Receive
import StoneLink.Proofs.Link.Request
import StoneLink.Proofs.Frame.Parts
import StoneLink.Proofs.Broadcast.Completion
import StoneLink.Proofs.Broadcast.Outage
import StoneLink.Proofs.Session.StateMachine
import StoneLink.Proofs.Key.FiniteMap
import StoneLink.Proofs.Broadcast.Format
import StoneLink.Proofs.Broadcast.Window
import StoneLink.Proofs.Broadcast.Coalesce
import StoneLink.Proofs.Frame.Fields
import StoneLink.Proofs.Frame.Framing
import StoneLink.Proofs.Broadcast.Background
import StoneLink.Proofs.Cipher.Aes
import StoneLink.Proofs.Link.Handshake
import StoneLink.Proofs.Broadcast.CommandBlock
import StoneLink.Proofs.Frame.Reassembly
import StoneLink.Proofs.Key.Hex
import StoneLink.Proofs.Settings.Validated
