import LocalPlay.Bench.Script
import LocalPlay.Command.Folder
import LocalPlay.Ldn.Network
import LocalPlay.Link.Cable
import LocalPlay.Link.Interface
import LocalPlay.Main
import LocalPlay.Proofs.Arp.LiveHosts
import LocalPlay.Proofs.Arp.Recency
import LocalPlay.Proofs.Arp.Sweeping
import LocalPlay.Proofs.Engine.ConnectionTable
import LocalPlay.Proofs.Ldn.FrameRoundTrip
import LocalPlay.Proofs.Tcp.ConsoleStream
import LocalPlay.Room.Mailbox
import LocalPlay.Proofs.Engine.Reading
import LocalPlay.Proofs.Engine.Effects
import LocalPlay.Proofs.Engine.OwnFrames
import LocalPlay.Proofs.Engine.FanOut
import LocalPlay.Proofs.Engine.SendToAll
import LocalPlay.Proofs.Engine.Register
import LocalPlay.Proofs.Engine.ConsoleBytes
import LocalPlay.Proofs.Engine.Variation
import LocalPlay.Proofs.Engine.DroppedFrames
import LocalPlay.Proofs.Engine.ChecksumFilter
import LocalPlay.Proofs.Engine.LinkPadding
import LocalPlay.Proofs.Ldn.PackedSize
import LocalPlay.Proofs.Bytes
import LocalPlay.Proofs.Internet.Checksum
import LocalPlay.Proofs.Internet.PacketRoundTrip
import LocalPlay.Proofs.Udp.DatagramRoundTrip
import LocalPlay.Proofs.Tcp.SegmentRoundTrip
import LocalPlay.Proofs.Ldn.NodeRoundTrip
import LocalPlay.Proofs.Ldn.NetworkRoundTrip
import LocalPlay.Proofs.Checked.Basic
import LocalPlay.Proofs.Checked.Subnets
import LocalPlay.Proofs.Checked.Writing
import LocalPlay.Proofs.Checked.Records
import LocalPlay.Proofs.Checked.Views
import LocalPlay.Proofs.Checked.HostileFrames
import LocalPlay.Proofs.Ldn.FrameGrammar
import LocalPlay.Proofs.Room.Translation
import LocalPlay.Proofs.Engine.SendToOne
import LocalPlay.Proofs.Engine.SegmentFrames
import LocalPlay.Proofs.Engine.Isolation
import LocalPlay.Proofs.Arp.Eviction
import LocalPlay.Proofs.Tcp.Lifecycle
import LocalPlay.Proofs.Arp.ProxyReplies
import LocalPlay.Proofs.Engine.GatewayPing
import LocalPlay.Proofs.Ldn.CanonicalForm
import LocalPlay.Proofs.Address.MacText
import LocalPlay.Proofs.Internet.Damage
import LocalPlay.Proofs.Address.SubnetRange
import LocalPlay.Proofs.Settings.Acceptance
import LocalPlay.Proofs.Settings.HostLifetime
import LocalPlay.Proofs.Internet.Reference
import LocalPlay.Proofs.Text.Utf8
import LocalPlay.Proofs.Ldn.UserName
import LocalPlay.Proofs.Text.Decimal
import LocalPlay.Proofs.Address.IpText
import LocalPlay.Proofs.Toml.Standard
import LocalPlay.Proofs.Toml.Omission
import LocalPlay.Proofs.Toml.Plain.Layout
import LocalPlay.Proofs.Toml.Plain.QuotedText
import LocalPlay.Proofs.Toml.Plain.Values
import LocalPlay.Proofs.Toml.Plain.Lines
import LocalPlay.Proofs.Toml.Plain.Sections
import LocalPlay.Proofs.Settings.DocumentRoundTrip
