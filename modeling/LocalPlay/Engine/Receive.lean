import LocalPlay.Engine.Basic
import LocalPlay.Internet.Echo

set_option autoImplicit false

/-! # Frames from the link

What an engine does with a frame. Frames of its own are dropped. Address resolution packets go to the
proxy. A packet of the Internet Protocol teaches who has its sender's address; a packet from inside
the subnet is then reported, and answered if it is an echo request for the gateway or belongs
to a relayed connection. A datagram for every host is also copied to each of them, because the
link carries frames for one station only. -/

namespace LocalPlay.Engine

/-- Whether the engine checks checksums and finds one wrong. -/
def Rejects (e : Engine) (verifies : Prop) : Prop := e.setup.verifyChecksums = true ∧ ¬ verifies

instance (e : Engine) (verifies : Prop) [Decidable verifies] : Decidable (e.Rejects verifies) :=
  inferInstanceAs (Decidable (_ ∧ _))

/-! ## Address resolution -/

def receiveArp (e : Engine) (now : Instant) (frame : Link.Frame) : Engine :=
  let (arp, action) := Arp.process e.setup.subnet e.localMac now e.arp frame
  let e' := { e with arp := arp }
  match action with
  | .ignored => e'.count .droppedMalformed
  | .learned => e'
  | .reply answer => ((e'.count .arpReplies).transmit answer).1

/-! ## Datagrams -/

def receiveUdp (e : Engine) (now : Instant) (srcMac : MacAddress) (p : Internet.Packet) : Engine :=
  match Udp.Datagram.parse p.payload with
  | .error _ => e.count .droppedMalformed
  | .ok d =>
    if e.Rejects (d.Verifies p.src p.dst) then e.count .checksumFailures
    else
      let parcel : Udp.Parcel := ⟨⟨p.src, d.srcPort⟩, ⟨p.dst, d.dstPort⟩, d.payload⟩
      let e' := (e.count .udpDelivered).report (.udp srcMac parcel)
      if e.setup.IsBroadcast p.dst then (e'.fanOut now p.toBytes (some srcMac)).1 else e'

/-! ## Echo requests -/

/-- Answers an echo request from the gateway's address. -/
def answerEcho (e : Engine) (now : Instant) (srcMac : MacAddress) (client : IpAddress)
    (reply : Internet.Echo) : Engine :=
  let (e', packet) := e.makePacket e.setup.gateway client .icmp reply.toBytes
  let (e'', taken) := e'.transmitPacket ((e'.arp.lookup now client).getD srcMac) packet
  if taken then e''.count .icmpEchoReplies else e''

def receiveIcmp (e : Engine) (now : Instant) (srcMac : MacAddress) (p : Internet.Packet) :
    Engine :=
  if p.dst ≠ e.setup.gateway then e
  else match Internet.Echo.parse p.payload with
    | .error _ => e.count .droppedMalformed
    | .ok request =>
      if e.Rejects request.Verifies then e.count .checksumFailures
      else match request.answer with
        | .error _ => e
        | .ok reply => e.answerEcho now srcMac p.src reply

/-! ## Segments -/

/-- The connection that a segment belongs to, opened if the segment asks for it. A segment that opens a
connection with the ends of one that is under way takes that one's place. -/
def connectionFor (e : Engine) (flow : Tcp.Flow) (srcMac : MacAddress) (flags : Tcp.Flags) :
    Engine × Option Connection :=
  let opened (e : Engine) : Engine × Option Connection :=
    let (e', c) := e.openConnection flow srcMac
    (e', some c)
  match e.connectionOf? flow with
  | none => if flags.isBareSyn then opened e else (e, none)
  | some c =>
    if flags.isBareSyn ∧ c.session.state ≠ .synReceived then
      opened (e.retire { c with relay := c.relay.cut })
    else (e, some c)

/-- Hands a message of the console to its connection. -/
def hand (e : Engine) (now : Instant) (c : Connection) (m : Tcp.Message) : Engine :=
  let (session, outcome) := c.session.receive m
  let relay := match outcome.forwarded with
    | none => c.relay
    | some data => c.relay.enqueue data
  (e.sayIfAny now c outcome.reply).settle { c with session := session, relay := relay }

def receiveTcp (e : Engine) (now : Instant) (srcMac : MacAddress) (p : Internet.Packet) : Engine :=
  match Tcp.Segment.parse p.payload with
  | .error _ => e.count .droppedMalformed
  | .ok s =>
    if e.Rejects (Tcp.Verifies p.src p.dst p.payload) then e.count .checksumFailures
    else
      let flow : Tcp.Flow := ⟨⟨p.src, s.srcPort⟩, ⟨p.dst, s.dstPort⟩⟩
      let message : Tcp.Message := ⟨s.flags, s.seq, s.ack, s.payload⟩
      let e' := (e.count .tcpSegments).report (.tcp flow message)
      if e.setup.forwardTarget.isNone then e'
      else match e'.connectionFor flow srcMac s.flags with
        | (e'', none) => e''
        | (e'', some c) => e''.hand now c message

/-! ## All of them -/

/-- A packet of the Internet Protocol from inside the subnet. -/
def receiveMember (e : Engine) (now : Instant) (srcMac : MacAddress) (p : Internet.Packet) :
    Engine :=
  match Internet.Protocol.ofCode? p.protocol with
  | some .udp => e.receiveUdp now srcMac p
  | some .tcp => e.receiveTcp now srcMac p
  | some .icmp => e.receiveIcmp now srcMac p
  | none => e

def receiveIpv4 (e : Engine) (now : Instant) (frame : Link.Frame) : Engine :=
  match Internet.Packet.parse frame.payload with
  | .error _ => e.count .droppedMalformed
  | .ok p =>
    if e.Rejects p.HeaderVerifies then e.count .checksumFailures
    else
      let e' := { e with arp := e.arp.insert now frame.src p.src }
      if p.src ∈ e.setup.subnet then e'.receiveMember now frame.src p
      else e'.count .droppedForeignSubnet

def receiveFrame (e : Engine) (now : Instant) (frame : Link.Frame) : Engine :=
  if frame.src = e.localMac then e.count .droppedOwnMac
  else match Link.EtherType.ofCode? frame.etherType with
    | some .arp => e.receiveArp now frame
    | some .ipv4 => e.receiveIpv4 now frame
    | none => e

/-- What an engine does with the bytes of a frame. -/
def handleFrame (e : Engine) (now : Instant) (b : Bytes) : Engine :=
  let e' := { e with counters := e.counters.addReceived b.length }
  match Link.Frame.parse b with
  | .error _ => e'.count .droppedMalformed
  | .ok frame => e'.receiveFrame now frame

end LocalPlay.Engine
