import LocalPlay.Engine.Receive

set_option autoImplicit false

/-! # What a frame says to an engine

What an engine makes of a frame has two parts: what the frame says, and what the engine does about
it. The first, `Engine.read`, depends on nothing but the setup and the hardware address of the
engine, so it is the same at every time of its life. The second, `Engine.heed`, has one case for
each thing that a frame can say. Together they are `handleFrame` (`handleFrame_eq`). -/

namespace LocalPlay.Engine

/-- What is in a packet of the Internet Protocol. -/
inductive Content where
  /-- Nothing that is reported or answered. -/
  | other
  /-- Something wrong, which the counter counts. -/
  | dropped (reason : Counter)
  | datagram (d : Udp.Datagram)
  /-- An echo request for the gateway, with the answer to it. -/
  | echo (reply : Internet.Echo)
  | segment (s : Tcp.Segment)

/-- What a frame says. -/
inductive Reading where
  /-- Nothing: its kind is not known. -/
  | other
  /-- Something wrong, which the counter counts. -/
  | dropped (reason : Counter)
  | resolution (p : Arp.Packet)
  /-- There is a packet from a station, with something in it. -/
  | packet (srcMac : MacAddress) (p : Internet.Packet) (content : Content)

variable (e : Engine) (now : Instant)

/-! ## Reading -/

def readUdp (p : Internet.Packet) : Content :=
  match Udp.Datagram.parse p.payload with
  | .error _ => .dropped .droppedMalformed
  | .ok d => if e.Rejects (d.Verifies p.src p.dst) then .dropped .checksumFailures else .datagram d

def readIcmp (p : Internet.Packet) : Content :=
  if p.dst ≠ e.setup.gateway then .other
  else match Internet.Echo.parse p.payload with
    | .error _ => .dropped .droppedMalformed
    | .ok request =>
      if e.Rejects request.Verifies then .dropped .checksumFailures
      else match request.answer with
        | .error _ => .other
        | .ok reply => .echo reply

def readTcp (p : Internet.Packet) : Content :=
  match Tcp.Segment.parse p.payload with
  | .error _ => .dropped .droppedMalformed
  | .ok s =>
    if e.Rejects (Tcp.Verifies p.src p.dst p.payload) then .dropped .checksumFailures
    else .segment s

/-- What is in a packet; nothing counts if it does not come from the subnet. -/
def readContent (p : Internet.Packet) : Content :=
  if p.src ∈ e.setup.subnet then
    match Internet.Protocol.ofCode? p.protocol with
    | some .udp => e.readUdp p
    | some .tcp => e.readTcp p
    | some .icmp => e.readIcmp p
    | none => .other
  else .dropped .droppedForeignSubnet

def readIpv4 (frame : Link.Frame) : Reading :=
  match Internet.Packet.parse frame.payload with
  | .error _ => .dropped .droppedMalformed
  | .ok p =>
    if e.Rejects p.HeaderVerifies then .dropped .checksumFailures
    else .packet frame.src p (e.readContent p)

def readArp (frame : Link.Frame) : Reading :=
  match Arp.Packet.parse frame.payload with
  | .error _ => .dropped .droppedMalformed
  | .ok p => if p.IsEthernetIpv4 then .resolution p else .dropped .droppedMalformed

def readFrame (frame : Link.Frame) : Reading :=
  if frame.src = e.localMac then .dropped .droppedOwnMac
  else match Link.EtherType.ofCode? frame.etherType with
    | some .arp => readArp frame
    | some .ipv4 => e.readIpv4 frame
    | none => .other

/-- What the bytes of a frame say. -/
def read (data : Bytes) : Reading :=
  match Link.Frame.parse data with
  | .error _ => .dropped .droppedMalformed
  | .ok frame => e.readFrame frame

/-- Two engines with the same setup and the same hardware address read the same. -/
theorem read_congr {e e' : Engine} (setup : e'.setup = e.setup)
    (localMac : e'.localMac = e.localMac) (data : Bytes) : e'.read data = e.read data := by
  cases e
  cases e'
  cases setup
  cases localMac
  rfl

/-! ## Frames with a packet -/

/-- A frame brings an engine a packet: it is from another station, says that its payload is a packet
    of the Internet Protocol, and the header of that can be read and is not rejected. -/
structure Brings (data : Bytes) (frame : Link.Frame) (p : Internet.Packet) : Prop where
  parsed : Link.Frame.parse data = .ok frame
  foreign : frame.src ≠ e.localMac
  ipv4 : frame.etherType = Link.EtherType.ipv4.code
  packet : Internet.Packet.parse frame.payload = .ok p
  accepted : ¬ e.Rejects p.HeaderVerifies

section Packets

variable {e} {data : Bytes} {frame : Link.Frame} {srcMac : MacAddress} {p : Internet.Packet}
  {content : Content}

theorem Brings.read_eq (brings : e.Brings data frame p) :
    e.read data = .packet frame.src p (e.readContent p) := by
  have kind : Link.EtherType.ofCode? frame.etherType = some .ipv4 :=
    Link.EtherType.ofCode?_eq_some_iff.2 brings.ipv4
  simp only [read, brings.parsed, readFrame, if_neg brings.foreign, kind, readIpv4, brings.packet,
    if_neg brings.accepted]

/-- Nothing but a frame that brings a packet is read as one. -/
theorem brings_of_read (said : e.read data = .packet srcMac p content) :
    ∃ frame, e.Brings data frame p ∧ frame.src = srcMac := by
  unfold read at said
  split at said
  · cases said
  next frame parsed =>
  unfold readFrame at said
  split at said
  · cases said
  next foreign =>
  split at said
  · unfold readArp at said
    split at said
    · cases said
    · split at said <;> cases said
  · next ipv4 =>
    unfold readIpv4 at said
    split at said
    · cases said
    next p' packet =>
    split at said
    · cases said
    next accepted =>
    cases said
    exact ⟨frame, ⟨parsed, foreign, Link.EtherType.ofCode?_eq_some_iff.1 ipv4, packet, accepted⟩,
      rfl⟩
  · cases said

/-- A packet is in the payload of a frame of the station that it comes from. -/
theorem frame_of_read (said : e.read data = .packet srcMac p content) :
    ∃ frame, Link.Frame.parse data = .ok frame ∧ frame.src = srcMac ∧
      Internet.Packet.parse frame.payload = .ok p := by
  obtain ⟨frame, brings, src⟩ := brings_of_read said
  exact ⟨frame, brings.parsed, src, brings.packet⟩

end Packets

/-! ## Heeding -/

/-- What is reported of a datagram. -/
def parcelOf (p : Internet.Packet) (d : Udp.Datagram) : Udp.Parcel :=
  ⟨⟨p.src, d.srcPort⟩, ⟨p.dst, d.dstPort⟩, d.payload⟩

/-- The two ends of the connection that a segment is about. -/
def flowOf (p : Internet.Packet) (s : Tcp.Segment) : Tcp.Flow :=
  ⟨⟨p.src, s.srcPort⟩, ⟨p.dst, s.dstPort⟩⟩

/-- What a segment says. -/
def messageOf (s : Tcp.Segment) : Tcp.Message := ⟨s.flags, s.seq, s.ack, s.payload⟩

/-- The engine after it noted who has an address. -/
def learn (mac : MacAddress) (ip : IpAddress) : Engine := { e with arp := e.arp.insert now mac ip }

/-- The engine after it answered for the target of a packet, if it does. -/
def resolve (p : Arp.Packet) : Engine :=
  if Arp.Answers e.setup.subnet now e.arp p then
    ((e.count .arpReplies).transmit (Arp.replyFrame e.localMac p)).1
  else e

/-- A datagram is reported, and one for every host is copied to each of them. -/
def deliver (srcMac : MacAddress) (p : Internet.Packet) (d : Udp.Datagram) : Engine :=
  let e' := (e.count .udpDelivered).report (.udp srcMac (parcelOf p d))
  if e.setup.IsBroadcast p.dst then (e'.fanOut now p.toBytes (some srcMac)).1 else e'

/-- The engine after it reported a segment. -/
def noteSegment (p : Internet.Packet) (s : Tcp.Segment) : Engine :=
  (e.count .tcpSegments).report (.tcp (flowOf p s) (messageOf s))

/-- The connection that a segment belongs to takes it, if there is one. -/
def direct (srcMac : MacAddress) (flow : Tcp.Flow) (m : Tcp.Message) : Engine :=
  match e.connectionFor flow srcMac m.flags with
  | (e', none) => e'
  | (e', some c) => e'.hand now c m

/-- A segment is reported, and relayed if there is somebody to relay it to. -/
def relaySegment (srcMac : MacAddress) (p : Internet.Packet) (s : Tcp.Segment) : Engine :=
  if e.setup.forwardTarget.isNone then e.noteSegment p s
  else (e.noteSegment p s).direct now srcMac (flowOf p s) (messageOf s)

/-- What an engine does about the content of a packet. -/
def heedContent (srcMac : MacAddress) (p : Internet.Packet) : Content → Engine
  | .other => e
  | .dropped reason => e.count reason
  | .datagram d => e.deliver now srcMac p d
  | .echo reply => e.answerEcho now srcMac p.src reply
  | .segment s => e.relaySegment now srcMac p s

/-- What an engine does about a frame. -/
def heed : Reading → Engine
  | .other => e
  | .dropped reason => e.count reason
  | .resolution p => (e.learn now p.senderMac p.senderIp).resolve now p
  | .packet srcMac p content => (e.learn now srcMac p.src).heedContent now srcMac p content

/-- The engine after it counted a frame. -/
def received (data : Bytes) : Engine := { e with counters := e.counters.addReceived data.length }

/-! ## Both together -/

variable (srcMac : MacAddress) (p : Internet.Packet)

theorem receiveUdp_eq : e.receiveUdp now srcMac p = e.heedContent now srcMac p (e.readUdp p) := by
  unfold receiveUdp readUdp
  cases Udp.Datagram.parse p.payload with
  | error why => rfl
  | ok d =>
    by_cases bad : e.Rejects (d.Verifies p.src p.dst)
    · simp only [if_pos bad, heedContent]
    · simp only [if_neg bad, heedContent]
      rfl

theorem receiveIcmp_eq :
    e.receiveIcmp now srcMac p = e.heedContent now srcMac p (e.readIcmp p) := by
  unfold receiveIcmp readIcmp
  by_cases elsewhere : p.dst ≠ e.setup.gateway
  · simp only [if_pos elsewhere, heedContent]
  simp only [if_neg elsewhere]
  cases Internet.Echo.parse p.payload with
  | error why => rfl
  | ok request =>
    by_cases bad : e.Rejects request.Verifies
    · simp only [if_pos bad, heedContent]
    · simp only [if_neg bad]
      cases request.answer <;> rfl

theorem receiveTcp_eq : e.receiveTcp now srcMac p = e.heedContent now srcMac p (e.readTcp p) := by
  unfold receiveTcp readTcp
  cases Tcp.Segment.parse p.payload with
  | error why => rfl
  | ok s =>
    by_cases bad : e.Rejects (Tcp.Verifies p.src p.dst p.payload)
    · simp only [if_pos bad, heedContent]
    · simp only [if_neg bad, heedContent]
      rfl

theorem receiveMember_eq (member : p.src ∈ e.setup.subnet) :
    e.receiveMember now srcMac p = e.heedContent now srcMac p (e.readContent p) := by
  unfold receiveMember readContent
  rw [if_pos member]
  cases Internet.Protocol.ofCode? p.protocol with
  | none => rfl
  | some protocol =>
    cases protocol with
    | udp => exact receiveUdp_eq e now srcMac p
    | tcp => exact receiveTcp_eq e now srcMac p
    | icmp => exact receiveIcmp_eq e now srcMac p

theorem receiveIpv4_eq (frame : Link.Frame) :
    e.receiveIpv4 now frame = e.heed now (e.readIpv4 frame) := by
  unfold receiveIpv4 readIpv4
  cases Internet.Packet.parse frame.payload with
  | error why => rfl
  | ok p =>
    by_cases bad : e.Rejects p.HeaderVerifies
    · simp only [if_pos bad, heed]
    simp only [if_neg bad, heed]
    by_cases member : p.src ∈ e.setup.subnet
    · rw [if_pos member]
      exact receiveMember_eq (e.learn now frame.src p.src) now frame.src p member
    · rw [if_neg member, readContent, if_neg member]
      rfl

theorem receiveArp_eq (frame : Link.Frame) :
    e.receiveArp now frame = e.heed now (readArp frame) := by
  unfold receiveArp readArp Arp.process
  cases Arp.Packet.parse frame.payload with
  | error why => rfl
  | ok p =>
    by_cases valid : p.IsEthernetIpv4
    · by_cases answers : Arp.Answers e.setup.subnet now (e.arp.insert now p.senderMac p.senderIp) p
      · simp only [if_pos valid, if_pos answers]
        exact (if_pos answers).symm
      · simp only [if_pos valid, if_neg answers]
        exact (if_neg answers).symm
    · simp only [if_neg valid, heed]

theorem receiveFrame_eq (frame : Link.Frame) :
    e.receiveFrame now frame = e.heed now (e.readFrame frame) := by
  unfold receiveFrame readFrame
  by_cases own : frame.src = e.localMac
  · simp only [if_pos own, heed]
  simp only [if_neg own]
  cases Link.EtherType.ofCode? frame.etherType with
  | none => rfl
  | some etherType =>
    cases etherType with
    | arp => exact receiveArp_eq e now frame
    | ipv4 => exact receiveIpv4_eq e now frame

/-- An engine counts a frame, reads it, and does what it says. -/
theorem handleFrame_eq (data : Bytes) :
    e.handleFrame now data = (e.received data).heed now (e.read data) := by
  unfold handleFrame read
  cases Link.Frame.parse data with
  | error why => rfl
  | ok frame => exact receiveFrame_eq (e.received data) now frame

end LocalPlay.Engine
