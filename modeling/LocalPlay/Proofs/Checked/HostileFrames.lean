import LocalPlay.Proofs.Checked.Records
import LocalPlay.Proofs.Checked.Sending
import LocalPlay.Proofs.Tcp.Transitions

set_option autoImplicit false

/-! # Hostile frames

What a machine does with the bytes of a frame, from the first look at the header to the last frame
that goes out, is what an engine does with them: no check on the way fails, whatever the bytes are
(`handleFrame_eq`). Each step hands views on, so each of the lemmas takes what a view shows and gives
what the step with these checks comes to. -/

namespace LocalPlay.Checked

open Engine

variable {e : Engine} {now : Instant} {buffer : Bytes} {view : FrameView} {frame : Link.Frame}
  {ip : PacketView} {p : Internet.Packet}

/-- Whether an engine checks checksums and finds one wrong; it looks only if it checks. -/
def rejects (e : Engine) (verifies : Checked Bool) : Checked Bool := do
  if e.setup.verifyChecksums then return !(← verifies)
  return false

theorem rejects_eq {verifies : Prop} [Decidable verifies] {verified : Checked Bool}
    (known : verified = pure (decide verifies)) :
    rejects e verified = pure (decide (e.Rejects verifies)) := by
  rw [rejects, known]
  by_cases checks : e.setup.verifyChecksums = true
  · have only : e.Rejects verifies ↔ ¬ verifies := and_iff_right checks
    rw [if_pos checks, pure_bind, decide_eq_decide.2 only, decide_not]
  · have never : ¬ e.Rejects verifies := fun rejected => checks rejected.1
    rw [if_neg checks, decide_eq_false never]

/-! ## Datagrams -/

def receiveUdp (e : Engine) (now : Instant) (frame : FrameView) (ip : PacketView) :
    Checked Engine := do
  match ← DatagramView.parse (← ip.payload) with
  | .error _ => return e.count .droppedMalformed
  | .ok udp =>
    let src ← ip.src
    let dst ← ip.dst
    if ← rejects e (udp.verifies src dst) then return e.count .checksumFailures
    let srcMac ← frame.src
    let parcel : Udp.Parcel := ⟨⟨src, ← udp.srcPort⟩, ⟨dst, ← udp.dstPort⟩, ← udp.payload⟩
    let e' := (e.count .udpDelivered).report (.udp srcMac parcel)
    if ← isBroadcast e.setup dst then
      let (e'', _) ← fanOut e' now (← ip.datagram) (some srcMac)
      return e''
    return e'

theorem receiveUdp_eq (short : e.setup.subnet.prefixLength ≤ 32) (framed : view.Shows frame)
    (packed : PacketView.Shows buffer ip p) :
    receiveUdp e now view ip = pure (e.receiveUdp now frame.src p) := by
  rw [receiveUdp, packed.payload, pure_bind, Engine.receiveUdp]
  rcases DatagramView.agrees p.payload with ⟨why, viewed, copied⟩ | ⟨v, d, viewed, copied, shown⟩
  · rw [viewed, pure_bind, copied]
  rw [viewed, pure_bind, copied]
  simp only
  rw [packed.src, pure_bind, packed.dst, pure_bind, rejects_eq (shown.verifies p.src p.dst),
    pure_bind, framed.src, pure_bind, shown.srcPort, pure_bind, shown.dstPort, pure_bind,
    shown.payload, pure_bind, isBroadcast_eq short, pure_bind]
  simp only [decide_eq_true_eq]
  by_cases rejected : e.Rejects (d.Verifies p.src p.dst)
  · rw [if_pos rejected, if_pos rejected]
  rw [if_neg rejected, if_neg rejected]
  by_cases everybody : e.setup.IsBroadcast p.dst
  · have small : (p.header ++ p.payload).length < 2 ^ 63 :=
      Nat.lt_trans packed.length_toBytes_lt (by decide)
    rw [if_pos everybody, if_pos everybody, packed.datagram, pure_bind, fanOut_eq small, pure_bind]
    rfl
  · rw [if_neg everybody, if_neg everybody]

/-! ## Echo requests -/

def answerEcho (e : Engine) (now : Instant) (frame : FrameView) (ip : PacketView) (reply : Bytes) :
    Checked Engine := do
  let client ← ip.src
  let dst := (e.arp.lookup now client).getD (← frame.src)
  let (e', packet) ← makePacket e e.setup.gateway client .icmp reply
  let (e'', taken) ← transmitPacket e' dst packet
  return if taken then e''.count .icmpEchoReplies else e''

theorem answerEcho_eq {reply : Internet.Echo} (small : reply.toBytes.length < 2 ^ 62)
    (framed : view.Shows frame) (packed : PacketView.Shows buffer ip p) :
    answerEcho e now view ip reply.toBytes = pure (e.answerEcho now frame.src p.src reply) := by
  have packet := length_makePacket e e.setup.gateway p.src .icmp reply.toBytes
  rw [answerEcho, packed.src, pure_bind, framed.src, pure_bind, makePacket_eq (by omega), pure_bind]
  simp only
  rw [transmitPacket_eq (by omega), pure_bind]
  rfl

def receiveIcmp (e : Engine) (now : Instant) (frame : FrameView) (ip : PacketView) :
    Checked Engine := do
  if (← ip.dst) ≠ e.setup.gateway then return e
  match ← EchoView.parse (← ip.payload) with
  | .error _ => return e.count .droppedMalformed
  | .ok request =>
    if ← rejects e request.verifies then return e.count .checksumFailures
    match ← request.answer with
    | .error _ => return e
    | .ok reply => answerEcho e now frame ip reply

/-- The answer to a request is a header and what the request carried. -/
theorem length_answer {request reply : Internet.Echo} (answered : request.answer = .ok reply) :
    reply.toBytes.length = Internet.Echo.headerSize + request.payload.length := by
  unfold Internet.Echo.answer at answered
  split at answered
  · cases answered
    exact Internet.Echo.length_toBytes _
  · cases answered

theorem receiveIcmp_eq (framed : view.Shows frame) (packed : PacketView.Shows buffer ip p) :
    receiveIcmp e now view ip = pure (e.receiveIcmp now frame.src p) := by
  rw [receiveIcmp, packed.dst, pure_bind, packed.payload, pure_bind, Engine.receiveIcmp]
  by_cases other : p.dst ≠ e.setup.gateway
  · rw [if_pos other, if_pos other]
  rw [if_neg other, if_neg other]
  rcases EchoView.agrees p.payload with ⟨why, viewed, copied⟩ | ⟨v, m, viewed, copied, shown⟩
  · rw [viewed, pure_bind, copied]
  rw [viewed, pure_bind, copied]
  simp only
  have room := packed.length_payload_lt
  have carried := shown.length_payload_le
  rw [rejects_eq shown.verifies, pure_bind, shown.answer_eq (by omega), pure_bind]
  simp only [decide_eq_true_eq]
  by_cases rejected : e.Rejects m.Verifies
  · rw [if_pos rejected, if_pos rejected]
  rw [if_neg rejected, if_neg rejected]
  cases answered : m.answer with
  | error why => rfl
  | ok reply =>
    have size := length_answer answered
    simp only [Internet.Echo.headerSize] at size
    exact answerEcho_eq (by omega) framed packed

/-! ## Segments -/

def hand (e : Engine) (now : Instant) (c : Connection) (m : Tcp.Message) : Checked Engine := do
  let (session, outcome) := c.session.receive m
  let e' ← match outcome.reply with
    | none => pure e
    | some reply => say e now c reply
  let relay := match outcome.forwarded with
    | none => c.relay
    | some data => c.relay.enqueue data
  return e'.settle { c with session := session, relay := relay }

theorem hand_eq (e : Engine) (now : Instant) (c : Connection) (m : Tcp.Message) :
    hand e now c m = pure (e.hand now c m) := by
  have silent (reply : Tcp.Message) (replied : (c.session.receive m).2.reply = some reply) :
      reply.payload = [] :=
    (Tcp.Session.payload_of_step (Tcp.Session.step_receive ..) replied).resolve_right nofun
  rw [hand, Engine.hand]
  generalize c.session.receive m = received at silent
  obtain ⟨session, outcome⟩ := received
  simp only at silent ⊢
  cases replied : outcome.reply with
  | none => rfl
  | some reply =>
    have short : reply.payload.length < 2 ^ 62 := by
      rw [silent reply replied]
      decide
    simp only
    rw [say_eq short, pure_bind]
    rfl

def receiveTcp (e : Engine) (now : Instant) (frame : FrameView) (ip : PacketView) :
    Checked Engine := do
  match ← SegmentView.parse (← ip.payload) with
  | .error _ => return e.count .droppedMalformed
  | .ok tcp =>
    let src ← ip.src
    let dst ← ip.dst
    if ← rejects e (tcp.verifies src dst) then return e.count .checksumFailures
    let flags ← tcp.flags
    let flow : Tcp.Flow := ⟨⟨src, ← tcp.srcPort⟩, ⟨dst, ← tcp.dstPort⟩⟩
    let message : Tcp.Message := ⟨flags, ← tcp.seq, ← tcp.ack, ← tcp.payload⟩
    let e' := (e.count .tcpSegments).report (.tcp flow message)
    if e.setup.forwardTarget.isNone then return e'
    match e'.connectionFor flow (← frame.src) flags with
    | (e'', none) => return e''
    | (e'', some c) => hand e'' now c message

theorem receiveTcp_eq (framed : view.Shows frame) (packed : PacketView.Shows buffer ip p) :
    receiveTcp e now view ip = pure (e.receiveTcp now frame.src p) := by
  rw [receiveTcp, packed.payload, pure_bind, Engine.receiveTcp]
  rcases SegmentView.agrees p.payload with ⟨why, viewed, copied⟩ | ⟨v, s, viewed, copied, shown⟩
  · rw [viewed, pure_bind, copied]
  rw [viewed, pure_bind, copied]
  simp only
  rw [packed.src, pure_bind, packed.dst, pure_bind, rejects_eq (shown.verifies p.src p.dst),
    pure_bind, shown.flags, pure_bind, shown.srcPort, pure_bind, shown.dstPort, pure_bind,
    shown.seq, pure_bind, shown.ack, pure_bind, shown.payload, pure_bind, framed.src, pure_bind]
  simp only [decide_eq_true_eq]
  by_cases rejected : e.Rejects (Tcp.Verifies p.src p.dst p.payload)
  · rw [if_pos rejected, if_pos rejected]
  rw [if_neg rejected, if_neg rejected]
  by_cases alone : e.setup.forwardTarget.isNone = true
  · rw [if_pos alone, if_pos alone]
  rw [if_neg alone, if_neg alone]
  -- Which connection it is does not matter: whatever is said to one has no data.
  generalize Engine.connectionFor _ _ _ _ = found
  obtain ⟨e', connection⟩ := found
  cases connection with
  | none => rfl
  | some c => exact hand_eq e' now c _

/-! ## All of them -/

def receiveMember (e : Engine) (now : Instant) (frame : FrameView) (ip : PacketView) :
    Checked Engine := do
  match Internet.Protocol.ofCode? (← ip.protocol) with
  | some .udp => receiveUdp e now frame ip
  | some .tcp => receiveTcp e now frame ip
  | some .icmp => receiveIcmp e now frame ip
  | none => return e

theorem receiveMember_eq (short : e.setup.subnet.prefixLength ≤ 32) (framed : view.Shows frame)
    (packed : PacketView.Shows buffer ip p) :
    receiveMember e now view ip = pure (e.receiveMember now frame.src p) := by
  rw [receiveMember, packed.protocol, pure_bind, Engine.receiveMember]
  cases Internet.Protocol.ofCode? p.protocol with
  | none => rfl
  | some protocol =>
    cases protocol with
    | udp => exact receiveUdp_eq short framed packed
    | tcp => exact receiveTcp_eq framed packed
    | icmp => exact receiveIcmp_eq framed packed

def receiveIpv4 (e : Engine) (now : Instant) (frame : FrameView) : Checked Engine := do
  match ← PacketView.parse (← frame.payload) with
  | .error _ => return e.count .droppedMalformed
  | .ok ip =>
    if ← rejects e ip.verifies then return e.count .checksumFailures
    let src ← ip.src
    let e' := { e with arp := ← insert e.arp now (← frame.src) src }
    if ← contains e.setup.subnet src then receiveMember e' now frame ip
    else return e'.count .droppedForeignSubnet

theorem receiveIpv4_eq (short : e.setup.subnet.prefixLength ≤ 32)
    (clock : now + e.arp.ttl < Arp.Cache.clockEnd) (framed : view.Shows frame) :
    receiveIpv4 e now view = pure (e.receiveIpv4 now frame) := by
  rw [receiveIpv4, framed.payload, pure_bind, Engine.receiveIpv4]
  rcases PacketView.agrees frame.payload with ⟨why, viewed, copied⟩ | ⟨v, p, viewed, copied, packed⟩
  · rw [viewed, pure_bind, copied]
  rw [viewed, pure_bind, copied]
  simp only
  rw [rejects_eq packed.verifies, pure_bind, packed.src, pure_bind, framed.src, pure_bind,
    insert_eq clock, pure_bind, contains_eq short, pure_bind]
  simp only [decide_eq_true_eq]
  by_cases rejected : e.Rejects p.HeaderVerifies
  · rw [if_pos rejected, if_pos rejected]
  rw [if_neg rejected, if_neg rejected]
  by_cases member : p.src ∈ e.setup.subnet
  · rw [if_pos member, if_pos member]
    exact receiveMember_eq short framed packed
  · rw [if_neg member, if_neg member]

def receiveArp (e : Engine) (now : Instant) (frame : FrameView) : Checked Engine := do
  let (arp, action) ← process e.setup.subnet e.localMac now e.arp frame
  let e' := { e with arp := arp }
  match action with
  | .ignored => return e'.count .droppedMalformed
  | .learned => return e'
  | .reply answer =>
    let (e'', _) ← transmit (e'.count .arpReplies) answer
    return e''

/-- What the proxy answers is one packet of its own size. -/
theorem length_payload_of_reply {subnet : Subnet} {localMac : MacAddress} {cache : Arp.Cache}
    {answer : Link.Frame}
    (replied : (Arp.process subnet localMac now cache frame).2 = .reply answer) :
    answer.payload.length = Arp.Packet.size := by
  unfold Arp.process at replied
  split at replied
  · cases replied
  split at replied
  · simp only at replied
    split at replied
    · cases replied
      simp [Arp.replyFrame, Arp.Packet.toFrame, Arp.Packet.toBytes, Arp.Packet.size]
    · cases replied
  · cases replied

theorem receiveArp_eq (short : e.setup.subnet.prefixLength ≤ 32)
    (clock : now + e.arp.ttl < Arp.Cache.clockEnd) (framed : view.Shows frame) :
    receiveArp e now view = pure (e.receiveArp now frame) := by
  rw [receiveArp, process_eq short clock framed, pure_bind, Engine.receiveArp]
  have sized (answer : Link.Frame)
      (replied : (Arp.process e.setup.subnet e.localMac now e.arp frame).2 = .reply answer) :
      answer.payload.length = Arp.Packet.size := length_payload_of_reply replied
  generalize Arp.process e.setup.subnet e.localMac now e.arp frame = processed at sized
  obtain ⟨arp, action⟩ := processed
  cases action with
  | ignored | learned => rfl
  | reply answer =>
    have short : answer.payload.length < 2 ^ 63 := by
      rw [sized answer rfl]
      decide
    simp only
    rw [transmit_eq short, pure_bind]

def receiveFrame (e : Engine) (now : Instant) (frame : FrameView) : Checked Engine := do
  if (← frame.src) = e.localMac then return e.count .droppedOwnMac
  match Link.EtherType.ofCode? (← frame.etherType) with
  | some .arp => receiveArp e now frame
  | some .ipv4 => receiveIpv4 e now frame
  | none => return e

theorem receiveFrame_eq (short : e.setup.subnet.prefixLength ≤ 32)
    (clock : now + e.arp.ttl < Arp.Cache.clockEnd) (framed : view.Shows frame) :
    receiveFrame e now view = pure (e.receiveFrame now frame) := by
  rw [receiveFrame, framed.src, pure_bind, framed.etherType, pure_bind, Engine.receiveFrame]
  by_cases own : frame.src = e.localMac
  · rw [if_pos own, if_pos own]
  rw [if_neg own, if_neg own]
  cases Link.EtherType.ofCode? frame.etherType with
  | none => rfl
  | some kind =>
    cases kind with
    | arp => exact receiveArp_eq short clock framed
    | ipv4 => exact receiveIpv4_eq short clock framed

def handleFrame (e : Engine) (now : Instant) (b : Bytes) : Checked Engine := do
  let e' := { e with counters := e.counters.addReceived b.length }
  match ← FrameView.parse b with
  | .error _ => return e'.count .droppedMalformed
  | .ok frame => receiveFrame e' now frame

theorem handleFrame_eq (short : e.setup.subnet.prefixLength ≤ 32)
    (clock : now + e.arp.ttl < Arp.Cache.clockEnd) (b : Bytes) :
    handleFrame e now b = pure (e.handleFrame now b) := by
  rw [handleFrame, Engine.handleFrame]
  rcases FrameView.agrees b with ⟨why, viewed, copied⟩ | ⟨v, frame, viewed, copied, framed⟩
  · rw [viewed, pure_bind, copied]
  · rw [viewed, pure_bind, copied]
    exact receiveFrame_eq short clock framed

/-! ## Hostile input -/

/-- No check fails in any reader, whatever the bytes `b` are, and what a reader of packets,
    datagrams or segments keeps lies within them (`PacketView.Shows` and its like). Expanding doubles
    a length first; no machine holds a string so long that its length cannot be doubled. -/
structure Harmless (b : Bytes) : Prop where
  frame : Agrees FrameView.Shows (FrameView.parse b) (Link.Frame.parse b)
  resolution : arpPacket b = pure (Arp.Packet.parse b)
  packet : Agrees (PacketView.Shows b) (PacketView.parse b) (Internet.Packet.parse b)
  datagram : Agrees (DatagramView.Shows b) (DatagramView.parse b) (Udp.Datagram.parse b)
  segment : Agrees (SegmentView.Shows b) (SegmentView.parse b) (Tcp.Segment.parse b)
  echo : Agrees (EchoView.Shows b) (EchoView.parse b) (Internet.Echo.parse b)
  ldnFrame : ldnFrame b = pure (Ldn.Frame.parse b)
  node : node b = pure (Ldn.Node.parse b)
  network : network b = pure (Ldn.Network.parse b)
  expanded : b.length < 2 ^ 63 → decompress b = pure (Ldn.ZeroRun.decompress b)

theorem harmless (b : Bytes) : Harmless b where
  frame := FrameView.agrees b
  resolution := arpPacket_eq b
  packet := PacketView.agrees b
  datagram := DatagramView.agrees b
  segment := SegmentView.agrees b
  echo := EchoView.agrees b
  ldnFrame := ldnFrame_eq b
  node := node_eq b
  network := network_eq b
  expanded := decompress_eq

/-- The time that an entry counts does not change while an engine runs. -/
theorem ttl_of_leads {setup : Setup} {localMac : MacAddress} {words : Nat → UInt32}
    (run : (Engine.new setup localMac words).Leads e) :
    e.arp.ttl = setup.arpTtl * nanosPerMilli := by
  obtain ⟨changes, arp⟩ := run.continues.arp
  rw [arp, (Arp.Cache.limits_run _ changes).1]
  rfl

/-- **Hostile input does no harm.** Whatever has happened to an engine, it handles any bytes as a
    frame without a check that fails, as long as the clock can show when what it hears now stops to
    count; and no reader of packets or records fails on any bytes. The prefix of a subnet is never
    longer than an address (`Subnet.ofAddress`). -/
theorem hostile_input_does_no_harm {setup : Setup} {localMac : MacAddress} {words : Nat → UInt32}
    (run : (Engine.new setup localMac words).Leads e) (subnet : setup.subnet.prefixLength ≤ 32)
    (clock : now + (setup.arpTtl * nanosPerMilli : Nat) < Arp.Cache.clockEnd) (b : Bytes) :
    handleFrame e now b = pure (e.handleFrame now b) ∧ Harmless b := by
  have same : e.setup = setup := run.continues.setup
  have shown : now + e.arp.ttl < Arp.Cache.clockEnd := by rwa [ttl_of_leads run]
  exact ⟨handleFrame_eq (same ▸ subnet) shown b, harmless b⟩

/-- A frame in which the lengths lie: the packet claims a header with options and 65535 bytes, and
    the datagram in it claims three, which is fewer than its header has. -/
def lyingFrame : Link.Frame where
  src := station 2
  etherType := Link.EtherType.ipv4.code
  payload := [0x4F, 0, 0xFF, 0xFF] ++ Bytes.zeros 5 ++ [17, 0, 0]
    ++ [10, 13, 0, 2, 10, 13, 0xFF, 0xFF] ++ Bytes.zeros 40 ++ [0x2C, 0xBC, 0x2C, 0xBC, 0, 3, 0, 0]

/-- The lies do no harm: the datagram is reported without data. -/
theorem hostile_input_does_no_harm_lying :
    Setup.home.subnet.prefixLength ≤ 32 ∧
      4 + (Setup.home.arpTtl * nanosPerMilli : Nat) < Arp.Cache.clockEnd ∧
      (gathered.handleFrame 4 lyingFrame.toBytes).reported = gathered.reported ++
        [.udp (station 2) ⟨⟨⟨0x0A0D0002⟩, 11452⟩, ⟨⟨0x0A0DFFFF⟩, 11452⟩, []⟩] ∧
      handleFrame gathered 4 lyingFrame.toBytes = pure (gathered.handleFrame 4 lyingFrame.toBytes) ∧
      Harmless lyingFrame.toBytes := by
  have subnet : Setup.home.subnet.prefixLength ≤ 32 := by decide
  have clock : 4 + (Setup.home.arpTtl * nanosPerMilli : Nat) < Arp.Cache.clockEnd := by decide
  refine ⟨subnet, clock, ?_, ?_⟩
  · rw [reported_handleFrame]
    decide +kernel
  · exact hostile_input_does_no_harm (leads_handleFrames ..) subnet clock lyingFrame.toBytes

end LocalPlay.Checked
