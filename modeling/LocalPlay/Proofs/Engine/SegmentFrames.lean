import LocalPlay.Proofs.Engine.Effects
import LocalPlay.Proofs.Engine.TargetStream
import LocalPlay.Proofs.Internet.PacketRoundTrip
import LocalPlay.Proofs.Tcp.SegmentRoundTrip

set_option autoImplicit false

/-! # Frames with segments

An engine puts segments on the link only when it says something on a connection (`Engine.say`), and
then in a frame that goes from the server of the connection to its client (`speaksOn_speech`). What
it puts on the link because of any other frame is no segment
(`transmits_handleFrame_of_no_segment`). A link that is down takes no frames, so `Engine.Transmits`
speaks of the frames that were put on the link between two times, however many these are. -/

namespace LocalPlay

namespace Link.Frame

/-- A frame carries a packet with a segment. -/
def CarriesSegment (frame : Link.Frame) : Prop :=
  frame.etherType = EtherType.ipv4.code ∧ ∃ p, Internet.Packet.parse frame.payload = .ok p ∧
    p.protocol = Internet.Protocol.tcp.code

/-- A frame from one station to another says something on a connection, from its server to its
    client: the readers find a segment in it with these ends, and the checksums of packet and
    segment hold. -/
def SpeaksOn (frame : Link.Frame) (src dst : MacAddress) (flow : Tcp.Flow) : Prop :=
  frame.src = src ∧ frame.dst = dst ∧ frame.etherType = EtherType.ipv4.code ∧
    ∃ p s, Internet.Packet.parse frame.payload = .ok p ∧ Tcp.Segment.parse p.payload = .ok s ∧
      p.protocol = Internet.Protocol.tcp.code ∧
      Engine.flowOf p s = { client := flow.server, server := flow.client } ∧
      p.HeaderVerifies ∧ Tcp.Verifies p.src p.dst p.payload

theorem not_carriesSegment_of_protocol {frame : Link.Frame} {protocol : Internet.Protocol}
    (code : frame.payload.byteAt 9 = protocol.code) (other : protocol ≠ .tcp) :
    ¬ frame.CarriesSegment := by
  rintro ⟨-, p, parsed, same⟩
  rw [Internet.Packet.protocol_of_parse parsed, code] at same
  cases protocol with
  | tcp => exact other rfl
  | icmp | udp => cases same

end Link.Frame

namespace Engine

variable {e e' e'' : Engine} {now : Instant} {c : Connection} {m : Tcp.Message}

/-! ## Segments that are said -/

/-- The most bytes of data that a segment takes along in a packet. -/
def speechLimit : Nat := 65495

/-- The segment that takes a message to the client of a connection. -/
def Connection.toSegment (c : Connection) (m : Tcp.Message) : Tcp.Draft where
  srcPort := c.flow.server.port
  dstPort := c.flow.client.port
  seq := m.seq
  ack := m.ack
  flags := m.flags
  payload := m.payload

/-- The packet that takes a message to the client of a connection. -/
def Connection.toPacket (c : Connection) (m : Tcp.Message) (identification : UInt16) :
    Internet.Draft where
  identification := identification
  protocol := Internet.Protocol.tcp.code
  src := c.flow.server.ip
  dst := c.flow.client.ip
  payload := (c.toSegment m).toBytes c.flow.server.ip c.flow.client.ip

theorem Connection.optionArea_toSegment (c : Connection) (m : Tcp.Message) :
    (c.toSegment m).optionArea = [] := by
  simp [toSegment, Tcp.Draft.optionArea, Bytes.fit, Bytes.zeros]

theorem Connection.length_toPacket (c : Connection) (m : Tcp.Message) (identification : UInt16) :
    (c.toPacket m identification).payload.length = Tcp.headerSize + m.payload.length := by
  rw [toPacket, Tcp.Draft.length_toBytes, optionArea_toSegment, List.length_nil, Nat.zero_add]
  rfl

/-- The station that is told what is said on a connection: the one that has the client's address
    now, or else the one that opened the connection. -/
def listener (e : Engine) (now : Instant) (c : Connection) : MacAddress :=
  (e.arp.lookup now c.flow.client.ip).getD c.clientMac

/-- The frame in which something is said on a connection. -/
def speech (e : Engine) (now : Instant) (c : Connection) (m : Tcp.Message) : Link.Frame :=
  e.packetFrame (e.listener now c) (c.toPacket m e.nextIdentification).toBytes

theorem speaksOn_speech (e : Engine) (now : Instant) (c : Connection)
    (fits : m.payload.length ≤ speechLimit) :
    (e.speech now c m).SpeaksOn e.localMac (e.listener now c) c.flow := by
  let segment := c.toSegment m
  let packet := c.toPacket m e.nextIdentification
  have length := c.length_toPacket m e.nextIdentification
  have short : Internet.Packet.headerSize + packet.payload.length ≤ 65535 := by
    rw [length]
    exact Nat.add_le_add_left (Nat.add_le_add_left fits _) _
  have read := packet.parse_toBytes_append short []
  rw [List.append_nil] at read
  have src : packet.packet.src = c.flow.server.ip := packet.src_packet
  have dst : packet.packet.dst = c.flow.client.ip := packet.dst_packet
  refine ⟨rfl, rfl, rfl, packet.packet, segment.segment c.flow.server.ip c.flow.client.ip, read,
    segment.parse_toBytes .., packet.protocol_packet, ?_, packet.headerVerifies_packet, ?_⟩
  · rw [flowOf, src, dst]
    rfl
  · rw [src, dst]
    refine segment.verifies_toBytes _ _ ?_
    rw [c.optionArea_toSegment]
    exact Nat.le_trans (Nat.add_le_add_left fits _) (by decide)

/-! ## What was put on the link -/

/-- Between two times, the engine put frames of a kind on the link and no others. -/
def Transmits (kind : Link.Frame → Prop) (e e' : Engine) : Prop :=
  ∃ frames, e'.sent = e.sent ++ frames ∧ ∀ frame ∈ frames, kind frame

section Transmits

variable {kind kind' : Link.Frame → Prop}

theorem transmits_of_same (sent : e'.sent = e.sent) : e.Transmits kind e' :=
  ⟨[], sent.trans (List.append_nil _).symm, fun _ absent => absurd absent List.not_mem_nil⟩

theorem Transmits.trans (first : e.Transmits kind e') (second : e'.Transmits kind e'') :
    e.Transmits kind e'' := by
  obtain ⟨fs, sent, all⟩ := first
  obtain ⟨gs, sent', all'⟩ := second
  refine ⟨fs ++ gs, by rw [sent', sent, List.append_assoc], fun frame mem => ?_⟩
  exact (List.mem_append.1 mem).elim (all frame) (all' frame)

theorem Transmits.imp (transmits : e.Transmits kind e')
    (every : ∀ frame, kind frame → kind' frame) : e.Transmits kind' e' := by
  obtain ⟨frames, sent, all⟩ := transmits
  exact ⟨frames, sent, fun frame mem => every frame (all frame mem)⟩

theorem transmits_transmit {frame : Link.Frame} (known : kind frame) :
    e.Transmits kind (e.transmit frame).1 := by
  unfold transmit
  split
  · exact ⟨[frame], rfl, fun _ mem => List.mem_singleton.1 mem ▸ known⟩
  · exact transmits_of_same rfl

theorem transmits_fanOut {packet : Bytes} (known : ∀ mac, kind (e.packetFrame mac packet))
    (now : Instant) (leftOut : Option MacAddress) :
    e.Transmits kind (e.fanOut now packet leftOut).1 := by
  have copies (macs : List MacAddress) : e.Transmits kind (e.transmitCopies packet macs).1 := by
    induction macs generalizing e with
    | nil => exact transmits_of_same rfl
    | cons mac macs ih =>
      have own : (e.transmitPacket mac packet).1.localMac = e.localMac :=
        (utters_transmitPacket ..).localMac
      have first : e.Transmits kind (e.transmitPacket mac packet).1 :=
        transmits_transmit (known mac)
      refine first.trans (ih fun mac' => ?_)
      rw [packetFrame, own]
      exact known mac'
  exact (copies _).trans (transmits_of_same rfl)

end Transmits

/-! ## Connections -/

theorem transmits_sayIfAny (e : Engine) (now : Instant) (c : Connection)
    (reply : Option Tcp.Message) (fits : ∀ m, reply = some m → m.payload.length ≤ speechLimit) :
    e.Transmits (·.SpeaksOn e.localMac (e.listener now c) c.flow) (e.sayIfAny now c reply) := by
  cases reply with
  | none => exact transmits_of_same rfl
  | some m =>
    have numbered : e.Transmits (·.SpeaksOn e.localMac (e.listener now c) c.flow)
        { e with nextIdentification := e.nextIdentification + 1 } := transmits_of_same rfl
    exact numbered.trans (transmits_transmit (speaksOn_speech e now c (fits m rfl)))

theorem sent_retire (e : Engine) (c : Connection) : (e.retire c).sent = e.sent := by
  unfold retire
  simp only
  split <;> rfl

theorem sent_settle (e : Engine) (c : Connection) : (e.settle c).sent = e.sent := by
  unfold settle
  split
  · exact sent_retire e c
  · rfl

/-- What is said because of an input takes along no more data than the input brings. -/
theorem RelayInput.length_payload_le {s : Tcp.Session} {input : RelayInput}
    (said : (input.apply s).2 = some m) : m.payload.length ≤ input.bytes.length := by
  rw [input.apply_eq_act] at said
  rcases Tcp.Session.payload_of_step (Tcp.Session.step_act s input.action) said with none | sent
  · rw [none]
    exact Nat.zero_le _
  · rw [← dataOf_action, sent]
    exact Nat.le_refl _

/-- A connection that meets something says at most something to its console. -/
theorem transmits_conclude (e : Engine) (now : Instant) (c c' : Connection) {input : RelayInput}
    (fits : input.bytes.length ≤ speechLimit) :
    e.Transmits (·.SpeaksOn e.localMac (e.listener now c) c.flow)
      ((e.sayIfAny now c (input.apply c.session).2).settle c') := by
  have said := transmits_sayIfAny e now c (input.apply c.session).2 fun _ said =>
    Nat.le_trans (RelayInput.length_payload_le said) fits
  exact said.trans (transmits_of_same (sent_settle ..))

theorem transmits_hand (e : Engine) (now : Instant) (c : Connection) (m : Tcp.Message) :
    e.Transmits (·.SpeaksOn e.localMac (e.listener now c) c.flow) (e.hand now c m) := by
  have silent : (RelayInput.console m).bytes.length ≤ speechLimit := Nat.zero_le _
  rw [hand_eq]
  exact transmits_conclude e now c _ silent

theorem transmits_meet (e : Engine) (now : Instant) (c : Connection) {event : TargetEvent}
    (fits : event.bytes.length ≤ speechLimit) :
    e.Transmits (·.SpeaksOn e.localMac (e.listener now c) c.flow) (e.meet now c event) := by
  have fits : (RelayInput.target event).bytes.length ≤ speechLimit := fits
  exact transmits_conclude e now c _ fits

/-! ## Everything else -/

/-- Only a packet that says so is read as a datagram. -/
theorem protocol_of_readContent {p : Internet.Packet} {d : Udp.Datagram}
    (content : e.readContent p = .datagram d) : p.protocol = Internet.Protocol.udp.code := by
  unfold readContent at content
  split at content
  · split at content
    · next udp => exact Internet.Protocol.ofCode?_eq_some_iff.1 udp
    · unfold readTcp at content
      split at content
      · cases content
      · split at content <;> cases content
    · unfold readIcmp at content
      split at content
      · cases content
      split at content
      · cases content
      split at content
      · cases content
      split at content <;> cases content
    · cases content
  · cases content

/-- What an engine puts on the link because of a frame is no segment, unless the frame brings one. -/
theorem transmits_handleFrame_of_no_segment (e : Engine) (now : Instant) {data : Bytes}
    (other : ∀ srcMac p s, e.read data ≠ .packet srcMac p (.segment s)) :
    e.Transmits (¬ ·.CarriesSegment) (e.handleFrame now data) := by
  rw [handleFrame_eq]
  cases said : e.read data with
  | other | dropped => exact transmits_of_same rfl
  | resolution p =>
    rw [heed, resolve]
    split
    · have arp : (Arp.replyFrame e.localMac p).etherType = Link.EtherType.arp.code := rfl
      refine (transmits_of_same rfl).trans (transmits_transmit ?_)
      rintro ⟨ipv4, -⟩
      exact absurd (arp.symm.trans ipv4) (by decide)
    · exact transmits_of_same rfl
  | packet srcMac p content =>
    obtain ⟨frame, brings, -⟩ := brings_of_read said
    cases content with
    | other | dropped => exact transmits_of_same rfl
    | segment s => exact absurd said (other srcMac p s)
    | datagram d =>
      have read : e.readContent p = .datagram d := by
        have same := brings.read_eq.symm.trans said
        injection same
      -- the copies for every host are the packet that came in, so they name its protocol
      have code : p.toBytes.byteAt 9 = Internet.Protocol.udp.code :=
        (Internet.Packet.byteAt_toBytes_of_parse brings.packet).trans (protocol_of_readContent read)
      rw [heed, heedContent, deliver]
      split
      · refine (transmits_of_same rfl).trans (transmits_fanOut (fun mac => ?_) now _)
        exact Link.Frame.not_carriesSegment_of_protocol code (by decide)
      · exact transmits_of_same rfl
    | echo reply =>
      let learned := (e.received data).learn now srcMac p.src
      let made := learned.makePacket e.setup.gateway p.src .icmp reply.toBytes
      have code : made.2.byteAt 9 = Internet.Protocol.icmp.code := rfl
      have silent : e.Transmits (¬ ·.CarriesSegment) made.1 := transmits_of_same rfl
      have answered (mac : MacAddress) :
          e.Transmits (¬ ·.CarriesSegment) (made.1.transmitPacket mac made.2).1 :=
        silent.trans
          (transmits_transmit (Link.Frame.not_carriesSegment_of_protocol code (by decide)))
      rw [heed, heedContent, answerEcho]
      simp only
      split
      · exact (answered _).trans (transmits_of_same rfl)
      · exact answered _

end Engine

end LocalPlay
