import LocalPlay.Proofs.Engine.FanOut
import LocalPlay.Proofs.Internet.EchoRoundTrip
import LocalPlay.Proofs.Internet.PacketRoundTrip

set_option autoImplicit false

/-! # Asking the gateway whether it is there

The gateway of the subnet is one of its absent hosts, and the only one of them that returns an echo.
A request for it is answered with one frame, to the station that it came from; no other control
message is. The echo goes to that station because its note is the last one, or because the table has
nothing to say, which is so if notes count for no time or if the request has no sender. It fits into
a packet because the request did. -/

namespace LocalPlay

/-- A frame returns an echo from the gateway: the readers find in it a packet for the sender of the
    packet `asked`, exactly as long as it declares, with an echo reply that has the identifier, the
    number and the payload of the request, and the checksums of both hold. -/
def Link.Frame.ReturnsEcho (frame : Link.Frame) (gateway : IpAddress) (asked : Internet.Packet) :
    Prop :=
  frame.etherType = EtherType.ipv4.code ∧
    ∃ p m, Internet.Packet.parse frame.payload = .ok p ∧ Internet.Echo.parse p.payload = .ok m ∧
      (p.protocol = Internet.Protocol.icmp.code ∧ p.src = gateway ∧ p.dst = asked.src) ∧
      (p.header.be16At 2).toNat = frame.payload.length ∧
      (m.kind = 0 ∧ m.code = 0 ∧ m.identifier = asked.payload.be16At 4 ∧
        m.sequence = asked.payload.be16At 6 ∧ m.payload = asked.payload.drop 8) ∧
      p.HeaderVerifies ∧ Internet.checksum p.payload = 0

namespace Engine

variable {e : Engine} {p : Internet.Packet} {now : Instant}

/-! ## The answer -/

/-- The echo reply to the request in a packet. -/
def echoOf (p : Internet.Packet) : Internet.Echo :=
  .message .reply (p.payload.be16At 4) (p.payload.be16At 6) (p.payload.drop 8)

/-- The packet that takes an echo reply from the gateway to a host. -/
def echoPacket (e : Engine) (client : IpAddress) (reply : Internet.Echo) : Internet.Draft where
  identification := e.nextIdentification
  protocol := Internet.Protocol.icmp.code
  src := e.setup.gateway
  dst := client
  payload := reply.toBytes

theorem echoOf_eq {m : Internet.Echo} (bytes : p.payload = m.toBytes) :
    echoOf p = .message .reply m.identifier m.sequence m.payload := by
  have identifier : m.toBytes.be16At 4 = m.identifier := Bytes.be16At_of_field rfl
  have sequence : m.toBytes.be16At 6 = m.sequence := Bytes.be16At_of_field rfl
  rw [echoOf, bytes, identifier, sequence]
  rfl

theorem length_echoOf (long : 8 ≤ p.payload.length) :
    (echoOf p).toBytes.length = p.payload.length := by
  have length : (echoOf p).toBytes.length = 8 + (p.payload.drop 8).length :=
    Internet.Echo.length_toBytes _
  rw [length, List.length_drop]
  omega

/-- The frame with the answer to a request that fits into a packet returns its echo. -/
theorem returnsEcho_packetFrame (long : 8 ≤ p.payload.length)
    (fits : Internet.Packet.headerSize + p.payload.length ≤ 65535) (e e' : Engine)
    (mac : MacAddress) : (e'.packetFrame mac (e.echoPacket p.src (echoOf p)).toBytes).ReturnsEcho
      e.setup.gateway p := by
  let draft := e.echoPacket p.src (echoOf p)
  have length : draft.payload.length = p.payload.length := length_echoOf long
  have short : Internet.Packet.headerSize + draft.payload.length ≤ 65535 := by rwa [length]
  have read := draft.parse_toBytes_append short []
  rw [List.append_nil] at read
  have declared := draft.toNat_declared short
  refine ⟨rfl, draft.packet, echoOf p, read, Internet.Echo.parse_toBytes _,
    ⟨draft.protocol_packet, draft.src_packet, draft.dst_packet⟩, ?length, ⟨rfl, rfl, rfl, rfl, rfl⟩,
    draft.headerVerifies_packet, ?verifies⟩
  case length =>
    show (draft.toBytes.be16At 2).toNat = draft.toBytes.length
    rw [declared, draft.length_toBytes]
  case verifies =>
    refine Internet.Echo.verifies_message .reply _ _ ?_
    rw [List.length_drop]
    simp only [Internet.Echo.headerSize, Internet.Packet.headerSize] at fits ⊢
    omega

/-- What was just noted of a host is what the table answers, or it answers nothing. -/
theorem lookup_learn (wf : e.arp.WellFormed) (now : Instant) (mac : MacAddress) (ip : IpAddress) :
    ((e.learn now mac ip).arp.lookup now ip).getD mac = mac := by
  rw [learn, Arp.Cache.lookup]
  by_cases specified : ip = .unspecified
  · -- nobody is noted, and nobody has been
    have absent : e.arp.held? ip = none :=
      Arp.Cache.held?_eq_none_iff.2 fun e he => specified ▸ wf.specified e he
    rw [specified, Arp.Cache.insert_unspecified, ← specified, absent]
    rfl
  · -- the note counts, unless notes count for no time
    rw [Arp.Cache.held?_insert_self specified, Option.filter_some]
    split
    · rfl
    · rfl

theorem sent_answerEcho (up : e.LinkUp) (now : Instant) (srcMac : MacAddress)
    (client : IpAddress) (reply : Internet.Echo) :
    (e.answerEcho now srcMac client reply).sent = e.sent ++
      [e.packetFrame ((e.arp.lookup now client).getD srcMac) (e.echoPacket client reply).toBytes] := by
  have up' : (e.makePacket e.setup.gateway client .icmp reply.toBytes).1.LinkUp := up
  simp only [answerEcho, transmitPacket, transmit_of_takes (up' _), if_true]
  rfl

/-! ## Which messages are requests -/

/-- A packet asks the gateway for an echo: its message is long enough, is a request, and has a
    checksum that holds, if that matters. -/
def PingsGateway (e : Engine) (p : Internet.Packet) : Prop :=
  p.dst = e.setup.gateway ∧ 8 ≤ p.payload.length ∧ p.payload.byteAt 0 = 8 ∧
    (e.setup.verifyChecksums = true → Internet.checksum p.payload = 0)

instance (e : Engine) (p : Internet.Packet) : Decidable (e.PingsGateway p) :=
  inferInstanceAs (Decidable (_ ∧ _ ∧ _ ∧ _))

theorem readIcmp_of_pings (pings : e.PingsGateway p) : e.readIcmp p = .echo (echoOf p) := by
  obtain ⟨here, long, request, holds⟩ := pings
  obtain ⟨m, parsed⟩ := Internet.Echo.exists_parse long
  have bytes : p.payload = m.toBytes := Internet.Echo.parse_eq_ok_iff.1 parsed
  have accepted : ¬ e.Rejects m.Verifies := by
    rintro ⟨checks, fails⟩
    rw [bytes] at holds
    exact fails (holds checks)
  have answered : m.answer = .ok (echoOf p) := by
    rw [bytes] at request
    rw [echoOf_eq bytes]
    exact if_pos request
  simp only [readIcmp, here, ne_eq, not_true, if_false, parsed, if_neg accepted, answered]

theorem readIcmp_of_not_pings (other : ¬ e.PingsGateway p) :
    e.readIcmp p = .other ∨ ∃ reason, e.readIcmp p = .dropped reason := by
  unfold readIcmp
  split
  · exact Or.inl rfl
  next here =>
  split
  · exact Or.inr ⟨_, rfl⟩
  next m parsed =>
  have bytes : p.payload = m.toBytes := Internet.Echo.parse_eq_ok_iff.1 parsed
  split
  · exact Or.inr ⟨_, rfl⟩
  next accepted =>
  split
  · exact Or.inl rfl
  next reply answered =>
  -- what is accepted and answered is a request for an echo
  refine absurd ?_ other
  refine ⟨not_not.1 here, ?_, ?_, ?_⟩
  · rw [bytes, Internet.Echo.length_toBytes]
    exact Nat.le_add_right ..
  · unfold Internet.Echo.answer at answered
    split at answered
    · next request => rwa [bytes]
    · cases answered
  · intro checks
    rw [bytes]
    exact not_not.1 fun fails => accepted ⟨checks, fails⟩

theorem readContent_of_icmp (member : p.src ∈ e.setup.subnet)
    (icmp : p.protocol = Internet.Protocol.icmp.code) : e.readContent p = e.readIcmp p := by
  simp only [readContent, if_pos member, Internet.Protocol.ofCode?_eq_some_iff.2 icmp]

/-- **The gateway returns every echo, and no other control message is answered.** Let a frame bring an
    engine a control message from the subnet. If it is a request of the gateway for an echo, one
    frame goes out: to the station that the request came from, whatever the table of hosts held
    before, and that frame returns the echo. Its packet is not longer than a header can say, however
    long the request was. If it is not, no frame goes out. -/
theorem gateway_returns_echo {setup : Setup} {localMac : MacAddress} {words : Nat → UInt32}
    (run : (new setup localMac words).Leads e) (up : e.LinkUp) (now : Instant) {data : Bytes}
    {frame : Link.Frame} (brings : e.Brings data frame p) (member : p.src ∈ e.setup.subnet)
    (icmp : p.protocol = Internet.Protocol.icmp.code) :
    if e.PingsGateway p then
      ∃ reply, (e.handleFrame now data).sent = e.sent ++ [reply] ∧
        Link.Frame.parse reply.toBytes = .ok reply ∧ reply.src = e.localMac ∧
        reply.dst = frame.src ∧ reply.ReturnsEcho e.setup.gateway p ∧ reply.payload.length ≤ 65535
    else (e.handleFrame now data).sent = e.sent := by
  let learned := (e.received data).learn now frame.src p.src
  have heeded : e.handleFrame now data = learned.heedContent now frame.src p (e.readIcmp p) := by
    rw [handleFrame_eq, brings.read_eq, readContent_of_icmp member icmp]
    rfl
  have fits := Internet.Packet.length_payload_of_parse brings.packet
  split
  case isTrue pings =>
    let reply := learned.packetFrame frame.src (learned.echoPacket p.src (echoOf p)).toBytes
    have station : (learned.arp.lookup now p.src).getD frame.src = frame.src :=
      lookup_learn (e := e.received data) run.wellFormed now frame.src p.src
    have sent : (e.handleFrame now data).sent = e.sent ++ [reply] := by
      have answered := sent_answerEcho (e := learned) up now frame.src p.src (echoOf p)
      rw [station] at answered
      rw [heeded, readIcmp_of_pings pings]
      exact answered
    have length : reply.payload.length = Internet.Packet.headerSize + p.payload.length := by
      rw [← length_echoOf pings.2.1]
      exact (learned.echoPacket p.src (echoOf p)).length_toBytes
    refine ⟨reply, sent, Link.Frame.parse_toBytes reply, rfl, rfl, ?_, length ▸ fits⟩
    exact returnsEcho_packetFrame pings.2.1 fits learned learned frame.src
  case isFalse other =>
    rw [heeded]
    rcases readIcmp_of_not_pings other with read | ⟨reason, read⟩
    · rw [read]
      rfl
    · rw [read]
      rfl

/-- A small subnet where checksums matter. -/
def carefulHome : Setup := { Setup.home with verifyChecksums := true }

/-- An engine that thinks that station 5 has the address `10.13.0.9`. -/
def misled : Engine :=
  (new carefulHome .zero UInt32.ofNat).handleFrames [(3, announcement (station 5) ⟨0x0A0D0009⟩)]

/-- A request of the host `10.13.0.9` to the gateway. -/
def pingPacket : Internet.Draft where
  protocol := 1
  src := ⟨0x0A0D0009⟩
  dst := ⟨0x0A0D2501⟩
  payload := (Internet.Echo.message .request 0x1234 7 [0x70, 0x69, 0x6E, 0x67]).toBytes

/-- The frame in which station 9 sends it, filled up by the link. -/
def pingFrame : Link.Frame where
  src := station 9
  etherType := Link.EtherType.ipv4.code
  payload := pingPacket.toBytes ++ Bytes.zeros 14

/-- The echo goes to station 9. -/
theorem gateway_returns_echo_ping :
    misled.arp.lookup 4 pingPacket.src = some (station 5) ∧
      ∃ reply, (misled.handleFrame 4 pingFrame.toBytes).sent = misled.sent ++ [reply] ∧
        reply.dst = station 9 ∧ reply.ReturnsEcho ⟨0x0A0D2501⟩ pingPacket.packet := by
  have brings : misled.Brings pingFrame.toBytes pingFrame pingPacket.packet :=
    ⟨Link.Frame.parse_toBytes _, by decide +kernel, rfl,
      pingPacket.parse_toBytes_append (by decide +kernel) _, by decide +kernel⟩
  have run : (new carefulHome .zero UInt32.ofNat).Leads misled := leads_handleFrames ..
  have pings : misled.PingsGateway pingPacket.packet := by decide +kernel
  have up : misled.LinkUp := linkUp_handleFrames (fun _ => rfl) _
  have answered := gateway_returns_echo run up 4 brings (by decide +kernel) rfl
  rw [if_pos pings] at answered
  obtain ⟨reply, sent, -, -, dst, echo, -⟩ := answered
  exact ⟨by decide +kernel, reply, sent, dst, echo⟩

end Engine

end LocalPlay
