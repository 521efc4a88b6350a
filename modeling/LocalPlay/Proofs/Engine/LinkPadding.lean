import LocalPlay.Proofs.Arp.PacketRoundTrip
import LocalPlay.Proofs.Engine.FanOut
import LocalPlay.Proofs.Engine.Variation

set_option autoImplicit false

/-! # Padding

A link fills short frames up with bytes that mean nothing. Nothing in the frame itself says where
they begin, but an address resolution packet has a fixed size, and a packet of the Internet Protocol
declares how long it is. So the readers find the same packet with the padding as without it
(`read_append`), and all that an engine notices of the padding is the size of the frame. -/

namespace LocalPlay

/-! ## Readers -/

/-- Padding is at the end of the payload. -/
theorem Link.Frame.parse_append {data : Bytes} {frame : Link.Frame}
    (parsed : Link.Frame.parse data = .ok frame) (padding : Bytes) :
    Link.Frame.parse (data ++ padding)
      = .ok { frame with payload := frame.payload ++ padding } := by
  unfold parse at parsed
  split at parsed
  · cases parsed
  next long =>
  cases parsed
  have header : headerSize ≤ data.length := Nat.le_of_not_lt long
  have long' : ¬ (data ++ padding).length < headerSize := by
    rw [List.length_append]
    omega
  rw [parse, if_neg long', List.drop_append_of_le_length header,
    MacAddress.readAt_append (by simp only [headerSize] at header; omega),
    MacAddress.readAt_append (by simp only [headerSize] at header; omega),
    Bytes.be16At_append header]

/-- A packet that is as long as it declares is read in front of anything. -/
theorem Internet.Packet.parse_append {b : Bytes} {p : Internet.Packet}
    (parsed : Internet.Packet.parse b = .ok p) (whole : (b.be16At 2).toNat ≤ b.length)
    (padding : Bytes) : Internet.Packet.parse (b ++ padding) = .ok p := by
  unfold parse at parsed
  simp only at parsed
  split at parsed
  · cases parsed
  next long =>
  split at parsed
  · cases parsed
  next version =>
  split at parsed
  · cases parsed
  next size =>
  split at parsed
  · cases parsed
  next header =>
  cases parsed
  have first : (b ++ padding).byteAt 0 = b.byteAt 0 :=
    Bytes.byteAt_append (by simp only [headerSize] at long; omega) padding
  have declared : (b ++ padding).be16At 2 = b.be16At 2 :=
    Bytes.be16At_append (by simp only [headerSize] at long; omega) padding
  have stop : min (b.be16At 2).toNat (b.length + padding.length)
      = min (b.be16At 2).toNat b.length := by omega
  simp only [parse, first, declared, List.length_append, stop]
  rw [if_neg (by omega), if_neg version, if_neg size, if_neg (by omega),
    List.take_append_of_le_length (by omega), Bytes.field_append (by omega)]

/-- A frame has everything in it that its payload is to have: the whole of an address resolution
    packet, or as many bytes as a packet of the Internet Protocol declares. -/
def Link.Frame.IsWhole (frame : Link.Frame) : Prop :=
  (frame.etherType = Link.EtherType.arp.code ∧ Arp.Packet.size ≤ frame.payload.length) ∨
  (frame.etherType = Link.EtherType.ipv4.code ∧
    (∃ p, Internet.Packet.parse frame.payload = .ok p) ∧
    (frame.payload.be16At 2).toNat ≤ frame.payload.length)

namespace Engine

variable (e : Engine) {data : Bytes} {frame : Link.Frame}

/-- An engine reads the same from a whole frame, padded or not. -/
theorem read_append (parsed : Link.Frame.parse data = .ok frame) (whole : frame.IsWhole)
    (padding : Bytes) : e.read (data ++ padding) = e.read data := by
  simp only [read, parsed, Link.Frame.parse_append parsed, readFrame]
  split
  · rfl
  rcases whole with ⟨kind, whole⟩ | ⟨kind, ⟨p, read⟩, whole⟩
  · rw [Link.EtherType.ofCode?_eq_some_iff.2 kind]
    simp only [readArp, Arp.Packet.parse_append whole]
  · rw [Link.EtherType.ofCode?_eq_some_iff.2 kind]
    simp only [readIpv4, Internet.Packet.parse_append read whole, read]

/-! ## Counting bytes -/

/-- More bytes have come in. -/
def Variation.moreBytes (n : UInt64) : Variation :=
  .ofCounters (Counters.add · .rxBytes n) fun k _ c m => Counters.add_comm c k .rxBytes m n

theorem received_append (padding : Bytes) :
    e.received (data ++ padding)
      = (e.received data).vary (.moreBytes (UInt64.ofNat padding.length)) := by
  have counted : e.counters.addReceived (data ++ padding).length
      = (e.counters.addReceived data.length).add .rxBytes (UInt64.ofNat padding.length) := by
    rw [Counters.addReceived, Counters.addReceived, Counters.add_add, List.length_append,
      UInt64.ofNat_add]
  rw [received, counted]
  rfl

/-- **Padding makes no difference.** Whatever is put behind a whole frame, an engine does with it what
    it does with the frame alone: it sends and reports the same, learns the same and counts the
    same, except that it has received more bytes. -/
theorem handleFrame_append_padding (now : Instant) (parsed : Link.Frame.parse data = .ok frame)
    (whole : frame.IsWhole) (padding : Bytes) :
    e.handleFrame now (data ++ padding)
      = (e.handleFrame now data).countMany .rxBytes (UInt64.ofNat padding.length) := by
  rw [handleFrame_eq, handleFrame_eq, read_append e parsed whole, received_append]
  exact heed_vary (e.received data) _ now fun _ _ c => Counters.add_comm c _ .rxBytes 1 _

/-- The frame with the greeting before the link filled it up. -/
def bareGreeting : Link.Frame := { paddedGreeting with payload := paddedGreeting.payload.take 30 }

/-- The greeting is reported and copied as it is, whatever the link filled it up with. -/
theorem handleFrame_append_padding_greeting :
    bareGreeting.IsWhole ∧
      (gathered.handleFrame 4 (bareGreeting.toBytes ++ [1, 2, 3])).reported
        = gathered.reported ++ [.udp (station 2) greeting] ∧
      (gathered.handleFrame 4 (bareGreeting.toBytes ++ [1, 2, 3])).sent
        = (gathered.handleFrame 4 bareGreeting.toBytes).sent := by
  have whole : bareGreeting.IsWhole :=
    Or.inr ⟨rfl, ⟨⟨bareGreeting.payload.take 20, bareGreeting.payload.drop 20⟩, by decide +kernel⟩,
      by decide +kernel⟩
  have said : (gathered.read bareGreeting.toBytes).events = [.udp (station 2) greeting] := by
    decide +kernel
  rw [handleFrame_append_padding gathered 4 (Link.Frame.parse_toBytes bareGreeting) whole [1, 2, 3]]
  refine ⟨whole, ?_, rfl⟩
  rw [← said]
  exact reported_handleFrame gathered 4 bareGreeting.toBytes

end Engine

end LocalPlay
