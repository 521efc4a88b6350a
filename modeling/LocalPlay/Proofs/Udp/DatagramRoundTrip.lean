import LocalPlay.Link.Frame
import LocalPlay.Proofs.Engine.LinkPadding
import LocalPlay.Proofs.Internet.PacketRoundTrip
import LocalPlay.Udp.Datagram

set_option autoImplicit false

/-! # Datagrams that were made here are read back

A datagram that carries at most 65507 bytes fits into a packet, both declared lengths are exact, and
reading what was written gives it back through all three layers, whatever the link puts behind it
(`parcel_read_back`). The checksum that is written is never the zero that stands for none. -/

namespace LocalPlay.Udp

/-- The most bytes that a datagram can carry in a packet. -/
def payloadLimit : Nat := 65507

namespace Datagram

/-! ## The layout -/

@[simp] theorem length_toBytes (d : Datagram) :
    d.toBytes.length = headerSize + d.payload.length := by
  simp only [toBytes, List.length_append, Bytes.length_be16, headerSize]

/-- A datagram that declares its own length is read back. -/
theorem parse_toBytes {d : Datagram} (exact : d.length.toNat = headerSize + d.payload.length) :
    parse d.toBytes = .ok d := by
  have long : ¬ headerSize + d.payload.length < headerSize := by omega
  have srcPort : d.toBytes.be16At 0 = d.srcPort := Bytes.be16At_of_field rfl
  have dstPort : d.toBytes.be16At 2 = d.dstPort := Bytes.be16At_of_field rfl
  have length : d.toBytes.be16At 4 = d.length := Bytes.be16At_of_field rfl
  have checksum : d.toBytes.be16At 6 = d.checksum := Bytes.be16At_of_field rfl
  have payload : d.toBytes.field headerSize d.payload.length = d.payload := List.take_length
  have stop : max headerSize (min (headerSize + d.payload.length)
      (headerSize + d.payload.length)) - headerSize = d.payload.length := by omega
  simp only [parse, length_toBytes, if_neg long, srcPort, dstPort, length, checksum, exact, stop,
    payload]

/-! ## Stamped datagrams -/

section Stamped

variable (src dst : IpAddress) (srcPort dstPort : UInt16) {payload : Bytes}

theorem toNat_length_stamped (fits : payload.length ≤ payloadLimit) :
    (stamped src dst srcPort dstPort payload).length.toNat = headerSize + payload.length := by
  refine UInt16.toNat_ofNat_of_lt' ?_
  simp only [headerSize, UInt16.size, payloadLimit] at fits ⊢
  omega

/-- A stamped datagram does not say that it has no checksum. -/
theorem checksum_stamped_ne_zero (payload : Bytes) :
    (stamped src dst srcPort dstPort payload).checksum ≠ 0 := by
  simp only [stamped]
  split
  · decide
  · assumption

/-- The checksum of a stamped datagram holds. -/
theorem verifies_stamped (fits : payload.length ≤ payloadLimit) :
    (stamped src dst srcPort dstPort payload).Verifies src dst := by
  let bare := blank srcPort dstPort payload
  let front := Bytes.be16 srcPort ++ Bytes.be16 dstPort ++ Bytes.be16 bare.length
  have size : front.length = 6 := rfl
  have bytes : bare.toBytes = front ++ [0, 0] ++ payload := by
    rw [← Bytes.be16_zero]
    rfl
  have stamp : Internet.IsStamp (stamped src dst srcPort dstPort payload).checksum
      (Udp.checksum src dst (front ++ [0, 0] ++ payload)) := by
    show Internet.IsStamp (if Udp.checksum src dst bare.toBytes = 0 then 0xFFFF
      else Udp.checksum src dst bare.toBytes) _
    rw [bytes]
    split
    · next zero => exact Or.inr ⟨zero, rfl⟩
    · exact Or.inl rfl
  have short : front.length + 2 + payload.length ≤ 65535 := by
    rw [size]
    simp only [payloadLimit] at fits
    omega
  have even : front.length % 2 = 0 := by rw [size]
  exact Or.inr (Internet.pseudoChecksum_stamped even short stamp)

end Stamped

end Datagram

/-! ## All three layers -/

namespace Parcel

/-- The packet that takes a parcel to its destination. -/
def toPacket (parcel : Parcel) (identification : UInt16) : Internet.Draft where
  identification := identification
  protocol := Internet.Protocol.udp.code
  src := parcel.src.ip
  dst := parcel.dst.ip
  payload := parcel.toDatagram.toBytes

end Parcel

/-- **What was sent is what is read.** A parcel whose payload fits goes into a datagram, a packet and
    a frame. The three readers find in that frame, whatever the link filled it up with, the addresses
    of both layers, the numbers, the ports and the payload as they were given; both declared lengths
    are the true ones, and both checksums are there and hold. -/
theorem parcel_read_back (dstMac srcMac : MacAddress) (etherType identification : UInt16)
    (parcel : Parcel) (padding : Bytes) (fits : parcel.payload.length ≤ payloadLimit) :
    ∃ (frame : Link.Frame) (p : Internet.Packet) (d : Datagram),
      Link.Frame.parse (Link.Frame.toBytes
        ⟨dstMac, srcMac, etherType, (parcel.toPacket identification).toBytes⟩ ++ padding)
          = .ok frame ∧
      Internet.Packet.parse frame.payload = .ok p ∧
      Datagram.parse p.payload = .ok d ∧
      (frame.dst = dstMac ∧ frame.src = srcMac ∧ frame.etherType = etherType) ∧
      (p.identification = identification ∧ p.timeToLive = 64 ∧ p.protocol = 17 ∧
        p.src = parcel.src.ip ∧ p.dst = parcel.dst.ip) ∧
      (d.srcPort = parcel.src.port ∧ d.dstPort = parcel.dst.port ∧ d.payload = parcel.payload) ∧
      (p.header.be16At 2).toNat = (parcel.toPacket identification).toBytes.length ∧
      d.length.toNat = parcel.toDatagram.toBytes.length ∧
      p.HeaderVerifies ∧
      d.checksum ≠ 0 ∧ d.Verifies parcel.src.ip parcel.dst.ip := by
  let draft := parcel.toPacket identification
  have exact := Datagram.toNat_length_stamped parcel.src.ip parcel.dst.ip parcel.src.port
    parcel.dst.port fits
  have length : draft.payload.length = headerSize + parcel.payload.length :=
    Datagram.length_toBytes _
  have short : Internet.Packet.headerSize + draft.payload.length ≤ 65535 := by
    simp only [length, Internet.Packet.headerSize, headerSize, payloadLimit] at fits ⊢
    omega
  have declared := draft.toNat_declared short
  refine ⟨_, draft.packet, parcel.toDatagram,
    Link.Frame.parse_append (Link.Frame.parse_toBytes _) padding,
    draft.parse_toBytes_append short padding, Datagram.parse_toBytes exact, ⟨rfl, rfl, rfl⟩,
    ⟨draft.identification_packet, draft.timeToLive_packet, draft.protocol_packet, draft.src_packet,
      draft.dst_packet⟩, ⟨rfl, rfl, rfl⟩, ?_, ?_, draft.headerVerifies_packet,
    Datagram.checksum_stamped_ne_zero _ _ _ _ _, Datagram.verifies_stamped _ _ _ _ fits⟩
  · rw [draft.length_toBytes, ← declared]
    rfl
  · rw [Datagram.length_toBytes]
    exact exact

/-- Three bytes from one console to another, whose words add up to a multiple of 65535. -/
def wholeTurn : Parcel := ⟨⟨⟨0x0A0D0002⟩, 11452⟩, ⟨⟨0x0A0D0003⟩, 11452⟩, [0x45, 0x41, 0x4D]⟩

/-- The checksum of these bytes is zero, so it goes out in its other form. -/
theorem parcel_read_back_wholeTurn :
    wholeTurn.payload.length ≤ payloadLimit ∧ wholeTurn.toDatagram.checksum = 0xFFFF ∧
      ∃ (frame : Link.Frame) (p : Internet.Packet) (d : Datagram),
        Link.Frame.parse (Link.Frame.toBytes
          ⟨.broadcast, .zero, Link.EtherType.ipv4.code, (wholeTurn.toPacket 7).toBytes⟩
            ++ Bytes.zeros 15) = .ok frame ∧
        Internet.Packet.parse frame.payload = .ok p ∧
        Datagram.parse p.payload = .ok d ∧
        p.HeaderVerifies ∧ d.payload = wholeTurn.payload ∧
        d.checksum ≠ 0 ∧ d.Verifies wholeTurn.src.ip wholeTurn.dst.ip := by
  have fits : wholeTurn.payload.length ≤ payloadLimit := by decide
  obtain ⟨frame, p, d, parsed, packet, datagram, -, -, ⟨-, -, payload⟩, -, -, header, checksum⟩ :=
    parcel_read_back .broadcast .zero Link.EtherType.ipv4.code 7 wholeTurn (Bytes.zeros 15) fits
  exact ⟨fits, by decide +kernel, frame, p, d, parsed, packet, datagram, header, payload, checksum⟩

end LocalPlay.Udp
