import LocalPlay.Internet.Packet
import LocalPlay.Proofs.Bytes
import LocalPlay.Proofs.Internet.Checksum

set_option autoImplicit false

/-! # Packets that were made here are read back

A draft is written with a header of twenty bytes that declares the length of the packet. As long as
that length fits into its sixteen bits, reading gives the header and the payload apart again
(`Draft.parse_toBytes_append`), also when the link has filled the packet up. The fields stand in the
header where the reader looks for them, and the header verifies. -/

namespace LocalPlay.Internet

/-! ## Packets that came -/

namespace Packet

variable {b : Bytes} {p : Packet}

/-- The header that is read is the first bytes, and there are enough of them. -/
theorem header_of_parse (parsed : parse b = .ok p) :
    ∃ n, headerSize ≤ n ∧ n ≤ b.length ∧ p.header = b.field 0 n := by
  unfold parse at parsed
  simp only at parsed
  split at parsed
  · cases parsed
  split at parsed
  · cases parsed
  split at parsed
  · cases parsed
  next long =>
  split at parsed
  · cases parsed
  next whole =>
  cases parsed
  exact ⟨_, Nat.le_of_not_lt long, Nat.le_of_not_lt whole, rfl⟩

/-- The number of the protocol is where it was read. -/
theorem protocol_of_parse (parsed : parse b = .ok p) : p.protocol = b.byteAt 9 := by
  obtain ⟨n, long, -, header⟩ := header_of_parse parsed
  rw [protocol, header]
  exact Bytes.byteAt_field (Nat.lt_of_lt_of_le (by decide) long) b 0

theorem byteAt_toBytes_of_parse (parsed : parse b = .ok p) :
    p.toBytes.byteAt 9 = p.protocol := by
  obtain ⟨n, long, whole, header⟩ := header_of_parse parsed
  have inside : 9 < p.header.length := by
    rw [header, Bytes.length_field_of_le (by omega)]
    exact Nat.lt_of_lt_of_le (by decide) long
  exact Bytes.byteAt_append inside _

/-- A packet is no longer than its header can say, and its header has room for what every header
    has. -/
theorem length_payload_of_parse (parsed : parse b = .ok p) :
    headerSize + p.payload.length ≤ 65535 := by
  obtain ⟨n, long, whole, header⟩ := header_of_parse parsed
  have room : headerSize ≤ p.header.length := by
    rw [header, Bytes.length_field_of_le (by omega)]
    exact long
  -- a packet reaches as far as it declares, in sixteen bits, or to the end of its header
  have extent : extent b ≤ 65535 := by
    have declared := (b.be16At 2).toNat_lt
    simp only [extent]
    omega
  have total : p.header.length + p.payload.length ≤ 65535 := by
    have cut := congrArg List.length (toBytes_of_parse parsed)
    rw [toBytes, List.length_append, List.length_take] at cut
    omega
  omega

end Packet

/-! ## Packets that were made -/

namespace Draft

variable (d : Draft)

/-! ### The layout -/

@[simp] theorem length_front : d.front.length = 10 := by
  simp [front]

@[simp] theorem length_header : d.header.length = Packet.headerSize := by
  simp [header, back, Packet.headerSize]

@[simp] theorem length_toBytes : d.toBytes.length = Packet.headerSize + d.payload.length := by
  simp [toBytes]

/-- The length that the header declares. -/
theorem toNat_declared (fits : Packet.headerSize + d.payload.length ≤ 65535) :
    (d.toBytes.be16At 2).toNat = Packet.headerSize + d.payload.length := by
  have declared : d.toBytes.be16At 2 = UInt16.ofNat (Packet.headerSize + d.payload.length) :=
    Bytes.be16At_of_field_ofNat rfl
  rw [declared, UInt16.toNat_ofNat_of_lt' (Nat.lt_succ_of_le fits)]

/-! ### Reading -/

/-- The packet that a draft describes. -/
def packet : Packet := ⟨d.header, d.payload⟩

/-- A packet that was written is read back, with or without padding behind it. -/
theorem parse_toBytes_append (fits : Packet.headerSize + d.payload.length ≤ 65535)
    (padding : Bytes) : Packet.parse (d.toBytes ++ padding) = .ok d.packet := by
  have length : (d.toBytes ++ padding).length
      = Packet.headerSize + (d.payload.length + padding.length) := by
    rw [List.length_append, length_toBytes, Nat.add_assoc]
  have first : (d.toBytes ++ padding).byteAt 0 = 0x45 := rfl
  have declared : ((d.toBytes ++ padding).be16At 2).toNat
      = Packet.headerSize + d.payload.length := by
    have inside : 2 + 2 ≤ d.toBytes.length := by
      rw [length_toBytes, Packet.headerSize]
      omega
    rw [Bytes.be16At_append inside, d.toNat_declared fits]
  have size : (0x45 : UInt8).toNat % 16 * 4 = Packet.headerSize := rfl
  have stop : max Packet.headerSize (min (Packet.headerSize + d.payload.length)
        (Packet.headerSize + (d.payload.length + padding.length))) - Packet.headerSize
      = d.payload.length := by omega
  have bytes : d.toBytes ++ padding = d.header ++ (d.payload ++ padding) := List.append_assoc ..
  simp only [Packet.parse, first, declared, length, size, stop]
  rw [if_neg (by omega), if_neg (by decide), if_neg (by omega), if_neg (by omega), bytes,
    List.take_left' d.length_header, Bytes.field_append_of_le (Nat.le_of_eq d.length_header),
    length_header, Nat.sub_self, Bytes.field_append_of_length rfl]
  rfl

/-! ### The fields of the header -/

theorem identification_packet : d.packet.identification = d.identification :=
  Bytes.be16At_of_field rfl

theorem timeToLive_packet : d.packet.timeToLive = 64 := rfl

theorem protocol_packet : d.packet.protocol = d.protocol := rfl

theorem src_packet : d.packet.src = d.src := by
  rw [Packet.src, IpAddress.readAt, Bytes.be32At_of_field (x := d.src.bits) rfl]

theorem dst_packet : d.packet.dst = d.dst := by
  rw [Packet.dst, IpAddress.readAt, Bytes.be32At_of_field (x := d.dst.bits) rfl]

/-- The header that is written verifies. -/
theorem headerVerifies_packet : d.packet.HeaderVerifies := by
  refine checksum_stamped (by rw [length_front]) ?_ (Or.inl rfl)
  rw [length_front, back, List.length_append, IpAddress.length_toBytes, IpAddress.length_toBytes]
  decide

end Draft

end LocalPlay.Internet
