import LocalPlay.Arp.Packet
import LocalPlay.Proofs.Bytes

set_option autoImplicit false

/-! # Which payloads are address resolution packets

A packet that was written is read back, whatever the link puts behind it, and nothing else is read:
a payload that the reader accepts is the packet that it finds, as it is written, and padding
(`Packet.parse_eq_ok_iff`). Whether the packet is about IPv4 addresses on Ethernet shows in its
first six bytes. -/

namespace LocalPlay.Arp.Packet

variable {b : Bytes} {p : Packet}

@[simp] theorem length_toBytes (p : Packet) : p.toBytes.length = size := by
  simp [toBytes, size]

/-- A packet that was written is read back. -/
theorem parse_toBytes (p : Packet) : parse p.toBytes = .ok p := by
  have long : ¬ p.toBytes.length < size := by
    rw [length_toBytes]
    exact Nat.lt_irrefl size
  have hardwareType : p.toBytes.be16At 0 = p.hardwareType := Bytes.be16At_of_field rfl
  have protocolType : p.toBytes.be16At 2 = p.protocolType := Bytes.be16At_of_field rfl
  have operation : p.toBytes.be16At 6 = p.operation := Bytes.be16At_of_field rfl
  have senderIp : IpAddress.readAt p.toBytes 14 = p.senderIp := by
    rw [IpAddress.readAt, Bytes.be32At_of_field (x := p.senderIp.bits) rfl]
  have targetIp : IpAddress.readAt p.toBytes 24 = p.targetIp := by
    rw [IpAddress.readAt, Bytes.be32At_of_field (x := p.targetIp.bits) rfl]
  rw [parse, if_neg long, hardwareType, protocolType, operation, senderIp, targetIp]
  rfl

theorem parse_append (whole : size ≤ b.length) (padding : Bytes) :
    parse (b ++ padding) = parse b := by
  have long : ¬ b.length < size := Nat.not_lt.2 whole
  have long' : ¬ (b ++ padding).length < size := by
    rw [List.length_append]
    omega
  have inside {i : Nat} (h : i ≤ 28) : i ≤ b.length := Nat.le_trans h whole
  rw [parse, parse, if_neg long, if_neg long',
    Bytes.be16At_append (inside (by decide)), Bytes.be16At_append (inside (by decide)),
    Bytes.byteAt_append (inside (by decide)), Bytes.byteAt_append (inside (by decide)),
    Bytes.be16At_append (inside (by decide)), MacAddress.readAt_append (inside (by decide)),
    IpAddress.readAt_append (inside (by decide)), MacAddress.readAt_append (inside (by decide)),
    IpAddress.readAt_append (inside (by decide))]

theorem exists_parse (whole : size ≤ b.length) : ∃ p, parse b = .ok p :=
  ⟨_, if_neg (Nat.not_lt.2 whole)⟩

theorem length_of_parse (parsed : parse b = .ok p) : size ≤ b.length := by
  unfold parse at parsed
  split at parsed
  · cases parsed
  · next long => exact Nat.le_of_not_lt long

/-- The packet that is found stands, as it is written, at the start of the payload. -/
theorem carries_of_parse (parsed : parse b = .ok p) : b.Carries 0 p.toBytes := by
  have whole : 28 ≤ b.length := length_of_parse parsed
  have short : ¬ b.length < size := Nat.not_lt.2 whole
  rw [parse, if_neg short] at parsed
  cases parsed
  simp only [toBytes, Bytes.carries_append_iff, List.length_append, Bytes.length_be16,
    MacAddress.length_toBytes, IpAddress.length_toBytes, List.length_cons, List.length_nil,
    Nat.zero_add, Nat.reduceAdd]
  refine ⟨⟨⟨⟨⟨⟨⟨?hardwareType, ?protocolType⟩, ?lengths⟩, ?operation⟩, ?senderMac⟩, ?senderIp⟩,
    ?targetMac⟩, ?targetIp⟩
  case hardwareType => exact Bytes.carries_of_eq_field (Bytes.be16_be16At (by omega)) rfl
  case protocolType => exact Bytes.carries_of_eq_field (Bytes.be16_be16At (by omega)) rfl
  case lengths => exact Bytes.carries_of_eq_field (Bytes.pair_byteAt (by omega)) rfl
  case operation => exact Bytes.carries_of_eq_field (Bytes.be16_be16At (by omega)) rfl
  case senderMac => exact Bytes.carries_of_eq_field (MacAddress.toBytes_readAt (by omega)) rfl
  case senderIp => exact Bytes.carries_of_eq_field (IpAddress.toBytes_readAt (by omega)) rfl
  case targetMac => exact Bytes.carries_of_eq_field (MacAddress.toBytes_readAt (by omega)) rfl
  case targetIp => exact Bytes.carries_of_eq_field (IpAddress.toBytes_readAt (by omega)) rfl

/-- The reader accepts a packet with padding behind it, and nothing else. -/
theorem parse_eq_ok_iff : parse b = .ok p ↔ ∃ padding, b = p.toBytes ++ padding := by
  constructor
  · intro parsed
    have front : b.take p.toBytes.length = p.toBytes := carries_of_parse parsed
    have whole := List.take_append_drop p.toBytes.length b
    rw [front] at whole
    exact ⟨b.drop p.toBytes.length, whole.symm⟩
  · rintro ⟨padding, rfl⟩
    rw [parse_append (Nat.le_of_eq p.length_toBytes.symm), parse_toBytes]

/-- Ethernet, IPv4, and addresses of six and four bytes. -/
theorem isEthernetIpv4_iff (parsed : parse b = .ok p) :
    p.IsEthernetIpv4 ↔ b.field 0 6 = [0, 1, 8, 0, 6, 4] := by
  have head : b.field 0 6 = Bytes.be16 p.hardwareType ++ Bytes.be16 p.protocolType
      ++ [p.hardwareLength, p.protocolLength] := by
    obtain ⟨padding, rfl⟩ := parse_eq_ok_iff.1 parsed
    rfl
  have wanted : ([0, 1, 8, 0, 6, 4] : Bytes)
      = Bytes.be16 1 ++ Bytes.be16 Link.EtherType.ipv4.code ++ [6, 4] := by decide
  rw [head, wanted]
  constructor
  · rintro ⟨hardwareType, protocolType, hardwareLength, protocolLength⟩
    rw [hardwareType, protocolType, hardwareLength, protocolLength]
  · intro same
    obtain ⟨types, lengths⟩ := List.append_inj' same rfl
    obtain ⟨hardwareType, protocolType⟩ := List.append_inj' types rfl
    obtain ⟨hardwareLength, protocolLength⟩ := List.cons.inj lengths
    exact ⟨Bytes.be16_injective hardwareType, Bytes.be16_injective protocolType, hardwareLength,
      (List.cons.inj protocolLength).1⟩

end LocalPlay.Arp.Packet
