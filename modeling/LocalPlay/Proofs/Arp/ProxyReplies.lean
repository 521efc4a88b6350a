import LocalPlay.Proofs.Arp.LiveHosts
import LocalPlay.Proofs.Arp.PacketRoundTrip

set_option autoImplicit false

/-! # Who is answered, and with what

Every frame with a packet about IPv4 addresses on Ethernet teaches who has the sender's address, and
nothing else does. Whether the sender is answered is decided on the table that has been taught: it
must ask, for an address of the subnet that nobody is known to have, and from an address of its own.
The answer is a frame that any reader takes as it is meant (`Link.Frame.Tells`). -/

namespace LocalPlay

/-- A frame tells one station, which has an address, that another one has the address `target`. -/
def Link.Frame.Tells (frame : Link.Frame) (station : MacAddress) (ip : IpAddress)
    (owner : MacAddress) (target : IpAddress) : Prop :=
  frame.dst = station ∧ frame.src = owner ∧ frame.etherType = EtherType.arp.code ∧
    ∃ p, Arp.Packet.parse frame.payload = .ok p ∧ p.IsEthernetIpv4 ∧
      p.operation? = some .reply ∧ p.senderMac = owner ∧ p.senderIp = target ∧
      p.targetMac = station ∧ p.targetIp = ip

namespace Arp

section Reply

variable (localMac : MacAddress) (p : Packet)

theorem tells_replyFrame :
    (replyFrame localMac p).Tells p.senderMac p.senderIp localMac p.targetIp :=
  ⟨rfl, rfl, rfl, .reply localMac p.targetIp p.senderMac p.senderIp, Packet.parse_toBytes _,
    ⟨rfl, rfl, rfl, rfl⟩, rfl, rfl, rfl, rfl, rfl⟩

theorem length_toBytes_replyFrame : (replyFrame localMac p).toBytes.length = 42 := by
  simp [replyFrame, Packet.toFrame, Link.Frame.toBytes, Packet.size]

end Reply

section Process

variable {subnet : Subnet} {localMac : MacAddress} {now : Instant} {cache : Cache}
  {frame : Link.Frame} {p : Packet}

theorem answers_iff : Answers subnet now cache p ↔
    p.operation = 1 ∧ p.targetIp ∈ subnet ∧ p.senderIp ≠ .unspecified ∧ p.senderIp ≠ p.targetIp ∧
      cache.lookup now p.targetIp = none :=
  and_congr_left fun _ => Operation.ofCode?_eq_some_iff

theorem process_of_not_valid (invalid : ∀ p, Packet.parse frame.payload = .ok p →
    ¬ p.IsEthernetIpv4) : process subnet localMac now cache frame = (cache, .ignored) := by
  cases parsed : Packet.parse frame.payload with
  | error _ => simp only [process, parsed]
  | ok p => simp only [process, parsed, if_neg (invalid p parsed)]

theorem process_fst_of_parse (parsed : Packet.parse frame.payload = .ok p)
    (valid : p.IsEthernetIpv4) : (process subnet localMac now cache frame).1
      = cache.insert now p.senderMac p.senderIp := by
  simp only [process, parsed, if_pos valid]

/-- A payload has no packet about IPv4 addresses on Ethernet if it is too short for a packet, or
    if it starts otherwise than such a packet does. -/
theorem not_valid_iff {b : Bytes} : (∀ p, Packet.parse b = .ok p → ¬ p.IsEthernetIpv4) ↔
    b.length < Packet.size ∨ b.field 0 6 ≠ [0, 1, 8, 0, 6, 4] := by
  constructor
  · intro invalid
    by_cases short : b.length < Packet.size
    · exact Or.inl short
    · obtain ⟨p, parsed⟩ := Packet.exists_parse (Nat.le_of_not_lt short)
      exact Or.inr ((Packet.isEthernetIpv4_iff parsed).not.1 (invalid p parsed))
  · intro refused p parsed valid
    rcases refused with short | otherwise
    · exact Nat.not_lt.2 (Packet.length_of_parse parsed) short
    · exact otherwise ((Packet.isEthernetIpv4_iff parsed).1 valid)

end Process

/-- **Who asks for an absent host is told that we are it, and nobody else is told anything.** A frame
    is ignored, and the table stays as it is, if its payload is too short for a packet or if it is
    not about IPv4 addresses on Ethernet. Otherwise the payload is such a packet with padding, and
    its sender is noted. If then the packet asks, for an address of the subnet that nobody is known
    to have, and the sender has an address and another one, the sender is told that we have the
    address it asks for, in a frame of 42 bytes; otherwise nothing is said. -/
theorem process_tells_who_asks (subnet : Subnet) (localMac : MacAddress) (now : Instant)
    (cache : Cache) (frame : Link.Frame) :
    let after := process subnet localMac now cache frame
    if frame.payload.length < 28 ∨ frame.payload.field 0 6 ≠ [0, 1, 8, 0, 6, 4] then
      after = (cache, .ignored)
    else ∃ (p : Packet) (padding : Bytes),
      frame.payload = p.toBytes ++ padding ∧ p.IsEthernetIpv4 ∧
      after.1 = cache.insert now p.senderMac p.senderIp ∧
      if p.operation = 1 ∧ p.targetIp ∈ subnet ∧ p.senderIp ≠ .unspecified ∧
          p.senderIp ≠ p.targetIp ∧ after.1.lookup now p.targetIp = none then
        ∃ answer, after.2 = .reply answer ∧ answer.toBytes.length = 42 ∧
          Link.Frame.parse answer.toBytes = .ok answer ∧
          answer.Tells p.senderMac p.senderIp localMac p.targetIp
      else after.2 = .learned := by
  intro after
  split
  case isTrue refused => exact process_of_not_valid (not_valid_iff.2 refused)
  case isFalse heard =>
    obtain ⟨p, parsed, valid⟩ : ∃ p, Packet.parse frame.payload = .ok p ∧ p.IsEthernetIpv4 := by
      by_contra none
      simp only [not_exists, not_and] at none
      exact heard (not_valid_iff.1 none)
    obtain ⟨padding, payload⟩ := Packet.parse_eq_ok_iff.1 parsed
    -- the sender is noted before anything is decided
    have noted : after.1 = cache.insert now p.senderMac p.senderIp :=
      process_fst_of_parse parsed valid
    have said : after.2 = if Answers subnet now after.1 p then .reply (replyFrame localMac p)
        else .learned := noted ▸ process_of_parse parsed valid
    refine ⟨p, padding, payload, valid, noted, ?_⟩
    split
    case isTrue wanted =>
      rw [if_pos (answers_iff.2 wanted)] at said
      exact ⟨_, said, length_toBytes_replyFrame localMac p, Link.Frame.parse_toBytes _,
        tells_replyFrame localMac p⟩
    case isFalse unwanted => rwa [if_neg fun answers => unwanted (answers_iff.1 answers)] at said

example : (process (.ofAddress ⟨0⟩ 16) .broadcast 1 (Cache.empty 30 1)
    ((Packet.request .zero ⟨2⟩ ⟨9⟩).toFrame .zero .broadcast)).2 =
      .reply ((Packet.reply .broadcast ⟨9⟩ .zero ⟨2⟩).toFrame .broadcast .zero) := by decide

end Arp

end LocalPlay
