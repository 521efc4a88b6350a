import LocalPlay.Arp.Proxy
import LocalPlay.Proofs.Arp.Table

set_option autoImplicit false

/-! # Answering for a host that is there

The proxy notes who asks before it looks whether the host asked for is known. In a full table the
note can cost that very host its entry, and then the proxy answers for a host that it knew a moment
ago. That is the only way in which it comes to answer for a known host. -/

namespace LocalPlay.Arp

namespace Cache

variable {c : Cache} {ip other : IpAddress} {now : Instant}

/-- Noting a host costs another one its entry exactly if that is given up to make room. -/
theorem lookup_insert_eq_none_iff {mac : MacAddress} (known : c.lookup now other = some mac)
    (specified : ip ≠ .unspecified) (ne : other ≠ ip) (newMac : MacAddress) :
    (c.insert now newMac ip).lookup now other = none ↔ ∃ v, c.Displaces ip v ∧ v.ip = other := by
  by_cases displaced : ∃ v, c.Displaces ip v ∧ v.ip = other
  · refine iff_of_true ?_ displaced
    obtain ⟨v, hv, rfl⟩ := displaced
    rw [lookup, held?_insert_displaced specified hv]
    rfl
  · refine iff_of_false ?_ displaced
    have stays (v : Entry) (hv : c.Displaces ip v) : v.ip ≠ other :=
      fun same => displaced ⟨v, hv, same⟩
    rw [lookup, held?_insert_of_stays specified ne stays, ← lookup, known]
    exact Option.some_ne_none mac

end Cache

section Process

variable {subnet : Subnet} {localMac : MacAddress} {now : Instant} {cache : Cache}
  {frame : Link.Frame} {p : Packet}

/-- What comes of a packet about IPv4 addresses on Ethernet. -/
theorem process_of_parse (parsed : Packet.parse frame.payload = .ok p) (valid : p.IsEthernetIpv4) :
    (process subnet localMac now cache frame).2 =
      if Answers subnet now (cache.insert now p.senderMac p.senderIp) p then
        .reply (replyFrame localMac p)
      else .learned := by
  simp only [process, parsed, if_pos valid]

/-- **The proxy answers for a known host exactly if it has just crowded it out.** The host must be
    one of the subnet, the one who asks must have an address that is new to the table, the table
    must be full, and the time of the host asked for must be up first. -/
theorem reply_for_known_iff_displaced (subnet : Subnet) (localMac : MacAddress) (now : Instant)
    (cache : Cache) (frame : Link.Frame) (p : Packet) (mac : MacAddress)
    (parsed : Packet.parse frame.payload = .ok p) (valid : p.IsEthernetIpv4)
    (request : p.operation? = some .request) (known : cache.lookup now p.targetIp = some mac)
    (answer : Link.Frame) :
    (process subnet localMac now cache frame).2 = .reply answer ↔
      answer = replyFrame localMac p ∧ p.targetIp ∈ subnet ∧ p.senderIp ≠ .unspecified ∧
        ∃ v, cache.Displaces p.senderIp v ∧ v.ip = p.targetIp := by
  have answers : Answers subnet now (cache.insert now p.senderMac p.senderIp) p ↔
      p.targetIp ∈ subnet ∧ p.senderIp ≠ .unspecified ∧
        ∃ v, cache.Displaces p.senderIp v ∧ v.ip = p.targetIp := by
    constructor
    · rintro ⟨-, member, probe, gratuitous, unknown⟩
      exact ⟨member, probe,
        (Cache.lookup_insert_eq_none_iff known probe (Ne.symm gratuitous) _).1 unknown⟩
    · rintro ⟨member, specified, v, displaces, same⟩
      -- the host asked for has an entry, and the one who asks has none
      have ne : p.targetIp ≠ p.senderIp := by
        intro eq
        obtain ⟨e, held, -⟩ := Cache.lookup_eq_some_iff.1 known
        rw [eq, displaces.1] at held
        exact Option.some_ne_none e held.symm
      exact ⟨request, member, specified, Ne.symm ne,
        (Cache.lookup_insert_eq_none_iff known specified ne _).2 ⟨v, displaces, same⟩⟩
  rw [process_of_parse parsed valid, ← answers]
  split
  · next yes => simp [yes, eq_comm]
  · next no => simp [no]

end Process

/-- A table with room for one host, which is there. -/
def crowdedTable : Cache := (Cache.empty 30 1).insert 0 .broadcast ⟨9⟩

/-- The question of the host 2 for the host 9. -/
def questionFor9 : Packet := .request .zero ⟨2⟩ ⟨9⟩

theorem reply_for_known_crowdedTable :
    crowdedTable.lookup 1 ⟨9⟩ = some .broadcast ∧
      (process (.ofAddress ⟨0⟩ 16) .zero 1 crowdedTable (questionFor9.toFrame .zero .broadcast)).2
        = .reply (replyFrame .zero questionFor9) := by
  have known : crowdedTable.lookup 1 ⟨9⟩ = some .broadcast := by decide
  have displaces : crowdedTable.Displaces ⟨2⟩ ⟨⟨9⟩, .broadcast, 30⟩ := by decide
  refine ⟨known, (reply_for_known_iff_displaced (.ofAddress ⟨0⟩ 16) .zero 1 crowdedTable
    (questionFor9.toFrame .zero .broadcast) questionFor9 .broadcast (by decide) (by decide)
    (by decide) known _).2 ?_⟩
  exact ⟨rfl, by decide, by decide, _, displaces, rfl⟩

/-- The proxy does answer for a host that is there. -/
theorem not_forall_known_not_reply :
    ¬ ∀ (subnet : Subnet) (localMac : MacAddress) (now : Instant) (cache : Cache)
      (frame : Link.Frame) (p : Packet) (mac : MacAddress),
      Packet.parse frame.payload = .ok p → p.IsEthernetIpv4 → p.operation? = some .request →
        cache.lookup now p.targetIp = some mac →
          ∀ answer, (process subnet localMac now cache frame).2 ≠ .reply answer := by
  intro h
  -- noting the host 2 crowds out the host 9, and the proxy answers in its place
  exact h (.ofAddress ⟨0⟩ 16) .zero 1 crowdedTable (questionFor9.toFrame .zero .broadcast)
    questionFor9 .broadcast (by decide) (by decide) (by decide) (by decide)
    (replyFrame .zero questionFor9) (by decide)

end LocalPlay.Arp
