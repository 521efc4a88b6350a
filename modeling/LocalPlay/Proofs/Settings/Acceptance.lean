import LocalPlay.Proofs.Address.SubnetRange
import LocalPlay.Settings.Diagnosis

set_option autoImplicit false

/-! # Which settings are accepted

Every mistake has a reason of its own (`Mistake.Applies`), and it is told exactly if there is that
reason, whatever else is wrong (`mem_mistakes_iff`). Only where the gateway and the forward target
lie is not judged when the subnet has no size that works. So settings are accepted if they are free
of all these reasons (`Acceptable`). -/

namespace LocalPlay.Settings

/-! ## Reasons -/

/-- Whether an address is in the subnet, as a number: from the network address to the broadcast
    address. -/
def Covers (s : Settings) (ip : IpAddress) : Prop :=
  s.chosenSubnet.network.toNat ≤ ip.toNat ∧ ip.toNat ≤ s.chosenSubnet.broadcast.toNat

/-- The reason for a mistake. It says nothing about other mistakes, but that the places of the
    gateway and of the target are only judged in a subnet that has a size that works. -/
def Mistake.Applies (s : Settings) : Mistake → Prop
  | noInterface => s.capture.interface = ""
  | notUnicast mac => s.capture.mac = some mac ∧ (mac.IsMulticast ∨ mac = .zero)
  | prefixOutside length => ¬ s.PrefixInRange ∧ length = s.subnet.prefixLength
  | gatewayOutside gateway subnet => s.PrefixInRange ∧ ¬ s.Covers s.subnet.gateway ∧
      gateway = s.subnet.gateway ∧ subnet = s.chosenSubnet
  | gatewayNoHost gateway subnet => s.PrefixInRange ∧
      (s.subnet.gateway.toNat = s.chosenSubnet.network.toNat ∨
        s.subnet.gateway.toNat = s.chosenSubnet.broadcast.toNat) ∧
      gateway = s.subnet.gateway ∧ subnet = s.chosenSubnet
  | noArpCapacity => s.arp.capacity = 0
  | noArpTtl => s.arp.ttlSeconds = 0
  | targetInside target subnet => s.PrefixInRange ∧ s.tcp.forwardTarget = some target ∧
      s.Covers target.ip ∧ subnet = s.chosenSubnet
  | noTargetPort => ∃ target, s.tcp.forwardTarget = some target ∧ target.port = 0
  | noConnectTimeout => s.tcp.connectTimeoutMillis = 0
  | noSweepInterval => s.engine.sweepIntervalSeconds = 0
  | noEventCapacity => s.engine.eventCapacity = 0
  | noLdnPort => s.ldn.port = 0

/-- Settings with which the program runs. -/
structure Acceptable (s : Settings) : Prop where
  interface : s.capture.interface ≠ ""
  unicast : ∀ mac, s.capture.mac = some mac → ¬ mac.IsMulticast ∧ mac ≠ .zero
  prefixLength : 8 ≤ s.subnet.prefixLength.toNat ∧ s.subnet.prefixLength.toNat ≤ 30
  gateway : s.chosenSubnet.network.toNat < s.subnet.gateway.toNat ∧
    s.subnet.gateway.toNat < s.chosenSubnet.broadcast.toNat
  arpCapacity : 1 ≤ s.arp.capacity.toNat
  arpTtl : 1 ≤ s.arp.ttlSeconds.toNat
  connectTimeout : 1 ≤ s.tcp.connectTimeoutMillis.toNat
  sweepInterval : 1 ≤ s.engine.sweepIntervalSeconds.toNat
  eventCapacity : 1 ≤ s.engine.eventCapacity.toNat
  ldnPort : s.ldn.port ≠ 0
  target : ∀ target, s.tcp.forwardTarget = some target → target.port ≠ 0 ∧
    (target.ip.toNat < s.chosenSubnet.network.toNat ∨
      s.chosenSubnet.broadcast.toNat < target.ip.toNat)

variable {s : Settings} {mistake : Mistake}

/-! ## The subnet as a range -/

theorem prefixInRange_iff :
    s.PrefixInRange ↔ 8 ≤ s.subnet.prefixLength.toNat ∧ s.subnet.prefixLength.toNat ≤ 30 := by
  rw [PrefixInRange, UInt8.le_iff_toNat_le, UInt8.le_iff_toNat_le]
  rfl

theorem mem_chosenSubnet_iff {ip : IpAddress} : ip ∈ s.chosenSubnet ↔ s.Covers ip :=
  Subnet.mem_ofAddress_iff _ _ ip

theorem network_le_broadcast : s.chosenSubnet.network.toNat ≤ s.chosenSubnet.broadcast.toNat := by
  have span := Subnet.toNat_broadcast_ofAddress s.subnet.network s.subnet.prefixLength.toNat
  rw [chosenSubnet, span]
  exact Nat.le_add_right _ _

/-- An address at either end is in the subnet. -/
theorem covers_of_end {ip : IpAddress} (atEnd : ip.toNat = s.chosenSubnet.network.toNat ∨
    ip.toNat = s.chosenSubnet.broadcast.toNat) : s.Covers ip := by
  have order := @network_le_broadcast s
  rw [Covers]
  omega

theorem eq_or_eq_iff_toNat {ip a b : IpAddress} :
    ip = a ∨ ip = b ↔ ip.toNat = a.toNat ∨ ip.toNat = b.toNat := by
  have number {c : IpAddress} : ip = c ↔ ip.toNat = c.toNat :=
    ⟨congrArg _, IpAddress.toNat_injective⟩
  rw [number, number]

/-! ## Findings -/

theorem mem_finding_iff {α : Type} {reason : Prop} [Decidable reason] {a b : α} :
    b ∈ finding reason a ↔ reason ∧ b = a := by
  rw [finding]
  split
  · next holds => simp [holds]
  · next fails => simp [fails]

theorem mem_captureMistakes_iff : mistake ∈ s.captureMistakes ↔
    (s.capture.interface = "" ∧ mistake = .noInterface) ∨
    ∃ mac, s.capture.mac = some mac ∧ (mac.IsMulticast ∨ mac = .zero) ∧
      mistake = .notUnicast mac := by
  rw [captureMistakes, List.mem_append, mem_finding_iff]
  cases s.capture.mac with
  | none => simp
  | some mac => simp [mem_finding_iff]

theorem mem_subnetMistakes_iff : mistake ∈ s.subnetMistakes ↔
    (¬ s.PrefixInRange ∧ mistake = .prefixOutside s.subnet.prefixLength) ∨
    (s.PrefixInRange ∧ ¬ s.Covers s.subnet.gateway ∧
      mistake = .gatewayOutside s.subnet.gateway s.chosenSubnet) ∨
    (s.PrefixInRange ∧ (s.subnet.gateway.toNat = s.chosenSubnet.network.toNat ∨
        s.subnet.gateway.toNat = s.chosenSubnet.broadcast.toNat) ∧
      mistake = .gatewayNoHost s.subnet.gateway s.chosenSubnet) := by
  simp only [subnetMistakes]
  split
  · next outside => simp [outside]
  · next inside =>
    have range : s.PrefixInRange := Decidable.not_not.1 inside
    split
    · next stranger =>
      -- an address outside is at neither end
      have uncovered : ¬ s.Covers s.subnet.gateway := mt mem_chosenSubnet_iff.2 stranger
      have apart := mt covers_of_end uncovered
      simp [range, uncovered, apart]
    · next member =>
      have covered : s.Covers s.subnet.gateway :=
        mem_chosenSubnet_iff.1 (Decidable.not_not.1 member)
      simp [range, covered, mem_finding_iff, eq_or_eq_iff_toNat]

theorem mem_arpMistakes_iff : mistake ∈ s.arpMistakes ↔
    (s.arp.capacity = 0 ∧ mistake = .noArpCapacity) ∨
    (s.arp.ttlSeconds = 0 ∧ mistake = .noArpTtl) := by
  rw [arpMistakes, List.mem_append, mem_finding_iff, mem_finding_iff]

theorem mem_tcpMistakes_iff : mistake ∈ s.tcpMistakes ↔
    (∃ target, s.tcp.forwardTarget = some target ∧
      ((s.PrefixInRange ∧ s.Covers target.ip) ∧ mistake = .targetInside target s.chosenSubnet ∨
        target.port = 0 ∧ mistake = .noTargetPort)) ∨
    (s.tcp.connectTimeoutMillis = 0 ∧ mistake = .noConnectTimeout) := by
  rw [tcpMistakes, List.mem_append, mem_finding_iff]
  cases s.tcp.forwardTarget with
  | none => simp
  | some target => simp [mem_finding_iff, mem_chosenSubnet_iff]

theorem mem_engineMistakes_iff : mistake ∈ s.engineMistakes ↔
    (s.engine.sweepIntervalSeconds = 0 ∧ mistake = .noSweepInterval) ∨
    (s.engine.eventCapacity = 0 ∧ mistake = .noEventCapacity) ∨
    (s.ldn.port = 0 ∧ mistake = .noLdnPort) := by
  rw [engineMistakes, List.mem_append, List.mem_append, mem_finding_iff, mem_finding_iff,
    mem_finding_iff, or_assoc]

/-- A mistake is told exactly if there is reason for it. -/
theorem mem_mistakes_iff : mistake ∈ s.mistakes ↔ mistake.Applies s := by
  rw [mistakes, List.mem_append, List.mem_append, List.mem_append, List.mem_append,
    mem_captureMistakes_iff, mem_subnetMistakes_iff, mem_arpMistakes_iff, mem_tcpMistakes_iff,
    mem_engineMistakes_iff]
  cases mistake with
  | targetInside target subnet =>
    simp only [Mistake.Applies, Mistake.targetInside.injEq, reduceCtorEq, and_false, or_false,
      false_or, exists_const]
    constructor
    · rintro ⟨target', given, ⟨range, covered⟩, rfl, rfl⟩
      exact ⟨range, given, covered, rfl⟩
    · rintro ⟨range, given, covered, rfl⟩
      exact ⟨target, given, ⟨range, covered⟩, rfl, rfl⟩
  | _ => simp [Mistake.Applies]

/-! ## Acceptance -/

theorem one_le_toNat_iff {n : UInt64} : 1 ≤ n.toNat ↔ ¬ n = 0 := by
  rw [← UInt64.toNat_inj, UInt64.toNat_zero]
  omega

theorem Acceptable.not_applies (ok : s.Acceptable) (mistake : Mistake) : ¬ mistake.Applies s := by
  have range : s.PrefixInRange := prefixInRange_iff.2 ok.prefixLength
  obtain ⟨above, below⟩ := ok.gateway
  cases mistake with
  | noInterface => exact ok.interface
  | notUnicast mac =>
    rintro ⟨given, group | nobody⟩
    · exact (ok.unicast mac given).1 group
    · exact (ok.unicast mac given).2 nobody
  | prefixOutside length => exact fun applies => applies.1 range
  | gatewayOutside gateway subnet =>
    exact fun applies => applies.2.1 ⟨Nat.le_of_lt above, Nat.le_of_lt below⟩
  | gatewayNoHost gateway subnet =>
    rintro ⟨-, atEnd, -⟩
    omega
  | noArpCapacity => exact one_le_toNat_iff.1 ok.arpCapacity
  | noArpTtl => exact one_le_toNat_iff.1 ok.arpTtl
  | targetInside target subnet =>
    rintro ⟨-, given, ⟨low, high⟩, -⟩
    rcases (ok.target target given).2 with outside | outside
    · exact Nat.not_lt_of_le low outside
    · exact Nat.not_lt_of_le high outside
  | noTargetPort =>
    rintro ⟨target, given, zero⟩
    exact (ok.target target given).1 zero
  | noConnectTimeout => exact one_le_toNat_iff.1 ok.connectTimeout
  | noSweepInterval => exact one_le_toNat_iff.1 ok.sweepInterval
  | noEventCapacity => exact one_le_toNat_iff.1 ok.eventCapacity
  | noLdnPort => exact ok.ldnPort

theorem acceptable_of_not_applies (free : ∀ mistake : Mistake, ¬ mistake.Applies s) :
    s.Acceptable := by
  have range : s.PrefixInRange :=
    Decidable.byContradiction fun outside => free (.prefixOutside _) ⟨outside, rfl⟩
  have covered : s.Covers s.subnet.gateway := by
    rw [← mem_chosenSubnet_iff]
    exact Decidable.byContradiction fun outside => free (.gatewayOutside _ _)
      ⟨range, mt mem_chosenSubnet_iff.2 outside, rfl, rfl⟩
  have inner : ¬ (s.subnet.gateway.toNat = s.chosenSubnet.network.toNat ∨
      s.subnet.gateway.toNat = s.chosenSubnet.broadcast.toNat) :=
    fun atEnd => free (.gatewayNoHost _ _) ⟨range, atEnd, rfl, rfl⟩
  obtain ⟨low, high⟩ := covered
  exact {
    interface := free .noInterface
    unicast := fun mac given => ⟨fun group => free (.notUnicast mac) ⟨given, Or.inl group⟩,
      fun nobody => free (.notUnicast mac) ⟨given, Or.inr nobody⟩⟩
    prefixLength := prefixInRange_iff.1 range
    gateway := by omega
    arpCapacity := one_le_toNat_iff.2 (free .noArpCapacity)
    arpTtl := one_le_toNat_iff.2 (free .noArpTtl)
    connectTimeout := one_le_toNat_iff.2 (free .noConnectTimeout)
    sweepInterval := one_le_toNat_iff.2 (free .noSweepInterval)
    eventCapacity := one_le_toNat_iff.2 (free .noEventCapacity)
    ldnPort := free .noLdnPort
    target := by
      intro target given
      refine ⟨fun zero => free .noTargetPort ⟨target, given, zero⟩, ?_⟩
      have outside : ¬ s.Covers target.ip :=
        fun covered => free (.targetInside target _) ⟨range, given, covered, rfl⟩
      rw [Covers] at outside
      omega }

theorem mistakes_eq_nil_iff : s.mistakes = [] ↔ s.Acceptable := by
  rw [List.eq_nil_iff_forall_not_mem]
  simp only [mem_mistakes_iff]
  exact ⟨acceptable_of_not_applies, Acceptable.not_applies⟩

instance : Decidable s.Acceptable := decidable_of_iff _ mistakes_eq_nil_iff

/-- **Which settings are accepted, and what is told about the others.** Nothing is found to be wrong
    exactly with the settings that keep to every rule. A mistake is among those that are told
    exactly if there is reason for it, whatever else is wrong; only the places of the gateway and of
    the forward target are not judged when the subnet has no size that works. -/
theorem mistakes_eq_nil_iff_and_told (s : Settings) :
    (s.mistakes = [] ↔ s.Acceptable) ∧
    ∀ mistake : Mistake, mistake ∈ s.mistakes ↔ mistake.Applies s :=
  ⟨mistakes_eq_nil_iff, fun _ => mem_mistakes_iff⟩

/-- The settings to begin with are accepted. -/
example : ({} : Settings).Acceptable := by decide

end LocalPlay.Settings
