import LocalPlay.Proofs.Address.SubnetRange
import LocalPlay.Proofs.Checked.Basic

set_option autoImplicit false

/-! # Subnets, checked

All that is asked of a subnet goes through its mask, and a mask is a word of ones shifted by what
its length is short of 32. A machine refuses a shift by a whole word, so the empty mask is a case of
its own; and past 32 there is less than nothing to shift by, so longer prefixes count as 32. With
these checks made, a subnet comes out as before whatever length is asked for, and its members are an
interval (`ofAddress_isInterval`). -/

namespace LocalPlay

namespace Checked

def maskBits (n : Nat) : Checked UInt32 :=
  if n = 0 then return 0
  else do shiftLeft 0xFFFFFFFF (← sub 32 n)

/-- The subnet that holds `ip`. -/
def subnetOf (ip : IpAddress) (prefixLength : Nat) : Checked Subnet := do
  return ⟨⟨ip.bits &&& (← maskBits (min prefixLength 32))⟩, min prefixLength 32⟩

def mask (s : Subnet) : Checked IpAddress := do
  return ⟨← maskBits s.prefixLength⟩

def broadcast (s : Subnet) : Checked IpAddress := do
  return ⟨s.network.bits ||| ~~~ (← maskBits s.prefixLength)⟩

def contains (s : Subnet) (ip : IpAddress) : Checked Bool := do
  return ip.bits &&& (← maskBits s.prefixLength) = s.network.bits

theorem maskBits_eq {n : Nat} (short : n ≤ 32) : maskBits n = pure (Subnet.maskBits n) := by
  rw [maskBits, Subnet.maskBits]
  by_cases whole : n = 0
  · rw [if_pos whole, if_pos whole]
  · rw [if_neg whole, if_neg whole, sub_eq short, pure_bind, shiftLeft_eq (by omega)]

theorem subnetOf_eq (ip : IpAddress) (prefixLength : Nat) :
    subnetOf ip prefixLength = pure (.ofAddress ip prefixLength) := by
  rw [subnetOf, maskBits_eq (Nat.min_le_right ..), pure_bind, Subnet.ofAddress]

section Queries

variable {s : Subnet} (short : s.prefixLength ≤ 32)
include short

theorem mask_eq : mask s = pure s.mask := by
  rw [mask, maskBits_eq short, pure_bind, Subnet.mask]

theorem broadcast_eq : broadcast s = pure s.broadcast := by
  rw [broadcast, maskBits_eq short, pure_bind, Subnet.broadcast]

theorem contains_eq (ip : IpAddress) : contains s ip = pure (decide (ip ∈ s)) := by
  rw [contains, maskBits_eq short, pure_bind]
  rfl

end Queries

end Checked

namespace Subnet

/-- **A subnet is an interval.** The members of the subnet of an address are the addresses from its
    network address to its broadcast address, and the given address is one of them. Their number is
    a power of two, the network address is a multiple of it, and its subnet is the same one. A
    machine computes all of this without a shift by a whole word or more. -/
theorem ofAddress_isInterval (ip : IpAddress) (prefixLength : Nat) :
    let s := ofAddress ip prefixLength
    let count := 2 ^ (32 - min prefixLength 32)
    (∀ other : IpAddress,
      other ∈ s ↔ s.network.toNat ≤ other.toNat ∧ other.toNat ≤ s.broadcast.toNat) ∧
    (s.network.toNat ≤ ip.toNat ∧ ip.toNat ≤ s.broadcast.toNat) ∧
    s.broadcast.toNat - s.network.toNat + 1 = count ∧
    count ∣ s.network.toNat ∧
    ofAddress s.network prefixLength = s ∧
    Checked.subnetOf ip prefixLength = pure s ∧
    Checked.mask s = pure s.mask ∧
    Checked.broadcast s = pure s.broadcast ∧
    ∀ other : IpAddress, Checked.contains s other = pure (decide (other ∈ s)) := by
  intro s count
  have short : s.prefixLength ≤ 32 := prefixLength_ofAddress_le ip prefixLength
  have interval := mem_ofAddress_iff ip prefixLength
  refine ⟨interval, ?given, ?number, ?multiple, ?same, Checked.subnetOf_eq ip prefixLength,
    Checked.mask_eq short, Checked.broadcast_eq short, Checked.contains_eq short⟩
  case given => exact (interval ip).1 (mem_ofAddress_self ip prefixLength)
  case number =>
    have last : s.broadcast.toNat = s.network.toNat + (count - 1) :=
      toNat_broadcast_ofAddress ip prefixLength
    have pos : 0 < count := size_pos (min prefixLength 32)
    omega
  case multiple => exact size_dvd_network_ofAddress ip prefixLength
  case same =>
    exact (ofAddress_eq_iff_mem ip prefixLength).2 (network_mem_ofAddress ip prefixLength)

end Subnet

end LocalPlay
