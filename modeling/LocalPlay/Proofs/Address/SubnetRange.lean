import LocalPlay.Address.Subnet
import Mathlib.Algebra.Group.Nat.Defs

set_option autoImplicit false

/-! # Subnets as ranges of numbers

The mask of a subnet cuts the addresses into blocks of a power of two. Masking an address gives the
first of its block (`toNat_and_maskBits`), and setting the other bits gives the last one
(`toNat_or_not_maskBits`). So the members of a subnet are the addresses from its network address to
its broadcast address (`mem_ofAddress_iff`), and each of them has that same subnet
(`ofAddress_eq_iff_mem`). -/

namespace LocalPlay.Subnet

/-- How many addresses a subnet has whose hosts share the leading `n` bits. -/
def size (n : Nat) : Nat := 2 ^ (32 - n)

theorem size_pos (n : Nat) : 0 < size n := Nat.two_pow_pos _

/-- The subnets that share as many bits make up all addresses. -/
theorem size_mul_two_pow {n : Nat} (short : n ≤ 32) : size n * 2 ^ n = 2 ^ 32 := by
  rw [size, ← Nat.pow_add, Nat.sub_add_cancel short]

/-! ## The mask -/

theorem toNat_maskBits {n : Nat} (short : n ≤ 32) : (maskBits n).toNat = 2 ^ 32 - size n := by
  have table : ∀ n : Fin 33, (maskBits n).toNat = 2 ^ 32 - size n := by decide
  exact table ⟨n, Nat.lt_succ_of_le short⟩

theorem toNat_not_maskBits {n : Nat} (short : n ≤ 32) : (~~~ maskBits n).toNat = size n - 1 := by
  have le : size n ≤ 2 ^ 32 := Nat.pow_le_pow_right Nat.two_pos (Nat.sub_le ..)
  rw [UInt32.toNat_not, toNat_maskBits short, UInt32.size]
  omega

/-- A mask is the number of the last block times the size of a block. -/
theorem toNat_maskBits_eq_mul {n : Nat} (short : n ≤ 32) :
    (maskBits n).toNat = size n * (2 ^ n - 1) := by
  rw [toNat_maskBits short, ← size_mul_two_pow short, Nat.mul_sub_one]

theorem maskBits_div_size {n : Nat} (short : n ≤ 32) : (maskBits n).toNat / size n = 2 ^ n - 1 := by
  rw [toNat_maskBits_eq_mul short, Nat.mul_div_cancel_left _ (size_pos n)]

theorem maskBits_mod_size {n : Nat} (short : n ≤ 32) : (maskBits n).toNat % size n = 0 := by
  rw [toNat_maskBits_eq_mul short, Nat.mul_mod_right]

/-- Masking gives the first address of the block. -/
theorem toNat_and_maskBits (x : UInt32) {n : Nat} (short : n ≤ 32) :
    (x &&& maskBits n).toNat = size n * (x.toNat / size n) := by
  have block : x.toNat / size n < 2 ^ n := by
    rw [Nat.div_lt_iff_lt_mul (size_pos n), Nat.mul_comm, size_mul_two_pow short]
    exact x.toNat_lt
  have quotient : (x.toNat &&& (maskBits n).toNat) / size n = x.toNat / size n := by
    rw [size, Nat.and_div_two_pow, ← size, maskBits_div_size short,
      Nat.and_two_pow_sub_one_of_lt_two_pow block]
  have rest : (x.toNat &&& (maskBits n).toNat) % size n = 0 := by
    rw [size, Nat.and_mod_two_pow, ← size, maskBits_mod_size short, Nat.and_zero]
  rw [UInt32.toNat_and, ← Nat.div_add_mod (x.toNat &&& (maskBits n).toNat) (size n), quotient, rest,
    Nat.add_zero]

/-- Setting the bits that the mask leaves out gives the last address of the block. -/
theorem toNat_or_not_maskBits {x : UInt32} {n block : Nat} (short : n ≤ 32)
    (first : x.toNat = size n * block) :
    (x ||| ~~~ maskBits n).toNat = size n * block + (size n - 1) := by
  have below : size n - 1 < 2 ^ (32 - n) := Nat.sub_one_lt_of_lt (size_pos n)
  rw [UInt32.toNat_or, toNat_not_maskBits short, first]
  exact (Nat.two_pow_add_eq_or_of_lt below block).symm

/-! ## The subnet of an address -/

section OfAddress

variable (ip : IpAddress) (prefixLength : Nat)

theorem toNat_network_ofAddress : (ofAddress ip prefixLength).network.toNat
    = size (min prefixLength 32) * (ip.toNat / size (min prefixLength 32)) :=
  toNat_and_maskBits ip.bits (Nat.min_le_right ..)

/-- The broadcast address is the last of as many addresses as the subnet has. -/
theorem toNat_broadcast_ofAddress : (ofAddress ip prefixLength).broadcast.toNat
    = (ofAddress ip prefixLength).network.toNat + (size (min prefixLength 32) - 1) := by
  rw [toNat_network_ofAddress]
  exact toNat_or_not_maskBits (Nat.min_le_right ..) (toNat_network_ofAddress ip prefixLength)

/-- The members of a subnet are the addresses of one block. -/
theorem mem_ofAddress_iff_div (other : IpAddress) : other ∈ ofAddress ip prefixLength ↔
    other.toNat / size (min prefixLength 32) = ip.toNat / size (min prefixLength 32) := by
  have first (x : UInt32) : (x &&& maskBits (min prefixLength 32)).toNat
      = size (min prefixLength 32) * (x.toNat / size (min prefixLength 32)) :=
    toNat_and_maskBits x (Nat.min_le_right ..)
  change other.bits &&& maskBits (min prefixLength 32)
    = ip.bits &&& maskBits (min prefixLength 32) ↔ _
  rw [← UInt32.toNat_inj, first, first]
  exact Nat.mul_right_inj (Nat.ne_of_gt (size_pos _))

/-- The members of a subnet are the addresses from its first to its last one. -/
theorem mem_ofAddress_iff (other : IpAddress) : other ∈ ofAddress ip prefixLength ↔
    (ofAddress ip prefixLength).network.toNat ≤ other.toNat ∧
      other.toNat ≤ (ofAddress ip prefixLength).broadcast.toNat := by
  have pos := size_pos (min prefixLength 32)
  rw [mem_ofAddress_iff_div, toNat_broadcast_ofAddress, toNat_network_ofAddress,
    Nat.div_eq_iff pos, Nat.mul_comm (ip.toNat / _), Nat.add_sub_assoc pos]

theorem prefixLength_ofAddress_le : (ofAddress ip prefixLength).prefixLength ≤ 32 :=
  Nat.min_le_right ..

/-- An address is in its own subnet. -/
theorem mem_ofAddress_self : ip ∈ ofAddress ip prefixLength := rfl

/-- The network address is the first of a block, so the blocks before it have its size. -/
theorem size_dvd_network_ofAddress :
    size (min prefixLength 32) ∣ (ofAddress ip prefixLength).network.toNat :=
  ⟨_, toNat_network_ofAddress ip prefixLength⟩

theorem network_mem_ofAddress :
    (ofAddress ip prefixLength).network ∈ ofAddress ip prefixLength := by
  rw [mem_ofAddress_iff, toNat_broadcast_ofAddress]
  exact ⟨Nat.le_refl _, Nat.le_add_right ..⟩

/-- Two addresses have the same subnet exactly if one is in the subnet of the other. -/
theorem ofAddress_eq_iff_mem {other : IpAddress} :
    ofAddress other prefixLength = ofAddress ip prefixLength ↔
      other ∈ ofAddress ip prefixLength := by
  constructor
  · intro same
    rw [← same]
    exact mem_ofAddress_self other prefixLength
  · intro member
    have shared : other.bits &&& maskBits (min prefixLength 32)
        = ip.bits &&& maskBits (min prefixLength 32) := member
    rw [ofAddress, shared, ofAddress]

end OfAddress

end LocalPlay.Subnet
