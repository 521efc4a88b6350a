import LocalPlay.Address.Ip

set_option autoImplicit false

/-! # Subnets

A subnet is an address whose host bits are clear, together with the number of leading bits that
its hosts share. All its arithmetic goes through one bit mask, `Subnet.maskBits`. -/

namespace LocalPlay

structure Subnet where
  /-- The lowest address: its host bits are clear. -/
  network : IpAddress
  /-- How many leading bits all hosts share, at most 32. -/
  prefixLength : Nat
deriving DecidableEq, Repr

namespace Subnet

/-- The number with the leading `n` of 32 bits set. -/
def maskBits (n : Nat) : UInt32 :=
  if n = 0 then 0 else 0xFFFFFFFF <<< UInt32.ofNat (32 - n)

/-- The subnet that holds `ip`: host bits are cleared, and lengths above 32 count as 32. -/
def ofAddress (ip : IpAddress) (prefixLength : Nat) : Subnet where
  network := ⟨ip.bits &&& maskBits (min prefixLength 32)⟩
  prefixLength := min prefixLength 32

/-- The mask that keeps the shared bits. -/
def mask (s : Subnet) : IpAddress := ⟨maskBits s.prefixLength⟩

/-- The highest address, which stands for every host of the subnet. -/
def broadcast (s : Subnet) : IpAddress := ⟨s.network.bits ||| ~~~ maskBits s.prefixLength⟩

/-- An address is a member when it has the shared bits. -/
instance : Membership IpAddress Subnet where
  mem s ip := ip.bits &&& maskBits s.prefixLength = s.network.bits

instance (ip : IpAddress) (s : Subnet) : Decidable (ip ∈ s) :=
  inferInstanceAs (Decidable (ip.bits &&& maskBits s.prefixLength = s.network.bits))

instance : ToString Subnet where
  toString s := toString s.network ++ "/" ++ Text.decimal s.prefixLength

end Subnet

end LocalPlay
