import LocalPlay.Address.Ip

set_option autoImplicit false

/-! # The Internet checksum

The one's-complement sum of the 16-bit words of a message, complemented. IPv4 and ICMP sum their
own bytes; UDP and TCP sum a pseudo-header of the addresses first. The sum is kept in a register of
32 bits and its carries are folded back at the end, which is exact for up to 131072 bytes; longer
messages lose the carries out of the register.

A message that carries its own checksum sums to zero after complementing: that is how a receiver
checks it. -/

namespace LocalPlay.Internet

/-- Adds the 16-bit words of a message, most significant byte first, to a 32-bit register. A last
odd byte counts as the high byte of a word. -/
def sumWords (register : UInt32) : Bytes → UInt32
  | [] => register
  | [b] => register + UInt32.ofNat (256 * b.toNat)
  | a :: b :: rest => sumWords (register + UInt32.ofNat (256 * a.toNat + b.toNat)) rest

/-- Adds what exceeds 16 bits back in until nothing does. -/
def foldCarries (n : Nat) : Nat :=
  if n < 65536 then n else foldCarries (n % 65536 + n / 65536)

theorem foldCarries_lt (n : Nat) : foldCarries n < 65536 := by
  fun_induction foldCarries n with
  | case1 n h => exact h
  | case2 n h ih => exact ih

/-- The checksum of what has been added up. -/
def finish (register : UInt32) : UInt16 := UInt16.ofNat (65535 - foldCarries register.toNat)

def checksum (message : Bytes) : UInt16 := finish (sumWords 0 message)

/-- What UDP and TCP sum before the message: the addresses, the protocol and the length. -/
def pseudoHeader (src dst : IpAddress) (protocol : UInt8) (length : Nat) : Bytes :=
  src.toBytes ++ dst.toBytes ++ [0, protocol] ++ Bytes.ofNatBE 2 length

/-- The checksum of a UDP or TCP message between two hosts. -/
def pseudoChecksum (src dst : IpAddress) (protocol : UInt8) (message : Bytes) : UInt16 :=
  finish (sumWords (sumWords 0 (pseudoHeader src dst protocol message.length)) message)

end LocalPlay.Internet
