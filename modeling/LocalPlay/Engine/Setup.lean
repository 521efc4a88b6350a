import LocalPlay.Address.Subnet

set_option autoImplicit false

/-! # The setup of an engine

What an engine is told before it runs. Durations are whole milliseconds: settings tell them in
milliseconds or in seconds, so there are no finer ones. -/

namespace LocalPlay.Engine

/-- What an engine is told before it runs. -/
structure Setup where
  /-- The subnet that the engine makes up. -/
  subnet : Subnet
  /-- The address of that subnet which the engine itself has. -/
  gateway : IpAddress
  /-- How long a host counts as present after it was heard. -/
  arpTtl : Nat
  arpCapacity : Nat
  /-- How long to wait for the answer when a host is asked for. -/
  resolveTimeout : Nat
  /-- Where connections are relayed to; without it they are only reported. -/
  forwardTarget : Option Endpoint
  /-- How long to wait for the forward target to accept a connection. -/
  connectTimeout : Nat
  /-- How often stale state is dropped. -/
  sweepInterval : Nat
  /-- How many events wait for a listener that is slow. -/
  eventCapacity : Nat
  /-- The seed of the random words; without it they differ from run to run. -/
  seed : Option UInt64
  verifyChecksums : Bool
deriving DecidableEq, Repr

namespace Setup

/-- The address that stands for every host of the subnet. -/
def broadcast (s : Setup) : IpAddress := s.subnet.broadcast

/-- Whether an address stands for every host. -/
def IsBroadcast (s : Setup) (ip : IpAddress) : Prop := ip = s.broadcast ∨ ip = .limitedBroadcast

instance (s : Setup) (ip : IpAddress) : Decidable (s.IsBroadcast ip) :=
  inferInstanceAs (Decidable (_ ∨ _))

end Setup

end LocalPlay.Engine
