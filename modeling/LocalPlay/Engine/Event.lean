import LocalPlay.Address.Mac
import LocalPlay.Tcp.Session
import LocalPlay.Udp.Datagram

set_option autoImplicit false

/-! # Events

What an engine reports of the traffic on the link, and the queues in which reports wait for
listeners. A queue has a limited number of places, a power of two; when it is full the oldest report
is lost, and the listener is told how many were. -/

namespace LocalPlay.Engine

/-- Something that was seen on the link. -/
inductive Event where
  /-- A datagram from the station with the given hardware address. -/
  | udp (srcMac : MacAddress) (parcel : Udp.Parcel)
  | tcp (flow : Tcp.Flow) (message : Tcp.Message)
deriving DecidableEq, Repr

/-- Reports that wait for a listener. -/
structure Subscription where
  capacity : Nat
  /-- How many reports were lost since the listener last looked. -/
  lost : Nat := 0
  /-- The reports that wait, oldest first. -/
  waiting : List Event := []

namespace Subscription

/-- A queue with room for at least `n` reports, and at least one. -/
def ofCapacity (n : Nat) : Subscription := { capacity := (max n 1).nextPowerOfTwo }

/-- Adds reports; the oldest are lost when there is no room. -/
def publish (s : Subscription) (events : List Event) : Subscription :=
  let queue := s.waiting ++ events
  let excess := queue.length - s.capacity
  { s with lost := s.lost + excess, waiting := queue.drop excess }

/-- The queue after the listener has taken every report. -/
def clear (s : Subscription) : Subscription := { s with lost := 0, waiting := [] }

end Subscription

end LocalPlay.Engine
