import LocalPlay.Engine.ForwardTarget

set_option autoImplicit false

/-! # A forward target under control

The far end of relayed connections, on a bench: it accepts every connection or refuses every one,
and each accepted connection (a `Peer`) is driven by hand. -/

namespace LocalPlay.Bench

/-- How a forward target meets connections. -/
inductive Welcome where
  | accepts
  | refuses
deriving DecidableEq, Repr

/-- The far end of an accepted connection. -/
structure Peer where
  id : Nat
  arrived : Bytes := []
  /-- How much has arrived in all. -/
  arrivedCount : Nat := 0
  /-- Whether no more can arrive. -/
  hungUp : Bool := false
  /-- Whether the peer has ended its data. -/
  finished : Bool := false
  /-- Whether the peer has broken the connection off. -/
  broken : Bool := false
deriving Repr

/-- The size of the pieces in which a relay reads. -/
def readSize : Nat := 4096

/-- The pieces in which a relay reads data. -/
def pieces (data : Bytes) : List Bytes :=
  match data with
  | [] => []
  | b :: rest => (b :: rest).take readSize :: pieces ((b :: rest).drop readSize)
termination_by data.length
decreasing_by
  rw [List.length_drop, List.length_cons, readSize]
  omega

namespace Peer

/-- The peer after it has caught up with the relay of its connection. -/
def follow (p : Peer) (relay : Option Engine.Relay) : Peer :=
  match relay with
  | none => { p with hungUp := true }
  | some r =>
    { p with
      arrived := p.arrived ++ r.written.drop p.arrivedCount
      arrivedCount := r.written.length
      hungUp := r.stage == .ended }

/-- The peer after it has been looked at. -/
def taken (p : Peer) : Peer := { p with arrived := [] }

end Peer

end LocalPlay.Bench
