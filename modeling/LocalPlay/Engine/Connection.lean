import LocalPlay.Address.Mac
import LocalPlay.Tcp.Session

set_option autoImplicit false

/-! # Relayed connections

A connection that a console opened is relayed to the forward target: what the console says goes
into a queue, and the relay writes it to the target once it is connected. A session that ends
releases its relay, which then writes what is still queued and hangs up. -/

namespace LocalPlay.Engine

/-- How far a relay has come. -/
inductive RelayStage where
  /-- The target has not answered yet. -/
  | connecting
  | connected
  /-- The relay has hung up, failed or was broken off. -/
  | ended
deriving DecidableEq, Repr

/-- The way of one connection to the forward target. -/
structure Relay where
  stage : RelayStage := .connecting
  /-- What is still to be written, oldest first. -/
  queue : List Bytes := []
  /-- Whether nothing more will be queued. -/
  released : Bool := false
  /-- What has been written to the target. -/
  written : Bytes := []
deriving DecidableEq, Repr

namespace Relay

/-- Queues data for the target. A relay that was released or has ended takes none. -/
def enqueue (r : Relay) (data : Bytes) : Relay :=
  if r.released ∨ r.stage = .ended then r else { r with queue := r.queue ++ [data] }

/-- Nothing more will be queued. -/
def release (r : Relay) : Relay := { r with released := true }

/-- Breaks the relay off; what is queued is lost. -/
def cut (r : Relay) : Relay := { r with stage := .ended, queue := [], released := true }

/-- The target has accepted the connection. -/
def accept (r : Relay) : Relay :=
  if r.stage = .connecting then { r with stage := .connected } else r

/-- Writes the oldest queued data to the target. -/
def write (r : Relay) : Relay :=
  match r.stage, r.queue with
  | .connected, data :: rest => { r with queue := rest, written := r.written ++ data }
  | _, _ => r

/-- Hangs up when nothing is queued and nothing more will be. -/
def hangUp (r : Relay) : Relay :=
  if r.stage = .connected ∧ r.released ∧ r.queue = [] then { r with stage := .ended } else r

end Relay

/-- A connection that a console opened. -/
structure Connection where
  /-- Tells connections apart, also those with the same ends one after the other. -/
  id : Nat
  session : Tcp.Session
  /-- The station that opened it. -/
  clientMac : MacAddress
  /-- Its way to the forward target. -/
  relay : Relay := {}
deriving DecidableEq, Repr

namespace Connection

def flow (c : Connection) : Tcp.Flow := c.session.flow

end Connection

end LocalPlay.Engine
