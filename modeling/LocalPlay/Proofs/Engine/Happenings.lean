import LocalPlay.Engine.ForwardTarget
import LocalPlay.Engine.Lifecycle
import LocalPlay.Engine.Receive
import LocalPlay.Engine.Send
import LocalPlay.Proofs.Arp.Runs

set_option autoImplicit false

/-! # What can happen to an engine

An engine is driven from many sides: frames come in, datagrams are sent, the forward target and the
relays move on, timers run out, the link goes away and comes back, and the engine is started and
stopped. Each of these is one step, and they come in any order. A relay can be late: its connection
was taken out of the table, or its place was taken, and still an event reaches what the relay holds
of it. -/

namespace LocalPlay

namespace Engine

/-- A step that a relay takes on its own. -/
inductive RelayMove where
  | accept
  | write
  | hangUp
deriving DecidableEq, Repr

def RelayMove.apply : RelayMove → Relay → Relay
  | accept => Relay.accept
  | write => Relay.write
  | hangUp => Relay.hangUp

/-- Something that happens to an engine. -/
inductive Happening where
  | frame (now : Instant) (data : Bytes)
  | target (now : Instant) (id : Nat) (event : TargetEvent)
  /-- An event of the forward target, for a connection that is not in the table any more, as its
      relay knows it. -/
  | late (now : Instant) (c : Connection) (event : TargetEvent)
  | relay (id : Nat) (move : RelayMove)
  | beginSend (now : Instant) (parcel : Udp.Parcel)
  | finishSend (now : Instant) (dst : IpAddress) (packet : Bytes)
  | arp (change : Arp.Change)
  | sweep (now : Instant)
  | start
  | stop
  /-- From now on the link answers frames in another way. -/
  | link (takes : Link.Frame → Bool)

/-- An event of the forward target meets a connection, whether the engine still keeps it or not. -/
def meet (e : Engine) (now : Instant) (c : Connection) (event : TargetEvent) : Engine :=
  (e.sayIfAny now c (event.apply c.session).2).settle
    { c with session := (event.apply c.session).1, relay := event.relay c.relay }

/-- What a happening does. An engine that runs already is not started again. -/
def happen (e : Engine) : Happening → Engine
  | .frame now data => e.handleFrame now data
  | .target now id event => e.hearTarget now id event
  | .late now c event => e.meet now c event
  | .relay id move => e.changeRelay id move.apply
  | .beginSend now parcel => (e.beginSend now parcel).1
  | .finishSend now dst packet => (e.finishSend now dst packet).1
  | .arp change => { e with arp := e.arp.change change }
  | .sweep now => e.sweep now
  | .start => e.start.toOption.getD e
  | .stop => e.stop
  | .link takes => e.changeLink takes

/-- Whether the connection of a number is in the table. -/
def IsOpen (e : Engine) (id : Nat) : Prop := ∃ c ∈ e.connections, c.id = id

instance (e : Engine) (id : Nat) : Decidable (e.IsOpen id) :=
  inferInstanceAs (Decidable (∃ c ∈ e.connections, c.id = id))

namespace Happening

/-- The number of the connection whose relay takes the step. -/
def relayOf? : Happening → Option Nat
  | target _ id _ | relay id _ => some id
  | late _ c _ => some c.id
  | _ => none

/-- Whether a happening is possible: only a relay whose connection is not in the table any more is
    late. -/
def CanHappen (e : Engine) : Happening → Prop
  | late _ c _ => ¬ e.IsOpen c.id
  | _ => True

end Happening

/-- One engine can become another, happening after happening. -/
inductive Leads (e : Engine) : Engine → Prop where
  | refl : Leads e e
  | step {e' : Engine} (before : Leads e e') (happening : Happening)
      (possible : happening.CanHappen e') : Leads e (e'.happen happening)

/-- The engine after frames came in one after the other, each at its time. -/
def handleFrames (e : Engine) (frames : List (Instant × Bytes)) : Engine :=
  frames.foldl (fun e frame => e.handleFrame frame.1 frame.2) e

theorem handleFrames_concat (e : Engine) (frames : List (Instant × Bytes))
    (frame : Instant × Bytes) :
    e.handleFrames (frames ++ [frame]) = (e.handleFrames frames).handleFrame frame.1 frame.2 := by
  rw [handleFrames, List.foldl_append]
  rfl

theorem leads_handleFrames (e : Engine) (frames : List (Instant × Bytes)) :
    e.Leads (e.handleFrames frames) := by
  induction frames using List.reverseRecOn with
  | nil => exact .refl
  | append_singleton frames frame ih =>
    rw [handleFrames_concat]
    exact .step ih (.frame frame.1 frame.2) trivial

theorem hearTarget_of_connection? {e : Engine} {id : Nat} {c : Connection} (now : Instant)
    (event : TargetEvent) (known : e.connection? id = some c) :
    e.hearTarget now id event = if c.relay.stage = .ended then e else e.meet now c event := by
  rw [hearTarget, known]
  rfl

end Engine

end LocalPlay
