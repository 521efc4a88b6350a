import LocalPlay.Engine.Basic

set_option autoImplicit false

/-! # The other side of a relayed connection

What the forward target does becomes messages to the console. Data is passed on while the session is
open and lost otherwise; an end of data ends our data; a failure breaks the session off. A relay
that has ended is not heard any more. -/

namespace LocalPlay.Engine

/-- Something that the forward target did. -/
inductive TargetEvent where
  | data (bytes : Bytes)
  /-- It has no more data. -/
  | ended
  | failed
deriving DecidableEq, Repr

/-- What an event does to a session, and what there is to say to the console. -/
def TargetEvent.apply (s : Tcp.Session) : TargetEvent → Tcp.Session × Option Tcp.Message
  | .data bytes =>
    match s.send bytes with
    | .ok (s', m) => (s', some m)
    | .error _ => (s, none)
  | .ended => s.closeFromTarget
  | .failed => s.abort

/-- What an event does to a relay: a failure ends it. -/
def TargetEvent.relay (r : Relay) : TargetEvent → Relay
  | .failed => r.cut
  | _ => r

/-- An event of the forward target, on the connection of the given number. -/
def hearTarget (e : Engine) (now : Instant) (id : Nat) (event : TargetEvent) : Engine :=
  match e.connection? id with
  | none => e
  | some c =>
    if c.relay.stage = .ended then e
    else
      let (session, reply) := event.apply c.session
      (e.sayIfAny now c reply).settle
        { c with session := session, relay := event.relay c.relay }

/-- Changes the relay of the connection of the given number. -/
def changeRelay (e : Engine) (id : Nat) (change : Relay → Relay) : Engine :=
  match e.connection? id with
  | none => e
  | some c => e.update { c with relay := change c.relay }

def targetAccepted (e : Engine) (id : Nat) : Engine := e.changeRelay id Relay.accept

/-- The relay of a connection writes what it has queued longest. -/
def writeToTarget (e : Engine) (id : Nat) : Engine := e.changeRelay id Relay.write

/-- The relay of a connection hangs up if it has nothing more to do. -/
def hangUpOnTarget (e : Engine) (id : Nat) : Engine := e.changeRelay id Relay.hangUp

end LocalPlay.Engine
