import LocalPlay.Engine.Send
import LocalPlay.Room.Bridge

set_option autoImplicit false

/-! # A bridge at work

A bridge between an engine and a room that is driven by hand. It listens to the engine's reports from
the moment it starts and ends when it is told to, when no more messages can come from the room,
or when it cannot hand a message to the room. -/

namespace LocalPlay.Bench

/-- Whether a bridge is at work. -/
inductive CrossingStatus where
  | running
  | ended
  | failed (why : Failure)
deriving DecidableEq, Repr

/-- A bridge between an engine and a room. -/
structure Crossing where
  bridge : Room.Bridge
  /-- The reports of the engine that it has not looked at. -/
  ear : Engine.Subscription
  status : CrossingStatus := .running
  /-- Whether messages can still come from the room. -/
  inboundOpen : Bool := true
  /-- Whether it can still be told to end. -/
  controlOpen : Bool := true
  /-- Whether the room still takes messages. -/
  roomOpen : Bool := true
  /-- The messages that it has handed to the room and nobody has looked at, oldest first. -/
  handed : List Room.Message := []

namespace Crossing

/-- The message that the report of an event becomes, if the event is about local play. -/
def toRoom? (c : Crossing) : Engine.Event → Option Room.Message
  | .udp _ parcel => c.bridge.toRoom? parcel
  | .tcp _ _ => none

/-- Ends the bridge, if it is at work. -/
def finish (c : Crossing) : Crossing :=
  if c.status = .running then { c with status := .ended } else c

def hand (c : Crossing) (m : Room.Message) : Crossing :=
  if c.status ≠ .running then c
  else if c.roomOpen then { c with handed := c.handed ++ [m] }
  else { c with status := .failed .shutDown }

def listen (c : Crossing) : Crossing :=
  (c.ear.waiting.filterMap c.toRoom?).foldl hand { c with ear := c.ear.clear }

/-- Brings a message of the room to the console. Whether that succeeds is of no concern. -/
def bring (c : Crossing) (e : Engine) (now later : Instant) (m : Room.Message) : Engine :=
  match c.bridge.toConsole? m with
  | none => e
  | some (dst, payload) =>
    let parcel : Udp.Parcel :=
      ⟨⟨c.bridge.gateway, c.bridge.port⟩, ⟨dst, c.bridge.port⟩, payload⟩
    (e.sendDatagram now later parcel id).1

end Crossing

end LocalPlay.Bench
