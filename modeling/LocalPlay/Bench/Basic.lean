import LocalPlay.Bench.Crossing
import LocalPlay.Bench.Target
import LocalPlay.Engine.Lifecycle
import LocalPlay.Engine.Receive
import LocalPlay.Random.ChaCha

set_option autoImplicit false

/-! # An engine on a bench

An engine with everything that surrounds it: a link, a forward target, a bridge to a room, and a
listener to its reports. One thing happens at a time, and after each the surroundings act until
nothing more happens (`Bench.settle`): frames on the link are fetched, relays move on, and the bridge
works off what it has. Each touch of the engine takes a little time, so no two of them happen at the
same instant. -/

namespace LocalPlay

/-- An engine with its surroundings. -/
structure Bench where
  engine : Engine
  /-- The time of the next touch. -/
  clock : Instant
  /-- Frames on the link that the engine has not fetched, oldest first. -/
  inbound : List Bytes := []
  /-- Whether the link is still there. -/
  linkUp : Bool := true
  ear : Engine.Subscription
  /-- How the forward target meets connections. -/
  welcome : Bench.Welcome := .refuses
  /-- The far ends of the connections that the forward target has accepted, oldest first. -/
  peers : List Bench.Peer := []
  /-- The bridge, once it has been started. -/
  crossing : Option Bench.Crossing := none

namespace Bench

/-- How long a touch of the engine takes: a microsecond. -/
def touchTime : Nat := 1000

/-- When the clock of a bench starts: late enough that entries can be older. -/
def startTime : Instant := 1000000 * nanosPerSecond

/-- The largest part of a frame that is fetched from the link. -/
def fetchSize : Nat := 65536

/-- A bench with an engine to which nothing has happened yet, and with random words of a seed. -/
def new (setup : Engine.Setup) (localMac : MacAddress) (seed : UInt64) (welcome : Welcome) :
    Bench where
  engine := .new setup localMac (Random.word seed)
  clock := startTime
  ear := .ofCapacity setup.eventCapacity
  welcome := welcome

/-- Hands what the engine has reported to those who listen. -/
def publish (b : Bench) : Bench :=
  let events := b.engine.reported
  { b with
    engine := { b.engine with reported := [] }
    ear := b.ear.publish events
    crossing := b.crossing.map fun c => { c with ear := c.ear.publish events } }

def touch (b : Bench) (f : Instant → Engine → Engine) : Bench :=
  let b' := { b with engine := f b.clock b.engine, clock := b.clock + touchTime }
  b'.publish

/-- Hands frames to the engine, one after the other. -/
def handle (b : Bench) (frames : List Bytes) : Bench :=
  frames.foldl (fun b frame => b.touch fun now e => e.handleFrame now frame) b

/-! ## The forward target -/

/-- Changes the far end of a number. -/
def changePeer (b : Bench) (n : Nat) (change : Peer → Peer) : Bench :=
  { b with peers := b.peers.modify n change }

/-- The far end of a connection of the engine. -/
def peerOf? (b : Bench) (id : Nat) : Option Peer := b.peers.find? fun p => p.id = id

/-- What the forward target does on a connection of the engine. -/
def hearTarget (b : Bench) (id : Nat) (event : Engine.TargetEvent) : Bench :=
  b.touch fun now e => e.hearTarget now id event

/-- The relay of a connection writes what it has queued, unless the far end has broken off: then it
fails on the first write. -/
def writeQueued (b : Bench) (c : Engine.Connection) : Bench :=
  if c.relay.queue = [] then b
  else if ((b.peerOf? c.id).map Peer.broken).getD false then b.hearTarget c.id .failed
  else
    let engine := c.relay.queue.foldl (fun e _ => e.writeToTarget c.id) b.engine
    { b with engine := engine }

/-- The relay of a connection does what it can, once it is connected. -/
def moveConnected (b : Bench) (c : Engine.Connection) : Bench :=
  let b' := b.writeQueued c
  { b' with engine := b'.engine.hangUpOnTarget c.id }

/-- The forward target accepts a connection. -/
def accept (b : Bench) (id : Nat) : Bench :=
  { b with engine := b.engine.targetAccepted id, peers := b.peers ++ [{ id := id }] }

/-- The relay of a connection does what it can. -/
def moveRelay (b : Bench) (id : Nat) : Bench :=
  match b.engine.connection? id with
  | none => b
  | some c =>
    match c.relay.stage, b.welcome with
    | .ended, _ => b
    | .connecting, .refuses => b.hearTarget id .failed
    | .connecting, .accepts => (b.accept id).moveConnected c
    | .connected, _ => b.moveConnected c

/-- Every relay does what it can, in the order in which the connections were opened; then the far
ends see what has come of it. -/
def moveRelays (b : Bench) : Bench :=
  let ids := (b.engine.connections ++ b.engine.draining).map Engine.Connection.id
  let b' := (ids.mergeSort).foldl moveRelay b
  { b' with
    peers := b'.peers.map fun p =>
      p.follow ((b'.engine.connection? p.id).map Engine.Connection.relay) }

/-! ## The link and the bridge -/

/-- The engine fetches what is on the link, if it has been started. -/
def fetch (b : Bench) : Bench :=
  if b.engine.running then
    let b' := { b with inbound := [] }
    b'.handle (b.inbound.map (List.take fetchSize))
  else b

/-- The bridge works off the reports that it has not looked at. -/
def listen (b : Bench) : Bench := { b with crossing := b.crossing.map Crossing.listen }

/-- Everything in the surroundings acts until nothing more happens. -/
def settle (b : Bench) : Bench := b.fetch.moveRelays.listen

end Bench

end LocalPlay
