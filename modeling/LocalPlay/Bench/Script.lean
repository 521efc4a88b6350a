import LocalPlay.Bench.Basic

set_option autoImplicit false

/-! # Scripts

What can be done to an engine on a bench, step by step, and what is seen of it after each step. -/

namespace LocalPlay.Bench

/-- Something done to an engine or to its surroundings. -/
inductive Step where
  | frames (data : List Bytes)
  /-- A datagram is sent, and frames come in while it waits or right after it. -/
  | sendUdp (parcel : Udp.Parcel) (during : List Bytes)
  /-- A host was heard so many seconds ago. -/
  | arpSet (mac : MacAddress) (ip : IpAddress) (age : Nat)
  | arpRemove (ip : IpAddress)
  | start
  | stop
  | running
  | inject (data : Bytes)
  /-- It is time for a sweep. -/
  | tick
  /-- The link goes away: it takes no more frames. -/
  | dropLink
  | upSend (conn : Nat) (data : Bytes)
  | upEof (conn : Nat)
  /-- A far end breaks the connection off. -/
  | upReset (conn : Nat)
  | upReceived (conn : Nat)
  /-- How many connections has the forward target accepted? -/
  | upCount
  | bridgeStart (port : UInt16)
  | roomIn (message : Room.Message)
  /-- No more messages can come from the room. -/
  | roomInClose
  | roomDrop
  | shutdown (value : Bool)
  /-- Whoever could tell the bridge to end goes away. -/
  | shutdownDrop

inductive Answer where
  | none
  | done
  | failed (why : Failure)
  | flag (value : Bool)
  | number (n : Nat)
  /-- A datagram was sent in as many frames. -/
  | sent (frames : Nat)
  | forgotten (mac : MacAddress)
  /-- What has arrived at a far end, and whether more can. -/
  | received (data : Bytes) (more : Bool)

/-- What is seen after a step. -/
structure Report where
  answer : Answer
  sent : List Link.Frame
  lost : Nat
  events : List Engine.Event
  sessions : Nat
  hosts : Nat
  /-- The counters that have changed, with the increase. -/
  changes : List (Engine.Counter × UInt64)
  /-- Once a bridge has been started: the messages for the room, and whether it is at work. -/
  bridge : Option (List Room.Message × CrossingStatus)

/-! ## Steps -/

/-- Sends a datagram; frames come in while it waits, or right after it. -/
def sendUdp (b : Bench) (parcel : Udp.Parcel) (during : List Bytes) : Bench × Answer :=
  let (engine, sending) := b.engine.beginSend b.clock parcel
  let begun := { b with engine := engine, clock := b.clock + touchTime }
  let b' := begun.publish.handle during
  match sending with
  | .sent frames => (b', .sent frames)
  | .failed why => (b', .failed why)
  | .asked packet =>
    let (engine', result) := b'.engine.finishSend b'.clock parcel.dst.ip packet
    let b'' := { b' with engine := engine', clock := b'.clock + touchTime }
    match result with
    | .ok frames => (b''.publish, .sent frames)
    | .error why => (b''.publish, .failed why)

/-- The far end of a number, if it can still do something. -/
def peer? (b : Bench) (conn : Nat) : Option Peer :=
  (b.peers[conn]?).filter fun p => !p.broken

/-- A far end sends data, unless it has ended its data. -/
def peerSend (b : Bench) (p : Peer) (data : Bytes) : Bench :=
  if p.finished then b
  else (pieces data).foldl (fun b piece => b.hearTarget p.id (.data piece)) b

/-- A far end ends its data, unless it has done so before. -/
def peerFinish (b : Bench) (conn : Nat) (p : Peer) : Bench :=
  if p.finished then b
  else (b.changePeer conn fun p => { p with finished := true }).hearTarget p.id .ended

/-- A far end breaks the connection off. A relay that reads notices at once. -/
def peerBreak (b : Bench) (conn : Nat) (p : Peer) : Bench :=
  let b' := b.changePeer conn fun p => { p with broken := true }
  if p.finished then b' else b'.hearTarget p.id .failed

def changeCrossing (b : Bench) (change : Crossing → Crossing) : Bench :=
  { b with crossing := b.crossing.map change }

def messageIn (b : Bench) (message : Room.Message) : Bench × Answer :=
  match b.crossing with
  | none => (b, .none)
  | some c =>
    if !c.inboundOpen then (b, .none)
    else if c.status ≠ .running then (b, .flag false)
    else
      (b.touch fun now e => c.bring e now (now + touchTime) message,
        .flag true)

def tellShutdown (b : Bench) (value : Bool) : Bench × Answer :=
  match b.crossing with
  | none => (b, .none)
  | some c =>
    if !c.controlOpen then (b, .none)
    else if c.status ≠ .running then (b, .flag false)
    else (if value then b.changeCrossing Crossing.finish else b, .flag true)

/-- A bridge is started, for the addresses of the engine's setup. -/
def startCrossing (b : Bench) (port : UInt16) : Bench :=
  let setup := b.engine.setup
  { b with crossing := some {
      bridge := ⟨setup.gateway, setup.broadcast, port⟩
      ear := .ofCapacity setup.eventCapacity } }

/-- What a step does, before the surroundings act. -/
def perform (b : Bench) : Step → Bench × Answer
  | .frames data => (b.handle data, .none)
  | .sendUdp parcel during => b.sendUdp parcel during
  | .arpSet mac ip age =>
    (b.touch fun now e =>
      { e with arp := e.arp.insert (now - (age * nanosPerSecond : Nat)) mac ip }, .none)
  | .arpRemove ip =>
    let answer := match b.engine.arp.held? ip with
      | some entry => .forgotten entry.mac
      | none => .none
    (b.touch fun _ e => { e with arp := e.arp.remove ip }, answer)
  | .start =>
    match b.engine.start with
    | .ok engine => ({ b with engine := engine }, .done)
    | .error why => (b, .failed why)
  | .stop => ({ b with engine := b.engine.stop }, .none)
  | .running => (b, .flag b.engine.running)
  | .inject data =>
    if b.linkUp then ({ b with inbound := b.inbound ++ [data] }, .done) else (b, .none)
  | .tick => (if b.engine.running then b.touch fun now e => e.sweep now else b, .none)
  | .dropLink => ({ b with engine := b.engine.changeLink fun _ => false, linkUp := false }, .none)
  | .upSend conn data =>
    match b.peer? conn with
    | none => (b, .none)
    | some p => (b.peerSend p data, .none)
  | .upEof conn =>
    match b.peer? conn with
    | none => (b, .none)
    | some p => (b.peerFinish conn p, .none)
  | .upReset conn =>
    match b.peer? conn with
    | none => (b, .none)
    | some p => (b.peerBreak conn p, .none)
  | .upReceived conn =>
    match b.peer? conn with
    | none => (b, .none)
    | some p => (b.changePeer conn Peer.taken, .received p.arrived (!p.hungUp))
  | .upCount => (b, .number b.peers.length)
  | .bridgeStart port => (b.startCrossing port, .none)
  | .roomIn message => b.messageIn message
  | .roomInClose =>
    (b.changeCrossing fun c => { c.finish with inboundOpen := false }, .none)
  | .roomDrop => (b.changeCrossing fun c => { c with roomOpen := false }, .none)
  | .shutdown value => b.tellShutdown value
  | .shutdownDrop =>
    (b.changeCrossing fun c => { c.finish with controlOpen := false }, .none)

def changes (before after : Engine.Counters) : List (Engine.Counter × UInt64) :=
  (Engine.Counter.all.map fun k => (k, after.get k - before.get k)).filter fun c => c.2 ≠ 0

/-- What is seen of a bench. -/
def reportOn (b : Bench) (answer : Answer) (before : Engine.Counters) : Report where
  answer := answer
  sent := b.engine.sent
  lost := b.ear.lost
  events := b.ear.waiting
  sessions := b.engine.connections.length
  hosts := b.engine.arp.size
  changes := changes before b.engine.counters
  bridge := b.crossing.map fun c => (c.handed, c.status)

/-- The bench after everything that was to be seen has been seen. -/
def clearSeen (b : Bench) : Bench :=
  { b with
    engine := { b.engine with sent := [] }
    ear := b.ear.clear
    crossing := b.crossing.map fun c => { c with handed := [] } }

/-- A step, what the surroundings make of it, and what is seen. -/
def step (b : Bench) (s : Step) : Bench × Report :=
  let (b', answer) := b.perform s
  let b'' := b'.settle
  (b''.clearSeen, b''.reportOn answer b.engine.counters)

/-- A row of steps. There is no outcome if the clock could not show when some host stops
counting. -/
def run (b : Bench) : List Step → Option (Bench × List Report)
  | [] => some (b, [])
  | s :: rest =>
    let (b', report) := b.step s
    if b'.engine.arp.Representable then
      (b'.run rest).map fun (b'', reports) => (b'', report :: reports)
    else none

end LocalPlay.Bench
