import LocalPlay.Arp.Proxy
import LocalPlay.Engine.Connection
import LocalPlay.Engine.Counters
import LocalPlay.Engine.Event
import LocalPlay.Engine.Setup
import LocalPlay.Internet.Packet
import LocalPlay.Tcp.Segment

set_option autoImplicit false

/-! # Engines

An engine pretends to be the gateway and every absent host of its subnet, towards the consoles on a
link. It is a value: whatever happens to it, a frame that comes in or a relay that moves on, is a
function from the engine before to the engine after. Frames that it puts on the link and events
that it reports are appended to `sent` and `reported`, from where its surroundings take them.

This file has the state, and the ways in which a packet gets onto the link. -/

namespace LocalPlay

structure Engine where
  setup : Engine.Setup
  localMac : MacAddress
  /-- The source of random words: what it gives to each draw, counted from zero. -/
  words : Nat → UInt32
  /-- How many words have been drawn. -/
  drawn : Nat
  /-- The number of the next packet that it makes. -/
  nextIdentification : UInt16
  /-- The hosts that it has heard. -/
  arp : Arp.Cache
  /-- The connections that are open, one for each pair of ends. -/
  connections : List Engine.Connection := []
  /-- Connections that are over but whose relays may have something left to write. -/
  draining : List Engine.Connection := []
  /-- How many connections have been opened. -/
  opened : Nat := 0
  counters : Engine.Counters := .zero
  running : Bool := false
  /-- The frames that the link takes as it is now. It answers each frame on its own. -/
  takes : Link.Frame → Bool := fun _ => true
  /-- The frames that it has put on the link, oldest first. -/
  sent : List Link.Frame := []
  /-- The events that it has reported, oldest first. -/
  reported : List Engine.Event := []

namespace Engine

/-- An engine to which nothing has happened yet. The first random word numbers its packets. -/
def new (setup : Setup) (localMac : MacAddress) (words : Nat → UInt32) : Engine where
  setup := setup
  localMac := localMac
  words := words
  drawn := 1
  nextIdentification := (words 0).toUInt16
  arp := .empty (setup.arpTtl * nanosPerMilli) setup.arpCapacity

def countMany (e : Engine) (k : Counter) (n : UInt64) : Engine :=
  { e with counters := e.counters.add k n }

def count (e : Engine) (k : Counter) : Engine := e.countMany k 1

def report (e : Engine) (event : Event) : Engine := { e with reported := e.reported ++ [event] }

/-- The hosts of the subnet that were heard, without the gateway. -/
def knownHosts (e : Engine) (now : Instant) : List (IpAddress × MacAddress) :=
  (e.arp.bindings now).filter fun (ip, _) => ip ∈ e.setup.subnet ∧ ip ≠ e.setup.gateway

/-! ## Putting frames on the link -/

/-- Offers a frame to the link. The second part tells whether the link took it. -/
def transmit (e : Engine) (frame : Link.Frame) : Engine × Bool :=
  if e.takes frame then
    let size := Link.Frame.headerSize + frame.payload.length
    ({ e with sent := e.sent ++ [frame], counters := e.counters.addSent size }, true)
  else (e.count .txErrors, false)

/-- A packet from `src` to `dst`, with the next number. -/
def makePacket (e : Engine) (src dst : IpAddress) (protocol : Internet.Protocol)
    (message : Bytes) : Engine × Bytes :=
  let draft : Internet.Draft := {
    identification := e.nextIdentification
    protocol := protocol.code
    src := src
    dst := dst
    payload := message }
  ({ e with nextIdentification := e.nextIdentification + 1 }, draft.toBytes)

/-- Our frame with a packet for a station. -/
def packetFrame (e : Engine) (dst : MacAddress) (packet : Bytes) : Link.Frame where
  dst := dst
  src := e.localMac
  etherType := Link.EtherType.ipv4.code
  payload := packet

def transmitPacket (e : Engine) (dst : MacAddress) (packet : Bytes) : Engine × Bool :=
  e.transmit (e.packetFrame dst packet)

/-- The stations that get a copy of a packet for every host: each station that was heard, once, in
the order of hardware addresses, without ourselves and without the station that is left out. -/
def audience (e : Engine) (now : Instant) (leftOut : Option MacAddress) : List MacAddress :=
  let heard := ((e.arp.bindings now).map Prod.snd).mergeSort fun a b => a.toNat ≤ b.toNat
  (heard.eraseDups).filter fun mac => some mac ≠ leftOut ∧ mac ≠ e.localMac

/-- Puts a copy of a packet on the link for each of the stations, and counts the copies that the
link took. -/
def transmitCopies (e : Engine) (packet : Bytes) : List MacAddress → Engine × Nat
  | [] => (e, 0)
  | mac :: macs =>
    let (e', taken) := e.transmitPacket mac packet
    let (e'', copies) := e'.transmitCopies packet macs
    (e'', (if taken then 1 else 0) + copies)

/-- Sends a packet to every host that was heard. -/
def fanOut (e : Engine) (now : Instant) (packet : Bytes) (leftOut : Option MacAddress) :
    Engine × Nat :=
  let (e', copies) := e.transmitCopies packet (e.audience now leftOut)
  (e'.countMany .broadcastFanout (UInt64.ofNat copies), copies)

/-- Says something to the console of a connection. If the console's station is not known any more,
the one that opened the connection gets it. -/
def say (e : Engine) (now : Instant) (c : Connection) (m : Tcp.Message) : Engine :=
  let client := c.flow.client
  let server := c.flow.server
  let segment : Tcp.Draft := {
    srcPort := server.port
    dstPort := client.port
    seq := m.seq
    ack := m.ack
    flags := m.flags
    payload := m.payload }
  let (e', packet) := e.makePacket server.ip client.ip .tcp (segment.toBytes server.ip client.ip)
  (e'.transmitPacket ((e'.arp.lookup now client.ip).getD c.clientMac) packet).1

/-- Says something to the console of a connection, if there is something to be said. -/
def sayIfAny (e : Engine) (now : Instant) (c : Connection) : Option Tcp.Message → Engine
  | none => e
  | some m => e.say now c m

/-! ## The table of connections -/

/-- The open connection with the given ends. -/
def connectionOf? (e : Engine) (flow : Tcp.Flow) : Option Connection :=
  e.connections.find? fun c => c.flow = flow

/-- The connection of a number, open or draining. -/
def connection? (e : Engine) (id : Nat) : Option Connection :=
  (e.connections ++ e.draining).find? fun c => c.id = id

/-- A list of connections in which `c` takes the place of the one with its number. -/
def substitute (c : Connection) (cs : List Connection) : List Connection :=
  cs.map fun c' => if c'.id = c.id then c else c'

/-- Notes what has become of a connection. -/
def update (e : Engine) (c : Connection) : Engine :=
  { e with connections := substitute c e.connections, draining := substitute c e.draining }

/-- Takes a connection out of the table, if it is there. Its relay may go on until everything is
written. -/
def retire (e : Engine) (c : Connection) : Engine :=
  let c' := { c with relay := c.relay.release }
  if e.connections.any fun d => d.id = c.id then
    let draining := e.draining.filter fun d => d.relay.stage ≠ .ended
    { e with
      connections := e.connections.filter fun d => d.id ≠ c.id
      draining := draining ++ [c']
      counters := e.counters.add .sessionsClosed 1 }
  else e.update c'

/-- Notes what has become of a connection, and takes it out of the table if it is over. -/
def settle (e : Engine) (c : Connection) : Engine :=
  if c.session.isClosed then e.retire c else e.update c

/-- Opens a connection. The next random word is its first sequence number. -/
def openConnection (e : Engine) (flow : Tcp.Flow) (clientMac : MacAddress) : Engine × Connection :=
  let c : Connection := {
    id := e.opened
    session := .new flow (e.words e.drawn)
    clientMac := clientMac }
  ({ e with
    drawn := e.drawn + 1
    opened := e.opened + 1
    connections := e.connections ++ [c]
    counters := e.counters.add .sessionsOpened 1 }, c)

end Engine

end LocalPlay
