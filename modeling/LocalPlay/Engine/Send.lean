import LocalPlay.Engine.Basic

set_option autoImplicit false

/-! # Sending datagrams

A datagram is sent to the station that has its destination. If no such station is known and the
destination does not stand for every host, the link is asked, and the datagram waits for the
answer for as long as the setup says: `beginSend` asks, and `finishSend` looks what has been
learned meanwhile. -/

namespace LocalPlay.Engine

/-- What the first part of sending a datagram comes to. -/
inductive Sending where
  | sent (frames : Nat)
  /-- The link does not take frames. -/
  | failed (why : Failure)
  /-- The link has been asked for the destination; the packet waits. -/
  | asked (packet : Bytes)

def sendPacket (e : Engine) (dst : MacAddress) (packet : Bytes) : Engine × Except Failure Nat :=
  let (e', taken) := e.transmitPacket dst packet
  (e', if taken then .ok 1 else .error .linkClosed)

/-- The first part of sending a datagram. -/
def beginSend (e : Engine) (now : Instant) (parcel : Udp.Parcel) : Engine × Sending :=
  let (e₁, packet) := e.makePacket parcel.src.ip parcel.dst.ip .udp parcel.toDatagram.toBytes
  match e₁.arp.lookup now parcel.dst.ip with
  | some mac =>
    match e₁.sendPacket mac packet with
    | (e₂, .ok frames) => (e₂, .sent frames)
    | (e₂, .error why) => (e₂, .failed why)
  | none =>
    if e₁.setup.IsBroadcast parcel.dst.ip then
      let (e₂, copies) := e₁.fanOut now packet none
      (e₂, .sent copies)
    else
      let question := Arp.requestFrame e₁.localMac parcel.src.ip parcel.dst.ip
      let (e₂, taken) := (e₁.count .arpRequests).transmit question
      (e₂, if taken then .asked packet else .failed .linkClosed)

/-- The second part of sending a datagram, after the wait. -/
def finishSend (e : Engine) (now : Instant) (dst : IpAddress) (packet : Bytes) :
    Engine × Except Failure Nat :=
  match e.arp.lookup now dst with
  | some mac => e.sendPacket mac packet
  | none => (e.count .unresolvedDrops, .error (.unresolved dst))

/-- Sends a datagram. `during` is what happens while it waits for an answer, and `later` is the
time after the wait. -/
def sendDatagram (e : Engine) (now later : Instant) (parcel : Udp.Parcel)
    (during : Engine → Engine) : Engine × Except Failure Nat :=
  match e.beginSend now parcel with
  | (e', .sent frames) => (e', .ok frames)
  | (e', .failed why) => (e', .error why)
  | (e', .asked packet) => (during e').finishSend later parcel.dst.ip packet

end LocalPlay.Engine
