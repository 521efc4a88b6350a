import LocalPlay.Ldn.Frame
import LocalPlay.Ldn.Node
import LocalPlay.Room.Message
import LocalPlay.Udp.Datagram

set_option autoImplicit false

/-! # Between consoles and room

Frames between consoles become messages of a room, and messages become datagrams again. A bridge
knows the port that consoles talk on, the address it speaks from and the address that stands for
every console. -/

namespace LocalPlay.Room

/-- The port that consoles use unless told otherwise. -/
def defaultPort : UInt16 := 11452

/-- What a bridge needs to know. -/
structure Bridge where
  /-- The address that datagrams to the console come from. -/
  gateway : IpAddress
  broadcast : IpAddress
  /-- The port that consoles talk on. -/
  port : UInt16
deriving DecidableEq, Repr

namespace Bridge

/-- Whether an address stands for every console. -/
def IsBroadcast (b : Bridge) (ip : IpAddress) : Prop := ip = b.broadcast ∨ ip = .limitedBroadcast

instance (b : Bridge) (ip : IpAddress) : Decidable (b.IsBroadcast ip) :=
  inferInstanceAs (Decidable (_ ∨ _))

/-- Whether a datagram is about local play: either port tells. -/
def Concerns (b : Bridge) (d : Udp.Parcel) : Prop := d.src.port = b.port ∨ d.dst.port = b.port

instance (b : Bridge) (d : Udp.Parcel) : Decidable (b.Concerns d) :=
  inferInstanceAs (Decidable (_ ∨ _))

/-- Whom a frame is for: the address, and whether it is for every console. A scan always is. -/
def audience (b : Bridge) (kind : Ldn.Kind) (dst : IpAddress) : IpAddress × Bool :=
  match kind with
  | .scan => (b.broadcast, true)
  | .connect => (dst, false)
  | _ => (dst, b.IsBroadcast dst)

/-- Whether a payload is long enough for a frame of its kind: who connects describes a player. -/
def Suffices (kind : Ldn.Kind) (payload : Bytes) : Prop :=
  kind = .connect → Ldn.Node.size ≤ payload.length

instance (kind : Ldn.Kind) (payload : Bytes) : Decidable (Suffices kind payload) :=
  inferInstanceAs (Decidable (_ → _))

/-- The message that a console's datagram becomes, if it is a frame about local play. -/
def toRoom? (b : Bridge) (d : Udp.Parcel) : Option Message :=
  if b.Concerns d then
    match Ldn.Frame.parse d.payload with
    | .error _ => none
    | .ok frame =>
      match frame.kind? with
      | none => none
      | some kind =>
        if Suffices kind frame.payload then
          let (remote, everybody) := b.audience kind d.dst.ip
          some {
            kind := .ofConsole kind
            localIp := d.src.ip
            remoteIp := remote
            broadcast := everybody
            payload := frame.payload }
        else none
  else none

/-- The address and the payload of the datagram that a message becomes, if consoles know its
kind. -/
def toConsole? (b : Bridge) (m : Message) : Option (IpAddress × Bytes) :=
  m.kind.toConsole?.map fun kind =>
    (if m.broadcast then b.broadcast else m.remoteIp, Ldn.encode kind m.payload)

end Bridge

end LocalPlay.Room
