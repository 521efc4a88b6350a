import LocalPlay.Internet.Packet

set_option autoImplicit false

/-! # Datagrams

The User Datagram Protocol adds two ports, a length and a checksum to a payload. As in the packet
that carries it, the declared length cuts the payload and is brought back into range when it is
wrong. A checksum of zero says that none was computed, so a computed zero is sent as its other
form, all ones. -/

namespace LocalPlay.Udp

/-- A datagram as it came, without what follows it. -/
structure Datagram where
  srcPort : UInt16
  dstPort : UInt16
  length : UInt16
  checksum : UInt16
  payload : Bytes
deriving DecidableEq, Repr

def headerSize : Nat := 8

/-- The checksum of the bytes of a datagram between two hosts. -/
def checksum (src dst : IpAddress) (datagram : Bytes) : UInt16 :=
  Internet.pseudoChecksum src dst Internet.Protocol.udp.code datagram

namespace Datagram

def parse (b : Bytes) : Except Malformed Datagram :=
  if b.length < headerSize then .error .udpTooShort
  else
    let stop := max headerSize (min (b.be16At 4).toNat b.length)
    .ok {
      srcPort := b.be16At 0
      dstPort := b.be16At 2
      length := b.be16At 4
      checksum := b.be16At 6
      payload := b.field headerSize (stop - headerSize) }

def toBytes (d : Datagram) : Bytes :=
  Bytes.be16 d.srcPort ++ Bytes.be16 d.dstPort ++ Bytes.be16 d.length ++ Bytes.be16 d.checksum
    ++ d.payload

/-- Whether the datagram carries no checksum, or sums to zero with the one it carries. -/
def Verifies (d : Datagram) (src dst : IpAddress) : Prop :=
  d.checksum = 0 ∨ Udp.checksum src dst d.toBytes = 0

instance (d : Datagram) (src dst : IpAddress) : Decidable (d.Verifies src dst) :=
  inferInstanceAs (Decidable (_ ∨ _))

/-- The datagram with the given ports and payload and no checksum. A length above 65535 is cut to 16
bits. -/
def blank (srcPort dstPort : UInt16) (payload : Bytes) : Datagram where
  srcPort := srcPort
  dstPort := dstPort
  length := UInt16.ofNat (headerSize + payload.length)
  checksum := 0
  payload := payload

/-- The datagram with the given ports and payload, and its checksum between two hosts. -/
def stamped (src dst : IpAddress) (srcPort dstPort : UInt16) (payload : Bytes) : Datagram :=
  let bare := blank srcPort dstPort payload
  let sum := Udp.checksum src dst bare.toBytes
  { bare with checksum := if sum = 0 then 0xFFFF else sum }

end Datagram

/-- A payload and the endpoints that it travels between. -/
structure Parcel where
  src : Endpoint
  dst : Endpoint
  payload : Bytes
deriving DecidableEq, Repr

namespace Parcel

/-- The datagram that takes a payload to its destination. -/
def toDatagram (p : Parcel) : Datagram :=
  .stamped p.src.ip p.dst.ip p.src.port p.dst.port p.payload

end Parcel

end LocalPlay.Udp
