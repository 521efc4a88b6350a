import LocalPlay.Internet.Packet
import LocalPlay.Tcp.Flags

set_option autoImplicit false

/-! # Segments

Segments of the Transmission Control Protocol: how they are read, how they are made, and when their
checksum holds. A segment ends where the packet around it ends, so its header declares only how
long the header itself is. -/

namespace LocalPlay.Tcp

/-- The size of a header without options. -/
def headerSize : Nat := 20

/-- The most bytes that options can take. -/
def optionsLimit : Nat := 40

/-- The checksum of the bytes of a segment between two hosts. -/
def checksum (src dst : IpAddress) (segment : Bytes) : UInt16 :=
  Internet.pseudoChecksum src dst Internet.Protocol.tcp.code segment

/-- Whether the bytes of a segment sum to zero with the checksum they carry. -/
def Verifies (src dst : IpAddress) (segment : Bytes) : Prop := checksum src dst segment = 0

instance (src dst : IpAddress) (segment : Bytes) : Decidable (Verifies src dst segment) :=
  inferInstanceAs (Decidable (checksum src dst segment = 0))

/-- A segment as it came. -/
structure Segment where
  srcPort : UInt16
  dstPort : UInt16
  seq : UInt32
  ack : UInt32
  flags : Flags
  window : UInt16
  checksum : UInt16
  /-- The options as they stand in the header, padding included. -/
  options : Bytes
  payload : Bytes
deriving DecidableEq, Repr

namespace Segment

/-- The length of the header, options included. -/
def headerLength (s : Segment) : Nat := headerSize + s.options.length

/-- Reads a segment. -/
def parse (b : Bytes) : Except Malformed Segment :=
  let headerLength := (b.byteAt 12).toNat / 16 * 4
  if b.length < headerSize then .error .tcpTooShort
  else if headerLength < headerSize then .error .tcpOffset
  else if b.length < headerLength then .error .tcpTruncated
  else .ok {
    srcPort := b.be16At 0
    dstPort := b.be16At 2
    seq := b.be32At 4
    ack := b.be32At 8
    flags := .ofByte (b.byteAt 13)
    window := b.be16At 14
    checksum := b.be16At 16
    options := b.field headerSize (headerLength - headerSize)
    payload := b.drop headerLength }

end Segment

/-- What the sender of a segment decides. -/
structure Draft where
  srcPort : UInt16 := 0
  dstPort : UInt16 := 0
  seq : UInt32 := 0
  ack : UInt32 := 0
  flags : Flags := {}
  window : UInt16 := 65535
  /-- Options; what exceeds `optionsLimit` bytes is left out. -/
  options : Bytes := []
  payload : Bytes := []

namespace Draft

/-- The options that fit, filled up with zeros to whole words of four bytes. -/
def optionArea (d : Draft) : Bytes :=
  let kept : Bytes := d.options.take optionsLimit
  Bytes.fit kept ((kept.length + 3) / 4 * 4)

/-- The header up to the checksum. -/
def front (d : Draft) : Bytes :=
  Bytes.be16 d.srcPort ++ Bytes.be16 d.dstPort ++ Bytes.be32 d.seq ++ Bytes.be32 d.ack
    ++ [UInt8.ofNat ((headerSize + d.optionArea.length) / 4 * 16), d.flags.toByte]
    ++ Bytes.be16 d.window

/-- What follows the checksum: the unused urgent pointer, the options and the data. -/
def back (d : Draft) : Bytes := [0, 0] ++ d.optionArea ++ d.payload

/-- The bytes of the segment, with its checksum between two hosts. -/
def toBytes (d : Draft) (src dst : IpAddress) : Bytes :=
  d.front ++ Bytes.be16 (checksum src dst (d.front ++ [0, 0] ++ d.back)) ++ d.back

end Draft

end LocalPlay.Tcp
