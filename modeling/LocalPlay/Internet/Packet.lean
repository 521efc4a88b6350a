import LocalPlay.Failure
import LocalPlay.Internet.Checksum

set_option autoImplicit false

/-! # Packets of the Internet Protocol, version 4

A packet is a header of 20 to 60 bytes and a payload. Options are skipped and fragments are treated
like whole packets.

The header declares the length of the whole packet. Short packets are padded on the link, so the
declared length cuts the payload; a length that is too small or reaches past the bytes that came is
brought back into that range (`Packet.parse`). -/

namespace LocalPlay.Internet

/-- The protocols carried by a packet that this library understands. -/
inductive Protocol where
  | icmp
  | tcp
  | udp
deriving DecidableEq, Repr

def Protocol.code : Protocol → UInt8
  | icmp => 1
  | tcp => 6
  | udp => 17

def Protocol.ofCode? (n : UInt8) : Option Protocol :=
  if n = 1 then some .icmp else if n = 6 then some .tcp else if n = 17 then some .udp else none

theorem Protocol.ofCode?_eq_some_iff {n : UInt8} {p : Protocol} :
    ofCode? n = some p ↔ n = p.code := by
  unfold ofCode?
  cases p <;> simp only [code] <;> (repeat' split) <;> simp_all

/-- A packet as it came, without padding. -/
structure Packet where
  /-- The header, options included. -/
  header : Bytes
  payload : Bytes
deriving DecidableEq, Repr

namespace Packet

/-- The size of a header without options. -/
def headerSize : Nat := 20

/-- The packet at the start of the bytes of a frame. -/
def parse (b : Bytes) : Except Malformed Packet :=
  let headerLength := (b.byteAt 0).toNat % 16 * 4
  if b.length < headerSize then .error .ipTooShort
  else if (b.byteAt 0).toNat / 16 ≠ 4 then .error .ipVersion
  else if headerLength < headerSize then .error .ipHeaderLength
  else if b.length < headerLength then .error .ipTruncated
  else
    let stop := max headerLength (min (b.be16At 2).toNat b.length)
    .ok { header := b.take headerLength, payload := b.field headerLength (stop - headerLength) }

def toBytes (p : Packet) : Bytes := p.header ++ p.payload

/-- How many of the bytes are the packet: as many as the header declares, brought back into range. -/
def extent (b : Bytes) : Nat :=
  max ((b.byteAt 0).toNat % 16 * 4) (min (b.be16At 2).toNat b.length)

/-- A packet that was read is the bytes that came, without the padding. -/
theorem toBytes_of_parse {b : Bytes} {p : Packet} (parsed : parse b = .ok p) :
    p.toBytes = b.take (extent b) := by
  cases eq_ok_of_guard (eq_ok_of_guard (eq_ok_of_guard (eq_ok_of_guard parsed)))
  have reaches : (b.byteAt 0).toNat % 16 * 4 ≤ extent b := Nat.le_max_left ..
  rw [toBytes, Bytes.field, ← List.take_add, ← extent, Nat.add_sub_cancel' reaches]

/-- The number that the sender gave to this packet. -/
def identification (p : Packet) : UInt16 := p.header.be16At 4

/-- How many more hops the packet may make. -/
def timeToLive (p : Packet) : UInt8 := p.header.byteAt 8

def protocol (p : Packet) : UInt8 := p.header.byteAt 9

def src (p : Packet) : IpAddress := .readAt p.header 12

def dst (p : Packet) : IpAddress := .readAt p.header 16

/-- Whether the header sums to zero with the checksum it carries. -/
def HeaderVerifies (p : Packet) : Prop := checksum p.header = 0

instance (p : Packet) : Decidable p.HeaderVerifies :=
  inferInstanceAs (Decidable (checksum p.header = 0))

end Packet

/-- What the sender of a packet decides. -/
structure Draft where
  identification : UInt16 := 0
  protocol : UInt8 := 0
  src : IpAddress := .unspecified
  dst : IpAddress := .unspecified
  payload : Bytes := []

namespace Draft

/-- The header up to the checksum: version 4, no options, no flags, 64 hops. A length above 65535 is
cut to 16 bits. -/
def front (d : Draft) : Bytes :=
  [0x45, 0] ++ Bytes.ofNatBE 2 (Packet.headerSize + d.payload.length)
    ++ Bytes.be16 d.identification ++ [0, 0, 64, d.protocol]

def back (d : Draft) : Bytes := d.src.toBytes ++ d.dst.toBytes

def header (d : Draft) : Bytes :=
  d.front ++ Bytes.be16 (checksum (d.front ++ [0, 0] ++ d.back)) ++ d.back

def toBytes (d : Draft) : Bytes := d.header ++ d.payload

end Draft

end LocalPlay.Internet
