import LocalPlay.Ldn.Kind
import LocalPlay.Ldn.ZeroRun

set_option autoImplicit false

/-! # LDN frames

A datagram between consoles is a header of twelve bytes and a body. The header holds a mark, the
kind, whether the body is compressed, the length of the body, its length before compression (zero
when it is not compressed) and two unused bytes. Numbers are written least significant byte first.

A reader takes the length of the body from the header and trusts it; the length before compression
it only reports. A writer compresses whenever that makes the body shorter. -/

namespace LocalPlay.Ldn

/-- The first word of every frame. -/
def mark : UInt32 := 0x11451400

def headerSize : Nat := 12

/-- A frame as it came. -/
structure Frame where
  kind : UInt8
  compressed : Bool
  length : UInt16
  /-- The length that its sender declares for the expanded body. -/
  expandedLength : UInt16
  payload : Bytes
deriving DecidableEq, Repr

namespace Frame

/-- The kind of the frame, if its number is known. -/
def kind? (f : Frame) : Option Kind := Kind.ofCode? f.kind

/-- The body, expanded when the frame says that it is compressed. -/
def expandBody (compressed : Bool) (body : Bytes) : Except RunFault Bytes :=
  if compressed then ZeroRun.decompress body else .ok body

def parse (b : Bytes) : Except Failure Frame :=
  let found := b.le32At 0
  let length := b.le16At 6
  if b.length < headerSize then .error (.malformed (.ldnTooShort b.length))
  else if found ≠ mark then .error (.malformed (.ldnMagic found))
  else if b.length < headerSize + length.toNat then
    .error (.malformed (.ldnLength length.toNat (b.length - headerSize)))
  else
    let compressed := b.byteAt 5 == 1
    match expandBody compressed (b.field headerSize length.toNat) with
    | .error why => .error (.runs why)
    | .ok payload =>
      .ok {
        kind := b.byteAt 4
        compressed := compressed
        length := length
        expandedLength := b.le16At 8
        payload := payload }

end Frame

/-- The compressed form of a payload, if it is shorter than the payload. -/
def shorterForm? (payload : Bytes) : Option Bytes :=
  match ZeroRun.compress payload with
  | .ok packed => if packed.length < payload.length then some packed else none
  | .error _ => none

/-- The header of a frame; lengths are cut to 16 bits. -/
def header (kind : Kind) (compressed : Bool) (length expandedLength : Nat) : Bytes :=
  Bytes.le32 mark ++ [kind.code, if compressed then 1 else 0] ++ Bytes.ofNatLE 2 length
    ++ Bytes.ofNatLE 2 expandedLength ++ [0, 0]

/-- The bytes of a frame of the given kind around a payload. -/
def encode (kind : Kind) (payload : Bytes) : Bytes :=
  match shorterForm? payload with
  | some packed => header kind true packed.length payload.length ++ packed
  | none => header kind false payload.length 0 ++ payload

end LocalPlay.Ldn
