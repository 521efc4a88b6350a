import LocalPlay.Arp.Packet
import LocalPlay.Internet.Echo
import LocalPlay.Proofs.Checked.Basic
import LocalPlay.Proofs.Tcp.SegmentRoundTrip

set_option autoImplicit false

/-! # Writing, checked

How packets are put together on a machine: a buffer of zeros or of what is known already is
overwritten part by part, and the checksum comes last. All parts are where the buffer has room for
them, and the lengths can be added as long as a message leaves a bit of its length free. -/

namespace LocalPlay.Checked

/-! ## Checksums -/

/-- Adds the words of a message to a register, which wraps around. -/
def sumWords (register : UInt32) : Bytes → Checked UInt32
  | [] => pure register
  | [b] => do
    let word ← be16 [b, 0] 0
    return register + UInt32.ofNat word.toNat
  | a :: b :: rest => do
    let word ← be16 [a, b] 0
    sumWords (register + UInt32.ofNat word.toNat) rest

theorem be16_pair (a b : UInt8) :
    be16 [a, b] 0 = pure (UInt16.ofNat (256 * a.toNat + b.toNat)) := by
  have number : Bytes.toNatBE [a, b] = 256 * a.toNat + b.toNat := by
    show b.toNat + 256 * (a.toNat + 256 * 0) = _
    omega
  rw [be16_eq (by simp), Bytes.be16At, ← number]
  rfl

theorem toNat_pair (a b : UInt8) :
    (UInt16.ofNat (256 * a.toNat + b.toNat)).toNat = 256 * a.toNat + b.toNat := by
  have high := a.toNat_lt
  have low := b.toNat_lt
  rw [UInt16.toNat_ofNat', Nat.mod_eq_of_lt (by omega)]

theorem sumWords_eq (register : UInt32) (message : Bytes) :
    sumWords register message = pure (Internet.sumWords register message) := by
  fun_induction Internet.sumWords register message with
  | case1 register => rfl
  | case2 register b => rw [sumWords, be16_pair, pure_bind, toNat_pair]; rfl
  | case3 register a b rest ih => rw [sumWords, be16_pair, pure_bind, toNat_pair, ih]

/-- Folds the carries of a register; every sum on the way fits into the register. -/
def foldCarries (n : Nat) : Checked Nat :=
  if n < 65536 then pure n
  else do
    let _ ← add 32 (n % 65536) (n / 65536)
    foldCarries (n % 65536 + n / 65536)

theorem foldCarries_eq {n : Nat} (fits : n < 2 ^ 32) :
    foldCarries n = pure (Internet.foldCarries n) := by
  fun_induction Internet.foldCarries n with
  | case1 n h => rw [foldCarries, if_pos h]
  | case2 n h ih =>
    have sum : n % 65536 + n / 65536 < 2 ^ 32 := by omega
    rw [foldCarries, if_neg h, add_eq sum, pure_bind, ih sum]

def finish (register : UInt32) : Checked UInt16 := do
  return UInt16.ofNat (65535 - (← foldCarries register.toNat))

def checksum (message : Bytes) : Checked UInt16 := do
  finish (← sumWords 0 message)

/-- The addresses, the protocol and the length of a message, written over zeros. -/
def pseudoHeader (src dst : IpAddress) (protocol : UInt8) (length : Nat) : Checked Bytes := do
  let b ← overwrite (Bytes.zeros 12) 0 4 src.toBytes
  let b ← overwrite b 4 8 dst.toBytes
  let b ← setByte b 9 protocol
  overwrite b 10 12 (Bytes.ofNatBE 2 length)

def pseudoChecksum (src dst : IpAddress) (protocol : UInt8) (message : Bytes) : Checked UInt16 := do
  let front ← pseudoHeader src dst protocol message.length
  finish (← sumWords (← sumWords 0 front) message)

theorem finish_eq (register : UInt32) : finish register = pure (Internet.finish register) := by
  rw [finish, foldCarries_eq register.toNat_lt, pure_bind, Internet.finish]

theorem checksum_eq (message : Bytes) : checksum message = pure (Internet.checksum message) := by
  rw [checksum, sumWords_eq, pure_bind, finish_eq, Internet.checksum]

theorem pseudoHeader_eq (src dst : IpAddress) (protocol : UInt8) (length : Nat) :
    pseudoHeader src dst protocol length = pure (Internet.pseudoHeader src dst protocol length) :=
  rfl

theorem pseudoChecksum_eq (src dst : IpAddress) (protocol : UInt8) (message : Bytes) :
    pseudoChecksum src dst protocol message
      = pure (Internet.pseudoChecksum src dst protocol message) := by
  rw [pseudoChecksum, pseudoHeader_eq, pure_bind, sumWords_eq, pure_bind, sumWords_eq, pure_bind,
    finish_eq, Internet.pseudoChecksum]

/-! ## Buffers of zeros -/

section Buffers

variable {b front new : Bytes} {i start stop room : Nat}

theorem setByte_eq_overwrite (inside : i < b.length) (x : UInt8) :
    setByte b i x = overwrite b i (i + 1) [x] := by
  have part : (b.field i 1).length = 1 := Bytes.length_field_of_le inside
  rw [setByte, allow_eq inside, overwrite, slice_add_eq inside, pure_bind, part, copy_eq (n := 1) rfl,
    pure_bind, List.set_eq_take_append_cons_drop, if_pos inside, List.append_assoc]
  rfl

/-- Where there are zeros, a part is overwritten; the zeros before it and after it stay. -/
theorem overwrite_zeros (first : front.length ≤ start) (last : start + new.length = stop)
    (fits : stop ≤ front.length + room) :
    overwrite (front ++ Bytes.zeros room) start stop new
      = pure (front ++ Bytes.zeros (start - front.length) ++ new
        ++ Bytes.zeros (front.length + room - stop)) := by
  have split : front ++ Bytes.zeros room
      = front ++ Bytes.zeros (start - front.length) ++ Bytes.zeros new.length
        ++ Bytes.zeros (front.length + room - stop) := by
    have parts : room = start - front.length + (new.length + (front.length + room - stop)) := by
      omega
    rw [List.append_assoc, List.append_assoc, Bytes.zeros_append_zeros, Bytes.zeros_append_zeros,
      ← parts]
  have before : (front ++ Bytes.zeros (start - front.length)).length = start := by
    rw [List.length_append, Bytes.length_zeros, Nat.add_sub_cancel' first]
  have size : start + (Bytes.zeros new.length).length = stop := by rw [Bytes.length_zeros, last]
  rw [split, overwrite_append before size (Bytes.length_zeros _).symm]

end Buffers

/-! ## Packets -/

def arpBytes (p : Arp.Packet) : Checked Bytes := do
  let b ← overwrite (Bytes.zeros 28) 0 2 (Bytes.be16 p.hardwareType)
  let b ← overwrite b 2 4 (Bytes.be16 p.protocolType)
  let b ← setByte b 4 p.hardwareLength
  let b ← setByte b 5 p.protocolLength
  let b ← overwrite b 6 8 (Bytes.be16 p.operation)
  let b ← overwrite b 8 14 p.senderMac.toBytes
  let b ← overwrite b 14 18 p.senderIp.toBytes
  let b ← overwrite b 18 24 p.targetMac.toBytes
  overwrite b 24 28 p.targetIp.toBytes

theorem arpBytes_eq (p : Arp.Packet) : arpBytes p = pure p.toBytes := by
  have macs (m : MacAddress) : m.toBytes.length = 6 := m.length_toBytes
  rw [arpBytes, ← List.nil_append (Bytes.zeros 28)]
  simp (disch := simp [macs]) only [overwrite_zeros, setByte_eq_overwrite, pure_bind]
  simp [Arp.Packet.toBytes, Bytes.zeros]

/-- A header with the given total length, and with zeros for the checksum. -/
def draftHeader (d : Internet.Draft) (length : Nat) : Checked Bytes := do
  let b ← setByte (Bytes.zeros Internet.Packet.headerSize) 0 0x45
  let b ← overwrite b 2 4 (Bytes.ofNatBE 2 length)
  let b ← overwrite b 4 6 (Bytes.be16 d.identification)
  let b ← setByte b 8 64
  let b ← setByte b 9 d.protocol
  let b ← overwrite b 12 16 d.src.toBytes
  overwrite b 16 20 d.dst.toBytes

/-- The packet of a draft. The sum of the lengths has to fit before it is cut to 16 bits. -/
def draftBytes (d : Internet.Draft) : Checked Bytes := do
  let length ← add lengthBits Internet.Packet.headerSize d.payload.length
  let b ← draftHeader d length
  let header ← overwrite b 10 12 (Bytes.be16 (← checksum b))
  return header ++ d.payload

theorem draftHeader_eq (d : Internet.Draft) :
    draftHeader d (Internet.Packet.headerSize + d.payload.length)
      = pure (d.front ++ [0, 0] ++ d.back) := by
  rw [draftHeader, ← List.nil_append (Bytes.zeros _)]
  simp (disch := simp [Internet.Packet.headerSize]) only [overwrite_zeros, setByte_eq_overwrite,
    pure_bind]
  simp [Internet.Draft.front, Internet.Draft.back, Internet.Packet.headerSize, Bytes.zeros]

theorem draftBytes_eq {d : Internet.Draft} (short : d.payload.length < 2 ^ 63) :
    draftBytes d = pure d.toBytes := by
  have sum : overwrite (d.front ++ [0, 0] ++ d.back) 10 12
      (Bytes.be16 (Internet.checksum (d.front ++ [0, 0] ++ d.back))) = pure d.header :=
    overwrite_append (by simp [Internet.Draft.front]) rfl (Bytes.length_be16 _)
  rw [draftBytes, add_length_eq (by decide) short, pure_bind, draftHeader_eq, pure_bind, checksum_eq,
    pure_bind, sum, pure_bind, Internet.Draft.toBytes]

/-- An echo message: the checksum takes the place of the zeros that stood for it. -/
def echoBytes (kind : Internet.EchoKind) (identifier sequence : UInt16) (payload : Bytes) :
    Checked Bytes := do
  let _ ← add lengthBits Internet.Echo.headerSize payload.length
  let b := [kind.code, 0] ++ [0, 0] ++ (Bytes.be16 identifier ++ Bytes.be16 sequence ++ payload)
  overwrite b 2 4 (Bytes.be16 (← checksum b))

theorem echoBytes_eq {kind : Internet.EchoKind} {identifier sequence : UInt16} {payload : Bytes}
    (short : payload.length < 2 ^ 63) :
    echoBytes kind identifier sequence payload
      = pure (Internet.Echo.message kind identifier sequence payload).toBytes := by
  rw [echoBytes, add_length_eq (by decide) short, pure_bind]
  simp only [checksum_eq, pure_bind]
  refine (overwrite_append rfl rfl (Bytes.length_be16 _)).trans ?_
  simp only [Internet.Echo.message, Internet.Echo.toBytes, List.append_assoc]
  rfl

/-- A segment; its options are counted in words of four bytes. -/
def segmentBytes (d : Tcp.Draft) (src dst : IpAddress) : Checked Bytes := do
  let options ← mul lengthBits ((d.keptOptions + 3) / 4) 4
  let header ← add lengthBits Tcp.headerSize options
  let _ ← add lengthBits header d.payload.length
  let b := d.front ++ [0, 0] ++ d.back
  overwrite b 16 18 (Bytes.be16 (← pseudoChecksum src dst Internet.Protocol.tcp.code b))

theorem segmentBytes_eq {d : Tcp.Draft} (short : d.payload.length < 2 ^ 63) (src dst : IpAddress) :
    segmentBytes d src dst = pure (d.toBytes src dst) := by
  have kept : d.keptOptions ≤ 40 := Nat.min_le_right ..
  have words : (d.keptOptions + 3) / 4 * 4 < 2 ^ lengthBits := by
    simp only [lengthBits]
    omega
  have header : Tcp.headerSize + (d.keptOptions + 3) / 4 * 4 < 2 ^ 63 := by
    simp only [Tcp.headerSize]
    omega
  rw [segmentBytes, mul_eq words, pure_bind, add_length_eq (by decide) (by omega), pure_bind,
    add_length_eq header (by omega), pure_bind]
  simp only [pseudoChecksum_eq, pure_bind]
  exact overwrite_append d.length_front rfl (Bytes.length_be16 _)

end LocalPlay.Checked
