import LocalPlay.Proofs.Checked.Writing
import LocalPlay.Proofs.Internet.EchoRoundTrip
import LocalPlay.Udp.Datagram

set_option autoImplicit false

/-! # Views

A machine does not copy what it reads: it keeps the bytes that came, with the places where the parts
begin and end, and looks up a field each time it is asked for. So what reading has found out about
the places has to cover every later look. Here are the views of frames, packets, datagrams, segments
and echo messages; each agrees with the reader of this library that copies (`Agrees`), and each
shows, as often as it is asked, what that one has read (`Shows`). -/

namespace LocalPlay.Checked

/-- A reader that keeps a view and one that copies agree: both refuse, for the same reason, or both
accept, and the view shows what was copied. -/
def Agrees {V R : Type} (Shows : V → R → Prop) (viewed : Checked (Except Malformed V))
    (copied : Except Malformed R) : Prop :=
  (∃ why, viewed = pure (.error why) ∧ copied = .error why)
    ∨ ∃ v r, viewed = pure (.ok v) ∧ copied = .ok r ∧ Shows v r

namespace Agrees

variable {V R : Type} {Shows : V → R → Prop} {why : Malformed} {v : V} {r : R}

theorem refuse : Agrees Shows (pure (.error why)) (.error why) := .inl ⟨why, rfl, rfl⟩

theorem accept (shown : Shows v r) : Agrees Shows (pure (.ok v)) (.ok r) :=
  .inr ⟨v, r, rfl, rfl, shown⟩

/-- Two readers that refuse the same strings first agree if they agree on the others. -/
theorem guard {refused : Prop} [Decidable refused] {viewed : Checked (Except Malformed V)}
    {copied : Except Malformed R} (others : ¬ refused → Agrees Shows viewed copied) :
    Agrees Shows (if refused then pure (.error why) else viewed)
      (if refused then .error why else copied) := by
  by_cases here : refused
  · rw [if_pos here, if_pos here]
    exact .refuse
  · rw [if_neg here, if_neg here]
    exact others here

end Agrees

/-! ## Frames -/

structure FrameView where
  buffer : Bytes

namespace FrameView

def parse (b : Bytes) : Checked (Except Malformed FrameView) :=
  if b.length < Link.Frame.headerSize then return .error .frameTooShort
  else return .ok ⟨b⟩

def dst (v : FrameView) : Checked MacAddress := mac v.buffer 0

def src (v : FrameView) : Checked MacAddress := mac v.buffer 6

def etherType (v : FrameView) : Checked UInt16 := be16 v.buffer 12

def payload (v : FrameView) : Checked Bytes := rest v.buffer Link.Frame.headerSize

structure Shows (v : FrameView) (f : Link.Frame) : Prop where
  dst : v.dst = pure f.dst
  src : v.src = pure f.src
  etherType : v.etherType = pure f.etherType
  payload : v.payload = pure f.payload

theorem agrees (b : Bytes) : Agrees Shows (parse b) (Link.Frame.parse b) := by
  refine .guard fun short => ?_
  have long : 14 ≤ b.length := Nat.le_of_not_lt short
  exact .accept {
    dst := mac_eq (Nat.le_trans (by decide) long)
    src := mac_eq (Nat.le_trans (by decide) long)
    etherType := be16_eq long
    payload := rest_eq long }

end FrameView

/-! ## Packets of the Internet Protocol -/

structure PacketView where
  buffer : Bytes
  headerLength : Nat
  /-- Where the packet ends and padding begins. -/
  stop : Nat

namespace PacketView

def parse (b : Bytes) : Checked (Except Malformed PacketView) :=
  if b.length < Internet.Packet.headerSize then return .error .ipTooShort
  else do
    let first ← byte b 0
    if first.toNat / 16 ≠ 4 then return .error .ipVersion
    let headerLength ← mul lengthBits (first.toNat % 16) 4
    if headerLength < Internet.Packet.headerSize then return .error .ipHeaderLength
    if b.length < headerLength then return .error .ipTruncated
    let total ← be16 b 2
    let stop ← clamp total.toNat headerLength b.length
    return .ok ⟨b, headerLength, stop⟩

def identification (v : PacketView) : Checked UInt16 := be16 v.buffer 4

def timeToLive (v : PacketView) : Checked UInt8 := byte v.buffer 8

def protocol (v : PacketView) : Checked UInt8 := byte v.buffer 9

def src (v : PacketView) : Checked IpAddress := ip v.buffer 12

def dst (v : PacketView) : Checked IpAddress := ip v.buffer 16

def header (v : PacketView) : Checked Bytes := slice v.buffer 0 v.headerLength

def payload (v : PacketView) : Checked Bytes := slice v.buffer v.headerLength v.stop

/-- The packet without padding. -/
def datagram (v : PacketView) : Checked Bytes := slice v.buffer 0 v.stop

def verifies (v : PacketView) : Checked Bool := do
  return (← checksum (← v.header)) = 0

/-- What a view of the bytes `b` shows of a packet. -/
structure Shows (b : Bytes) (v : PacketView) (p : Internet.Packet) : Prop where
  buffer : v.buffer = b
  /-- The header has room for what every header has. -/
  header_ge : Internet.Packet.headerSize ≤ v.headerLength
  header_le : v.headerLength ≤ v.stop
  stop_le : v.stop ≤ b.length
  /-- No packet is longer than its header can say. -/
  stop_lt : v.stop < 65536
  header : v.header = pure p.header
  header_eq : p.header = b.take v.headerLength
  payload : v.payload = pure p.payload
  payload_eq : p.payload = b.field v.headerLength (v.stop - v.headerLength)
  /-- The packet is its header and its payload, at the start of the bytes. -/
  datagram : v.datagram = pure (p.header ++ p.payload)
  datagram_eq : p.header ++ p.payload = b.take v.stop
  identification : v.identification = pure p.identification
  timeToLive : v.timeToLive = pure p.timeToLive
  protocol : v.protocol = pure p.protocol
  src : v.src = pure p.src
  dst : v.dst = pure p.dst
  verifies : v.verifies = pure (decide p.HeaderVerifies)

theorem Shows.length_payload_lt {b : Bytes} {v : PacketView} {p : Internet.Packet}
    (shown : Shows b v p) : p.payload.length < 65536 := by
  have part : p.payload.length ≤ v.stop - v.headerLength := by
    rw [shown.payload_eq]
    exact List.length_take_le ..
  have stop := shown.stop_lt
  omega

theorem Shows.length_toBytes_lt {b : Bytes} {v : PacketView} {p : Internet.Packet}
    (shown : Shows b v p) : p.toBytes.length < 65536 := by
  rw [Internet.Packet.toBytes, shown.datagram_eq]
  exact Nat.lt_of_le_of_lt (List.length_take_le ..) shown.stop_lt

/-- Bounds in order are enough for every look into the view. -/
theorem shows_of_bounds {b : Bytes} {headerLength stop : Nat}
    (header_ge : Internet.Packet.headerSize ≤ headerLength) (header_le : headerLength ≤ stop)
    (stop_le : stop ≤ b.length) (stop_lt : stop < 65536) :
    Shows b ⟨b, headerLength, stop⟩
      ⟨b.take headerLength, b.field headerLength (stop - headerLength)⟩ := by
  have within : headerLength ≤ b.length := Nat.le_trans header_le stop_le
  have long : 20 ≤ b.length := Nat.le_trans header_ge within
  have room : 20 ≤ (b.take headerLength).length := by rwa [List.length_take_of_le within]
  have parts : b.take headerLength ++ b.drop headerLength = b := List.take_append_drop ..
  have word (i : Nat) (inside : i + 2 ≤ 20) :
      be16 b i = pure (Bytes.be16At (b.take headerLength) i) := by
    rw [be16_eq (Nat.le_trans inside long), ← Bytes.be16At_append (Nat.le_trans inside room), parts]
  have octet (i : Nat) (inside : i < 20) :
      byte b i = pure (Bytes.byteAt (b.take headerLength) i) := by
    rw [byte_eq (Nat.lt_of_lt_of_le inside long),
      ← Bytes.byteAt_append (Nat.lt_of_lt_of_le inside room), parts]
  have address (i : Nat) (inside : i + 4 ≤ 20) :
      ip b i = pure (.readAt (b.take headerLength) i) := by
    rw [ip_eq (Nat.le_trans inside long), ← IpAddress.readAt_append (Nat.le_trans inside room), parts]
  have wholeHeader : slice b 0 headerLength = pure (b.take headerLength) := slice_zero_eq within
  have whole : b.take headerLength ++ b.field headerLength (stop - headerLength) = b.take stop := by
    rw [Bytes.field, ← List.take_add, Nat.add_sub_cancel' header_le]
  exact {
    buffer := rfl
    header_ge := header_ge
    header_le := header_le
    stop_le := stop_le
    stop_lt := stop_lt
    header := wholeHeader
    header_eq := rfl
    payload := slice_eq header_le stop_le
    payload_eq := rfl
    datagram := whole ▸ slice_zero_eq stop_le
    datagram_eq := whole
    identification := word 4 (by decide)
    timeToLive := octet 8 (by decide)
    protocol := octet 9 (by decide)
    src := address 12 (by decide)
    dst := address 16 (by decide)
    verifies := by
      rw [verifies, PacketView.header, wholeHeader, pure_bind, checksum_eq]
      rfl }

theorem agrees (b : Bytes) : Agrees (Shows b) (parse b) (Internet.Packet.parse b) := by
  simp only [parse, Internet.Packet.parse]
  refine .guard fun short => ?_
  have long : 20 ≤ b.length := Nat.le_of_not_lt short
  rw [byte_eq (by omega), pure_bind]
  refine .guard fun _ => ?_
  have small : (b.byteAt 0).toNat % 16 * 4 ≤ 60 := by omega
  rw [mul_eq (by simp only [lengthBits]; omega), pure_bind]
  generalize (b.byteAt 0).toNat % 16 * 4 = headerLength at small
  refine .guard fun low => .guard fun truncated => ?_
  -- Now the bounds of the clamp are in order.
  rw [be16_eq (by omega), pure_bind, clamp_eq (Nat.le_of_not_lt truncated), pure_bind]
  have total := (b.be16At 2).toNat_lt
  refine .accept (shows_of_bounds (Nat.le_of_not_lt low) (Nat.le_max_left ..) ?_ ?_)
  · omega
  · omega

end PacketView

/-! ## Datagrams -/

structure DatagramView where
  buffer : Bytes
  /-- Where the datagram ends. -/
  stop : Nat

namespace DatagramView

def parse (b : Bytes) : Checked (Except Malformed DatagramView) :=
  if b.length < Udp.headerSize then return .error .udpTooShort
  else do
    let length ← be16 b 4
    let stop ← clamp length.toNat Udp.headerSize b.length
    return .ok ⟨b, stop⟩

def srcPort (v : DatagramView) : Checked UInt16 := be16 v.buffer 0

def dstPort (v : DatagramView) : Checked UInt16 := be16 v.buffer 2

def length (v : DatagramView) : Checked UInt16 := be16 v.buffer 4

def sum (v : DatagramView) : Checked UInt16 := be16 v.buffer 6

def payload (v : DatagramView) : Checked Bytes := slice v.buffer Udp.headerSize v.stop

def verifies (v : DatagramView) (src dst : IpAddress) : Checked Bool := do
  if (← v.sum) = 0 then return true
  return (← pseudoChecksum src dst Internet.Protocol.udp.code (← slice v.buffer 0 v.stop)) = 0

/-- What a view of the bytes `b` shows of a datagram. -/
structure Shows (b : Bytes) (v : DatagramView) (d : Udp.Datagram) : Prop where
  buffer : v.buffer = b
  stop_ge : Udp.headerSize ≤ v.stop
  stop_le : v.stop ≤ b.length
  payload : v.payload = pure d.payload
  payload_eq : d.payload = b.field Udp.headerSize (v.stop - Udp.headerSize)
  srcPort : v.srcPort = pure d.srcPort
  dstPort : v.dstPort = pure d.dstPort
  length : v.length = pure d.length
  sum : v.sum = pure d.checksum
  verifies : ∀ src dst, v.verifies src dst = pure (decide (d.Verifies src dst))

/-- The fields of a datagram, written side by side, are the bytes that they were read from. -/
theorem fields_eq {b : Bytes} {stop : Nat} (stop_ge : Udp.headerSize ≤ stop)
    (stop_le : stop ≤ b.length) :
    Bytes.be16 (b.be16At 0) ++ Bytes.be16 (b.be16At 2) ++ Bytes.be16 (b.be16At 4)
      ++ Bytes.be16 (b.be16At 6) ++ b.field Udp.headerSize (stop - Udp.headerSize)
      = b.take stop := by
  have long : 8 ≤ b.length := Nat.le_trans stop_ge stop_le
  have ports : b.field 0 2 ++ b.field 2 2 = b.field 0 4 := Bytes.field_append_field ..
  have declared : b.field 0 4 ++ b.field 4 2 = b.field 0 6 := Bytes.field_append_field ..
  have header : b.field 0 6 ++ b.field 6 2 = b.field 0 8 := Bytes.field_append_field ..
  have whole : b.field 0 8 ++ b.field 8 (stop - 8) = b.field 0 (8 + (stop - 8)) :=
    Bytes.field_append_field ..
  have total : 8 + (stop - 8) = stop := Nat.add_sub_cancel' stop_ge
  rw [Bytes.be16_be16At (by omega), Bytes.be16_be16At (by omega), Bytes.be16_be16At (by omega),
    Bytes.be16_be16At long, ports, declared, header, Udp.headerSize, whole, total]
  rfl

theorem shows_of_bounds {b : Bytes} {stop : Nat} (stop_ge : Udp.headerSize ≤ stop)
    (stop_le : stop ≤ b.length) :
    Shows b ⟨b, stop⟩ ⟨b.be16At 0, b.be16At 2, b.be16At 4, b.be16At 6,
      b.field Udp.headerSize (stop - Udp.headerSize)⟩ := by
  have long : 8 ≤ b.length := Nat.le_trans stop_ge stop_le
  have word (i : Nat) (inside : i + 2 ≤ 8) : be16 b i = pure (b.be16At i) :=
    be16_eq (Nat.le_trans inside long)
  exact {
    buffer := rfl
    stop_ge := stop_ge
    stop_le := stop_le
    payload := slice_eq stop_ge stop_le
    payload_eq := rfl
    srcPort := word 0 (by decide)
    dstPort := word 2 (by decide)
    length := word 4 (by decide)
    sum := word 6 (by decide)
    verifies := by
      intro src dst
      rw [verifies, DatagramView.sum, word 6 (by decide), pure_bind]
      simp only [slice_zero_eq stop_le, pure_bind, pseudoChecksum_eq, Udp.Datagram.Verifies,
        Udp.Datagram.toBytes, fields_eq stop_ge stop_le, Udp.checksum]
      by_cases absent : b.be16At 6 = 0
      · rw [if_pos absent, decide_eq_true (.inl absent)]
      · rw [if_neg absent]
        simp only [absent, false_or] }

theorem agrees (b : Bytes) : Agrees (Shows b) (parse b) (Udp.Datagram.parse b) := by
  simp only [parse, Udp.Datagram.parse]
  refine .guard fun short => ?_
  have long : Udp.headerSize ≤ b.length := Nat.le_of_not_lt short
  rw [be16_eq (Nat.le_trans (by decide) long), pure_bind, clamp_eq long,
    pure_bind]
  refine .accept (shows_of_bounds (Nat.le_max_left ..) ?_)
  exact Nat.max_le.2 ⟨long, Nat.min_le_right ..⟩

end DatagramView

/-! ## Segments -/

structure SegmentView where
  buffer : Bytes
  headerLength : Nat

namespace SegmentView

def parse (b : Bytes) : Checked (Except Malformed SegmentView) :=
  if b.length < Tcp.headerSize then return .error .tcpTooShort
  else do
    let offset ← byte b 12
    let headerLength ← mul lengthBits (offset.toNat / 16) 4
    if headerLength < Tcp.headerSize then return .error .tcpOffset
    if b.length < headerLength then return .error .tcpTruncated
    return .ok ⟨b, headerLength⟩

def srcPort (v : SegmentView) : Checked UInt16 := be16 v.buffer 0

def dstPort (v : SegmentView) : Checked UInt16 := be16 v.buffer 2

def seq (v : SegmentView) : Checked UInt32 := be32 v.buffer 4

def ack (v : SegmentView) : Checked UInt32 := be32 v.buffer 8

def flags (v : SegmentView) : Checked Tcp.Flags := do
  return .ofByte (← byte v.buffer 13)

def window (v : SegmentView) : Checked UInt16 := be16 v.buffer 14

def sum (v : SegmentView) : Checked UInt16 := be16 v.buffer 16

def payload (v : SegmentView) : Checked Bytes := rest v.buffer v.headerLength

def verifies (v : SegmentView) (src dst : IpAddress) : Checked Bool := do
  return (← pseudoChecksum src dst Internet.Protocol.tcp.code v.buffer) = 0

/-- What a view of the bytes `b` shows of a segment. -/
structure Shows (b : Bytes) (v : SegmentView) (s : Tcp.Segment) : Prop where
  buffer : v.buffer = b
  header_ge : Tcp.headerSize ≤ v.headerLength
  header_le : v.headerLength ≤ b.length
  headerLength : v.headerLength = s.headerLength
  payload : v.payload = pure s.payload
  payload_eq : s.payload = b.drop v.headerLength
  srcPort : v.srcPort = pure s.srcPort
  dstPort : v.dstPort = pure s.dstPort
  seq : v.seq = pure s.seq
  ack : v.ack = pure s.ack
  flags : v.flags = pure s.flags
  window : v.window = pure s.window
  sum : v.sum = pure s.checksum
  verifies : ∀ src dst, v.verifies src dst = pure (decide (Tcp.Verifies src dst b))

theorem agrees (b : Bytes) : Agrees (Shows b) (parse b) (Tcp.Segment.parse b) := by
  simp only [parse, Tcp.Segment.parse]
  refine .guard fun short => ?_
  have long : 20 ≤ b.length := Nat.le_of_not_lt short
  rw [byte_eq (Nat.lt_of_lt_of_le (by decide) long), pure_bind]
  have small : (b.byteAt 12).toNat / 16 * 4 < 2 ^ lengthBits := by
    have octet := (b.byteAt 12).toNat_lt
    simp only [lengthBits]
    omega
  rw [mul_eq small, pure_bind]
  generalize (b.byteAt 12).toNat / 16 * 4 = headerLength
  refine .guard fun low => .guard fun truncated => ?_
  have header_ge : Tcp.headerSize ≤ headerLength := Nat.le_of_not_lt low
  have header_le : headerLength ≤ b.length := Nat.le_of_not_lt truncated
  have sum : Tcp.headerSize + (headerLength - Tcp.headerSize) = headerLength :=
    Nat.add_sub_cancel' header_ge
  have word (i : Nat) (inside : i + 2 ≤ 20) : be16 b i = pure (b.be16At i) :=
    be16_eq (Nat.le_trans inside long)
  have doubleWord (i : Nat) (inside : i + 4 ≤ 20) : be32 b i = pure (b.be32At i) :=
    be32_eq (Nat.le_trans inside long)
  exact .accept {
    buffer := rfl
    header_ge := header_ge
    header_le := header_le
    headerLength := by
      rw [Tcp.Segment.headerLength, Bytes.length_field_of_le (by omega), sum]
    payload := rest_eq header_le
    payload_eq := rfl
    srcPort := word 0 (by decide)
    dstPort := word 2 (by decide)
    seq := doubleWord 4 (by decide)
    ack := doubleWord 8 (by decide)
    flags := by rw [flags, byte_eq (Nat.lt_of_lt_of_le (by decide) long), pure_bind]
    window := word 14 (by decide)
    sum := word 16 (by decide)
    verifies := by
      intro src dst
      rw [verifies, pseudoChecksum_eq]
      rfl }

end SegmentView

/-! ## Echo messages -/

structure EchoView where
  buffer : Bytes

namespace EchoView

def parse (b : Bytes) : Checked (Except Malformed EchoView) :=
  if b.length < Internet.Echo.headerSize then return .error .icmpTooShort
  else return .ok ⟨b⟩

def kind (v : EchoView) : Checked UInt8 := byte v.buffer 0

def code (v : EchoView) : Checked UInt8 := byte v.buffer 1

def sum (v : EchoView) : Checked UInt16 := be16 v.buffer 2

def identifier (v : EchoView) : Checked UInt16 := be16 v.buffer 4

def sequence (v : EchoView) : Checked UInt16 := be16 v.buffer 6

def payload (v : EchoView) : Checked Bytes := rest v.buffer Internet.Echo.headerSize

def verifies (v : EchoView) : Checked Bool := do
  return (← checksum v.buffer) = 0

/-- The bytes of the answer to a request. -/
def answer (v : EchoView) : Checked (Except Failure Bytes) := do
  if (← v.kind) = Internet.EchoKind.request.code then
    return .ok (← echoBytes .reply (← v.identifier) (← v.sequence) (← v.payload))
  return .error .notEchoRequest

/-- What a view of the bytes `b` shows of an echo message. -/
structure Shows (b : Bytes) (v : EchoView) (m : Internet.Echo) : Prop where
  buffer : v.buffer = b
  kind : v.kind = pure m.kind
  code : v.code = pure m.code
  sum : v.sum = pure m.checksum
  identifier : v.identifier = pure m.identifier
  sequence : v.sequence = pure m.sequence
  payload : v.payload = pure m.payload
  payload_eq : m.payload = b.drop Internet.Echo.headerSize
  verifies : v.verifies = pure (decide m.Verifies)

theorem Shows.length_payload_le {b : Bytes} {v : EchoView} {m : Internet.Echo}
    (shown : Shows b v m) : m.payload.length ≤ b.length := by
  rw [shown.payload_eq, List.length_drop]
  exact Nat.sub_le ..

theorem Shows.answer_eq {b : Bytes} {v : EchoView} {m : Internet.Echo} (shown : Shows b v m)
    (small : b.length < 2 ^ 63) : v.answer = pure (m.answer.map Internet.Echo.toBytes) := by
  have short := Nat.lt_of_le_of_lt shown.length_payload_le small
  rw [answer, shown.kind, pure_bind, Internet.Echo.answer]
  by_cases request : m.IsRequest
  · have code : m.kind = Internet.EchoKind.request.code := request
    rw [if_pos code, if_pos request, shown.identifier, pure_bind, shown.sequence, pure_bind,
      shown.payload, pure_bind, echoBytes_eq short]
    rfl
  · have code : ¬ m.kind = Internet.EchoKind.request.code := request
    rw [if_neg code, if_neg request]
    rfl

theorem agrees (b : Bytes) : Agrees (Shows b) (parse b) (Internet.Echo.parse b) := by
  refine .guard fun short => ?_
  have long : 8 ≤ b.length := Nat.le_of_not_lt short
  exact .accept {
    buffer := rfl
    kind := byte_eq (Nat.lt_of_lt_of_le (by decide) long)
    code := byte_eq (Nat.lt_of_lt_of_le (by decide) long)
    sum := be16_eq (Nat.le_trans (by decide) long)
    identifier := be16_eq (Nat.le_trans (by decide) long)
    sequence := be16_eq long
    payload := rest_eq long
    payload_eq := rfl
    verifies := by
      rw [verifies, checksum_eq, pure_bind]
      exact congrArg pure
        (decide_eq_decide.2 (by rw [Internet.Echo.Verifies, Internet.Echo.toBytes_fields long])) }

end EchoView

/-! ## Address resolution -/

/-- A packet is copied as a whole. -/
def arpPacket (b : Bytes) : Checked (Except Malformed Arp.Packet) :=
  if b.length < Arp.Packet.size then return .error .arpTooShort
  else do
    return .ok {
      hardwareType := ← be16 b 0
      protocolType := ← be16 b 2
      hardwareLength := ← byte b 4
      protocolLength := ← byte b 5
      operation := ← be16 b 6
      senderMac := ← mac b 8
      senderIp := ← ip b 14
      targetMac := ← mac b 18
      targetIp := ← ip b 24 }

theorem arpPacket_eq (b : Bytes) : arpPacket b = pure (Arp.Packet.parse b) := by
  rw [arpPacket, Arp.Packet.parse]
  by_cases short : b.length < Arp.Packet.size
  · rw [if_pos short, if_pos short]
  · have long : 28 ≤ b.length := Nat.le_of_not_lt short
    rw [if_neg short, if_neg short, be16_eq (by omega), pure_bind, be16_eq (by omega), pure_bind,
      byte_eq (by omega), pure_bind, byte_eq (by omega), pure_bind, be16_eq (by omega), pure_bind,
      mac_eq (by omega), pure_bind, ip_eq (by omega), pure_bind, mac_eq (by omega), pure_bind,
      ip_eq (by omega), pure_bind]

end LocalPlay.Checked
