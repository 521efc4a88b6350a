import LocalPlay.Link.Frame

set_option autoImplicit false

/-! # Address resolution packets

A host asks who has an Internet address, and the host that has it answers with its hardware
address. Reading a packet only asks for its 28 bytes; whether it speaks of Ethernet and IPv4 at all
is a separate question (`Packet.IsEthernetIpv4`). -/

namespace LocalPlay.Arp

/-- What a packet wants. -/
inductive Operation where
  /-- To learn who has the target address. -/
  | request
  /-- To tell who has the sender address. -/
  | reply
deriving DecidableEq, Repr

def Operation.code : Operation → UInt16
  | request => 1
  | reply => 2

def Operation.ofCode? (n : UInt16) : Option Operation :=
  if n = 1 then some .request else if n = 2 then some .reply else none

theorem Operation.ofCode?_eq_some_iff {n : UInt16} {op : Operation} :
    ofCode? n = some op ↔ n = op.code := by
  unfold ofCode?
  cases op <;> simp only [code] <;> split <;> simp_all

/-- An address resolution packet with addresses of the Ethernet and IPv4 sizes. -/
structure Packet where
  /-- The kind of hardware address; 1 is Ethernet. -/
  hardwareType : UInt16
  /-- The kind of protocol address, numbered like Ethernet payloads. -/
  protocolType : UInt16
  hardwareLength : UInt8
  protocolLength : UInt8
  operation : UInt16
  senderMac : MacAddress
  senderIp : IpAddress
  /-- The hardware address of the target; zero in a request. -/
  targetMac : MacAddress
  targetIp : IpAddress
deriving DecidableEq, Repr

namespace Packet

def size : Nat := 28

/-- Reads a packet from the start of a payload; what follows it is padding. -/
def parse (b : Bytes) : Except Malformed Packet :=
  if b.length < size then .error .arpTooShort
  else .ok {
    hardwareType := b.be16At 0
    protocolType := b.be16At 2
    hardwareLength := b.byteAt 4
    protocolLength := b.byteAt 5
    operation := b.be16At 6
    senderMac := .readAt b 8
    senderIp := .readAt b 14
    targetMac := .readAt b 18
    targetIp := .readAt b 24 }

def toBytes (p : Packet) : Bytes :=
  Bytes.be16 p.hardwareType ++ Bytes.be16 p.protocolType
    ++ [p.hardwareLength, p.protocolLength] ++ Bytes.be16 p.operation
    ++ p.senderMac.toBytes ++ p.senderIp.toBytes ++ p.targetMac.toBytes ++ p.targetIp.toBytes

/-- Whether the packet resolves IPv4 addresses on Ethernet. -/
def IsEthernetIpv4 (p : Packet) : Prop :=
  p.hardwareType = 1 ∧ p.protocolType = Link.EtherType.ipv4.code ∧ p.hardwareLength = 6
    ∧ p.protocolLength = 4

instance (p : Packet) : Decidable p.IsEthernetIpv4 :=
  inferInstanceAs (Decidable (_ ∧ _ ∧ _ ∧ _))

/-- What the packet wants, if its number is known. -/
def operation? (p : Packet) : Option Operation := Operation.ofCode? p.operation

/-- Whether the sender asks about its own address, to announce it. -/
def IsGratuitous (p : Packet) : Prop := p.senderIp = p.targetIp

instance (p : Packet) : Decidable p.IsGratuitous :=
  inferInstanceAs (Decidable (p.senderIp = p.targetIp))

/-- Whether the sender has no address yet and asks if one is free. -/
def IsProbe (p : Packet) : Prop := p.senderIp = .unspecified

instance (p : Packet) : Decidable p.IsProbe :=
  inferInstanceAs (Decidable (p.senderIp = .unspecified))

def ethernetIpv4 (op : Operation) (senderMac : MacAddress) (senderIp : IpAddress)
    (targetMac : MacAddress) (targetIp : IpAddress) : Packet where
  hardwareType := 1
  protocolType := Link.EtherType.ipv4.code
  hardwareLength := 6
  protocolLength := 4
  operation := op.code
  senderMac := senderMac
  senderIp := senderIp
  targetMac := targetMac
  targetIp := targetIp

/-- The question who has `targetIp`. -/
def request (senderMac : MacAddress) (senderIp targetIp : IpAddress) : Packet :=
  ethernetIpv4 .request senderMac senderIp .zero targetIp

/-- The answer that `senderMac` has `senderIp`. -/
def reply (senderMac : MacAddress) (senderIp : IpAddress) (targetMac : MacAddress)
    (targetIp : IpAddress) : Packet :=
  ethernetIpv4 .reply senderMac senderIp targetMac targetIp

end Packet

end LocalPlay.Arp
