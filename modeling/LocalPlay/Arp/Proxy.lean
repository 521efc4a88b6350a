import LocalPlay.Address.Subnet
import LocalPlay.Arp.Cache
import LocalPlay.Arp.Packet

set_option autoImplicit false

/-! # Answering for absent hosts

The subnet is a make-believe: most of its hosts are far away. So whoever asks for an address of it is
told ours, unless the host with that address has been heard on the link and can answer for
itself. Every packet teaches who has the sender's address, before it is decided whether to answer. -/

namespace LocalPlay.Arp

inductive Action where
  /-- It was not about IPv4 addresses on Ethernet. -/
  | ignored
  | learned
  /-- The sender was noted and is to be answered. -/
  | reply (frame : Link.Frame)
deriving DecidableEq, Repr

/-- A packet in a frame of ours. -/
def Packet.toFrame (p : Packet) (localMac dst : MacAddress) : Link.Frame where
  dst := dst
  src := localMac
  etherType := Link.EtherType.arp.code
  payload := p.toBytes

/-- The question who has `targetIp`, to everybody on the link. -/
def requestFrame (localMac : MacAddress) (senderIp targetIp : IpAddress) : Link.Frame :=
  (Packet.request localMac senderIp targetIp).toFrame localMac .broadcast

/-- The answer that we have the address which the packet asks for, to its sender. -/
def replyFrame (localMac : MacAddress) (p : Packet) : Link.Frame :=
  (Packet.reply localMac p.targetIp p.senderMac p.senderIp).toFrame localMac p.senderMac

/-- Whether we answer for the target of a packet: a request for an address of the subnet by
someone who has an address already, and another one, where the target has not been heard. -/
def Answers (subnet : Subnet) (now : Instant) (cache : Cache) (p : Packet) : Prop :=
  p.operation? = some .request ∧ p.targetIp ∈ subnet ∧ ¬ p.IsProbe ∧ ¬ p.IsGratuitous
    ∧ cache.lookup now p.targetIp = none

instance (subnet : Subnet) (now : Instant) (cache : Cache) (p : Packet) :
    Decidable (Answers subnet now cache p) :=
  inferInstanceAs (Decidable (_ ∧ _ ∧ _ ∧ _ ∧ _))

/-- What a frame with an address resolution packet does to the table of hosts, and what comes
of it. -/
def process (subnet : Subnet) (localMac : MacAddress) (now : Instant) (cache : Cache)
    (frame : Link.Frame) : Cache × Action :=
  match Packet.parse frame.payload with
  | .error _ => (cache, .ignored)
  | .ok p =>
    if p.IsEthernetIpv4 then
      let cache' := cache.insert now p.senderMac p.senderIp
      (cache', if Answers subnet now cache' p then .reply (replyFrame localMac p) else .learned)
    else (cache, .ignored)

end LocalPlay.Arp
