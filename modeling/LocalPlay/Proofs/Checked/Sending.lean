import LocalPlay.Proofs.Checked.Subnets
import LocalPlay.Proofs.Checked.Views
import LocalPlay.Proofs.Engine.FanOut
import LocalPlay.Proofs.Internet.PacketRoundTrip
import Mathlib.Data.List.Perm.Subperm

set_option autoImplicit false

/-! # What an engine does, checked

Whom a packet is for, the table of hosts and the ways onto the link, with the checks of a machine
made. An entry of the table needs a clock that can show when its time is up, and a frame needs a
length that fits. The copies of a packet are counted one by one, but there are no more stations than
hardware addresses. -/

namespace LocalPlay.Checked

open Engine

/-! ## Whom a packet is for -/

def isBroadcast (s : Setup) (ip : IpAddress) : Checked Bool := do
  if ip = ⟨s.subnet.network.bits ||| ~~~ (← maskBits s.subnet.prefixLength)⟩ then return true
  return ip = .limitedBroadcast

theorem isBroadcast_eq {s : Setup} (short : s.subnet.prefixLength ≤ 32) (ip : IpAddress) :
    isBroadcast s ip = pure (decide (s.IsBroadcast ip)) := by
  rw [isBroadcast, maskBits_eq short, pure_bind]
  by_cases directed : ip = s.broadcast
  · have every : s.IsBroadcast ip := .inl directed
    rw [decide_eq_true every]
    exact if_pos directed
  · have limited : s.IsBroadcast ip ↔ ip = .limitedBroadcast := or_iff_right directed
    rw [decide_eq_decide.2 limited]
    exact if_neg directed

/-! ## The table of hosts -/

/-- The instant some time after another, if the clock can show it. -/
def later (now : Instant) (ttl : Nat) : Checked Instant :=
  allow (now + ttl) (now + ttl < Arp.Cache.clockEnd) .overflow

def insert (c : Arp.Cache) (now : Instant) (mac : MacAddress) (ip : IpAddress) :
    Checked Arp.Cache :=
  if ip = .unspecified then return c
  else do
    let entry : Arp.Entry := ⟨ip, mac, ← later now c.ttl⟩
    return { c with entries := Arp.Cache.without ip (c.makeRoom ip) ++ [entry] }

theorem insert_eq {c : Arp.Cache} {now : Instant} (shown : now + c.ttl < Arp.Cache.clockEnd)
    (mac : MacAddress) (ip : IpAddress) : insert c now mac ip = pure (c.insert now mac ip) := by
  rw [insert, Arp.Cache.insert]
  by_cases nobody : ip = .unspecified
  · rw [if_pos nobody, if_pos nobody]
  · rw [if_neg nobody, if_neg nobody, later, allow_eq shown, pure_bind]

/-- Whether to answer for the target of a packet, one question after the other. -/
def answers (subnet : Subnet) (now : Instant) (cache : Arp.Cache) (p : Arp.Packet) :
    Checked Bool := do
  if p.operation? ≠ some .request then return false
  if ¬ (← contains subnet p.targetIp) then return false
  if p.IsProbe ∨ p.IsGratuitous then return false
  return cache.lookup now p.targetIp = none

theorem answers_eq {subnet : Subnet} (short : subnet.prefixLength ≤ 32) (now : Instant)
    (cache : Arp.Cache) (p : Arp.Packet) :
    answers subnet now cache p = pure (decide (Arp.Answers subnet now cache p)) := by
  rw [answers, contains_eq short, pure_bind]
  by_cases request : p.operation? = some .request
  · by_cases member : p.targetIp ∈ subnet
    · by_cases probe : p.IsProbe
      · simp [request, member, probe, Arp.Answers]
      · by_cases gratuitous : p.IsGratuitous
        · simp [request, member, probe, gratuitous, Arp.Answers]
        · simp [request, member, probe, gratuitous, Arp.Answers]
    · simp [request, member, Arp.Answers]
  · simp [request, Arp.Answers]

def process (subnet : Subnet) (localMac : MacAddress) (now : Instant) (cache : Arp.Cache)
    (frame : FrameView) : Checked (Arp.Cache × Arp.Action) := do
  match ← arpPacket (← frame.payload) with
  | .error _ => return (cache, .ignored)
  | .ok p =>
    if ¬ p.IsEthernetIpv4 then return (cache, .ignored)
    let cache' ← insert cache now p.senderMac p.senderIp
    if ¬ (← answers subnet now cache' p) then return (cache', .learned)
    let reply := Arp.Packet.reply localMac p.targetIp p.senderMac p.senderIp
    return (cache', .reply ⟨p.senderMac, localMac, Link.EtherType.arp.code, ← arpBytes reply⟩)

theorem process_eq {subnet : Subnet} {localMac : MacAddress} {now : Instant} {cache : Arp.Cache}
    {view : FrameView} {frame : Link.Frame} (short : subnet.prefixLength ≤ 32)
    (shown : now + cache.ttl < Arp.Cache.clockEnd) (viewed : view.Shows frame) :
    process subnet localMac now cache view
      = pure (Arp.process subnet localMac now cache frame) := by
  rw [process, viewed.payload, pure_bind, arpPacket_eq, pure_bind, Arp.process]
  cases Arp.Packet.parse frame.payload with
  | error why => rfl
  | ok p =>
    simp only
    by_cases resolves : p.IsEthernetIpv4
    · rw [if_neg (not_not.2 resolves), if_pos resolves, insert_eq shown, pure_bind,
        answers_eq short, pure_bind, arpBytes_eq, pure_bind]
      simp only [decide_eq_true_eq]
      by_cases answered : Arp.Answers subnet now (cache.insert now p.senderMac p.senderIp) p
      · rw [if_neg (not_not.2 answered), if_pos answered]
        rfl
      · rw [if_pos answered, if_neg answered]
    · rw [if_pos resolves, if_neg resolves]

/-! ## Onto the link -/

/-- Puts a frame on the link; it is built with room for its header and its payload. -/
def transmit (e : Engine) (frame : Link.Frame) : Checked (Engine × Bool) := do
  let _ ← add lengthBits Link.Frame.headerSize frame.payload.length
  return e.transmit frame

def makePacket (e : Engine) (src dst : IpAddress) (protocol : Internet.Protocol) (message : Bytes) :
    Checked (Engine × Bytes) := do
  let packet ← draftBytes {
    identification := e.nextIdentification
    protocol := protocol.code
    src := src
    dst := dst
    payload := message }
  return ({ e with nextIdentification := e.nextIdentification + 1 }, packet)

def transmitPacket (e : Engine) (dst : MacAddress) (packet : Bytes) : Checked (Engine × Bool) :=
  transmit e (e.packetFrame dst packet)

/-- Puts copies of a packet on the link, and counts on from those that were taken before. -/
def transmitCopies (e : Engine) (packet : Bytes) (copies : Nat) :
    List MacAddress → Checked (Engine × Nat)
  | [] => return (e, copies)
  | mac :: macs => do
    let (e', taken) ← transmitPacket e mac packet
    transmitCopies e' packet (← if taken then add lengthBits copies 1 else pure copies) macs

def fanOut (e : Engine) (now : Instant) (packet : Bytes) (leftOut : Option MacAddress) :
    Checked (Engine × Nat) := do
  let (e', copies) ← transmitCopies e packet 0 (e.audience now leftOut)
  return (e'.countMany .broadcastFanout (UInt64.ofNat copies), copies)

def say (e : Engine) (now : Instant) (c : Connection) (m : Tcp.Message) : Checked Engine := do
  let client := c.flow.client
  let server := c.flow.server
  let segment : Tcp.Draft := {
    srcPort := server.port
    dstPort := client.port
    seq := m.seq
    ack := m.ack
    flags := m.flags
    payload := m.payload }
  let message ← segmentBytes segment server.ip client.ip
  let (e', packet) ← makePacket e server.ip client.ip .tcp message
  let (e'', _) ← transmitPacket e' ((e'.arp.lookup now client.ip).getD c.clientMac) packet
  return e''

variable {e : Engine} {packet message : Bytes}

theorem transmit_eq {frame : Link.Frame} (short : frame.payload.length < 2 ^ 63) :
    transmit e frame = pure (e.transmit frame) := by
  rw [transmit, add_length_eq (by decide) short, pure_bind]

theorem makePacket_eq (short : message.length < 2 ^ 63) (src dst : IpAddress)
    (protocol : Internet.Protocol) :
    makePacket e src dst protocol message = pure (e.makePacket src dst protocol message) := by
  rw [makePacket, draftBytes_eq short, pure_bind, Engine.makePacket]

theorem transmitPacket_eq (short : packet.length < 2 ^ 63) (dst : MacAddress) :
    transmitPacket e dst packet = pure (e.transmitPacket dst packet) :=
  transmit_eq short

theorem transmitCopies_eq {copies : Nat} {macs : List MacAddress} (short : packet.length < 2 ^ 63)
    (fits : copies + macs.length < 2 ^ lengthBits) :
    transmitCopies e packet copies macs
      = pure ((e.transmitCopies packet macs).1, copies + (e.transmitCopies packet macs).2) := by
  induction macs generalizing e copies with
  | nil => rfl
  | cons mac macs ih =>
    rw [List.length_cons] at fits
    rw [transmitCopies, transmitPacket_eq short, pure_bind, Engine.transmitCopies]
    obtain ⟨e', taken⟩ := e.transmitPacket mac packet
    cases taken with
    | true =>
      simp only [if_true]
      rw [add_eq (by omega), pure_bind, ih (by omega), Nat.add_assoc]
    | false =>
      simp only [Bool.false_eq_true, if_false]
      rw [pure_bind, ih (by omega), Nat.zero_add]

/-- There are no more stations in ascending order than there are hardware addresses. -/
theorem length_le_of_ascending {macs : List MacAddress}
    (ascending : macs.Pairwise (·.toNat < ·.toNat)) : macs.length ≤ 2 ^ 48 := by
  have nodup : (macs.map MacAddress.toNat).Nodup :=
    (List.pairwise_map.2 ascending).imp Nat.ne_of_lt
  have bounded : macs.map MacAddress.toNat ⊆ List.range (2 ^ 48) := by
    intro n hn
    obtain ⟨mac, -, rfl⟩ := List.mem_map.1 hn
    exact List.mem_range.2 (Bytes.toNatBE_lt mac.toBytes)
  have few := (nodup.subperm bounded).length_le
  rwa [List.length_map, List.length_range] at few

theorem fanOut_eq (short : packet.length < 2 ^ 63) (now : Instant) (leftOut : Option MacAddress) :
    fanOut e now packet leftOut = pure (e.fanOut now packet leftOut) := by
  have few := length_le_of_ascending (pairwise_audience e now leftOut)
  have fits : 0 + (e.audience now leftOut).length < 2 ^ lengthBits := by
    simp only [lengthBits]
    omega
  rw [fanOut, transmitCopies_eq short fits, pure_bind, Engine.fanOut]
  simp only [Nat.zero_add]

theorem length_makePacket (e : Engine) (src dst : IpAddress) (protocol : Internet.Protocol)
    (message : Bytes) : (e.makePacket src dst protocol message).2.length = 20 + message.length :=
  Internet.Draft.length_toBytes _

/-- A message that leaves two bits of a length free leaves room for all headers. -/
theorem say_eq {m : Tcp.Message} (short : m.payload.length < 2 ^ 62) (now : Instant)
    (c : Connection) : say e now c m = pure (e.say now c m) := by
  rw [say, Engine.say]
  simp only
  generalize same : Tcp.Draft.mk .. = segment
  have payload : segment.payload.length < 2 ^ 62 := by rwa [← same]
  have options : segment.optionArea.length ≤ 40 := segment.length_optionArea_le
  have message : (segment.toBytes c.flow.server.ip c.flow.client.ip).length < 2 ^ 62 + 60 := by
    rw [Tcp.Draft.length_toBytes, Tcp.headerSize]
    omega
  rw [segmentBytes_eq (by omega), pure_bind, makePacket_eq (by omega), pure_bind]
  have packet := length_makePacket e c.flow.server.ip c.flow.client.ip .tcp
    (segment.toBytes c.flow.server.ip c.flow.client.ip)
  rw [transmitPacket_eq (by omega), pure_bind]

end LocalPlay.Checked
