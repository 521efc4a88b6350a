import LocalPlay.Proofs.Engine.SendToAll
import LocalPlay.Proofs.Udp.DatagramRoundTrip

set_option autoImplicit false

/-! # Sending to one host

A datagram for one host goes to the station that has its address. If the table of hosts does not
know it, the link is asked and the datagram waits; what the table knows after the wait decides. The
packet is made before the wait, and anything may happen during it, so what is shown here is that
the call itself does exactly one of three things to the engine (`sendDatagram_toOne`). -/

namespace LocalPlay

/-! ## Questions -/

namespace Link.Frame

/-- A frame asks the whole link, for a station with an address, who has another address. -/
def Asks (frame : Link.Frame) (mac : MacAddress) (ip target : IpAddress) : Prop :=
  frame.dst = .broadcast ∧ frame.src = mac ∧ frame.etherType = EtherType.arp.code ∧
    ∃ p, Arp.Packet.parse frame.payload = .ok p ∧ p.IsEthernetIpv4 ∧
      p.operation? = some .request ∧ p.senderMac = mac ∧ p.senderIp = ip ∧ p.targetIp = target

theorem asks_requestFrame (mac : MacAddress) (ip target : IpAddress) :
    (Arp.requestFrame mac ip target).Asks mac ip target :=
  ⟨rfl, rfl, rfl, .request mac ip target, Arp.Packet.parse_toBytes _, ⟨rfl, rfl, rfl, rfl⟩, rfl,
    rfl, rfl, rfl⟩

/-- A frame from one station to another delivers a parcel: the readers find it whole in the frame,
    and the checksums of packet and datagram are there and hold. -/
def Delivers (frame : Link.Frame) (src dst : MacAddress) (parcel : Udp.Parcel) : Prop :=
  frame.src = src ∧ frame.dst = dst ∧ frame.etherType = EtherType.ipv4.code ∧
    ∃ p d, Internet.Packet.parse frame.payload = .ok p ∧ Udp.Datagram.parse p.payload = .ok d ∧
      p.protocol = Internet.Protocol.udp.code ∧ Engine.parcelOf p d = parcel ∧
      p.HeaderVerifies ∧ d.checksum ≠ 0 ∧ d.Verifies p.src p.dst

end Link.Frame

namespace Engine

variable {e : Engine} {parcel : Udp.Parcel} {mac : MacAddress} {now later : Instant}

/-- The frame with the packet that takes a parcel along delivers it. -/
theorem delivers_packetFrame (fits : parcel.payload.length ≤ Udp.payloadLimit) (e e' : Engine)
    (mac : MacAddress) :
    (e'.packetFrame mac (e.packetOf parcel)).Delivers e'.localMac mac parcel := by
  let draft := parcel.toPacket e.nextIdentification
  have short : Internet.Packet.headerSize + draft.payload.length ≤ 65535 := by
    have length : draft.payload.length = Udp.headerSize + parcel.payload.length :=
      Udp.Datagram.length_toBytes _
    simp only [length, Internet.Packet.headerSize, Udp.headerSize, Udp.payloadLimit] at fits ⊢
    omega
  have read := draft.parse_toBytes_append short []
  rw [List.append_nil] at read
  have src : draft.packet.src = parcel.src.ip := draft.src_packet
  have dst : draft.packet.dst = parcel.dst.ip := draft.dst_packet
  refine ⟨rfl, rfl, rfl, draft.packet, parcel.toDatagram, read,
    Udp.Datagram.parse_toBytes (Udp.Datagram.toNat_length_stamped _ _ _ _ fits),
    draft.protocol_packet, ?_, draft.headerVerifies_packet,
    Udp.Datagram.checksum_stamped_ne_zero _ _ _ _ _, ?_⟩
  · rw [parcelOf, src, dst]
    rfl
  · rw [src, dst]
    exact Udp.Datagram.verifies_stamped _ _ _ _ fits

/-! ## A host that is not known -/

section Send

variable (up : e.LinkUp)
include up

theorem beginSend_of_unknown (one : ¬ e.setup.IsBroadcast parcel.dst.ip)
    (unknown : e.arp.lookup now parcel.dst.ip = none) :
    e.beginSend now parcel =
      ((e.numbered.count .arpRequests).put
        (Arp.requestFrame e.localMac parcel.src.ip parcel.dst.ip), .asked (e.packetOf parcel)) := by
  have unknown' : e.numbered.arp.lookup now parcel.dst.ip = none := unknown
  have one' : ¬ e.numbered.setup.IsBroadcast parcel.dst.ip := one
  have asked (frame : Link.Frame) :=
    transmit_of_takes (e := e.numbered.count .arpRequests) (up frame)
  simp only [beginSend, makePacket_eq, unknown', if_neg one', asked, if_true]
  rfl

theorem finishSend_of_known {dst : IpAddress} (packet : Bytes)
    (known : e.arp.lookup later dst = some mac) :
    e.finishSend later dst packet = (e.put (e.packetFrame mac packet), .ok 1) := by
  simp only [finishSend, known, sendPacket_of_linkUp up]

end Send

theorem finishSend_of_unknown {dst : IpAddress} (packet : Bytes)
    (unknown : e.arp.lookup later dst = none) :
    e.finishSend later dst packet = (e.count .unresolvedDrops, .error (.unresolved dst)) := by
  simp only [finishSend, unknown]

/-! ## The wait -/

/-- The engine after a row of happenings. -/
def happenAll (e : Engine) (happenings : List Happening) : Engine := happenings.foldl happen e

theorem continues_happenAll (e : Engine) (happenings : List Happening) :
    e.Continues (e.happenAll happenings) := by
  induction happenings generalizing e with
  | nil => exact .refl e
  | cons happening happenings ih => exact (continues_happen e happening).trans (ih _)

/-- After a happening the link takes whatever frame it is offered, if it did so before. -/
def Happening.KeepsLinkUp : Happening → Prop
  | link takes => ∀ frame, takes frame = true
  | _ => True

/-- Only a change of the link makes the link refuse frames. -/
theorem linkUp_happen (up : e.LinkUp) {happening : Happening} (keeps : happening.KeepsLinkUp) :
    (e.happen happening).LinkUp := by
  cases happening with
  | frame now data => exact (relays_handleFrame e now data).linkUp up
  | target => exact (relays_hearTarget ..).linkUp up
  | late => exact (relays_meet ..).linkUp up
  | relay => exact (relays_changeRelay ..).linkUp up
  | beginSend => exact (utters_beginSend ..).toRelays.linkUp up
  | finishSend => exact (utters_finishSend ..).toRelays.linkUp up
  | arp => exact up
  | sweep now =>
    have retired := relays_foldl_retire e (e.connections.filter fun c => c.session.isClosed)
    exact retired.linkUp up
  | start =>
    rw [happen, start]
    split <;> exact up
  | stop =>
    rw [happen, stop]
    split <;> exact up
  | link takes => exact keeps

theorem linkUp_happenAll (up : e.LinkUp) {happenings : List Happening}
    (keep : ∀ happening ∈ happenings, happening.KeepsLinkUp) : (e.happenAll happenings).LinkUp := by
  induction happenings generalizing e with
  | nil => exact up
  | cons happening happenings ih =>
    rw [happenAll, List.foldl_cons]
    exact ih (linkUp_happen up (keep happening List.mem_cons_self))
      fun h hh => keep h (List.mem_cons_of_mem _ hh)

/-- **A datagram for one host goes to its station, or is given up after one question.** Whatever
    the engine has been through, and whatever happens while the datagram waits, as long as the link
    takes frames: if the table knows the host at the call, the station that it names gets one frame.
    Otherwise the whole link is asked once. Then the table as it is after the wait decides: either
    the station that it names then gets one frame, or one datagram is counted as dropped and the
    call fails. Nothing else changes by the call, and each frame delivers the datagram as it was
    given. -/
theorem sendDatagram_toOne (e : Engine) (up : e.LinkUp) (now later : Instant)
    (parcel : Udp.Parcel) (fits : parcel.payload.length ≤ Udp.payloadLimit)
    (one : ¬ e.setup.IsBroadcast parcel.dst.ip) (meanwhile : List Happening)
    (keep : ∀ happening ∈ meanwhile, happening.KeepsLinkUp) :
    let question := Arp.requestFrame e.localMac parcel.src.ip parcel.dst.ip
    let waited := ((e.numbered.count .arpRequests).put question).happenAll meanwhile
    (∀ mac, e.arp.lookup now parcel.dst.ip = some mac → ∃ frame : Link.Frame,
      frame.Delivers e.localMac mac parcel ∧
      e.sendDatagram now later parcel (happenAll · meanwhile)
        = (e.numbered.put frame, .ok 1)) ∧
    (e.arp.lookup now parcel.dst.ip = none →
      question.Asks e.localMac parcel.src.ip parcel.dst.ip ∧
      (∀ mac, waited.arp.lookup later parcel.dst.ip = some mac → ∃ frame : Link.Frame,
        frame.Delivers e.localMac mac parcel ∧
        e.sendDatagram now later parcel (happenAll · meanwhile) = (waited.put frame, .ok 1)) ∧
      (waited.arp.lookup later parcel.dst.ip = none →
        e.sendDatagram now later parcel (happenAll · meanwhile)
          = (waited.count .unresolvedDrops, .error (.unresolved parcel.dst.ip)))) := by
  intro question waited
  constructor
  · intro mac known
    refine ⟨_, delivers_packetFrame fits e e mac, ?_⟩
    exact sendDatagram_of_known up now later parcel (happenAll · meanwhile) known
  · intro unknown
    have askedUp : ((e.numbered.count .arpRequests).put question).LinkUp := up
    have waitedUp : waited.LinkUp := linkUp_happenAll askedUp keep
    have ours : waited.localMac = e.localMac := (continues_happenAll _ meanwhile).localMac
    refine ⟨Link.Frame.asks_requestFrame .., fun mac known => ?_, fun unknown' => ?_⟩
    · have delivers := delivers_packetFrame fits e waited mac
      rw [ours] at delivers
      refine ⟨_, delivers, ?_⟩
      simp only [sendDatagram, beginSend_of_unknown up one unknown]
      exact finishSend_of_known waitedUp _ known
    · simp only [sendDatagram, beginSend_of_unknown up one unknown]
      exact finishSend_of_unknown _ unknown'

/-- What the gateway says to one host. -/
def callToOne : Udp.Parcel := ⟨⟨⟨0x0A0D2501⟩, 11452⟩, ⟨⟨0x0A0D0005⟩, 11452⟩, [7]⟩

/-- The host answers before the table is swept. -/
def answered : List Happening := [.frame 1 (announcement (station 5) ⟨0x0A0D0005⟩), .sweep 2]

/-- The station that answers gets the datagram. Without an answer it is given up. -/
theorem sendDatagram_toOne_answered :
    let e := Engine.new .home .zero UInt32.ofNat
    ((e.LinkUp ∧ callToOne.payload.length ≤ Udp.payloadLimit ∧
        ¬ e.setup.IsBroadcast callToOne.dst.ip) ∧
      (∀ happening ∈ answered, happening.KeepsLinkUp) ∧
      e.arp.lookup 0 callToOne.dst.ip = none) ∧
    (∃ waited frame, frame.Delivers .zero (station 5) callToOne ∧
      e.sendDatagram 0 3 callToOne (happenAll · answered) = (put waited frame, .ok 1)) ∧
    (e.sendDatagram 0 3 callToOne (happenAll · [])).2
      = .error (.unresolved ⟨0x0A0D0005⟩) := by
  intro e
  have possible : e.LinkUp ∧ callToOne.payload.length ≤ Udp.payloadLimit ∧
      ¬ e.setup.IsBroadcast callToOne.dst.ip := ⟨fun _ => rfl, by decide, by decide⟩
  have keep : ∀ happening ∈ answered, happening.KeepsLinkUp := by
    simp [answered, Happening.KeepsLinkUp]
  have unknown : e.arp.lookup 0 callToOne.dst.ip = none := rfl
  have send (meanwhile : List Happening) (keep : ∀ h ∈ meanwhile, h.KeepsLinkUp) :=
    (sendDatagram_toOne e possible.1 0 3 callToOne possible.2.1 possible.2.2 meanwhile keep).2
      unknown
  obtain ⟨-, delivered, -⟩ := send answered keep
  obtain ⟨-, -, givenUp⟩ := send [] (by simp)
  obtain ⟨frame, delivers, sent⟩ := delivered (station 5) (by decide +kernel)
  exact ⟨⟨possible, keep, unknown⟩, ⟨_, frame, delivers, sent⟩,
    congrArg Prod.snd (givenUp (by decide +kernel))⟩

end Engine

end LocalPlay
