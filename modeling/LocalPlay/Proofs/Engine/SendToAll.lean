import LocalPlay.Proofs.Arp.Recency
import LocalPlay.Proofs.Engine.FanOut

set_option autoImplicit false

/-! # Sending to every host

A datagram for every host is to go to each station that was heard. The sender looks into the table
of hosts first, and only if the table does not know the destination does it ask whether that stands
for every host. Now the table believes whatever a frame says about its sender, so a frame that
claims the address of every host as its own gets all that is sent there, and nobody else gets it,
for as long as the claim counts. -/

namespace LocalPlay.Engine

variable {e : Engine}

/-! ## What frames teach -/

/-- What frames teach about hosts. -/
def taught (e : Engine) (frames : List (Instant × Bytes)) : List Arp.Change :=
  frames.flatMap fun frame => (e.read frame.2).lessons frame.1

theorem arp_handleFrames (e : Engine) (frames : List (Instant × Bytes)) :
    (e.handleFrames frames).arp = e.arp.run (e.taught frames) := by
  induction frames using List.reverseRecOn with
  | nil => rfl
  | append_singleton frames frame ih =>
    have same := (leads_handleFrames e frames).continues
    have step := relays_handleFrame (e.handleFrames frames) frame.1 frame.2
    rw [read_congr same.setup same.localMac] at step
    rw [handleFrames_concat, step.same_arp, taught, List.flatMap_append, List.flatMap_singleton,
      Arp.Cache.run_append, ← taught, ← ih]
    rfl

/-- A lesson is dated with the time of its frame. -/
theorem Reading.date_of_lesson {reading : Reading} {now date : Instant} {mac : MacAddress}
    {ip : IpAddress} (lesson : .insert date mac ip ∈ reading.lessons now) : date = now := by
  cases reading with
  | other | dropped => exact absurd lesson List.not_mem_nil
  | resolution | packet =>
    cases List.mem_singleton.1 lesson
    rfl

/-- What the table knows, a frame has said, and not too long ago. -/
theorem taught_of_lookup {setup : Setup} {localMac : MacAddress} {words : Nat → UInt32}
    {frames : List (Instant × Bytes)} {now : Instant} {ip : IpAddress} {mac : MacAddress}
    (known : ((Engine.new setup localMac words).handleFrames frames).arp.lookup now ip = some mac) :
    ∃ frame ∈ frames, now < frame.1 + (setup.arpTtl * nanosPerMilli : Nat) ∧
      .insert frame.1 mac ip
        ∈ ((Engine.new setup localMac words).read frame.2).lessons frame.1 := by
  rw [arp_handleFrames] at known
  obtain ⟨entry, held, fresh, rfl⟩ := Arp.Cache.lookup_eq_some_iff.1 known
  obtain ⟨mem, rfl⟩ := KeyedList.mem_of_find? held
  obtain ⟨s, since, last, expires⟩ := Arp.Cache.lastNoted_of_mem mem
  obtain ⟨frame, hframe, lesson⟩ := List.mem_flatMap.1 last.mem
  obtain rfl := Reading.date_of_lesson lesson
  exact ⟨frame, hframe, expires ▸ fresh, lesson⟩

/-! ## What is sent -/

/-- The packet that takes a datagram along. -/
def packetOf (e : Engine) (parcel : Udp.Parcel) : Bytes :=
  (e.makePacket parcel.src.ip parcel.dst.ip .udp parcel.toDatagram.toBytes).2

/-- The engine after it made a packet. -/
def numbered (e : Engine) : Engine := { e with nextIdentification := e.nextIdentification + 1 }

theorem makePacket_eq (e : Engine) (parcel : Udp.Parcel) :
    e.makePacket parcel.src.ip parcel.dst.ip .udp parcel.toDatagram.toBytes
      = (e.numbered, e.packetOf parcel) := rfl

/-- The engine after the link took a frame. -/
def put (e : Engine) (frame : Link.Frame) : Engine :=
  { e with
    sent := e.sent ++ [frame]
    counters := e.counters.addSent (Link.Frame.headerSize + frame.payload.length) }

section Send

variable (up : e.LinkUp) (now later : Instant) (parcel : Udp.Parcel)
  (during : Engine → Engine)
include up

theorem sendPacket_of_linkUp (mac : MacAddress) (packet : Bytes) :
    e.sendPacket mac packet = (e.put (e.packetFrame mac packet), .ok 1) := by
  simp only [sendPacket, transmitPacket, transmit_of_takes (up _), if_true]
  rfl

theorem sendDatagram_of_known {mac : MacAddress}
    (known : e.arp.lookup now parcel.dst.ip = some mac) :
    e.sendDatagram now later parcel during
      = (e.numbered.put (e.packetFrame mac (e.packetOf parcel)), .ok 1) := by
  have known' : e.numbered.arp.lookup now parcel.dst.ip = some mac := known
  have sent := sendPacket_of_linkUp (e := e.numbered) up mac (e.packetOf parcel)
  simp only [sendDatagram, beginSend, makePacket_eq, known', sent]
  rfl

theorem sendDatagram_of_unknown (toAll : e.setup.IsBroadcast parcel.dst.ip)
    (unknown : e.arp.lookup now parcel.dst.ip = none) :
    (e.sendDatagram now later parcel during).1.sent
        = e.sent ++ (e.audience now none).map (e.packetFrame · (e.packetOf parcel)) ∧
      (e.sendDatagram now later parcel during).2 = .ok (e.audience now none).length := by
  have unknown' : e.numbered.arp.lookup now parcel.dst.ip = none := unknown
  have toAll' : e.numbered.setup.IsBroadcast parcel.dst.ip := toAll
  have sending : e.sendDatagram now later parcel during =
      ((e.numbered.fanOut now (e.packetOf parcel) none).1,
        .ok (e.numbered.fanOut now (e.packetOf parcel) none).2) := by
    simp only [sendDatagram, beginSend, makePacket_eq, unknown', toAll', if_true]
  obtain ⟨sent, copies, -⟩ := fanOut_of_linkUp (e := e.numbered) up now (e.packetOf parcel) none
  rw [sending, copies]
  exact ⟨sent, rfl⟩

end Send

/-- **A datagram for every host reaches every host unless a frame has claimed their address.** The
    engine has handled whatever frames. If the table does not know the destination, each station
    that an entry names which still counts gets one copy, in ascending order, and the number of
    copies is the answer. If it does, one of the frames named the destination as its sender's
    address, no longer ago than an entry counts, and the station of that frame gets the only
    copy. -/
theorem sendDatagram_toAll (setup : Setup) (localMac : MacAddress) (words : Nat → UInt32)
    (frames : List (Instant × Bytes)) (now later : Instant) (parcel : Udp.Parcel)
    (during : Engine → Engine) (toAll : setup.IsBroadcast parcel.dst.ip) {e : Engine}
    (handled : e = (Engine.new setup localMac words).handleFrames frames) :
    (e.arp.lookup now parcel.dst.ip = none → ∃ macs : List MacAddress,
      macs.Pairwise (·.toNat < ·.toNat) ∧
      (∀ mac, mac ∈ macs ↔ (∃ ip, e.arp.lookup now ip = some mac) ∧ mac ≠ localMac) ∧
      (e.sendDatagram now later parcel during).1.sent
        = e.sent ++ macs.map (e.packetFrame · (e.packetOf parcel)) ∧
      (e.sendDatagram now later parcel during).2 = .ok macs.length) ∧
    ∀ mac, e.arp.lookup now parcel.dst.ip = some mac →
      (e.sendDatagram now later parcel during).1.sent
        = e.sent ++ [e.packetFrame mac (e.packetOf parcel)] ∧
      (e.sendDatagram now later parcel during).2 = .ok 1 ∧
      ∃ frame ∈ frames, now < frame.1 + (setup.arpTtl * nanosPerMilli : Nat) ∧
        .insert frame.1 mac parcel.dst.ip
          ∈ ((Engine.new setup localMac words).read frame.2).lessons frame.1 := by
  have run : (Engine.new setup localMac words).Leads e := handled ▸ leads_handleFrames ..
  have up : e.LinkUp := handled ▸ linkUp_handleFrames (fun _ => rfl) frames
  have same : e.setup = setup := run.continues.setup
  have ours : e.localMac = localMac := run.continues.localMac
  constructor
  · intro unknown
    obtain ⟨sent, copies⟩ :=
      sendDatagram_of_unknown up now later parcel during (same ▸ toAll) unknown
    refine ⟨e.audience now none, pairwise_audience .., ?_, sent, copies⟩
    intro mac
    rw [mem_audience run.wellFormed, ours]
    simp
  · intro mac known
    rw [sendDatagram_of_known up now later parcel during known]
    exact ⟨rfl, rfl, taught_of_lookup (handled ▸ known)⟩

/-- Two stations that have an address each. -/
def neighbours : List (Instant × Bytes) :=
  [(0, announcement (station 2) ⟨0x0A0D0002⟩), (1, announcement (station 3) ⟨0x0A0D0003⟩)]

/-- A third one, which claims the address of every host. -/
def impostor : Instant × Bytes := (2, announcement (station 9) ⟨0x0A0DFFFF⟩)

/-- What the gateway says to every host. -/
def callToAll : Udp.Parcel := ⟨⟨⟨0x0A0D2501⟩, 11452⟩, ⟨⟨0x0A0DFFFF⟩, 11452⟩, [7]⟩

/-- The neighbours both get it. -/
theorem sendDatagram_toAll_neighbours :
    Setup.home.IsBroadcast callToAll.dst.ip ∧
      ∃ macs : List MacAddress, station 2 ∈ macs ∧ station 3 ∈ macs ∧
        (((Engine.new .home .zero UInt32.ofNat).handleFrames neighbours).sendDatagram
          3 3 callToAll id).2 = .ok macs.length := by
  obtain ⟨spread, -⟩ :=
    sendDatagram_toAll .home .zero UInt32.ofNat neighbours 3 3 callToAll id (by decide) rfl
  obtain ⟨macs, -, mem, -, copies⟩ := spread (by decide +kernel)
  refine ⟨by decide, macs, (mem _).2 ?_, (mem _).2 ?_, copies⟩
  · exact ⟨⟨⟨0x0A0D0002⟩, by decide +kernel⟩, by decide⟩
  · exact ⟨⟨⟨0x0A0D0003⟩, by decide +kernel⟩, by decide⟩

/-- A datagram for every host does not always reach every host. -/
theorem not_forall_sendDatagram_toAll :
    ¬ ∀ (setup : Setup) (localMac : MacAddress) (words : Nat → UInt32)
      (frames : List (Instant × Bytes)) (now later : Instant) (parcel : Udp.Parcel)
      (during : Engine → Engine), setup.IsBroadcast parcel.dst.ip →
      let e := (Engine.new setup localMac words).handleFrames frames
      ∃ macs : List MacAddress, macs.Nodup ∧
        (∀ mac, mac ∈ macs ↔ (∃ ip, e.arp.lookup now ip = some mac) ∧ mac ≠ localMac) ∧
        (e.sendDatagram now later parcel during).1.sent
          = e.sent ++ macs.map (e.packetFrame · (e.packetOf parcel)) ∧
        (e.sendDatagram now later parcel during).2 = .ok macs.length := by
  intro h
  let e := (Engine.new .home .zero UInt32.ofNat).handleFrames (neighbours ++ [impostor])
  obtain ⟨macs, -, mem, -, copies⟩ :=
    h .home .zero UInt32.ofNat (neighbours ++ [impostor]) 3 3 callToAll id (by decide)
  -- the table knows the address of every host, so one copy is sent, and there are two neighbours
  have known : e.arp.lookup 3 callToAll.dst.ip = some (station 9) := by decide +kernel
  have up : e.LinkUp := linkUp_handleFrames (fun _ => rfl) _
  have one := congrArg Prod.snd (sendDatagram_of_known up 3 3 callToAll id known)
  obtain ⟨mac, rfl⟩ := List.length_eq_one_iff.1 (Except.ok.inj (copies.symm.trans one))
  have second : station 2 ∈ [mac] := (mem _).2 ⟨⟨⟨0x0A0D0002⟩, by decide +kernel⟩, by decide⟩
  have third : station 3 ∈ [mac] := (mem _).2 ⟨⟨⟨0x0A0D0003⟩, by decide +kernel⟩, by decide⟩
  have alike := (List.mem_singleton.1 second).trans (List.mem_singleton.1 third).symm
  exact absurd alike (by decide)

end LocalPlay.Engine
