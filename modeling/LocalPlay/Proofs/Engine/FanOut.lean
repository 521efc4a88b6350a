import LocalPlay.Proofs.Engine.Effects

set_option autoImplicit false

/-! # Copies for every host

The link carries frames for one station only, so a packet for every host goes out as one copy for
each station. `Engine.audience` says which stations: every station that an entry which still counts
names, once, in ascending order, without the engine's own address and without the station that is
left out. -/

namespace LocalPlay.Engine

variable {e : Engine}

/-! ## Who gets a copy -/

/-- Dropping repetitions leaves an ascending list strictly ascending. -/
theorem pairwise_eraseDups : (macs : List MacAddress) → macs.Pairwise (·.toNat ≤ ·.toNat) →
    macs.eraseDups.Pairwise (·.toNat < ·.toNat)
  | [], _ => .nil
  | mac :: macs, ascending => by
    obtain ⟨least, rest⟩ := List.pairwise_cons.1 ascending
    rw [List.eraseDups_cons]
    refine List.pairwise_cons.2 ⟨?_, pairwise_eraseDups _ (rest.filter _)⟩
    intro m hm
    obtain ⟨mem, ne⟩ := List.mem_filter.1 (List.mem_eraseDups.1 hm)
    refine Nat.lt_of_le_of_ne (least m mem) fun same => ?_
    simp [MacAddress.toNat_injective same] at ne
termination_by macs => macs.length
decreasing_by exact Nat.lt_succ_of_le (List.length_filter_le ..)

theorem pairwise_audience (e : Engine) (now : Instant) (leftOut : Option MacAddress) :
    (e.audience now leftOut).Pairwise (·.toNat < ·.toNat) := by
  refine (pairwise_eraseDups _ ?_).filter _
  refine (List.pairwise_mergeSort ?_ ?_ _).imp of_decide_eq_true
  · intro a b c ab bc
    exact decide_eq_true (Nat.le_trans (of_decide_eq_true ab) (of_decide_eq_true bc))
  · intro a b
    simpa using Nat.le_total a.toNat b.toNat

theorem mem_audience (wf : e.arp.WellFormed) {now : Instant} {leftOut : Option MacAddress}
    {mac : MacAddress} : mac ∈ e.audience now leftOut ↔
      (∃ ip, e.arp.lookup now ip = some mac) ∧ some mac ≠ leftOut ∧ mac ≠ e.localMac := by
  have heard : mac ∈ (e.arp.bindings now).map Prod.snd ↔ ∃ ip, e.arp.lookup now ip = some mac := by
    simp only [List.mem_map, Prod.exists, exists_eq_right, wf.mem_bindings_iff]
  rw [audience, List.mem_filter, List.mem_eraseDups, List.mem_mergeSort, heard]
  simp

/-! ## What goes out -/

/-- The link takes whatever frame it is offered. -/
def LinkUp (e : Engine) : Prop := ∀ frame, e.takes frame = true

theorem Relays.linkUp {e' : Engine} (relayed : e.Relays e') (up : e.LinkUp) : e'.LinkUp :=
  fun frame => (congrFun relayed.takes frame).trans (up frame)

theorem transmit_of_takes {frame : Link.Frame} (taken : e.takes frame = true) :
    e.transmit frame = ({ e with
      sent := e.sent ++ [frame]
      counters := e.counters.addSent (Link.Frame.headerSize + frame.payload.length) }, true) :=
  if_pos taken

theorem transmit_of_not_takes {frame : Link.Frame} (refused : ¬ e.takes frame = true) :
    e.transmit frame = (e.count .txErrors, false) :=
  if_neg refused

theorem broadcastFanout_addSent (counters : Counters) (size : Nat) :
    (counters.addSent size).get .broadcastFanout = counters.get .broadcastFanout := by
  rw [Counters.addSent, Counters.get_add_of_ne (by decide), Counters.get_add_of_ne (by decide)]

/-- The frames with a copy for each of the stations that the link takes. -/
def takenCopies (e : Engine) (packet : Bytes) (macs : List MacAddress) : List Link.Frame :=
  (macs.map (e.packetFrame · packet)).filter e.takes

theorem takenCopies_of_linkUp (up : e.LinkUp) (packet : Bytes) (macs : List MacAddress) :
    e.takenCopies packet macs = macs.map (e.packetFrame · packet) :=
  List.filter_eq_self.2 fun frame _ => up frame

/-- The link refuses some copies and takes the others; only those are sent and counted. -/
theorem transmitCopies_takes (e : Engine) (packet : Bytes) (macs : List MacAddress) :
    (e.transmitCopies packet macs).1.sent = e.sent ++ e.takenCopies packet macs ∧
      (e.transmitCopies packet macs).2 = (e.takenCopies packet macs).length ∧
        (e.transmitCopies packet macs).1.counters.get .broadcastFanout
          = e.counters.get .broadcastFanout := by
  induction macs generalizing e with
  | nil => exact ⟨(List.append_nil _).symm, rfl, rfl⟩
  | cons mac macs ih =>
    by_cases taken : e.takes (e.packetFrame mac packet) = true
    · have copies : e.takenCopies packet (mac :: macs)
          = e.packetFrame mac packet :: e.takenCopies packet macs := List.filter_cons_of_pos taken
      simp only [transmitCopies, transmitPacket, transmit_of_takes taken, copies]
      obtain ⟨sent, number, fanout⟩ := ih { e with
        sent := e.sent ++ [e.packetFrame mac packet]
        counters := e.counters.addSent (Link.Frame.headerSize + packet.length) }
      refine ⟨sent.trans ?_, ?_, fanout.trans (broadcastFanout_addSent ..)⟩
      · rw [List.append_assoc, List.singleton_append]
        rfl
      · rw [List.length_cons, Nat.add_comm]
        exact congrArg (· + 1) number
    · have copies : e.takenCopies packet (mac :: macs) = e.takenCopies packet macs :=
        List.filter_cons_of_neg taken
      simp only [transmitCopies, transmitPacket, transmit_of_not_takes taken, copies]
      obtain ⟨sent, number, fanout⟩ := ih (e.count .txErrors)
      exact ⟨sent, (Nat.zero_add _).trans number,
        fanout.trans (Counters.get_add_of_ne (by decide) _ _)⟩

/-- A packet for every host goes to the audience, and the copies are counted. -/
theorem fanOut_of_linkUp (up : e.LinkUp) (now : Instant) (packet : Bytes)
    (leftOut : Option MacAddress) :
    (e.fanOut now packet leftOut).1.sent
        = e.sent ++ (e.audience now leftOut).map (e.packetFrame · packet) ∧
      (e.fanOut now packet leftOut).2 = (e.audience now leftOut).length ∧
        (e.fanOut now packet leftOut).1.counters.get .broadcastFanout
          = e.counters.get .broadcastFanout + .ofNat (e.audience now leftOut).length := by
  obtain ⟨sent, copies, fanout⟩ := transmitCopies_takes e packet (e.audience now leftOut)
  rw [takenCopies_of_linkUp up] at sent copies
  rw [List.length_map] at copies
  refine ⟨sent, copies, ?_⟩
  calc (e.fanOut now packet leftOut).1.counters.get .broadcastFanout
    _ = (e.transmitCopies packet (e.audience now leftOut)).1.counters.get .broadcastFanout
          + .ofNat (e.transmitCopies packet (e.audience now leftOut)).2 := Counters.get_add_self ..
    _ = _ := by rw [fanout, copies]

/-! ## Datagrams that come in -/

/-- Frames that come in leave the link as it is. -/
theorem linkUp_handleFrames (up : e.LinkUp) (frames : List (Instant × Bytes)) :
    (e.handleFrames frames).LinkUp := by
  induction frames using List.reverseRecOn with
  | nil => exact up
  | append_singleton frames frame ih =>
    rw [handleFrames_concat]
    exact (relays_handleFrame ..).linkUp ih

/-- Only a datagram is reported as one. -/
theorem Reading.datagram_of_events {reading : Reading} {srcMac : MacAddress} {parcel : Udp.Parcel}
    (events : reading.events = [.udp srcMac parcel]) :
    ∃ p d, reading = .packet srcMac p (.datagram d) ∧ parcel = parcelOf p d := by
  cases reading with
  | other | dropped | resolution => cases events
  | packet mac p content =>
    cases content with
    | other | dropped | echo | segment => cases events
    | datagram d =>
      cases events
      exact ⟨p, d, rfl, rfl⟩

/-- The engine when it has noted and reported a datagram that came in. -/
def noteDatagram (e : Engine) (now : Instant) (data : Bytes) (srcMac : MacAddress)
    (p : Internet.Packet) (d : Udp.Datagram) : Engine :=
  (((e.received data).learn now srcMac p.src).count .udpDelivered).report
    (.udp srcMac (parcelOf p d))

theorem broadcastFanout_noteDatagram (e : Engine) (now : Instant) (data : Bytes)
    (srcMac : MacAddress) (p : Internet.Packet) (d : Udp.Datagram) :
    (e.noteDatagram now data srcMac p d).counters.get .broadcastFanout
      = e.counters.get .broadcastFanout := by
  calc (e.noteDatagram now data srcMac p d).counters.get .broadcastFanout
    _ = (e.received data).counters.get .broadcastFanout := Counters.get_add_of_ne (by decide) _ _
    _ = (e.counters.add .rxFrames 1).get .broadcastFanout := Counters.get_add_of_ne (by decide) _ _
    _ = e.counters.get .broadcastFanout := Counters.get_add_of_ne (by decide) _ _

theorem handleFrame_of_datagram (now : Instant) {data : Bytes} {srcMac : MacAddress}
    {p : Internet.Packet} {d : Udp.Datagram}
    (reading : e.read data = .packet srcMac p (.datagram d)) :
    e.handleFrame now data =
      if e.setup.IsBroadcast p.dst then
        ((e.noteDatagram now data srcMac p d).fanOut now p.toBytes (some srcMac)).1
      else e.noteDatagram now data srcMac p d := by
  rw [handleFrame_eq, reading]
  rfl

theorem reported_handleFrame (e : Engine) (now : Instant) (data : Bytes) :
    (e.handleFrame now data).reported = e.reported ++ (e.read data).events :=
  (relays_handleFrame e now data).reported

/-- **A datagram for every host reaches every host, once.** A datagram that is reported has taught
    who sent it. If it is for every host, the packet that carries it goes out again, byte for byte
    and without padding: one frame of our own for each station that an entry of the table names
    which still counts, in ascending order, but none for the sender's station. If it is for anybody
    else, nothing goes out. -/
theorem inbound_broadcast_copies {setup : Setup} {localMac : MacAddress} {words : Nat → UInt32}
    (run : (Engine.new setup localMac words).Leads e) (up : e.LinkUp) {now : Instant}
    {data : Bytes} {srcMac : MacAddress} {parcel : Udp.Parcel} {e' : Engine}
    (handled : e' = e.handleFrame now data)
    (delivered : e'.reported = e.reported ++ [.udp srcMac parcel]) :
    ∃ frame p, Link.Frame.parse data = .ok frame ∧ frame.src = srcMac ∧
      Internet.Packet.parse frame.payload = .ok p ∧
      parcel.src.ip = p.src ∧ parcel.dst.ip = p.dst ∧
      e'.arp = e.arp.insert now srcMac p.src ∧
      (setup.IsBroadcast p.dst → ∃ macs : List MacAddress,
        macs.Pairwise (·.toNat < ·.toNat) ∧
        (∀ mac, mac ∈ macs ↔
          (∃ ip, e'.arp.lookup now ip = some mac) ∧ mac ≠ srcMac ∧ mac ≠ localMac) ∧
        e'.sent = e.sent ++ macs.map (fun mac => {
          dst := mac
          src := localMac
          etherType := Link.EtherType.ipv4.code
          payload := frame.payload.take (Internet.Packet.extent frame.payload) }) ∧
        e'.counters.get .broadcastFanout
          = e.counters.get .broadcastFanout + .ofNat macs.length) ∧
      (¬ setup.IsBroadcast p.dst → e'.sent = e.sent ∧
        e'.counters.get .broadcastFanout = e.counters.get .broadcastFanout) := by
  subst handled
  rw [reported_handleFrame, List.append_cancel_left_eq] at delivered
  obtain ⟨p, d, reading, rfl⟩ := Reading.datagram_of_events delivered
  obtain ⟨frame, parsed, src, parsed'⟩ := frame_of_read reading
  have same : e.setup = setup := run.continues.setup
  have handled := handleFrame_of_datagram now reading
  rw [same] at handled
  refine ⟨frame, p, parsed, src, parsed', rfl, rfl, ?_, ?_, ?_⟩
  · rw [handled]
    split
    · exact (utters_fanOut ..).same_arp
    · rfl
  · intro broadcast
    rw [if_pos broadcast] at handled
    -- `noted` is the engine that sends the copies: it knows the sender already
    let noted := e.noteDatagram now data srcMac p d
    have wf : noted.arp.WellFormed := run.wellFormed.insert now srcMac p.src
    have ours : noted.localMac = localMac := run.continues.localMac
    have known : (e.handleFrame now data).arp = noted.arp := handled ▸ (utters_fanOut ..).same_arp
    obtain ⟨sent, -, fanout⟩ := fanOut_of_linkUp (e := noted) up now p.toBytes (some srcMac)
    refine ⟨noted.audience now (some srcMac), pairwise_audience .., ?_, ?_, ?_⟩
    · intro mac
      rw [mem_audience wf, known, ours, Ne, Option.some.injEq]
    · have packet : p.toBytes = frame.payload.take (Internet.Packet.extent frame.payload) :=
        Internet.Packet.toBytes_of_parse parsed'
      rw [handled, sent]
      simp only [packetFrame, ours, packet]
      rfl
    · rw [handled, fanout, broadcastFanout_noteDatagram]
  · intro other
    rw [handled, if_neg other]
    exact ⟨rfl, broadcastFanout_noteDatagram ..⟩

/-- An engine that has heard three stations, one of them under two addresses. -/
def gathered : Engine :=
  (Engine.new .home .zero UInt32.ofNat).handleFrames [
    (0, announcement (station 4) ⟨0x0A0D0004⟩), (1, announcement (station 3) ⟨0x0A0D0003⟩),
    (2, announcement (station 2) ⟨0x0A0D0002⟩), (3, announcement (station 3) ⟨0x0A0D0005⟩)]

/-- What station 2 says to every host. -/
def greeting : Udp.Parcel :=
  ⟨⟨⟨0x0A0D0002⟩, 11452⟩, ⟨⟨0x0A0DFFFF⟩, 11452⟩, [0x68, 0x69]⟩

/-- The frame with the greeting, filled up as the link wants it. -/
def paddedGreeting : Link.Frame :=
  let packet : Internet.Draft := {
    protocol := Internet.Protocol.udp.code
    src := greeting.src.ip
    dst := greeting.dst.ip
    payload := greeting.toDatagram.toBytes }
  { src := station 2
    etherType := Link.EtherType.ipv4.code
    payload := packet.toBytes ++ Bytes.zeros 16 }

/-- The other two stations get a copy each, without the padding. -/
theorem inbound_broadcast_copies_gathered :
    gathered.LinkUp ∧
      (gathered.handleFrame 4 paddedGreeting.toBytes).reported
        = gathered.reported ++ [.udp (station 2) greeting] ∧
      ∃ macs : List MacAddress, macs.Pairwise (·.toNat < ·.toNat) ∧
        station 3 ∈ macs ∧ station 4 ∈ macs ∧ station 2 ∉ macs ∧
        (gathered.handleFrame 4 paddedGreeting.toBytes).sent = gathered.sent ++ macs.map fun mac => {
          dst := mac
          src := .zero
          etherType := Link.EtherType.ipv4.code
          payload := paddedGreeting.payload.take 30 } := by
  have up : gathered.LinkUp := linkUp_handleFrames (fun _ => rfl) _
  have said : (gathered.read paddedGreeting.toBytes).events = [.udp (station 2) greeting] := by
    decide +kernel
  have delivered : (gathered.handleFrame 4 paddedGreeting.toBytes).reported
      = gathered.reported ++ [.udp (station 2) greeting] := by
    rw [reported_handleFrame, said]
  refine ⟨up, delivered, ?_⟩
  obtain ⟨frame, p, parsed, -, -, src, dst, arp, copies, -⟩ :=
    inbound_broadcast_copies (leads_handleFrames ..) up rfl delivered
  rw [Link.Frame.parse_toBytes] at parsed
  cases parsed
  have toAll : Setup.home.IsBroadcast p.dst := dst ▸ by decide
  obtain ⟨macs, ascending, mem, sent, -⟩ := copies toAll
  rw [arp, ← src] at mem
  refine ⟨macs, ascending, (mem _).2 ?_, (mem _).2 ?_, fun h => ((mem _).1 h).2.1 rfl, sent⟩
  · exact ⟨⟨⟨0x0A0D0005⟩, by decide +kernel⟩, by decide, by decide⟩
  · exact ⟨⟨⟨0x0A0D0004⟩, by decide +kernel⟩, by decide, by decide⟩

end LocalPlay.Engine
