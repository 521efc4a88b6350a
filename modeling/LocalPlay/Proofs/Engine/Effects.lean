import LocalPlay.Proofs.Engine.Happenings
import LocalPlay.Proofs.Engine.Reading

set_option autoImplicit false

/-! # What the operations of an engine leave alone

Three relations between an engine and the same engine later on, each wider than the one before.
`Utters`: the engine put frames on the link and did nothing else. `Relays`: it also worked on its
connections. `Continues`: anything at all happened to it. Whatever happens, an engine stays as it
was set up, its table of hosts has gone through a history of changes, and the frames that it put on
the link carry its own hardware address. -/

namespace LocalPlay.Engine

/-- `e'` is the engine `e` later on. -/
structure Continues (e e' : Engine) : Prop where
  setup : e'.setup = e.setup
  localMac : e'.localMac = e.localMac
  arp : ∃ changes, e'.arp = e.arp.run changes
  frames : ∃ fs, e'.sent = e.sent ++ fs ∧ ∀ f ∈ fs, f.src = e.localMac

/-- `e'` is the engine `e` after it worked on its connections and put frames on the link. -/
structure Relays (e e' : Engine) : Prop extends e.Continues e' where
  rest : e' = { e with
    drawn := e'.drawn
    nextIdentification := e'.nextIdentification
    connections := e'.connections
    draining := e'.draining
    opened := e'.opened
    counters := e'.counters
    sent := e'.sent }

/-- `e'` is the engine `e` after it put frames on the link. -/
structure Utters (e e' : Engine) : Prop extends e.Relays e' where
  drawn : e'.drawn = e.drawn
  connections : e'.connections = e.connections
  draining : e'.draining = e.draining
  opened : e'.opened = e.opened

variable {e e' e'' : Engine}

namespace Continues

theorem of_same (setup : e'.setup = e.setup) (localMac : e'.localMac = e.localMac)
    (arp : e'.arp = e.arp) (sent : e'.sent = e.sent) : e.Continues e' :=
  ⟨setup, localMac, ⟨[], arp⟩, [], by rw [sent, List.append_nil], by simp⟩

theorem refl (e : Engine) : e.Continues e := of_same rfl rfl rfl rfl

theorem trans (first : e.Continues e') (second : e'.Continues e'') : e.Continues e'' := by
  obtain ⟨before, arp⟩ := first.arp
  obtain ⟨after, arp'⟩ := second.arp
  obtain ⟨fs, sent, own⟩ := first.frames
  obtain ⟨gs, sent', own'⟩ := second.frames
  refine ⟨second.setup.trans first.setup, second.localMac.trans first.localMac,
    ⟨before ++ after, ?_⟩, fs ++ gs, ?_, ?_⟩
  · rw [arp', arp, Arp.Cache.run_append]
  · rw [sent', sent, List.append_assoc]
  · intro f hf
    rcases List.mem_append.1 hf with hf | hf
    · exact own f hf
    · exact (own' f hf).trans first.localMac

end Continues

namespace Relays

theorem refl (e : Engine) : e.Relays e := ⟨.refl e, rfl⟩

theorem trans (first : e.Relays e') (second : e'.Relays e'') : e.Relays e'' := by
  refine ⟨first.toContinues.trans second.toContinues, second.rest.trans ?_⟩
  rw [first.rest]

theorem words (h : e.Relays e') : e'.words = e.words := by rw [h.rest]

theorem same_arp (h : e.Relays e') : e'.arp = e.arp := by rw [h.rest]

theorem reported (h : e.Relays e') : e'.reported = e.reported := by rw [h.rest]

theorem takes (h : e.Relays e') : e'.takes = e.takes := by rw [h.rest]

end Relays

namespace Utters

theorem refl (e : Engine) : e.Utters e := ⟨.refl e, rfl, rfl, rfl, rfl⟩

theorem trans (first : e.Utters e') (second : e'.Utters e'') : e.Utters e'' :=
  ⟨first.toRelays.trans second.toRelays, second.drawn.trans first.drawn,
    second.connections.trans first.connections, second.draining.trans first.draining,
    second.opened.trans first.opened⟩

end Utters

/-! ## Putting frames on the link -/

theorem utters_counters (e : Engine) (counters : Counters) :
    e.Utters { e with counters := counters } :=
  ⟨⟨.of_same rfl rfl rfl rfl, rfl⟩, rfl, rfl, rfl, rfl⟩

theorem utters_count (e : Engine) (k : Counter) : e.Utters (e.count k) := utters_counters e _

theorem utters_countMany (e : Engine) (k : Counter) (n : UInt64) : e.Utters (e.countMany k n) :=
  utters_counters e _

theorem utters_received (e : Engine) (data : Bytes) : e.Utters (e.received data) :=
  utters_counters e _

theorem utters_makePacket (e : Engine) (src dst : IpAddress) (protocol : Internet.Protocol)
    (message : Bytes) : e.Utters (e.makePacket src dst protocol message).1 :=
  ⟨⟨.of_same rfl rfl rfl rfl, rfl⟩, rfl, rfl, rfl, rfl⟩

theorem utters_transmit (e : Engine) {frame : Link.Frame} (own : frame.src = e.localMac) :
    e.Utters (e.transmit frame).1 := by
  unfold transmit
  split
  · exact ⟨⟨⟨rfl, rfl, ⟨[], rfl⟩, [frame], rfl, by simpa using own⟩, rfl⟩, rfl, rfl, rfl, rfl⟩
  · exact utters_count e _

theorem utters_transmitPacket (e : Engine) (dst : MacAddress) (packet : Bytes) :
    e.Utters (e.transmitPacket dst packet).1 :=
  utters_transmit e rfl

theorem utters_transmitCopies (e : Engine) (packet : Bytes) (macs : List MacAddress) :
    e.Utters (e.transmitCopies packet macs).1 := by
  induction macs generalizing e with
  | nil => exact .refl e
  | cons mac macs ih => exact (utters_transmitPacket e mac packet).trans (ih _)

theorem utters_fanOut (e : Engine) (now : Instant) (packet : Bytes) (leftOut : Option MacAddress) :
    e.Utters (e.fanOut now packet leftOut).1 :=
  (utters_transmitCopies e packet _).trans (utters_countMany ..)

theorem utters_say (e : Engine) (now : Instant) (c : Connection) (m : Tcp.Message) :
    e.Utters (e.say now c m) := by
  simp only [say]
  refine .trans ?_ (utters_transmitPacket ..)
  exact utters_makePacket ..

theorem utters_sayIfAny (e : Engine) (now : Instant) (c : Connection) (m : Option Tcp.Message) :
    e.Utters (e.sayIfAny now c m) := by
  cases m with
  | none => exact .refl e
  | some m => exact utters_say e now c m

theorem utters_answerEcho (e : Engine) (now : Instant) (srcMac : MacAddress) (client : IpAddress)
    (reply : Internet.Echo) : e.Utters (e.answerEcho now srcMac client reply) := by
  have made := utters_makePacket e e.setup.gateway client .icmp reply.toBytes
  simp only [answerEcho]
  split
  · exact (made.trans (utters_transmitPacket ..)).trans (utters_count ..)
  · exact made.trans (utters_transmitPacket ..)

theorem utters_resolve (e : Engine) (now : Instant) (p : Arp.Packet) :
    e.Utters (e.resolve now p) := by
  unfold resolve
  split
  · exact (utters_count e _).trans (utters_transmit _ rfl)
  · exact .refl e

theorem utters_sendPacket (e : Engine) (dst : MacAddress) (packet : Bytes) :
    e.Utters (e.sendPacket dst packet).1 :=
  utters_transmitPacket e dst packet

theorem utters_beginSend (e : Engine) (now : Instant) (parcel : Udp.Parcel) :
    e.Utters (e.beginSend now parcel).1 := by
  have made := utters_makePacket e parcel.src.ip parcel.dst.ip .udp parcel.toDatagram.toBytes
  unfold beginSend
  simp only
  split
  · next mac known =>
    have sent (packet : Bytes) := made.trans (utters_sendPacket _ mac packet)
    split <;> next result => exact congrArg Prod.fst result ▸ sent _
  · split
    · exact made.trans (utters_fanOut ..)
    · exact (made.trans (utters_count ..)).trans (utters_transmit _ rfl)

theorem utters_finishSend (e : Engine) (now : Instant) (dst : IpAddress) (packet : Bytes) :
    e.Utters (e.finishSend now dst packet).1 := by
  unfold finishSend
  split
  · exact utters_sendPacket ..
  · exact utters_count e _

/-! ## Working on connections -/

theorem relays_update (e : Engine) (c : Connection) : e.Relays (e.update c) :=
  ⟨.of_same rfl rfl rfl rfl, rfl⟩

theorem relays_retire (e : Engine) (c : Connection) : e.Relays (e.retire c) := by
  unfold retire
  simp only
  split
  · exact ⟨.of_same rfl rfl rfl rfl, rfl⟩
  · exact relays_update e _

theorem relays_settle (e : Engine) (c : Connection) : e.Relays (e.settle c) := by
  unfold settle
  split
  · exact relays_retire e c
  · exact relays_update e c

theorem relays_openConnection (e : Engine) (flow : Tcp.Flow) (clientMac : MacAddress) :
    e.Relays (e.openConnection flow clientMac).1 :=
  ⟨.of_same rfl rfl rfl rfl, rfl⟩

theorem relays_connectionFor (e : Engine) (flow : Tcp.Flow) (srcMac : MacAddress)
    (flags : Tcp.Flags) : e.Relays (e.connectionFor flow srcMac flags).1 := by
  unfold connectionFor
  simp only
  split
  · split
    · exact relays_openConnection ..
    · exact .refl e
  · split
    · exact (relays_retire ..).trans (relays_openConnection ..)
    · exact .refl e

theorem relays_hand (e : Engine) (now : Instant) (c : Connection) (m : Tcp.Message) :
    e.Relays (e.hand now c m) :=
  (utters_sayIfAny ..).toRelays.trans (relays_settle ..)

theorem relays_direct (e : Engine) (now : Instant) (srcMac : MacAddress) (flow : Tcp.Flow)
    (m : Tcp.Message) : e.Relays (e.direct now srcMac flow m) := by
  have found := relays_connectionFor e flow srcMac m.flags
  unfold direct
  split
  · next missing => rwa [missing] at found
  · next known =>
    rw [known] at found
    exact found.trans (relays_hand ..)

theorem relays_meet (e : Engine) (now : Instant) (c : Connection) (event : TargetEvent) :
    e.Relays (e.meet now c event) :=
  (utters_sayIfAny ..).toRelays.trans (relays_settle ..)

theorem relays_hearTarget (e : Engine) (now : Instant) (id : Nat) (event : TargetEvent) :
    e.Relays (e.hearTarget now id event) := by
  cases known : e.connection? id with
  | none =>
    rw [hearTarget, known]
    exact .refl e
  | some c =>
    rw [hearTarget_of_connection? now event known]
    split
    · exact .refl e
    · exact relays_meet e now c event

theorem relays_changeRelay (e : Engine) (id : Nat) (change : Relay → Relay) :
    e.Relays (e.changeRelay id change) := by
  unfold changeRelay
  split
  · exact .refl e
  · exact relays_update ..

theorem relays_foldl_retire (e : Engine) (cs : List Connection) :
    e.Relays (cs.foldl retire e) := by
  induction cs generalizing e with
  | nil => exact .refl e
  | cons c cs ih => exact (relays_retire e c).trans (ih _)

/-! ## Frames that come in -/

/-- What is reported of the content of a packet. -/
def Content.events (srcMac : MacAddress) (p : Internet.Packet) : Content → List Event
  | datagram d => [.udp srcMac (parcelOf p d)]
  | segment s => [.tcp (flowOf p s) (messageOf s)]
  | other | dropped _ | echo _ => []

namespace Reading

/-- What is reported of a frame. -/
def events : Reading → List Event
  | packet srcMac p content => content.events srcMac p
  | other | dropped _ | resolution _ => []

/-- What a frame teaches about hosts. -/
def lessons (now : Instant) : Reading → List Arp.Change
  | resolution p => [.insert now p.senderMac p.senderIp]
  | packet srcMac p _ => [.insert now srcMac p.src]
  | other | dropped _ => []

end Reading

/-- The engine after a frame was reported and has taught it something. -/
def informed (e : Engine) (events : List Event) (lessons : List Arp.Change) : Engine :=
  { e with reported := e.reported ++ events, arp := e.arp.run lessons }

theorem informed_nil (e : Engine) : e.informed [] [] = e := by
  rw [informed, List.append_nil]
  rfl

theorem continues_informed (e : Engine) (events : List Event) (lessons : List Arp.Change) :
    e.Continues (e.informed events lessons) :=
  ⟨rfl, rfl, ⟨lessons, rfl⟩, [], (List.append_nil _).symm, by simp⟩

/-- The message for a connection that a frame brings, with the station and the ends it is from. -/
def message? (e : Engine) : Reading → Option (MacAddress × Tcp.Flow × Tcp.Message)
  | .packet srcMac p (.segment s) =>
    if e.setup.forwardTarget.isNone then none else some (srcMac, flowOf p s, messageOf s)
  | .other | .dropped _ | .resolution _ | .packet _ _ _ => none

/-- A frame that brings no message for a connection makes the engine put frames on the link at
    most. A message is directed to its connection. -/
theorem heed_cases (e : Engine) (now : Instant) (reading : Reading) :
    (e.message? reading = none ∧
      (e.informed reading.events (reading.lessons now)).Utters (e.heed now reading)) ∨
    ∃ srcMac flow m e', e.message? reading = some (srcMac, flow, m) ∧
      (e.informed reading.events (reading.lessons now)).Utters e' ∧
      e.heed now reading = e'.direct now srcMac flow m := by
  cases reading with
  | other =>
    rw [Reading.events, Reading.lessons, informed_nil]
    exact Or.inl ⟨rfl, .refl e⟩
  | dropped reason =>
    rw [Reading.events, Reading.lessons, informed_nil]
    exact Or.inl ⟨rfl, utters_count e reason⟩
  | resolution p =>
    have learned : e.informed [] [.insert now p.senderMac p.senderIp]
        = e.learn now p.senderMac p.senderIp := by
      rw [informed, List.append_nil]
      rfl
    rw [Reading.events, Reading.lessons, learned]
    exact Or.inl ⟨rfl, utters_resolve ..⟩
  | packet srcMac p content =>
    have learned (events : List Event) : e.informed events [.insert now srcMac p.src]
        = (e.learn now srcMac p.src).informed events [] := rfl
    rw [Reading.events, Reading.lessons, learned, heed]
    cases content with
    | other =>
      rw [Content.events, informed_nil]
      exact Or.inl ⟨rfl, .refl _⟩
    | dropped reason =>
      rw [Content.events, informed_nil]
      exact Or.inl ⟨rfl, utters_count _ reason⟩
    | datagram d =>
      refine Or.inl ⟨rfl, ?_⟩
      rw [heedContent, deliver]
      split
      · exact (utters_count _ .udpDelivered).trans (utters_fanOut ..)
      · exact utters_count _ .udpDelivered
    | echo reply =>
      rw [Content.events, informed_nil]
      exact Or.inl ⟨rfl, utters_answerEcho ..⟩
    | segment s =>
      by_cases unrelayed : e.setup.forwardTarget.isNone
      · refine Or.inl ⟨if_pos unrelayed, ?_⟩
        have quiet : (e.learn now srcMac p.src).relaySegment now srcMac p s
            = (e.learn now srcMac p.src).noteSegment p s := if_pos unrelayed
        rw [heedContent, quiet]
        exact utters_count _ .tcpSegments
      · exact Or.inr ⟨srcMac, flowOf p s, messageOf s, _, if_neg unrelayed,
          utters_count _ .tcpSegments, if_neg unrelayed⟩

theorem relays_heed (e : Engine) (now : Instant) (reading : Reading) :
    (e.informed reading.events (reading.lessons now)).Relays (e.heed now reading) := by
  rcases heed_cases e now reading with ⟨-, uttered⟩ | ⟨srcMac, flow, m, e', -, uttered, directed⟩
  · exact uttered.toRelays
  · rw [directed]
    exact uttered.toRelays.trans (relays_direct ..)

/-- A frame is reported and teaches about hosts; apart from that it concerns connections and what
    is put on the link. -/
theorem relays_handleFrame (e : Engine) (now : Instant) (data : Bytes) :
    (e.informed (e.read data).events ((e.read data).lessons now)).Relays
      (e.handleFrame now data) := by
  rw [handleFrame_eq]
  have counted := utters_received (e.informed (e.read data).events ((e.read data).lessons now)) data
  exact counted.toRelays.trans (relays_heed (e.received data) now (e.read data))

/-! ## Everything that can happen -/

theorem continues_happen (e : Engine) (happening : Happening) :
    e.Continues (e.happen happening) := by
  cases happening with
  | frame now data =>
    exact (continues_informed ..).trans (relays_handleFrame e now data).toContinues
  | target now id event => exact (relays_hearTarget e now id event).toContinues
  | late now c event => exact (relays_meet e now c event).toContinues
  | relay id move => exact (relays_changeRelay e id move.apply).toContinues
  | beginSend now parcel => exact (utters_beginSend e now parcel).toContinues
  | finishSend now dst packet => exact (utters_finishSend e now dst packet).toContinues
  | arp change => exact ⟨rfl, rfl, ⟨[change], rfl⟩, [], (List.append_nil _).symm, by simp⟩
  | sweep now =>
    have retired := relays_foldl_retire e (e.connections.filter fun c => c.session.isClosed)
    refine retired.toContinues.trans ?_
    exact ⟨rfl, rfl, ⟨[.sweep now], rfl⟩, [], (List.append_nil _).symm, by simp⟩
  | start =>
    rw [happen, start]
    split <;> exact .of_same rfl rfl rfl rfl
  | stop =>
    rw [happen, stop]
    split <;> exact .of_same rfl rfl rfl rfl
  | link takes => exact .of_same rfl rfl rfl rfl

theorem Leads.continues (later : e.Leads e') : e.Continues e' := by
  induction later with
  | refl => exact .refl e
  | step _ happening _ ih => exact ih.trans (continues_happen _ happening)

/-- The table of hosts is in order at every time. -/
theorem Leads.wellFormed {setup : Setup} {localMac : MacAddress} {words : Nat → UInt32}
    (run : (Engine.new setup localMac words).Leads e) : e.arp.WellFormed := by
  obtain ⟨changes, arp⟩ := run.continues.arp
  rw [arp]
  exact (Arp.Cache.wellFormed_empty _ _).run changes

/-! ## A small subnet -/

/-- The subnet `10.13.0.0/16`, where the gateway is `10.13.37.1`. -/
def Setup.home : Setup where
  subnet := .ofAddress ⟨0x0A0D0000⟩ 16
  gateway := ⟨0x0A0D2501⟩
  arpTtl := 30000
  arpCapacity := 100
  resolveTimeout := 100
  forwardTarget := some ⟨⟨0x7F000001⟩, 9000⟩
  connectTimeout := 2000
  sweepInterval := 30000
  eventCapacity := 256
  seed := none
  verifyChecksums := false

/-- The hardware address of a station. -/
def station (n : UInt8) : MacAddress := ⟨0x98, 0xB6, 0xE9, 0, 0, n⟩

/-- The frame in which a station says that it has an address. -/
def announcement (mac : MacAddress) (ip : IpAddress) : Bytes := (Arp.requestFrame mac ip ip).toBytes

end LocalPlay.Engine
