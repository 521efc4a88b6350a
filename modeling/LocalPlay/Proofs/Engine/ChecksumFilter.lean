import LocalPlay.Proofs.Engine.DroppedFrames
import LocalPlay.Proofs.Engine.FanOut

set_option autoImplicit false

/-! # What checking checksums does

An engine can be told to check checksums. All that this does is to drop frames: a strict engine reads
a frame as a lenient one does, or it finds a checksum wrong (`read_checking`), and what was read it
treats as the lenient one would. So what a strict engine reports comes from frames in which every
checksum was right. -/

namespace LocalPlay.Engine

/-- The engine, checking checksums or not. -/
def checking (e : Engine) (on : Bool) : Engine :=
  { e with setup := { e.setup with verifyChecksums := on } }

/-- Checking checksums makes no difference to what is done about a frame that was read. -/
def Variation.strict : Variation where
  setup s := { s with verifyChecksums := true }
  counters := id
  subnet_setup _ := rfl
  gateway_setup _ := rfl
  forwardTarget_setup _ := rfl
  counters_add _ _ _ _ := rfl

variable (e : Engine) (p : Internet.Packet)

/-! ## Strict and lenient readers -/

theorem rejects_strict (verifies : Prop) : (e.checking true).Rejects verifies ↔ ¬ verifies :=
  and_iff_right rfl

theorem not_rejects_lenient (verifies : Prop) : ¬ (e.checking false).Rejects verifies :=
  fun h => Bool.noConfusion h.1

/-- A strict reader goes on like a lenient one, or it takes the way out that it has for a wrong
    checksum. -/
theorem if_rejects_checking {α : Type} (verifies : Prop) [Decidable verifies] (wrong right : α) :
    (if (e.checking true).Rejects verifies then wrong else right)
        = (if (e.checking false).Rejects verifies then wrong else right) ∨
      (if (e.checking true).Rejects verifies then wrong else right) = wrong := by
  rw [if_neg (not_rejects_lenient e verifies)]
  by_cases good : verifies
  · exact Or.inl (if_neg (mt (rejects_strict e verifies).1 (not_not_intro good)))
  · exact Or.inr (if_pos ((rejects_strict e verifies).2 good))

theorem readUdp_checking : (e.checking true).readUdp p = (e.checking false).readUdp p ∨
    (e.checking true).readUdp p = .dropped .checksumFailures := by
  unfold readUdp
  cases Udp.Datagram.parse p.payload with
  | error why => exact Or.inl rfl
  | ok d => exact if_rejects_checking e _ _ _

theorem readTcp_checking : (e.checking true).readTcp p = (e.checking false).readTcp p ∨
    (e.checking true).readTcp p = .dropped .checksumFailures := by
  unfold readTcp
  cases Tcp.Segment.parse p.payload with
  | error why => exact Or.inl rfl
  | ok s => exact if_rejects_checking e _ _ _

theorem readIcmp_checking : (e.checking true).readIcmp p = (e.checking false).readIcmp p ∨
    (e.checking true).readIcmp p = .dropped .checksumFailures := by
  unfold readIcmp
  by_cases elsewhere : p.dst ≠ e.setup.gateway
  · exact Or.inl ((if_pos elsewhere).trans (if_pos elsewhere).symm)
  · have here (on : Bool) : ¬ p.dst ≠ (e.checking on).setup.gateway := elsewhere
    rw [if_neg (here true), if_neg (here false)]
    cases Internet.Echo.parse p.payload with
    | error why => exact Or.inl rfl
    | ok request => exact if_rejects_checking e _ _ _

theorem readContent_checking :
    (e.checking true).readContent p = (e.checking false).readContent p ∨
      (e.checking true).readContent p = .dropped .checksumFailures := by
  unfold readContent
  by_cases member : p.src ∈ e.setup.subnet
  · have inside (on : Bool) : p.src ∈ (e.checking on).setup.subnet := member
    rw [if_pos (inside true), if_pos (inside false)]
    cases Internet.Protocol.ofCode? p.protocol with
    | none => exact Or.inl rfl
    | some protocol =>
      cases protocol with
      | udp => exact readUdp_checking e p
      | tcp => exact readTcp_checking e p
      | icmp => exact readIcmp_checking e p
  · exact Or.inl ((if_neg member).trans (if_neg member).symm)

theorem readIpv4_checking (frame : Link.Frame) :
    (e.checking true).readIpv4 frame = (e.checking false).readIpv4 frame ∨
      ((e.checking true).readIpv4 frame).fault? = some .checksumFailures := by
  unfold readIpv4
  cases Internet.Packet.parse frame.payload with
  | error why => exact Or.inl rfl
  | ok p =>
    simp only [if_neg (not_rejects_lenient e _)]
    by_cases good : p.HeaderVerifies
    · have accepted : ¬ (e.checking true).Rejects p.HeaderVerifies :=
        mt (rejects_strict e _).1 (not_not_intro good)
      rw [if_neg accepted]
      rcases readContent_checking e p with same | wrong
      · exact Or.inl (by rw [same])
      · exact Or.inr (by rw [wrong]; rfl)
    · rw [if_pos ((rejects_strict e _).2 good)]
      exact Or.inr rfl

theorem readFrame_checking (frame : Link.Frame) :
    (e.checking true).readFrame frame = (e.checking false).readFrame frame ∨
      ((e.checking true).readFrame frame).fault? = some .checksumFailures := by
  unfold readFrame
  by_cases own : frame.src = e.localMac
  · exact Or.inl ((if_pos own).trans (if_pos own).symm)
  · have foreign (on : Bool) : frame.src ≠ (e.checking on).localMac := own
    rw [if_neg (foreign true), if_neg (foreign false)]
    cases Link.EtherType.ofCode? frame.etherType with
    | none => exact Or.inl rfl
    | some etherType =>
      cases etherType with
      | arp => exact Or.inl rfl
      | ipv4 => exact readIpv4_checking e frame

/-- A strict engine reads a frame as a lenient one does, or it finds a checksum wrong. -/
theorem read_checking (data : Bytes) :
    (e.checking true).read data = (e.checking false).read data ∨
      ((e.checking true).read data).fault? = some .checksumFailures := by
  unfold read
  cases Link.Frame.parse data with
  | error why => exact Or.inl rfl
  | ok frame => exact readFrame_checking e frame

theorem handleFrame_checking {data : Bytes}
    (same : (e.checking true).read data = (e.checking false).read data) (now : Instant) :
    (e.checking true).handleFrame now data
      = ((e.checking false).handleFrame now data).checking true := by
  rw [handleFrame_eq, handleFrame_eq, same]
  exact heed_vary ((e.checking false).received data) .strict now fun _ _ _ => rfl

/-! ## Frames that vouch for what is reported -/

/-- A frame carries a packet from another station and from inside the subnet, and the checksum of the
    packet's header is right. -/
structure Carries (setup : Setup) (localMac : MacAddress) (data : Bytes) (frame : Link.Frame)
    (p : Internet.Packet) : Prop where
  parsed : Link.Frame.parse data = .ok frame
  foreign : frame.src ≠ localMac
  packet : Internet.Packet.parse frame.payload = .ok p
  header : p.HeaderVerifies
  member : p.src ∈ setup.subnet

/-- A frame vouches for an event: it carries a packet with the datagram or the segment that is
    reported, and the checksum of that is right. A datagram may have none. -/
inductive Vouches (setup : Setup) (localMac : MacAddress) (data : Bytes) : Event → Prop where
  | datagram {frame : Link.Frame} {p : Internet.Packet} {d : Udp.Datagram}
      (carries : Carries setup localMac data frame p)
      (parsed : Udp.Datagram.parse p.payload = .ok d)
      (verifies : d.checksum = 0 ∨ Udp.checksum p.src p.dst d.toBytes = 0) :
      Vouches setup localMac data (.udp frame.src (parcelOf p d))
  | segment {frame : Link.Frame} {p : Internet.Packet} {s : Tcp.Segment}
      (carries : Carries setup localMac data frame p)
      (parsed : Tcp.Segment.parse p.payload = .ok s)
      (verifies : Tcp.checksum p.src p.dst p.payload = 0) :
      Vouches setup localMac data (.tcp (flowOf p s) (messageOf s))

variable {e p} {data : Bytes} {srcMac : MacAddress} {event : Event}

theorem event_of_readUdp (h : event ∈ (e.readUdp p).events srcMac p) :
    ∃ d, Udp.Datagram.parse p.payload = .ok d ∧ ¬ e.Rejects (d.Verifies p.src p.dst) ∧
      event = .udp srcMac (parcelOf p d) := by
  unfold readUdp at h
  split at h
  · cases h
  next d parsed =>
  split at h
  · cases h
  next accepted =>
  exact ⟨d, parsed, accepted, List.mem_singleton.1 h⟩

theorem event_of_readTcp (h : event ∈ (e.readTcp p).events srcMac p) :
    ∃ s, Tcp.Segment.parse p.payload = .ok s ∧
      ¬ e.Rejects (Tcp.Verifies p.src p.dst p.payload) ∧
      event = .tcp (flowOf p s) (messageOf s) := by
  unfold readTcp at h
  split at h
  · cases h
  next s parsed =>
  split at h
  · cases h
  next accepted =>
  exact ⟨s, parsed, accepted, List.mem_singleton.1 h⟩

theorem no_event_of_readIcmp : (e.readIcmp p).events srcMac p = [] := by
  unfold readIcmp
  split
  · rfl
  split
  · rfl
  split
  · rfl
  split <;> rfl

theorem verifies_of_checks (checks : e.setup.verifyChecksums = true) {verifies : Prop}
    [Decidable verifies] (accepted : ¬ e.Rejects verifies) : verifies :=
  Decidable.byContradiction fun wrong => accepted ⟨checks, wrong⟩

/-- Whatever a strict engine reports of a frame, the frame vouches for. -/
theorem vouches_of_mem_events (checks : e.setup.verifyChecksums = true)
    (h : event ∈ (e.read data).events) : Vouches e.setup e.localMac data event := by
  cases said : e.read data with
  | other | dropped | resolution =>
    rw [said] at h
    cases h
  | packet srcMac p content =>
    obtain ⟨frame, brings, rfl⟩ := brings_of_read said
    rw [brings.read_eq, Reading.events] at h
    have header : p.HeaderVerifies := verifies_of_checks checks brings.accepted
    unfold readContent at h
    split at h
    · next member =>
      have carries : Carries e.setup e.localMac data frame p :=
        ⟨brings.parsed, brings.foreign, brings.packet, header, member⟩
      split at h
      · obtain ⟨d, parsed, accepted, rfl⟩ := event_of_readUdp h
        exact .datagram carries parsed (verifies_of_checks checks accepted)
      · obtain ⟨s, parsed, accepted, rfl⟩ := event_of_readTcp h
        exact .segment carries parsed (verifies_of_checks checks accepted)
      · rw [no_event_of_readIcmp] at h
        cases h
      · cases h
    · cases h

theorem Reading.events_cases (reading : Reading) :
    reading.events = [] ∨ ∃ event, reading.events = [event] := by
  cases reading with
  | other | dropped | resolution => exact Or.inl rfl
  | packet srcMac p content =>
    cases content with
    | other | dropped | echo => exact Or.inl rfl
    | datagram | segment => exact Or.inr ⟨_, rfl⟩

/-! ## Where reports come from -/

/-- Nothing is reported but what a frame says. -/
theorem reported_happen (e : Engine) (happening : Happening) :
    (∃ now data, happening = .frame now data) ∨ (e.happen happening).reported = e.reported := by
  cases happening with
  | frame now data => exact Or.inl ⟨now, data, rfl⟩
  | target now id event => exact Or.inr (relays_hearTarget ..).reported
  | late now c event => exact Or.inr (relays_meet ..).reported
  | relay id move => exact Or.inr (relays_changeRelay ..).reported
  | beginSend now parcel => exact Or.inr (utters_beginSend ..).toRelays.reported
  | finishSend now dst packet => exact Or.inr (utters_finishSend ..).toRelays.reported
  | arp change => exact Or.inr rfl
  | sweep now => exact Or.inr (relays_foldl_retire ..).reported
  | start =>
    rw [happen, start]
    split <;> exact Or.inr rfl
  | stop =>
    rw [happen, stop]
    split <;> exact Or.inr rfl
  | link => exact Or.inr rfl

/-- On the way from `e` to `e'`, a frame came in at `e₀`, and an event was reported of it. -/
structure Origin (e e' : Engine) (event : Event) (e₀ : Engine) (now : Instant) (data : Bytes) :
    Prop where
  before : e.Leads e₀
  after : (e₀.handleFrame now data).Leads e'
  reported : (e₀.handleFrame now data).reported = e₀.reported ++ [event]
  said : event ∈ (e₀.read data).events

theorem origin_of_mem_events {now : Instant} (h : event ∈ (e.read data).events) :
    Origin e (e.handleFrame now data) event e now data := by
  refine ⟨.refl, .refl, ?_, h⟩
  rw [reported_handleFrame]
  rcases (e.read data).events_cases with nothing | ⟨event', only⟩
  · rw [nothing] at h
    cases h
  · rw [only] at h ⊢
    rw [List.mem_singleton.1 h]

/-- Whatever is reported in a run was reported when some frame came in. -/
theorem Leads.origin {e' : Engine} (run : e.Leads e') (mem : event ∈ e'.reported) :
    event ∈ e.reported ∨ ∃ e₀ now data, Origin e e' event e₀ now data := by
  induction run with
  | refl => exact Or.inl mem
  | @step e' before happening possible ih =>
    by_cases old : event ∈ e'.reported
    · refine (ih old).imp_right ?_
      rintro ⟨e₀, now, data, origin⟩
      exact ⟨e₀, now, data, { origin with after := .step origin.after happening possible }⟩
    · rcases reported_happen e' happening with ⟨now, data, rfl⟩ | same
      · have reported : (e'.happen (.frame now data)).reported = _ :=
          reported_handleFrame e' now data
        rw [reported] at mem
        have said := (List.mem_append.1 mem).resolve_left old
        exact Or.inr ⟨e', now, data, { origin_of_mem_events said with before := before }⟩
      · exact absurd (same ▸ mem) old

/-- **Checking checksums drops frames and does nothing else.** A strict engine and a lenient one that
    are alike otherwise come to the same, in all they send, report, know and count, by every frame
    of which the strict one does not count that a checksum is wrong; and if it does, it neither
    sends nor reports anything. So for everything that is reported in a run of a strict engine there
    is a frame at which it was reported and which vouches for it. -/
theorem checking_filters :
    (∀ (e : Engine) (now : Instant) (data : Bytes),
      (((e.checking true).handleFrame now data).counters.get .checksumFailures
          = e.counters.get .checksumFailures →
        (e.checking true).handleFrame now data
          = ((e.checking false).handleFrame now data).checking true) ∧
      (((e.checking true).handleFrame now data).counters.get .checksumFailures
          ≠ e.counters.get .checksumFailures →
        ((e.checking true).handleFrame now data).sent = e.sent ∧
          ((e.checking true).handleFrame now data).reported = e.reported)) ∧
    ∀ (setup : Setup) (localMac : MacAddress) (words : Nat → UInt32) (e : Engine),
      setup.verifyChecksums = true → (Engine.new setup localMac words).Leads e →
      ∀ event ∈ e.reported, ∃ e₀ now data, (Engine.new setup localMac words).Leads e₀ ∧
        (e₀.handleFrame now data).Leads e ∧
        (e₀.handleFrame now data).reported = e₀.reported ++ [event] ∧
        Vouches setup localMac data event := by
  refine ⟨fun e now data => ⟨fun same => ?_, fun moved => ?_⟩, ?_⟩
  · rcases read_checking e data with alike | wrong
    · exact handleFrame_checking e alike now
    · have counted := get_handleFrame_of_fault wrong now
      rw [same] at counted
      exact absurd counted.symm (by simp [checking])
  · cases found : ((e.checking true).read data).fault? with
    | none =>
      exact absurd (get_handleFrame_of_fault?_eq_none found now (by decide)) moved
    | some reason =>
      rw [(drops_of_fault found now).rest]
      exact ⟨rfl, rfl⟩
  · intro setup localMac words e checks run event mem
    rcases run.origin mem with old | ⟨e₀, now, data, before, after, reported, said⟩
    · cases old
    · have told : e₀.setup = setup := before.continues.setup
      have ours : e₀.localMac = localMac := before.continues.localMac
      refine ⟨e₀, now, data, before, after, reported, ?_⟩
      rw [← told, ← ours]
      exact vouches_of_mem_events (told ▸ checks) said

/-- A frame with the greeting in which a byte of it was changed on the way. -/
def garbledGreeting : Link.Frame :=
  let packet : Internet.Draft := {
    protocol := Internet.Protocol.udp.code
    src := greeting.src.ip
    dst := greeting.dst.ip
    payload := { greeting.toDatagram with payload := [0x68, 0x6A] }.toBytes }
  { paddedGreeting with payload := packet.toBytes }

/-- A strict engine reports the greeting as a lenient one does, and drops the garbled one. -/
theorem checking_filters_greeting :
    (unheard.checking true).handleFrame 4 paddedGreeting.toBytes
        = ((unheard.checking false).handleFrame 4 paddedGreeting.toBytes).checking true ∧
      (∃ data, Vouches (unheard.checking true).setup .zero data (.udp (station 2) greeting)) ∧
      ((unheard.checking true).handleFrame 4 garbledGreeting.toBytes).reported = [] := by
  obtain ⟨filters, vouched⟩ := checking_filters
  refine ⟨(filters unheard 4 paddedGreeting.toBytes).1 (by decide +kernel), ?_,
    ((filters unheard 4 garbledGreeting.toBytes).2 (by decide +kernel)).2⟩
  have run : (unheard.checking true).Leads
      ((unheard.checking true).handleFrame 4 paddedGreeting.toBytes) :=
    .step .refl (.frame 4 paddedGreeting.toBytes) trivial
  have reported : .udp (station 2) greeting
      ∈ ((unheard.checking true).handleFrame 4 paddedGreeting.toBytes).reported := by
    decide +kernel
  obtain ⟨-, -, data, -, -, -, vouches⟩ :=
    vouched (unheard.checking true).setup .zero UInt32.ofNat _ rfl run _ reported
  exact ⟨data, vouches⟩

end LocalPlay.Engine
