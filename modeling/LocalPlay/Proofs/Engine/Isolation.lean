import LocalPlay.Proofs.Engine.ConsoleBytes
import LocalPlay.Proofs.Engine.FanOut
import LocalPlay.Proofs.Engine.Register
import LocalPlay.Proofs.Engine.SegmentFrames

set_option autoImplicit false

/-! # Connections do not disturb each other

A segment is for the connection with its ends, and an event of the forward target for the connection
whose relay hears it. Whatever that connection then does, replaces or says, the entries of the table
with other ends stay as they are, and what is said goes to the connection's own client. The station
of that client may not be known any more; then what is said goes to the station whose request opened
the connection. So every connection carries its `Connection.Origin` along, and the origin of every
connection in the table is a frame of the run (`Leads.wasOpened`). -/

namespace LocalPlay.Engine

/-- What stays the same about a connection: its number, its ends and the station that opened it. -/
structure Connection.Origin where
  id : Nat
  flow : Tcp.Flow
  clientMac : MacAddress
deriving DecidableEq

def Connection.origin (c : Connection) : Connection.Origin := ⟨c.id, c.flow, c.clientMac⟩

variable {start e e' : Engine} {now : Instant} {data : Bytes} {c : Connection}
  {o : Connection.Origin} {flow : Tcp.Flow} {srcMac : MacAddress} {m : Tcp.Message}
  {gone : Nat → Prop}

/-! ## Entries with other ends -/

/-- The connections of the table with other ends than the given ones. -/
def others (e : Engine) (flow : Tcp.Flow) : List Connection :=
  e.connections.filter fun d => d.flow ≠ flow

theorem connectionOf?_of_others (same : e'.others flow = e.others flow) {other : Tcp.Flow}
    (ne : other ≠ flow) : e'.connectionOf? other = e.connectionOf? other := by
  have search (e : Engine) : e.connectionOf? other = (e.others flow).find? (·.flow = other) := by
    rw [others, List.find?_filter, connectionOf?]
    congr 1
    funext d
    by_cases found : d.flow = other
    · simp [found, ne]
    · simp [found]
  rw [search, search, same]

theorem filter_substitute {cs : List Connection}
    (sameEnds : ∀ d ∈ cs, d.id = c.id → d.flow = c.flow) :
    (substitute c cs).filter (fun d => d.flow ≠ c.flow) = cs.filter fun d => d.flow ≠ c.flow := by
  induction cs with
  | nil => rfl
  | cons d cs ih =>
    have rest := ih fun d' hd' => sameEnds d' (List.mem_cons_of_mem d hd')
    rw [substitute, List.map_cons, ← substitute]
    by_cases same : d.id = c.id
    · have ends := sameEnds d List.mem_cons_self same
      rw [if_pos same, List.filter_cons_of_neg (by simp), List.filter_cons_of_neg (by simp [ends]),
        rest]
    · rw [if_neg same, List.filter_cons, List.filter_cons, rest]

theorem connections_retire_subset (e : Engine) (c : Connection) :
    (e.retire c).connections ⊆ e.connections := by
  by_cases isOpen : e.IsOpen c.id
  · rw [← book_connections, book_retire_of_isOpen isOpen]
    exact List.filter_subset_self _
  · rw [← book_connections, book_retire_of_not_isOpen isOpen]
    exact List.Subset.refl _

theorem others_retire (sameEnds : ∀ d ∈ e.connections, d.id = c.id → d.flow = c.flow) :
    (e.retire c).others c.flow = e.others c.flow := by
  by_cases isOpen : e.IsOpen c.id
  · rw [others, ← book_connections, book_retire_of_isOpen isOpen, List.filter_filter]
    refine List.filter_congr fun d hd => ?_
    -- a connection with other ends has another number, so it is not the one that goes
    by_cases ends : d.flow = c.flow
    · simp [ends]
    · simp [ends, mt (sameEnds d hd) ends]
  · rw [others, ← book_connections, book_retire_of_not_isOpen isOpen]
    rfl

theorem others_openConnection (e : Engine) (flow : Tcp.Flow) (clientMac : MacAddress) :
    (e.openConnection flow clientMac).1.others flow = e.others flow := by
  have own : (e.openConnection flow clientMac).2.flow = flow := rfl
  rw [others, ← book_connections, book_openConnection, List.filter_append,
    List.filter_cons_of_neg (by simpa using own), List.filter_nil, List.append_nil]
  rfl

/-! ## Dealing with one connection -/

/-- Whatever has the number or the ends of an origin in the table is of that origin. -/
def Sole (e : Engine) (o : Connection.Origin) : Prop :=
  ∀ d ∈ e.connections, d.id = o.id ∨ d.flow = o.flow → d.origin = o

/-- `e'` is the engine `e` after it dealt with the connection of an origin: the entries with other
    ends are as they were, and an entry with its ends is its own. -/
structure Minds (e : Engine) (o : Connection.Origin) (e' : Engine) : Prop where
  others : e'.others o.flow = e.others o.flow
  entry : ∀ d ∈ e'.connections, d.flow = o.flow → d.origin = o

theorem Book.Keyed.sole (keyed : e.book.Keyed gone) (mem : c ∈ e.connections) :
    e.Sole c.origin := by
  rintro d hd (same | same)
  · rw [keyed.eq_of_id mem hd same]
  · rw [List.inj_on_of_nodup_map keyed.flows_nodup hd mem same]

theorem minds_update (sole : e.Sole c.origin) : e.Minds c.origin (e.update c) := by
  refine ⟨filter_substitute fun d hd same => ?_, fun d hd ends => ?_⟩
  · exact congrArg Connection.Origin.flow (sole d hd (Or.inl same))
  · rcases mem_substitute.1 hd with ⟨hd, -⟩ | ⟨rfl, -⟩
    · exact sole d hd (Or.inr ends)
    · rfl

theorem minds_settle (sole : e.Sole c.origin) : e.Minds c.origin (e.settle c) := by
  unfold settle
  split
  · refine ⟨others_retire fun d hd same => ?_, fun d hd ends => ?_⟩
    · exact congrArg Connection.Origin.flow (sole d hd (Or.inl same))
    · exact sole d (connections_retire_subset e c hd) (Or.inr ends)
  · exact minds_update sole

/-- The connection meets something, and keeps its origin. -/
theorem minds_conclude (sole : e.Sole c.origin) (now : Instant) (input : RelayInput)
    (relay : Relay) :
    e.Minds c.origin ((e.sayIfAny now c (input.apply c.session).2).settle
      { c with session := (input.apply c.session).1, relay := relay }) := by
  let c' := { c with session := (input.apply c.session).1, relay := relay }
  have same : c'.origin = c.origin :=
    congrArg (Connection.Origin.mk c.id · c.clientMac)
      (Tcp.Session.flow_of_step (input.step c.session))
  have table := (utters_sayIfAny e now c (input.apply c.session).2).connections
  have sole' : (e.sayIfAny now c (input.apply c.session).2).Sole c'.origin := by
    rwa [Sole, table, same]
  have settled := minds_settle sole'
  rw [same] at settled
  refine ⟨settled.others.trans ?_, settled.entry⟩
  rw [others, others, table]

theorem minds_hand (sole : e.Sole c.origin) (now : Instant) (m : Tcp.Message) :
    e.Minds c.origin (e.hand now c m) :=
  minds_conclude sole now (.console m) _

theorem minds_meet (sole : e.Sole c.origin) (now : Instant) (event : TargetEvent) :
    e.Minds c.origin (e.meet now c event) :=
  minds_conclude sole now (.target event) _

/-! ## Messages of consoles -/

/-- A connection is opened by a message: it gets the next number. -/
structure OpenedBy (e : Engine) (srcMac : MacAddress) (flow : Tcp.Flow) (m : Tcp.Message)
    (o : Connection.Origin) (e' : Engine) : Prop where
  request : m.flags.isBareSyn
  origin : o = ⟨e.opened, flow, srcMac⟩
  counted : e'.opened = e.opened + 1

/-- The engine `e'` is the engine `e` after one connection took a message, which may have opened it:
    it minds this connection, and whatever it says it says on it. -/
structure Directs (e : Engine) (now : Instant) (srcMac : MacAddress) (flow : Tcp.Flow)
    (m : Tcp.Message) (c : Connection) (e' : Engine) : Prop where
  ends : c.flow = flow
  found : e.connectionOf? flow = some c ∨ e.OpenedBy srcMac flow m c.origin e'
  minds : e.Minds c.origin e'
  transmits : e.Transmits (·.SpeaksOn e.localMac (e'.listener now c) c.flow) e'

theorem Directs.of_same {e₀ : Engine} (directs : e₀.Directs now srcMac flow m c e')
    (connections : e₀.connections = e.connections) (opened : e₀.opened = e.opened)
    (sent : e₀.sent = e.sent) (localMac : e₀.localMac = e.localMac) :
    e.Directs now srcMac flow m c e' := by
  obtain ⟨ends, found, minds, transmits⟩ := directs
  rw [connectionOf?, connections, ← connectionOf?] at found
  rw [localMac] at transmits
  refine ⟨ends, found.imp_right fun opens => ?_, ⟨minds.others.trans ?_, minds.entry⟩, ?_⟩
  · exact ⟨opens.request, opened ▸ opens.origin, opened ▸ opens.counted⟩
  · rw [others, others, connections]
  · exact (transmits_of_same sent).trans transmits

theorem directs_of_connectionFor (orderly : e.book.Orderly gone)
    (found : e.connectionFor flow srcMac m.flags = (e', some c)) (now : Instant) :
    e.Directs now srcMac flow m c (e'.hand now c m) := by
  have ready := (orderly.connectionFor found).1
  have minds := minds_hand (ready.toKeyed.sole ready.mem) now m
  have transmits := transmits_hand e' now c m
  have known : (e'.hand now c m).arp = e'.arp := (relays_hand e' now c m).same_arp
  rw [listener, ← known, ← listener] at transmits
  rcases connectionFor_cases found with ⟨rfl, inTable⟩ | ⟨syn, e₀, opens, room⟩
  · exact ⟨(KeyedList.mem_of_find? inTable).2, Or.inl inTable, minds, transmits⟩
  -- the connection that may have been there before has made way
  have same : e₀.others flow = e.others flow ∧ e₀.opened = e.opened ∧ e₀.sent = e.sent ∧
      e₀.localMac = e.localMac := by
    rcases room with ⟨rfl, -⟩ | ⟨d, inTable, -, rfl⟩
    · exact ⟨rfl, rfl, rfl, rfl⟩
    · obtain ⟨mem, rfl⟩ := KeyedList.mem_of_find? inTable
      refine ⟨?_, opened_retire .., sent_retire .., (relays_retire ..).localMac⟩
      refine others_retire (c := { d with relay := d.relay.cut }) fun d' hd' number => ?_
      have alone : d' = d := orderly.toKeyed.eq_of_id mem hd' number
      rw [alone]
      rfl
  obtain ⟨others, opened, sent, ours⟩ := same
  have counted : (e'.hand now c m).opened = e'.opened :=
    (opened_settle ..).trans (utters_sayIfAny ..).opened
  cases opens
  refine ⟨rfl, Or.inr ⟨syn, ?_, ?_⟩, ⟨?_, minds.entry⟩, ?_⟩
  · rw [← opened]
    rfl
  · rw [counted, ← opened]
  · exact minds.others.trans ((others_openConnection e₀ flow srcMac).trans others)
  · rw [← ours]
    exact (transmits_of_same sent).trans ((transmits_of_same rfl).trans transmits)

/-- A message that nobody takes changes nothing. -/
theorem direct_cases (orderly : e.book.Orderly gone) (now : Instant) (srcMac : MacAddress)
    (flow : Tcp.Flow) (m : Tcp.Message) :
    e.direct now srcMac flow m = e ∨
      ∃ c, e.Directs now srcMac flow m c (e.direct now srcMac flow m) := by
  rcases found : e.connectionFor flow srcMac m.flags with ⟨e', _ | c⟩
  · have unchanged := eq_of_connectionFor_eq_none found
    rw [direct, found]
    exact Or.inl unchanged
  · rw [direct, found]
    exact Or.inr ⟨c, directs_of_connectionFor orderly found now⟩

/-! ## Frames -/

/-- The engine when it has noted and reported a segment that came in. -/
def notePacket (e : Engine) (now : Instant) (data : Bytes) (srcMac : MacAddress)
    (p : Internet.Packet) (s : Tcp.Segment) : Engine :=
  ((e.received data).learn now srcMac p.src).noteSegment p s

/-- A segment is directed to one connection at most. -/
theorem handleFrame_of_segment (orderly : e.book.Orderly gone) (now : Instant)
    {p : Internet.Packet} {s : Tcp.Segment}
    (reading : e.read data = .packet srcMac p (.segment s)) :
    (e.handleFrame now data).connections = e.connections ∧
        (e.handleFrame now data).sent = e.sent ∨
      ∃ c, e.Directs now srcMac (flowOf p s) (messageOf s) c (e.handleFrame now data) := by
  have handled : e.handleFrame now data =
      if e.setup.forwardTarget.isNone then e.notePacket now data srcMac p s
      else (e.notePacket now data srcMac p s).direct now srcMac (flowOf p s) (messageOf s) := by
    rw [handleFrame_eq, reading]
    rfl
  have same : (e.notePacket now data srcMac p s).book = e.book := by
    rw [notePacket, noteSegment, book_report, book_count _ (by decide) (by decide)]
    exact book_addReceived e data.length
  have table : (e.notePacket now data srcMac p s).connections = e.connections :=
    congrArg Book.connections same
  have sent : (e.notePacket now data srcMac p s).sent = e.sent := rfl
  have noted : (e.notePacket now data srcMac p s).book.Orderly gone := same.symm ▸ orderly
  rw [handled]
  split
  · exact Or.inl ⟨table, sent⟩
  · rcases direct_cases noted now srcMac (flowOf p s) (messageOf s) with nobody | ⟨c, directs⟩
    · rw [nobody]
      exact Or.inl ⟨table, sent⟩
    · exact Or.inr ⟨c, directs.of_same table (congrArg Book.opened same) sent rfl⟩

/-- Only a segment is reported as one. -/
theorem Reading.segment_of_events {reading : Reading} (events : reading.events = [.tcp flow m]) :
    ∃ srcMac p s, reading = .packet srcMac p (.segment s) ∧ flow = flowOf p s ∧
      m = messageOf s := by
  cases reading with
  | other | dropped | resolution => cases events
  | packet srcMac p content =>
    cases content with
    | other | dropped | echo | datagram => cases events
    | segment s =>
      cases events
      exact ⟨srcMac, p, s, rfl, rfl, rfl⟩

/-- A frame without a segment leaves the table alone. -/
theorem connections_handleFrame_of_no_segment (e : Engine) (now : Instant)
    (other : ∀ srcMac p s, e.read data ≠ .packet srcMac p (.segment s)) :
    (e.handleFrame now data).connections = e.connections := by
  rw [handleFrame_eq]
  rcases heed_cases (e.received data) now (e.read data) with ⟨-, uttered⟩ |
      ⟨srcMac, flow, m, e', message, -⟩
  · exact uttered.connections
  · cases said : e.read data with
    | other | dropped | resolution =>
      rw [said] at message
      cases message
    | packet srcMac p content =>
      rw [said] at message
      cases content with
      | segment s => exact absurd said (other srcMac p s)
      | other | dropped | echo | datagram => cases message

/-! ## Where connections come from -/

/-- A frame opens the connection of an origin: it comes from the connection's station and is reported
    as a request for a connection with these ends, which gets the next number. -/
structure Opens (e : Engine) (now : Instant) (data : Bytes) (o : Connection.Origin) : Prop where
  station : ∃ frame, Link.Frame.parse data = .ok frame ∧ frame.src = o.clientMac
  request : ∃ m, m.flags.isBareSyn ∧
    (e.handleFrame now data).reported = e.reported ++ [.tcp o.flow m]
  number : o.id = e.opened
  counted : (e.handleFrame now data).opened = e.opened + 1

/-- On the way from one engine to another, a frame came in that opened the connection of an origin. -/
def WasOpened (start e : Engine) (o : Connection.Origin) : Prop :=
  ∃ e₀ now data, start.Leads e₀ ∧ (e₀.handleFrame now data).Leads e ∧ e₀.Opens now data o

theorem Leads.trans {e'' : Engine} (first : e.Leads e') (second : e'.Leads e'') :
    e.Leads e'' := by
  induction second with
  | refl => exact first
  | step _ happening possible ih => exact .step ih happening possible

theorem WasOpened.later (opened : start.WasOpened e o) (later : e.Leads e') :
    start.WasOpened e' o := by
  obtain ⟨e₀, now, data, before, after, opens⟩ := opened
  exact ⟨e₀, now, data, before, after.trans later, opens⟩

/-- Whether a connection of an origin is in the table. -/
def Lists (e : Engine) (o : Connection.Origin) : Prop := ∃ c ∈ e.connections, c.origin = o

theorem Minds.cases (minds : e.Minds o e') {d : Connection} (hd : d ∈ e'.connections) :
    d.origin = o ∨ e.Lists d.origin := by
  by_cases ends : d.flow = o.flow
  · exact Or.inl (minds.entry d hd ends)
  · have hd : d ∈ e'.others o.flow := List.mem_filter.2 ⟨hd, decide_eq_true ends⟩
    rw [minds.others] at hd
    exact Or.inr ⟨d, List.mem_of_mem_filter hd, rfl⟩

theorem Minds.lists (minds : e.Minds o e') (listed : e.Lists o) {d : Connection}
    (hd : d ∈ e'.connections) : e.Lists d.origin := by
  rcases minds.cases hd with same | listed'
  · rwa [same]
  · exact listed'

theorem lists_of_book (same : e'.book = e.book) {d : Connection} (hd : d ∈ e'.connections) :
    e.Lists d.origin := by
  rw [← book_connections, same] at hd
  exact ⟨d, hd, rfl⟩

theorem opens_of_openedBy {p : Internet.Packet} {s : Tcp.Segment}
    (reading : e.read data = .packet srcMac p (.segment s))
    (opened : e.OpenedBy srcMac (flowOf p s) (messageOf s) o (e.handleFrame now data)) :
    e.Opens now data o := by
  obtain ⟨frame, parsed, src, -⟩ := frame_of_read reading
  have reported := reported_handleFrame e now data
  rw [reading] at reported
  rw [opened.origin]
  exact ⟨⟨frame, parsed, src⟩, ⟨messageOf s, opened.request, reported⟩, rfl, opened.counted⟩

section Step

variable {d : Connection}

theorem lists_or_opens_of_frame (orderly : e.book.Orderly gone)
    (hd : d ∈ (e.handleFrame now data).connections) :
    e.Lists d.origin ∨ e.Opens now data d.origin := by
  by_cases segment : ∃ srcMac p s, e.read data = .packet srcMac p (.segment s)
  · obtain ⟨srcMac, p, s, reading⟩ := segment
    rcases handleFrame_of_segment orderly now reading with ⟨same, -⟩ | ⟨c, directs⟩
    · exact Or.inl ⟨d, same ▸ hd, rfl⟩
    rcases directs.found with inTable | opened
    · exact Or.inl (directs.minds.lists ⟨c, (KeyedList.mem_of_find? inTable).1, rfl⟩ hd)
    · rcases directs.minds.cases hd with same | listed
      · exact Or.inr (same ▸ opens_of_openedBy reading opened)
      · exact Or.inl listed
  · have other : ∀ srcMac p s, e.read data ≠ .packet srcMac p (.segment s) :=
      fun srcMac p s reading => segment ⟨srcMac, p, s, reading⟩
    exact Or.inl ⟨d, connections_handleFrame_of_no_segment e now other ▸ hd, rfl⟩

theorem lists_of_hearTarget (orderly : e.book.Orderly gone) {id : Nat} {event : TargetEvent}
    (hd : d ∈ (e.hearTarget now id event).connections) : e.Lists d.origin := by
  cases known : e.connection? id with
  | none =>
    rw [hearTarget, known] at hd
    exact ⟨d, hd, rfl⟩
  | some c =>
    rw [hearTarget_of_connection? now event known] at hd
    split at hd
    · exact ⟨d, hd, rfl⟩
    obtain ⟨rfl, mem | past⟩ := connection?_cases known
    · exact (minds_meet (orderly.toKeyed.sole mem) now event).lists ⟨c, mem, rfl⟩ hd
    · exact lists_of_book (book_meet_of_not_isOpen event past) hd

theorem lists_of_changeRelay (orderly : e.book.Orderly gone) {id : Nat} {change : Relay → Relay}
    (hd : d ∈ (e.changeRelay id change).connections) : e.Lists d.origin := by
  cases known : e.connection? id with
  | none =>
    rw [changeRelay, known] at hd
    exact ⟨d, hd, rfl⟩
  | some c =>
    rw [changeRelay, known] at hd
    obtain ⟨rfl, mem | past⟩ := connection?_cases known
    · have sole : e.Sole c.origin := orderly.toKeyed.sole mem
      exact (minds_update (c := { c with relay := change c.relay }) sole).lists ⟨c, mem, rfl⟩ hd
    · have same : (e.update { c with relay := change c.relay }).book = e.book :=
        book_update_of_not_isOpen past
      exact lists_of_book same hd

/-- What is in the table was there before, or a frame has just opened it. -/
theorem lists_or_opens_of_happen (orderly : e.book.Orderly gone) {happening : Happening}
    (possible : happening.CanHappen e) (hd : d ∈ (e.happen happening).connections) :
    e.Lists d.origin ∨ ∃ now data, happening = .frame now data ∧ e.Opens now data d.origin := by
  cases happening with
  | frame now data =>
    exact (lists_or_opens_of_frame orderly hd).imp_right fun opens => ⟨now, data, rfl, opens⟩
  | target now id event => exact Or.inl (lists_of_hearTarget orderly hd)
  | late now c event =>
    exact Or.inl (lists_of_book (book_meet_of_not_isOpen event possible) hd)
  | relay id move => exact Or.inl (lists_of_changeRelay orderly hd)
  | beginSend now parcel => exact Or.inl (lists_of_book (book_beginSend ..) hd)
  | finishSend now dst packet => exact Or.inl (lists_of_book (book_finishSend ..) hd)
  | sweep now =>
    rw [happen, orderly.sweep_eq] at hd
    exact Or.inl ⟨d, hd, rfl⟩
  | start =>
    rw [happen, Engine.start] at hd
    split at hd <;> exact Or.inl ⟨d, hd, rfl⟩
  | stop =>
    rw [happen, stop] at hd
    split at hd
    · exact absurd hd List.not_mem_nil
    · exact Or.inl ⟨d, hd, rfl⟩
  | arp | link => exact Or.inl ⟨d, hd, rfl⟩

end Step

/-- Every connection in the table was opened by a frame from its station. -/
theorem Leads.wasOpened {setup : Setup} {localMac : MacAddress} {words : Nat → UInt32}
    (run : (Engine.new setup localMac words).Leads e) (listed : e.Lists o) :
    (Engine.new setup localMac words).WasOpened e o := by
  -- an entry is older than the last step, or the last step is the frame that opened it
  induction run generalizing o with
  | refl =>
    obtain ⟨c, hc, -⟩ := listed
    exact absurd hc List.not_mem_nil
  | step before happening possible ih =>
    obtain ⟨d, hd, rfl⟩ := listed
    have orderly := (orderly_new setup localMac words).leads before
    rcases lists_or_opens_of_happen orderly possible hd with listed | ⟨now, data, rfl, opens⟩
    · exact (ih listed).later (.step .refl happening possible)
    · exact ⟨_, now, data, before, .refl, opens⟩

/-! ## What a step is about -/

/-- A step from `e` to `e'` concerns the connection of an origin: it has the given ends, it was in the
    table or is the next one to come into it, and no other has its ends in the table afterwards. -/
structure Concerns (e : Engine) (flow : Tcp.Flow) (o : Connection.Origin) (e' : Engine) : Prop where
  ends : o.flow = flow
  place : e.Lists o ∨ o.id = e.opened
  alone : ∀ d, e'.connectionOf? flow = some d → d.origin = o

theorem Directs.concerns (directs : e.Directs now srcMac flow m c e') :
    e.Concerns flow c.origin e' := by
  have ends : c.origin.flow = flow := directs.ends
  refine ⟨ends, directs.found.imp (fun inTable => ?_) fun opened => ?_, fun d inTable => ?_⟩
  · exact ⟨c, (KeyedList.mem_of_find? inTable).1, rfl⟩
  · rw [opened.origin]
  · obtain ⟨hd, same⟩ := KeyedList.mem_of_find? inTable
    exact directs.minds.entry d hd (same.trans ends.symm)

/-- The connection that took the segment of a frame was opened by a frame, maybe by this one. -/
theorem Directs.wasOpened {setup : Setup} {localMac : MacAddress} {words : Nat → UInt32}
    {p : Internet.Packet} {s : Tcp.Segment} (run : (Engine.new setup localMac words).Leads e)
    (reading : e.read data = .packet srcMac p (.segment s))
    (directs : e.Directs now srcMac (flowOf p s) (messageOf s) c (e.handleFrame now data)) :
    (Engine.new setup localMac words).WasOpened (e.handleFrame now data) c.origin := by
  rcases directs.found with inTable | opened
  · have listed : e.Lists c.origin := ⟨c, (KeyedList.mem_of_find? inTable).1, rfl⟩
    exact (run.wasOpened listed).later (.step .refl (.frame now data) trivial)
  · exact ⟨e, now, data, run, .refl, opens_of_openedBy reading opened⟩

/-- A happening is an event of the forward target for a connection: the engine keeps the connection,
    or it is not in the table any more, and only its relay still has it. -/
def Happening.Tells (e : Engine) (now : Instant) (c : Connection) (event : TargetEvent)
    (happening : Happening) : Prop :=
  happening = .target now c.id event ∧ e.connection? c.id = some c ∨
    happening = .late now c event ∧ ¬ e.IsOpen c.id

/-- Whether a connection of an origin was in the table on the way from one engine to another. -/
def Listed (start e : Engine) (o : Connection.Origin) : Prop :=
  ∃ e₀, start.Leads e₀ ∧ e₀.Leads e ∧ e₀.Lists o

theorem happen_of_tells {event : TargetEvent} {happening : Happening}
    (tells : happening.Tells e now c event) :
    (e.happen happening = e ∨ e.happen happening = e.meet now c event) ∧
      (c ∈ e.connections ∨ ¬ e.IsOpen c.id) := by
  rcases tells with ⟨rfl, known⟩ | ⟨rfl, past⟩
  · refine ⟨?_, (connection?_cases known).2⟩
    rw [happen, hearTarget_of_connection? now event known]
    split
    · exact Or.inl rfl
    · exact Or.inr rfl
  · exact ⟨Or.inr rfl, Or.inr past⟩

/-- An event of the forward target leaves the entries with other ends alone, and the whole table if
    its connection is not in it. -/
theorem others_of_tells (orderly : e.book.Orderly gone) {event : TargetEvent}
    {happening : Happening} (tells : happening.Tells e now c event) :
    (e.happen happening).others c.flow = e.others c.flow ∧
      (¬ e.IsOpen c.id → (e.happen happening).connections = e.connections) := by
  obtain ⟨same | met, place⟩ := happen_of_tells tells
  · rw [same]
    exact ⟨rfl, fun _ => rfl⟩
  · have table (past : ¬ e.IsOpen c.id) : (e.meet now c event).connections = e.connections :=
      congrArg Book.connections (book_meet_of_not_isOpen event past)
    rw [met]
    refine ⟨?_, table⟩
    rcases place with mem | past
    · exact (minds_meet (orderly.toKeyed.sole mem) now event).others
    · rw [others, table past, ← others]

theorem transmits_of_tells {event : TargetEvent} {happening : Happening}
    (tells : happening.Tells e now c event) (fits : event.bytes.length ≤ speechLimit) :
    e.Transmits (·.SpeaksOn e.localMac ((e.happen happening).listener now c) c.flow)
      (e.happen happening) := by
  obtain ⟨same | met, -⟩ := happen_of_tells tells
  · rw [same]
    exact transmits_of_same rfl
  · have known : (e.meet now c event).arp = e.arp := (relays_meet ..).same_arp
    rw [met, listener, known]
    exact transmits_meet e now c fits

/-- **Connections do not disturb each other, and each speaks to its own client.** Whatever has
    happened to an engine: a frame that is reported as a segment changes no entry of the table but
    the one with the ends of the segment. All that is put on the link because of it goes from the
    server of this connection to its client, with checksums that hold: to the station that has the
    client's address, or, if none is known, to the station whose request has opened the connection.
    The connection is the one that was in the table, or the one that takes its place. Any other
    frame leaves the table alone and brings no segment about. An event of the forward target changes
    no entry but that of the connection whose relay hears it, and none if that is not in the table
    any more. What is put on the link because of it goes to the client of this connection in the
    same way; and if the connection ever was in the table, its station's request has opened it. -/
theorem connections_isolated {setup : Setup} {localMac : MacAddress} {words : Nat → UInt32}
    (run : (Engine.new setup localMac words).Leads e) (now : Instant) :
    (∀ data flow m, (e.handleFrame now data).reported = e.reported ++ [.tcp flow m] →
      let e' := e.handleFrame now data
      (∀ other, other ≠ flow → e'.connectionOf? other = e.connectionOf? other) ∧
      e.Transmits (fun frame => ∃ o, e.Concerns flow o e' ∧
        (Engine.new setup localMac words).WasOpened e' o ∧
        frame.SpeaksOn localMac ((e'.arp.lookup now flow.client.ip).getD o.clientMac) flow) e') ∧
    (∀ data, (∀ flow m, (e.handleFrame now data).reported ≠ e.reported ++ [.tcp flow m]) →
      (e.handleFrame now data).connections = e.connections ∧
      e.Transmits (¬ ·.CarriesSegment) (e.handleFrame now data)) ∧
    ∀ (c : Connection) (event : TargetEvent) (happening : Happening),
        happening.Tells e now c event →
      let e' := e.happen happening
      (∀ other, other ≠ c.flow → e'.connectionOf? other = e.connectionOf? other) ∧
      (¬ e.IsOpen c.id → e'.connections = e.connections) ∧
      ((Engine.new setup localMac words).Listed e c.origin →
        (Engine.new setup localMac words).WasOpened e c.origin) ∧
      (event.bytes.length ≤ 4096 →
        e.Transmits (·.SpeaksOn localMac
          ((e'.arp.lookup now c.flow.client.ip).getD c.clientMac) c.flow) e') := by
  have orderly := (orderly_new setup localMac words).leads run
  have ours : e.localMac = localMac := run.continues.localMac
  refine ⟨fun data flow m reported => ?_, fun data unreported => ?_,
    fun c event happening tells => ?_⟩
  · intro e'
    rw [reported_handleFrame, List.append_cancel_left_eq] at reported
    obtain ⟨srcMac, p, s, reading, rfl, rfl⟩ := Reading.segment_of_events reported
    rcases handleFrame_of_segment orderly now reading with ⟨table, sent⟩ | ⟨c, directs⟩
    · refine ⟨fun other _ => ?_, transmits_of_same sent⟩
      rw [connectionOf?, table, ← connectionOf?]
    have ends : flowOf p s = c.origin.flow := directs.ends.symm
    refine ⟨fun other ne => connectionOf?_of_others directs.minds.others (ends ▸ ne), ?_⟩
    refine directs.transmits.imp fun frame speaks =>
      ⟨c.origin, directs.concerns, directs.wasOpened run reading, ?_⟩
    rw [← ours, ends]
    exact speaks
  · have other : ∀ srcMac p s, e.read data ≠ .packet srcMac p (.segment s) := by
      intro srcMac p s reading
      refine unreported (flowOf p s) (messageOf s) ?_
      rw [reported_handleFrame, reading]
      rfl
    exact ⟨connections_handleFrame_of_no_segment e now other,
      transmits_handleFrame_of_no_segment e now other⟩
  · obtain ⟨others, table⟩ := others_of_tells orderly tells
    refine ⟨fun other ne => connectionOf?_of_others others ne, table, ?_, fun short => ?_⟩
    · rintro ⟨e₀, before, after, listed⟩
      exact (before.wasOpened listed).later after
    · rw [← ours]
      exact transmits_of_tells tells (Nat.le_trans short (by decide))

/-! Two consoles open a connection each. The first one says something, and is forgotten afterwards;
then its connection to the forward target breaks. -/

/-- The ends of the connection that a console opens. -/
def flowFrom (n : UInt32) : Tcp.Flow := ⟨⟨⟨0x0A0D0000 + n⟩, 49152⟩, ⟨⟨0x0A0D2501⟩, 80⟩⟩

/-- The second console asks for its connection. -/
def secondRequest : Bytes :=
  let segment : Tcp.Draft := { srcPort := 49152, dstPort := 80, seq := 7, flags := { syn := true } }
  let packet : Internet.Draft := {
    protocol := Internet.Protocol.tcp.code
    src := ⟨0x0A0D0003⟩
    dst := ⟨0x0A0D2501⟩
    payload := segment.toBytes ⟨0x0A0D0003⟩ ⟨0x0A0D2501⟩ }
  let frame : Link.Frame := {
    src := station 3
    etherType := Link.EtherType.ipv4.code
    payload := packet.toBytes }
  frame.toBytes

/-- The engine when both connections have been opened. -/
def shared : Engine :=
  ((Engine.new .home .zero UInt32.ofNat).happen
    (.frame 0 (saidByConsole { syn := true } 100 []))).happen (.frame 1 secondRequest)

/-- The first console says something. -/
def spoken : Bytes := saidByConsole .ackOnly 101 [1, 2, 3]

/-- The second console's connection stays as it is, and all that is said goes to the first. -/
theorem connections_isolated_shared :
    let answered := shared.handleFrame 2 spoken
    let broken := shared.happen (.target 1000000000000 0 .failed)
    let learned := shared.handleFrame 2 (announcement (station 3) ⟨0x0A0D0004⟩)
    (answered.reported = shared.reported ++ [.tcp (flowFrom 2) ⟨.ackOnly, 101, 0, [1, 2, 3]⟩] ∧
      answered.connectionOf? (flowFrom 3) = shared.connectionOf? (flowFrom 3) ∧
      shared.Transmits (·.SpeaksOn .zero (station 2) (flowFrom 2)) answered ∧
      answered.sent ≠ shared.sent) ∧
    ((∃ c, Happening.Tells shared 1000000000000 c .failed (.target 1000000000000 0 .failed)) ∧
      broken.connectionOf? (flowFrom 3) = shared.connectionOf? (flowFrom 3) ∧
      shared.Transmits (·.SpeaksOn .zero (station 2) (flowFrom 2)) broken ∧
      broken.sent ≠ shared.sent) ∧
    (learned.reported = shared.reported ∧ learned.connections = shared.connections) := by
  intro answered broken learned
  have run : (Engine.new .home .zero UInt32.ofNat).Leads shared :=
    .step (.step .refl (.frame 0 _) trivial) (.frame 1 _) trivial
  have said : answered.reported
      = shared.reported ++ [.tcp (flowFrom 2) ⟨.ackOnly, 101, 0, [1, 2, 3]⟩] := by
    decide +kernel
  have nothing : learned.reported = shared.reported := by decide +kernel
  obtain ⟨frames, others, -⟩ := connections_isolated run 2
  obtain ⟨-, -, events⟩ := connections_isolated run 1000000000000
  refine ⟨⟨said, ?_⟩, ?_, nothing, ?_⟩
  · obtain ⟨others, transmits⟩ := frames spoken _ _ said
    have known : answered.arp.lookup 2 (flowFrom 2).client.ip = some (station 2) := by
      decide +kernel
    refine ⟨others (flowFrom 3) (by decide), transmits.imp fun frame speaks => ?_, ?_⟩
    · obtain ⟨o, -, -, speaks⟩ := speaks
      rwa [known] at speaks
    · decide +kernel
  · obtain ⟨c, found⟩ : ∃ c, shared.connection? 0 = some c :=
      Option.isSome_iff_exists.1 (by decide +kernel)
    have origin : (shared.connection? 0).map (·.origin) = some ⟨0, flowFrom 2, station 2⟩ := by
      decide +kernel
    rw [found] at origin
    injection origin with origin
    have number : c.id = 0 := congrArg Connection.Origin.id origin
    have ends : c.flow = flowFrom 2 := congrArg Connection.Origin.flow origin
    have opener : c.clientMac = station 2 := congrArg Connection.Origin.clientMac origin
    have tells : Happening.Tells shared 1000000000000 c .failed
        (.target 1000000000000 0 .failed) := Or.inl ⟨by rw [number], number.symm ▸ found⟩
    obtain ⟨others, -, -, transmits⟩ := events c .failed _ tells
    -- the first console has not been heard for so long that it is forgotten
    have forgotten : broken.arp.lookup 1000000000000 (flowFrom 2).client.ip = none := by
      decide +kernel
    have transmits := transmits (by decide)
    rw [ends, opener] at transmits
    refine ⟨⟨c, tells⟩, others (flowFrom 3) (by rw [ends]; decide), ?_, by decide +kernel⟩
    refine transmits.imp fun frame speaks => ?_
    rwa [forgotten] at speaks
  · have unreported (flow : Tcp.Flow) (m : Tcp.Message) :
        learned.reported ≠ shared.reported ++ [.tcp flow m] := by
      rw [nothing]
      simp
    exact (others _ unreported).1

end LocalPlay.Engine
