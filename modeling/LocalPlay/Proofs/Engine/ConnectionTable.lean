import LocalPlay.Proofs.Engine.Book
import LocalPlay.Proofs.Engine.TargetStream

set_option autoImplicit false

/-! # The table of connections

However frames, events of the forward target, sweeps, stops and starts follow on each other, the
table of connections is a map: a connection is found under its two ends, it is under way, and it is
counted once when it comes and once when it goes. A relay that is late, because its connection was
taken out of the table or its place was taken, does not touch the table.

Connections are told apart by numbers that are given out one after the other, so the invariant,
`Book.Orderly`, also keeps a set of numbers that are `gone` for good. -/

namespace LocalPlay

namespace Tcp

/-- Whether a connection in the state has been asked for and is not over. -/
def State.IsUnderWay (state : State) : Prop :=
  state = .synReceived ∨ state = .established ∨ state = .closeWait ∨ state = .lastAck

theorem State.isUnderWay_iff {state : State} :
    state.IsUnderWay ↔ state ≠ .listen ∧ state ≠ .closed := by
  cases state <;> simp [IsUnderWay]

namespace Session

section Step

variable {s s' : Session} {a : Action} {o : Outcome}

theorem flow_of_step (step : s.Step a s' o) : s'.flow = s.flow := by
  cases step <;> rfl

theorem ne_listen_of_step (step : s.Step a s' o) (begun : s.state ≠ .listen) :
    s'.state ≠ .listen := by
  cases step with
  | ignores | opensAgain | endsAgain | sends => exact begun
  | acknowledges | takes | refuses => exact mt State.listen_of_opened begun
  | opens | reset | endsFirst | endsLast | finishes | closes | breaksOff | givesUp =>
    simp

/-- A new session is opened or ended by a request, and no session becomes new again. -/
theorem receive_ne_listen (s : Session) {m : Message}
    (asked : s.state = .listen → m.flags.isBareSyn) : (s.receive m).1.state ≠ .listen := by
  by_cases new : s.state = .listen
  · by_cases rst : m.flags.rst <;> simp [receive, receiveListen, new, rst, asked new]
  · exact ne_listen_of_step (step_receive s m) new

end Step

end Session

end Tcp

namespace Engine

variable {gone : Nat → Prop} {e e' : Engine} {c : Connection}

/-! ## The invariant -/

/-- The table has one connection for two ends and for a number, and each is counted. -/
structure Book.Keyed (gone : Nat → Prop) (b : Book) : Prop where
  given : ∀ c ∈ b.connections, c.id < b.opened ∧ ¬ gone c.id
  gone_given : ∀ id, gone id → id < b.opened
  ids_nodup : (b.connections.map Connection.id).Nodup
  flows_nodup : (b.connections.map Connection.flow).Nodup
  counted : ∃ closed, b.opened = closed + b.connections.length ∧
    b.openedCount = UInt64.ofNat b.opened ∧ b.closedCount = UInt64.ofNat closed

/-- The table is in order, but for the state of one connection, which may be new. -/
structure Book.OrderlyBut (gone : Nat → Prop) (b : Book) (c : Connection) : Prop
    extends b.Keyed gone where
  mem : c ∈ b.connections
  others : ∀ d ∈ b.connections, d.id ≠ c.id → d.session.state.IsUnderWay

/-- The table is a map, and every connection in it is under way. -/
structure Book.Orderly (gone : Nat → Prop) (b : Book) : Prop extends b.Keyed gone where
  underWay : ∀ c ∈ b.connections, c.session.state.IsUnderWay

theorem Book.Orderly.orderlyBut {b : Book} (orderly : b.Orderly gone) (mem : c ∈ b.connections) :
    b.OrderlyBut gone c :=
  ⟨orderly.toKeyed, mem, fun d hd _ => orderly.underWay d hd⟩

/-! ## Writing in the table -/

namespace Book.Keyed

theorem retire (keyed : e.book.Keyed gone) (c : Connection) : (e.retire c).book.Keyed gone := by
  by_cases isOpen : e.IsOpen c.id
  · rw [book_retire_of_isOpen isOpen]
    obtain ⟨d, hd, same⟩ := isOpen
    have sub : (e.connections.filter fun d => d.id ≠ c.id).Sublist e.connections :=
      List.filter_sublist
    obtain ⟨closed, balance, openedCount, closedCount⟩ := keyed.counted
    refine ⟨fun d hd => keyed.given d (sub.subset hd), keyed.gone_given,
      keyed.ids_nodup.sublist (sub.map _), keyed.flows_nodup.sublist (sub.map _),
      closed + 1, ?_, openedCount, ?_⟩
    · have one := KeyedList.length_filter_ne keyed.ids_nodup hd
      rw [same] at one
      simp only [book_connections] at balance one ⊢
      omega
    · rw [closedCount, UInt64.ofNat_add]
      rfl
  · rwa [book_retire_of_not_isOpen isOpen]

theorem update (keyed : e.book.Keyed gone)
    (sameEnds : ∀ d ∈ e.connections, d.id = c.id → d.flow = c.flow) :
    (e.update c).book.Keyed gone := by
  have ids : (substitute c e.connections).map Connection.id = e.connections.map Connection.id :=
    map_substitute fun _ _ same => same
  have flows : (substitute c e.connections).map Connection.flow
      = e.connections.map Connection.flow := map_substitute sameEnds
  rw [book_update]
  refine ⟨?_, keyed.gone_given, ids ▸ keyed.ids_nodup, flows ▸ keyed.flows_nodup, ?_⟩
  · intro d hd
    have mem : d.id ∈ e.connections.map Connection.id := ids ▸ List.mem_map_of_mem hd
    obtain ⟨d', hd', same⟩ := List.mem_map.1 mem
    rw [← same]
    exact keyed.given d' hd'
  · simpa [substitute] using keyed.counted

theorem openConnection (keyed : e.book.Keyed gone) {flow : Tcp.Flow} (clientMac : MacAddress)
    (new : ∀ d ∈ e.connections, d.flow ≠ flow) :
    (e.openConnection flow clientMac).1.book.Keyed gone := by
  obtain ⟨closed, balance, openedCount, closedCount⟩ := keyed.counted
  rw [book_openConnection]
  refine ⟨?_, ?_, ?_, ?_, closed, ?_, ?_, closedCount⟩
  · intro d hd
    rcases List.mem_append.1 hd with hd | hd
    · have given := keyed.given d hd
      exact ⟨Nat.lt_succ_of_lt given.1, given.2⟩
    · rw [List.mem_singleton.1 hd]
      exact ⟨Nat.lt_succ_self _, fun past => Nat.lt_irrefl _ (keyed.gone_given _ past)⟩
  · exact fun id past => Nat.lt_succ_of_lt (keyed.gone_given id past)
  · refine KeyedList.nodup_map_concat keyed.ids_nodup fun d hd => ?_
    exact Nat.ne_of_lt (keyed.given d hd).1
  · exact KeyedList.nodup_map_concat keyed.flows_nodup new
  · rw [List.length_append, List.length_singleton, ← Nat.add_assoc, ← book_connections, ← balance]
    rfl
  · rw [openedCount, UInt64.ofNat_add]
    rfl

theorem connectionOf?_eq_some_iff (keyed : e.book.Keyed gone) {flow : Tcp.Flow} :
    e.connectionOf? flow = some c ↔ c ∈ e.connections ∧ c.flow = flow :=
  KeyedList.find?_eq_some_iff keyed.flows_nodup

theorem eq_of_id (keyed : e.book.Keyed gone) {d : Connection} (hc : c ∈ e.connections)
    (hd : d ∈ e.connections) (same : d.id = c.id) : d = c :=
  List.inj_on_of_nodup_map keyed.ids_nodup hd hc same

end Book.Keyed

namespace Book.Orderly

theorem retire (orderly : e.book.Orderly gone) (c : Connection) :
    (e.retire c).book.Orderly gone := by
  refine ⟨orderly.toKeyed.retire c, ?_⟩
  by_cases isOpen : e.IsOpen c.id
  · rw [book_retire_of_isOpen isOpen]
    exact fun d hd => orderly.underWay d (List.mem_of_mem_filter hd)
  · rw [book_retire_of_not_isOpen isOpen]
    exact orderly.underWay

theorem openConnection (orderly : e.book.Orderly gone) {flow : Tcp.Flow} (clientMac : MacAddress)
    (new : ∀ d ∈ e.connections, d.flow ≠ flow) :
    (e.openConnection flow clientMac).1.book.OrderlyBut gone
      (e.openConnection flow clientMac).2 := by
  refine ⟨orderly.toKeyed.openConnection clientMac new, ?_, ?_⟩ <;> rw [book_openConnection]
  · exact List.mem_append_right _ (List.mem_singleton_self _)
  · intro d hd ne
    rcases List.mem_append.1 hd with hd | hd
    · exact orderly.underWay d hd
    · exact absurd (congrArg Connection.id (List.mem_singleton.1 hd)) ne

end Book.Orderly

namespace Book.OrderlyBut

variable {c' : Connection}

theorem eq_of_id (orderly : e.book.OrderlyBut gone c) {d : Connection} (hd : d ∈ e.connections)
    (same : d.id = c.id) : d = c :=
  orderly.toKeyed.eq_of_id orderly.mem hd same

theorem update (orderly : e.book.OrderlyBut gone c) (id : c'.id = c.id) (flow : c'.flow = c.flow)
    (underWay : c'.session.state.IsUnderWay) : (e.update c').book.Orderly gone := by
  refine ⟨orderly.toKeyed.update fun d hd same => ?_, ?_⟩
  · rw [orderly.eq_of_id hd (same.trans id), flow]
  · intro d hd
    obtain ⟨d', hd', rfl⟩ := List.mem_map.1 hd
    by_cases same : d'.id = c'.id
    · rwa [if_pos same]
    · rw [if_neg same]
      exact orderly.others d' hd' (id ▸ same)

/-- What has become of the connection is noted, and it is under way or out of the table. -/
theorem settle (orderly : e.book.OrderlyBut gone c) (id : c'.id = c.id) (flow : c'.flow = c.flow)
    (begun : c'.session.state ≠ .listen) : (e.settle c').book.Orderly gone := by
  unfold Engine.settle
  split
  · refine ⟨orderly.toKeyed.retire c', ?_⟩
    rw [book_retire_of_isOpen ⟨c, orderly.mem, id.symm⟩]
    intro d hd
    obtain ⟨hd, ne⟩ := List.mem_filter.1 hd
    exact orderly.others d hd (id ▸ of_decide_eq_true ne)
  · next alive =>
    refine orderly.update id flow (Tcp.State.isUnderWay_iff.2 ⟨begun, ?_⟩)
    simpa [Tcp.Session.isClosed] using alive

/-- The connection meets something, and is new only if a request comes for it. -/
theorem conclude (orderly : e.book.OrderlyBut gone c) (now : Instant) (input : RelayInput)
    (relay : Relay) (begun : (input.apply c.session).1.state ≠ .listen) :
    ((e.sayIfAny now c (input.apply c.session).2).settle
      { c with session := (input.apply c.session).1, relay := relay }).book.Orderly gone := by
  have said := book_sayIfAny e now c (input.apply c.session).2
  have orderly' := said ▸ orderly
  exact orderly'.settle rfl (Tcp.Session.flow_of_step (input.step c.session)) begun

theorem hand (orderly : e.book.OrderlyBut gone c) (now : Instant) (m : Tcp.Message)
    (asked : c.session.state = .listen → m.flags.isBareSyn) :
    (e.hand now c m).book.Orderly gone := by
  rw [hand_eq]
  exact orderly.conclude now (.console m) _ (Tcp.Session.receive_ne_listen c.session asked)

end Book.OrderlyBut

/-- When a connection is taken out of the table, its two ends are free again. -/
theorem Book.Keyed.flow_ne_of_retire (keyed : e.book.Keyed gone) (mem : c ∈ e.connections)
    (relay : Relay) :
    ∀ d ∈ (e.retire { c with relay := relay }).connections, d.flow ≠ c.flow := by
  have retired := book_retire_of_isOpen (c := { c with relay := relay }) ⟨c, mem, rfl⟩
  rw [← book_connections, retired]
  intro d hd same
  obtain ⟨hd, ne⟩ := List.mem_filter.1 hd
  obtain rfl : d = c := List.inj_on_of_nodup_map keyed.flows_nodup hd mem same
  exact of_decide_eq_true ne rfl

/-! ## Frames -/

section Frames

variable {flow : Tcp.Flow} {srcMac : MacAddress} {flags : Tcp.Flags}

theorem eq_of_connectionFor_eq_none (missing : e.connectionFor flow srcMac flags = (e', none)) :
    e' = e := by
  unfold connectionFor at missing
  simp only at missing
  split at missing <;> split at missing <;> cases missing
  · rfl

/-- A message finds its connection, or it opens one. A connection that is there then makes way first,
    so that the new one has the ends alone. -/
theorem connectionFor_cases (found : e.connectionFor flow srcMac flags = (e', some c)) :
    e' = e ∧ e.connectionOf? flow = some c ∨
      flags.isBareSyn ∧ ∃ e₀, e₀.openConnection flow srcMac = (e', c) ∧
        (e₀ = e ∧ e.connectionOf? flow = none ∨
          ∃ d, e.connectionOf? flow = some d ∧ d.session.state ≠ .synReceived ∧
            e₀ = e.retire { d with relay := d.relay.cut }) := by
  unfold connectionFor at found
  simp only at found
  split at found
  · next unknown =>
    split at found <;> cases found
    next syn => exact Or.inr ⟨syn, e, rfl, Or.inl ⟨rfl, unknown⟩⟩
  · next d known =>
    split at found <;> cases found
    · next replaces => exact Or.inr ⟨replaces.1, _, rfl, Or.inr ⟨d, known, replaces.2, rfl⟩⟩
    · exact Or.inl ⟨rfl, known⟩

namespace Book.Orderly

theorem connectionFor (orderly : e.book.Orderly gone)
    (found : e.connectionFor flow srcMac flags = (e', some c)) :
    e'.book.OrderlyBut gone c ∧ (c.session.state = .listen → flags.isBareSyn) := by
  rcases connectionFor_cases found with ⟨rfl, known⟩ | ⟨syn, e₀, opens, room⟩
  · obtain ⟨mem, rfl⟩ := orderly.toKeyed.connectionOf?_eq_some_iff.1 known
    have begun := (Tcp.State.isUnderWay_iff.1 (orderly.underWay c mem)).1
    exact ⟨orderly.orderlyBut mem, fun new => absurd new begun⟩
  refine ⟨?_, fun _ => syn⟩
  cases opens
  rcases room with ⟨rfl, unknown⟩ | ⟨d, known, -, rfl⟩
  · have new : ∀ d ∈ e₀.connections, d.flow ≠ flow := KeyedList.find?_eq_none_iff.1 unknown
    exact orderly.openConnection srcMac new
  · obtain ⟨mem, rfl⟩ := orderly.toKeyed.connectionOf?_eq_some_iff.1 known
    have new := orderly.toKeyed.flow_ne_of_retire mem d.relay.cut
    exact (orderly.retire _).openConnection srcMac new

variable (now : Instant)

theorem receiveTcp (orderly : e.book.Orderly gone) (srcMac : MacAddress) (p : Internet.Packet) :
    (e.receiveTcp now srcMac p).book.Orderly gone := by
  unfold Engine.receiveTcp
  split
  · rwa [book_count _ (by decide) (by decide)]
  next s parsed =>
  simp only
  split
  · rwa [book_count _ (by decide) (by decide)]
  have noted : ((e.count .tcpSegments).report (.tcp ⟨⟨p.src, s.srcPort⟩, ⟨p.dst, s.dstPort⟩⟩
      ⟨s.flags, s.seq, s.ack, s.payload⟩)).book.Orderly gone := by
    rwa [book_report, book_count _ (by decide) (by decide)]
  split
  · exact noted
  split
  · next missing => rwa [eq_of_connectionFor_eq_none missing]
  · next found =>
    obtain ⟨orderly', asked⟩ := noted.connectionFor found
    exact orderly'.hand now _ asked

theorem receiveMember (orderly : e.book.Orderly gone) (srcMac : MacAddress) (p : Internet.Packet) :
    (e.receiveMember now srcMac p).book.Orderly gone := by
  unfold Engine.receiveMember
  split
  · rwa [book_receiveUdp]
  · exact orderly.receiveTcp now srcMac p
  · rwa [book_receiveIcmp]
  · exact orderly

theorem receiveIpv4 (orderly : e.book.Orderly gone) (frame : Link.Frame) :
    (e.receiveIpv4 now frame).book.Orderly gone := by
  unfold Engine.receiveIpv4
  split
  · rwa [book_count _ (by decide) (by decide)]
  next p parsed =>
  simp only
  split
  · rwa [book_count _ (by decide) (by decide)]
  have taught : { e with arp := e.arp.insert now frame.src p.src }.book.Orderly gone := orderly
  split
  · exact taught.receiveMember now frame.src p
  · rwa [book_count _ (by decide) (by decide)]

theorem receiveFrame (orderly : e.book.Orderly gone) (frame : Link.Frame) :
    (e.receiveFrame now frame).book.Orderly gone := by
  unfold Engine.receiveFrame
  split
  · rwa [book_count _ (by decide) (by decide)]
  split
  · rwa [book_receiveArp]
  · exact orderly.receiveIpv4 now frame
  · exact orderly

theorem handleFrame (orderly : e.book.Orderly gone) (data : Bytes) :
    (e.handleFrame now data).book.Orderly gone := by
  have counted : ({ e with counters := e.counters.addReceived data.length }).book.Orderly gone := by
    rwa [book_addReceived]
  unfold Engine.handleFrame
  simp only
  split
  · rwa [book_count _ (by decide) (by decide)]
  · exact counted.receiveFrame now _

end Book.Orderly

end Frames

/-! ## The forward target -/

namespace Book.Orderly

theorem hearTarget (orderly : e.book.Orderly gone) (now : Instant) (id : Nat)
    (event : TargetEvent) : (e.hearTarget now id event).book.Orderly gone := by
  cases known : e.connection? id with
  | none => rwa [Engine.hearTarget, known]
  | some c =>
    rw [hearTarget_of_connection? now event known]
    split
    · exact orderly
    · -- the relay belongs to a connection of the table, or comes late and is not in it
      obtain ⟨rfl, mem | past⟩ := connection?_cases known
      · have begun := (Tcp.State.isUnderWay_iff.1 (orderly.underWay c mem)).1
        exact (orderly.orderlyBut mem).conclude now (.target event) _
          (Tcp.Session.ne_listen_of_step ((RelayInput.target event).step c.session) begun)
      · rwa [book_meet_of_not_isOpen event past]

theorem changeRelay (orderly : e.book.Orderly gone) (id : Nat) (change : Relay → Relay) :
    (e.changeRelay id change).book.Orderly gone := by
  unfold Engine.changeRelay
  split
  · exact orderly
  · next c known =>
    obtain ⟨rfl, mem | past⟩ := connection?_cases known
    · exact (orderly.orderlyBut mem).update rfl rfl (orderly.underWay c mem)
    · have same : (e.update { c with relay := change c.relay }).book = e.book :=
        book_update_of_not_isOpen past
      rwa [same]

/-! ## Stopping and sweeping -/

theorem dropConnections (orderly : e.book.Orderly gone) :
    e.dropConnections.book.Orderly gone := by
  obtain ⟨closed, balance, openedCount, closedCount⟩ := orderly.counted
  refine ⟨⟨?_, orderly.gone_given, List.nodup_nil, List.nodup_nil, e.opened, rfl, ?_, ?_⟩, ?_⟩
  · exact fun c hc => absurd hc List.not_mem_nil
  · exact (Counters.get_add_of_ne (by decide) _ _).trans openedCount
  · have total : e.opened = closed + e.connections.length := balance
    rw [total, UInt64.ofNat_add, ← closedCount]
    exact Counters.get_add_self ..
  · exact fun c hc => absurd hc List.not_mem_nil

/-- No connection in the table is over, so a sweep only forgets hosts. -/
theorem sweep_eq (orderly : e.book.Orderly gone) (now : Instant) :
    e.sweep now = { e with arp := e.arp.sweep now } := by
  have none : (e.connections.filter fun c => c.session.isClosed) = [] := by
    refine List.filter_eq_nil_iff.2 fun c hc => ?_
    have alive := (Tcp.State.isUnderWay_iff.1 (orderly.underWay c hc)).2
    simpa [Tcp.Session.isClosed] using alive
  rw [sweep, none]
  rfl

/-! ## Runs -/

/-- The table stays in order, whatever happens. -/
theorem happen (orderly : e.book.Orderly gone) {happening : Happening}
    (possible : happening.CanHappen e) : (e.happen happening).book.Orderly gone := by
  cases happening with
  | frame now data => exact orderly.handleFrame now data
  | target now id event => exact orderly.hearTarget now id event
  | late now c event => rwa [Engine.happen, book_meet_of_not_isOpen event possible]
  | relay id move => exact orderly.changeRelay id move.apply
  | beginSend now parcel => rwa [Engine.happen, book_beginSend]
  | finishSend now dst packet => rwa [Engine.happen, book_finishSend]
  | arp change => exact orderly
  | sweep now =>
    rw [Engine.happen, orderly.sweep_eq]
    exact orderly
  | start =>
    rw [Engine.happen, Engine.start]
    split <;> exact orderly
  | stop =>
    rw [Engine.happen, Engine.stop]
    split
    · exact orderly.dropConnections
    · exact orderly
  | link => exact orderly

theorem leads (orderly : e.book.Orderly gone) (later : e.Leads e') : e'.book.Orderly gone := by
  induction later with
  | refl => exact orderly
  | step _ happening possible ih => exact ih.happen possible

end Book.Orderly

theorem orderly_new (setup : Setup) (localMac : MacAddress) (words : Nat → UInt32) :
    (Engine.new setup localMac words).book.Orderly fun _ => False := by
  refine ⟨⟨?_, fun _ => False.elim, List.nodup_nil, List.nodup_nil, 0, rfl, ?_, ?_⟩, ?_⟩
  · exact fun c hc => absurd hc List.not_mem_nil
  · exact Counters.get_zero _
  · exact Counters.get_zero _
  · exact fun c hc => absurd hc List.not_mem_nil

theorem Book.Keyed.not_isOpen_of_gone (keyed : e.book.Keyed gone) {id : Nat} (past : gone id) :
    ¬ e.IsOpen id := by
  rintro ⟨c, mem, rfl⟩
  exact (keyed.given c mem).2 past

/-- Every number that was given out and is not in the table now is gone for good. -/
theorem Book.Orderly.forget (orderly : e.book.Orderly gone) :
    e.book.Orderly fun id => id < e.opened ∧ ¬ e.IsOpen id where
  given c mem := ⟨(orderly.given c mem).1, fun past => past.2 ⟨c, mem, rfl⟩⟩
  gone_given _ past := past.1
  ids_nodup := orderly.ids_nodup
  flows_nodup := orderly.flows_nodup
  counted := orderly.counted
  underWay := orderly.underWay

/-- **The table of connections is in order, whatever happens to an engine.** As many connections
    were counted in as were counted out and are in the table. The table is a map from ends to
    connections that are under way, so a sweep leaves it as it is. A connection that has left the
    table never comes back, and whatever its relay does from then on, the table and the counters
    stay as they are. -/
theorem connections_inOrder {setup : Setup} {localMac : MacAddress} {words : Nat → UInt32}
    (run : (Engine.new setup localMac words).Leads e) :
    (e.counters.get .sessionsOpened
        = e.counters.get .sessionsClosed + UInt64.ofNat e.connections.length ∧
      e.counters.get .sessionsOpened = UInt64.ofNat e.opened) ∧
    (∀ flow c, e.connectionOf? flow = some c ↔ c ∈ e.connections ∧ c.flow = flow) ∧
    (∀ c ∈ e.connections, c.session.state.IsUnderWay) ∧
    (∀ now, e.sweep now = { e with arp := e.arp.sweep now }) ∧
    ∀ e' id, e.Leads e' → id < e.opened → ¬ e.IsOpen id → ¬ e'.IsOpen id ∧
      ∀ happening : Happening, happening.relayOf? = some id →
        (e'.happen happening).book = e'.book := by
  have orderly := (orderly_new setup localMac words).leads run
  refine ⟨?_, fun flow c => orderly.toKeyed.connectionOf?_eq_some_iff, orderly.underWay,
    orderly.sweep_eq, ?_⟩
  · obtain ⟨closed, balance, openedCount, closedCount⟩ := orderly.counted
    refine ⟨?_, openedCount⟩
    calc e.counters.get .sessionsOpened
      _ = UInt64.ofNat (closed + e.connections.length) := openedCount.trans (congrArg _ balance)
      _ = UInt64.ofNat closed + UInt64.ofNat e.connections.length := UInt64.ofNat_add ..
      _ = e.counters.get .sessionsClosed + UInt64.ofNat e.connections.length := by
        rw [← closedCount]
        rfl
  · intro e' id later given notOpen
    -- the same invariant once more, now with the numbers that are out of the table at this point
    have past := (orderly.forget.leads later).toKeyed.not_isOpen_of_gone ⟨given, notOpen⟩
    exact ⟨past, fun happening relay => book_happen_of_not_isOpen relay past⟩

/-! A console that opens a connection, confirms it, and opens it anew. -/

/-- An engine that relays connections. -/
def relaying : Engine :=
  .new {
    subnet := .ofAddress ⟨0x0A0D0000⟩ 16
    gateway := ⟨0x0A0D2501⟩
    arpTtl := 30000
    arpCapacity := 512
    resolveTimeout := 1000
    forwardTarget := some ⟨⟨0x7F000001⟩, 9000⟩
    connectTimeout := 2000
    sweepInterval := 10000
    eventCapacity := 256
    seed := none
    verifyChecksums := true } .zero UInt32.ofNat

/-- A frame from the console. -/
def fromConsole (flags : Tcp.Flags) (seq : UInt32) : Bytes :=
  let segment : Tcp.Draft := { srcPort := 49152, dstPort := 80, seq := seq, flags := flags }
  let packet : Internet.Draft := {
    protocol := Internet.Protocol.tcp.code
    src := ⟨0x0A0D0002⟩
    dst := ⟨0x0A0D2501⟩
    payload := segment.toBytes ⟨0x0A0D0002⟩ ⟨0x0A0D2501⟩ }
  let frame : Link.Frame := {
    src := .broadcast
    etherType := Link.EtherType.ipv4.code
    payload := packet.toBytes }
  frame.toBytes

def reopened : Engine :=
  ((relaying.happen (.frame 0 (fromConsole { syn := true } 100))).happen
    (.frame 1 (fromConsole .ackOnly 101))).happen (.frame 2 (fromConsole { syn := true } 200))

/-- The second connection has the place of the first, whose relay is not heard in the table. -/
theorem connections_reopened :
    (reopened.connections.map Connection.id = [1] ∧
      reopened.counters.get .sessionsOpened
        = reopened.counters.get .sessionsClosed + UInt64.ofNat reopened.connections.length) ∧
    (∀ c ∈ reopened.connections, c.session.state.IsUnderWay) ∧
    ∀ now event, (reopened.happen (.target now 0 event)).book = reopened.book := by
  have run : relaying.Leads reopened :=
    .step (.step (.step .refl (.frame 0 _) trivial) (.frame 1 _) trivial) (.frame 2 _) trivial
  obtain ⟨⟨counted, -⟩, -, underWay, -, late⟩ := connections_inOrder run
  obtain ⟨-, unheard⟩ := late reopened 0 .refl (by decide +kernel) (by decide +kernel)
  exact ⟨⟨by decide +kernel, counted⟩, underWay, fun now event => unheard (.target now 0 event) rfl⟩

end Engine

end LocalPlay
