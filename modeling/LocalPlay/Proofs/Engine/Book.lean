import LocalPlay.Proofs.Engine.Happenings
import LocalPlay.Proofs.KeyedList

set_option autoImplicit false

/-! # What an engine knows of its connections

The table of connections, the number of the next one, and the two counters that follow the table
make up the book of an engine. Traffic leaves the book alone; the few operations that write in it
are described by what they make of it. -/

namespace LocalPlay.Engine

/-- What an engine knows of its connections, and what it has counted of them. -/
structure Book where
  connections : List Connection
  opened : Nat
  openedCount : UInt64
  closedCount : UInt64

/-- The book of an engine. -/
def book (e : Engine) : Book where
  connections := e.connections
  opened := e.opened
  openedCount := e.counters.get .sessionsOpened
  closedCount := e.counters.get .sessionsClosed

variable (e : Engine) (now : Instant)

/-! ## Traffic -/

section Traffic

@[simp] theorem book_connections : e.book.connections = e.connections := rfl

@[simp] theorem book_countMany {k : Counter} (h₁ : k ≠ .sessionsOpened) (h₂ : k ≠ .sessionsClosed)
    (n : UInt64) : (e.countMany k n).book = e.book := by
  simp only [book, countMany, Counters.get_add_of_ne h₁.symm, Counters.get_add_of_ne h₂.symm]

@[simp] theorem book_count {k : Counter} (h₁ : k ≠ .sessionsOpened) (h₂ : k ≠ .sessionsClosed) :
    (e.count k).book = e.book := book_countMany e h₁ h₂ 1

@[simp] theorem book_report (event : Event) : (e.report event).book = e.book := rfl

@[simp] theorem book_addReceived (size : Nat) :
    { e with counters := e.counters.addReceived size }.book = e.book := by
  simp [book, Counters.addReceived, Counters.get_add_of_ne]

@[simp] theorem book_makePacket (src dst : IpAddress) (protocol : Internet.Protocol)
    (message : Bytes) : (e.makePacket src dst protocol message).1.book = e.book := rfl

@[simp] theorem book_transmit (frame : Link.Frame) : (e.transmit frame).1.book = e.book := by
  unfold transmit
  split
  · simp [book, Counters.addSent, Counters.get_add_of_ne]
  · simp

@[simp] theorem book_transmitPacket (dst : MacAddress) (packet : Bytes) :
    (e.transmitPacket dst packet).1.book = e.book := book_transmit e _

@[simp] theorem book_transmitCopies (packet : Bytes) (macs : List MacAddress) :
    (e.transmitCopies packet macs).1.book = e.book := by
  induction macs generalizing e with
  | nil => rfl
  | cons mac macs ih => rw [transmitCopies, ih, book_transmitPacket]

@[simp] theorem book_fanOut (packet : Bytes) (leftOut : Option MacAddress) :
    (e.fanOut now packet leftOut).1.book = e.book := by
  simp [fanOut]

@[simp] theorem book_say (c : Connection) (m : Tcp.Message) : (e.say now c m).book = e.book := by
  simp [say]

@[simp] theorem book_sayIfAny (c : Connection) (m : Option Tcp.Message) :
    (e.sayIfAny now c m).book = e.book := by
  cases m with
  | none => rfl
  | some m => exact book_say e now c m

@[simp] theorem book_receiveArp (frame : Link.Frame) : (e.receiveArp now frame).book = e.book := by
  unfold receiveArp
  simp only
  split
  · exact book_count _ (by decide) (by decide)
  · rfl
  · rw [book_transmit, book_count _ (by decide) (by decide)]
    rfl

@[simp] theorem book_receiveUdp (srcMac : MacAddress) (p : Internet.Packet) :
    (e.receiveUdp now srcMac p).book = e.book := by
  unfold receiveUdp
  split
  · simp
  · split
    · simp
    · simp only
      split <;> simp

@[simp] theorem book_answerEcho (srcMac : MacAddress) (client : IpAddress)
    (reply : Internet.Echo) : (e.answerEcho now srcMac client reply).book = e.book := by
  unfold answerEcho
  simp only
  split <;> simp

@[simp] theorem book_receiveIcmp (srcMac : MacAddress) (p : Internet.Packet) :
    (e.receiveIcmp now srcMac p).book = e.book := by
  unfold receiveIcmp
  split
  · rfl
  split
  · simp
  split
  · simp
  split <;> simp

@[simp] theorem book_sendPacket (dst : MacAddress) (packet : Bytes) :
    (e.sendPacket dst packet).1.book = e.book := book_transmitPacket e dst packet

@[simp] theorem book_beginSend (parcel : Udp.Parcel) :
    (e.beginSend now parcel).1.book = e.book := by
  unfold beginSend
  simp only
  split
  · next mac known =>
    have sent := book_sendPacket (e.makePacket parcel.src.ip parcel.dst.ip .udp
      parcel.toDatagram.toBytes).1 mac (e.makePacket parcel.src.ip parcel.dst.ip .udp
      parcel.toDatagram.toBytes).2
    split <;> next result => rwa [result] at sent
  · split <;> simp

@[simp] theorem book_finishSend (dst : IpAddress) (packet : Bytes) :
    (e.finishSend now dst packet).1.book = e.book := by
  unfold finishSend
  split <;> simp

end Traffic

/-! ## Entries -/

section Entries

variable {e now}
variable {c : Connection} {id : Nat}

theorem not_isOpen_iff : ¬ e.IsOpen id ↔ ∀ d ∈ e.connections, d.id ≠ id := by
  simp [IsOpen]

theorem isOpen_congr {e' : Engine} (h : e'.book = e.book) : e'.IsOpen id ↔ e.IsOpen id := by
  have same : e'.connections = e.connections := congrArg Book.connections h
  rw [IsOpen, same, IsOpen]

/-- A connection that is known by a number has it, and if it is not in the table, none there has. -/
theorem connection?_cases (known : e.connection? id = some c) :
    c.id = id ∧ (c ∈ e.connections ∨ ¬ e.IsOpen id) := by
  rw [connection?, List.find?_append] at known
  cases inTable : e.connections.find? fun d => d.id = id with
  | some d =>
    rw [inTable, Option.some_or] at known
    obtain rfl := Option.some.inj known
    obtain ⟨mem, same⟩ := KeyedList.mem_of_find? inTable
    exact ⟨same, Or.inl mem⟩
  | none =>
    rw [inTable, Option.none_or] at known
    exact ⟨(KeyedList.mem_of_find? known).2,
      Or.inr (not_isOpen_iff.2 (KeyedList.find?_eq_none_iff.1 inTable))⟩

theorem map_substitute {α : Type} {f : Connection → α} {cs : List Connection}
    (same : ∀ d ∈ cs, d.id = c.id → f d = f c) : (substitute c cs).map f = cs.map f := by
  rw [substitute, List.map_map]
  refine List.map_congr_left fun d hd => ?_
  by_cases id : d.id = c.id
  · simp [id, same d hd id]
  · simp [id]

theorem substitute_eq_self {cs : List Connection} (absent : ∀ d ∈ cs, d.id ≠ c.id) :
    substitute c cs = cs :=
  (List.map_congr_left fun d hd => if_neg (absent d hd)).trans (List.map_id _)

theorem book_update (e : Engine) (c : Connection) :
    (e.update c).book = { e.book with connections := substitute c e.connections } := rfl

theorem book_openConnection (e : Engine) (flow : Tcp.Flow) (clientMac : MacAddress) :
    (e.openConnection flow clientMac).1.book =
      { connections := e.connections ++ [(e.openConnection flow clientMac).2]
        opened := e.opened + 1
        openedCount := e.book.openedCount + 1
        closedCount := e.book.closedCount } := by
  simp [book, openConnection, Counters.get_add_of_ne]

theorem book_retire_of_isOpen (isOpen : e.IsOpen c.id) :
    (e.retire c).book =
      { e.book with
        connections := e.connections.filter fun d => d.id ≠ c.id
        closedCount := e.book.closedCount + 1 } := by
  have any : e.connections.any (fun d => d.id = c.id) := by simpa [IsOpen] using isOpen
  simp [retire, any, book, Counters.get_add_of_ne]

theorem book_update_of_not_isOpen (gone : ¬ e.IsOpen c.id) : (e.update c).book = e.book := by
  rw [book_update, substitute_eq_self (not_isOpen_iff.1 gone)]
  rfl

/-- Retiring a connection that is not in the table lets its relay go and nothing else. -/
theorem retire_of_not_isOpen (gone : ¬ e.IsOpen c.id) :
    e.retire c = e.update { c with relay := c.relay.release } := by
  have none : ¬ e.connections.any (fun d => d.id = c.id) := by simpa [IsOpen] using gone
  exact if_neg none

theorem book_retire_of_not_isOpen (gone : ¬ e.IsOpen c.id) : (e.retire c).book = e.book := by
  rw [retire_of_not_isOpen gone]
  exact book_update_of_not_isOpen gone

theorem book_settle_of_not_isOpen (gone : ¬ e.IsOpen c.id) : (e.settle c).book = e.book := by
  unfold settle
  split
  · exact book_retire_of_not_isOpen gone
  · exact book_update_of_not_isOpen gone

theorem book_meet_of_not_isOpen (event : TargetEvent) (gone : ¬ e.IsOpen c.id) :
    (e.meet now c event).book = e.book := by
  unfold meet
  have same := book_sayIfAny e now c (event.apply c.session).2
  rw [← same]
  exact book_settle_of_not_isOpen (mt (isOpen_congr same).1 gone)

/-- A relay whose connection is not in the table any more changes nothing in the book. -/
theorem book_happen_of_not_isOpen {happening : Happening} (relay : happening.relayOf? = some id)
    (gone : ¬ e.IsOpen id) : (e.happen happening).book = e.book := by
  cases happening with
  | target now id' event =>
    obtain rfl := Option.some.inj relay
    cases known : e.connection? id' with
    | none =>
      rw [happen, hearTarget, known]
    | some c =>
      rw [happen, hearTarget_of_connection? now event known]
      split
      · rfl
      · exact book_meet_of_not_isOpen event ((connection?_cases known).1 ▸ gone)
  | late now c event =>
    obtain rfl := Option.some.inj relay
    exact book_meet_of_not_isOpen event gone
  | relay id' move =>
    obtain rfl := Option.some.inj relay
    rw [happen, changeRelay]
    split
    · rfl
    · next c known =>
      exact book_update_of_not_isOpen ((connection?_cases known).1 ▸ gone)
  | frame | beginSend | finishSend | arp | sweep | start | stop | link => cases relay

end Entries

end LocalPlay.Engine
