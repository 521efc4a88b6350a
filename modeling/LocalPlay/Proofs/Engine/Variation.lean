import LocalPlay.Proofs.Engine.Reading

set_option autoImplicit false

/-! # What an engine takes no notice of

An engine counts, but it never looks at its counters; and once a frame is read, it does not matter
any more whether checksums are checked. A `Variation` changes an engine in such respects only. What
an engine does about a frame is then the same with the variation as without it
(`heed_vary`). Two engines that differ by a variation stay that far apart, and a counter that no
operation works on keeps its value, because setting it to that value is a variation, too. -/

namespace LocalPlay.Engine

/-! ## What is wrong with a frame -/

/-- The counters of frames in which something was wrong. -/
def Counter.faults : List Counter :=
  [droppedMalformed, droppedForeignSubnet, droppedOwnMac, checksumFailures]

/-- What is wrong with the content of a packet, if anything is. -/
def Content.fault? : Content → Option Counter
  | dropped reason => some reason
  | other | datagram _ | echo _ | segment _ => none

/-- What is wrong with a frame, if anything is. -/
def Reading.fault? : Reading → Option Counter
  | dropped reason => some reason
  | packet _ _ content => content.fault?
  | other | resolution _ => none

/-! ## Variations -/

/-- A change to what an engine was told and to what it has counted that makes no difference to
    what it does. -/
structure Variation where
  setup : Setup → Setup
  counters : Counters → Counters
  subnet_setup : ∀ s, (setup s).subnet = s.subnet
  gateway_setup : ∀ s, (setup s).gateway = s.gateway
  forwardTarget_setup : ∀ s, (setup s).forwardTarget = s.forwardTarget
  /-- Counting what is done comes to the same before the change and after it. -/
  counters_add : ∀ k, k ∉ Counter.faults → ∀ c n, counters (c.add k n) = (counters c).add k n

/-- A change to what has been counted, and to nothing else. -/
def Variation.ofCounters (counters : Counters → Counters)
    (counters_add : ∀ k, k ∉ Counter.faults → ∀ c n, counters (c.add k n) = (counters c).add k n) :
    Variation where
  setup := id
  counters := counters
  subnet_setup _ := rfl
  gateway_setup _ := rfl
  forwardTarget_setup _ := rfl
  counters_add := counters_add

/-- The engine with a variation. -/
def vary (e : Engine) (v : Variation) : Engine :=
  { e with setup := v.setup e.setup, counters := v.counters e.counters }

variable (e : Engine) (v : Variation) (now : Instant)

/-! ## Putting frames on the link -/

theorem isBroadcast_setup (s : Setup) (ip : IpAddress) :
    (v.setup s).IsBroadcast ip ↔ s.IsBroadcast ip := by
  rw [Setup.IsBroadcast, Setup.broadcast, v.subnet_setup s]
  exact Iff.rfl

theorem countMany_vary {k : Counter} (hk : k ∉ Counter.faults) (n : UInt64) :
    (e.vary v).countMany k n = (e.countMany k n).vary v := by
  simp only [countMany, vary, v.counters_add k hk]

theorem count_vary {k : Counter} (hk : k ∉ Counter.faults) :
    (e.vary v).count k = (e.count k).vary v := countMany_vary e v hk 1

theorem transmit_vary (frame : Link.Frame) :
    (e.vary v).transmit frame = ((e.transmit frame).1.vary v, (e.transmit frame).2) := by
  have same : (e.vary v).takes frame = e.takes frame := rfl
  unfold transmit
  rw [same]
  cases e.takes frame with
  | false => simp [count_vary e v (k := .txErrors) (by decide)]
  | true =>
    simp [vary, Counters.addSent, v.counters_add .txFrames (by decide),
      v.counters_add .txBytes (by decide)]

theorem transmitPacket_vary (dst : MacAddress) (packet : Bytes) :
    (e.vary v).transmitPacket dst packet
      = ((e.transmitPacket dst packet).1.vary v, (e.transmitPacket dst packet).2) :=
  transmit_vary e v _

theorem transmitCopies_vary (packet : Bytes) (macs : List MacAddress) :
    (e.vary v).transmitCopies packet macs
      = ((e.transmitCopies packet macs).1.vary v, (e.transmitCopies packet macs).2) := by
  induction macs generalizing e with
  | nil => rfl
  | cons mac macs ih => simp only [transmitCopies, transmitPacket_vary, ih]

theorem fanOut_vary (packet : Bytes) (leftOut : Option MacAddress) :
    (e.vary v).fanOut now packet leftOut
      = ((e.fanOut now packet leftOut).1.vary v, (e.fanOut now packet leftOut).2) := by
  have same : (e.vary v).audience now leftOut = e.audience now leftOut := rfl
  simp only [fanOut, same, transmitCopies_vary,
    countMany_vary _ v (k := .broadcastFanout) (by decide)]

theorem say_vary (c : Connection) (m : Tcp.Message) :
    (e.vary v).say now c m = (e.say now c m).vary v := by
  have same (src dst : IpAddress) (protocol : Internet.Protocol) (message : Bytes) :
      (e.vary v).makePacket src dst protocol message
        = ((e.makePacket src dst protocol message).1.vary v,
          (e.makePacket src dst protocol message).2) := rfl
  simp only [say, same, transmitPacket_vary]
  rfl

theorem sayIfAny_vary (c : Connection) (m : Option Tcp.Message) :
    (e.vary v).sayIfAny now c m = (e.sayIfAny now c m).vary v := by
  cases m with
  | none => rfl
  | some m => exact say_vary e v now c m

theorem answerEcho_vary (srcMac : MacAddress) (client : IpAddress) (reply : Internet.Echo) :
    (e.vary v).answerEcho now srcMac client reply
      = (e.answerEcho now srcMac client reply).vary v := by
  have same : (e.vary v).makePacket (v.setup e.setup).gateway client .icmp reply.toBytes
      = ((e.makePacket e.setup.gateway client .icmp reply.toBytes).1.vary v,
        (e.makePacket e.setup.gateway client .icmp reply.toBytes).2) := by
    rw [v.gateway_setup e.setup]
    rfl
  have known (e : Engine) : (e.vary v).arp = e.arp := rfl
  have told : (e.vary v).setup = v.setup e.setup := rfl
  simp only [answerEcho, told, same, known, transmitPacket_vary,
    count_vary _ v (k := .icmpEchoReplies) (by decide)]
  split <;> rfl

/-! ## Working on connections -/

theorem retire_vary (c : Connection) : (e.vary v).retire c = (e.retire c).vary v := by
  have same : (e.vary v).connections = e.connections := rfl
  unfold retire
  rw [same]
  split
  · simp only [vary, v.counters_add .sessionsClosed (by decide)]
  · rfl

theorem settle_vary (c : Connection) : (e.vary v).settle c = (e.settle c).vary v := by
  unfold settle
  split
  · exact retire_vary e v c
  · rfl

theorem openConnection_vary (flow : Tcp.Flow) (clientMac : MacAddress) :
    (e.vary v).openConnection flow clientMac
      = ((e.openConnection flow clientMac).1.vary v, (e.openConnection flow clientMac).2) := by
  simp only [openConnection, vary, v.counters_add .sessionsOpened (by decide)]

theorem connectionFor_vary (flow : Tcp.Flow) (srcMac : MacAddress) (flags : Tcp.Flags) :
    (e.vary v).connectionFor flow srcMac flags
      = ((e.connectionFor flow srcMac flags).1.vary v,
        (e.connectionFor flow srcMac flags).2) := by
  have same : (e.vary v).connectionOf? flow = e.connectionOf? flow := rfl
  unfold connectionFor
  rw [same]
  cases e.connectionOf? flow with
  | none =>
    by_cases asks : flags.isBareSyn
    · simp only [if_pos asks, openConnection_vary]
    · simp only [if_neg asks]
  | some c =>
    by_cases again : flags.isBareSyn ∧ c.session.state ≠ .synReceived
    · simp only [if_pos again, retire_vary, openConnection_vary]
    · simp only [if_neg again]

theorem hand_vary (c : Connection) (m : Tcp.Message) :
    (e.vary v).hand now c m = (e.hand now c m).vary v := by
  simp only [hand, sayIfAny_vary, settle_vary]

theorem direct_vary (srcMac : MacAddress) (flow : Tcp.Flow) (m : Tcp.Message) :
    (e.vary v).direct now srcMac flow m = (e.direct now srcMac flow m).vary v := by
  simp only [direct, connectionFor_vary]
  rcases e.connectionFor flow srcMac m.flags with ⟨e', _ | c⟩
  · rfl
  · exact hand_vary e' v now c m

/-! ## Heeding what was read -/

theorem resolve_vary (p : Arp.Packet) : (e.vary v).resolve now p = (e.resolve now p).vary v := by
  have same : Arp.Answers (v.setup e.setup).subnet now e.arp p
      ↔ Arp.Answers e.setup.subnet now e.arp p := by
    rw [v.subnet_setup]
  by_cases answers : Arp.Answers e.setup.subnet now e.arp p
  · have answered : (e.vary v).resolve now p = _ := if_pos (same.2 answers)
    rw [answered, resolve, if_pos answers, count_vary _ v (by decide), transmit_vary]
    rfl
  · have silent : (e.vary v).resolve now p = _ := if_neg (mt same.1 answers)
    rw [silent, resolve, if_neg answers]

theorem deliver_vary (srcMac : MacAddress) (p : Internet.Packet) (d : Udp.Datagram) :
    (e.vary v).deliver now srcMac p d = (e.deliver now srcMac p d).vary v := by
  have reported (e : Engine) (event : Event) :
      (e.vary v).report event = (e.report event).vary v := rfl
  have told : (e.vary v).setup = v.setup e.setup := rfl
  simp only [deliver, told, isBroadcast_setup, count_vary _ v (k := .udpDelivered) (by decide),
    reported, fanOut_vary]
  split <;> rfl

theorem relaySegment_vary (srcMac : MacAddress) (p : Internet.Packet) (s : Tcp.Segment) :
    (e.vary v).relaySegment now srcMac p s = (e.relaySegment now srcMac p s).vary v := by
  have noted : (e.vary v).noteSegment p s = (e.noteSegment p s).vary v := by
    rw [noteSegment, count_vary e v (by decide)]
    rfl
  have told : (e.vary v).setup.forwardTarget = e.setup.forwardTarget :=
    v.forwardTarget_setup e.setup
  simp only [relaySegment, told, noted, direct_vary]
  split <;> rfl

/-- Whether counting what was wrong comes to the same before a variation and after it. -/
def Variation.Counts (v : Variation) (fault : Option Counter) : Prop :=
  ∀ reason, fault = some reason → ∀ c, v.counters (c.add reason 1) = (v.counters c).add reason 1

theorem Variation.counts_none : v.Counts none := by
  intro reason h
  cases h

theorem count_fault_vary {reason : Counter} (counts : v.Counts (some reason)) :
    (e.vary v).count reason = (e.count reason).vary v := by
  simp only [count, countMany, vary, counts reason rfl]

theorem heedContent_vary (srcMac : MacAddress) (p : Internet.Packet) {content : Content}
    (counts : v.Counts content.fault?) :
    (e.vary v).heedContent now srcMac p content = (e.heedContent now srcMac p content).vary v := by
  cases content with
  | other => rfl
  | dropped reason => exact count_fault_vary e v counts
  | datagram d => exact deliver_vary e v now srcMac p d
  | echo reply => exact answerEcho_vary e v now srcMac p.src reply
  | segment s => exact relaySegment_vary e v now srcMac p s

/-- What an engine does about a frame, it does with any variation. -/
theorem heed_vary {reading : Reading} (counts : v.Counts reading.fault?) :
    (e.vary v).heed now reading = (e.heed now reading).vary v := by
  cases reading with
  | other => rfl
  | dropped reason => exact count_fault_vary e v counts
  | resolution p => exact resolve_vary (e.learn now p.senderMac p.senderIp) v now p
  | packet srcMac p content =>
    exact heedContent_vary (e.learn now srcMac p.src) v now srcMac p counts

/-! ## Counters that stay -/

/-- The counters with another value for one of them. -/
def Counters.put (c : Counters) (k : Counter) (n : UInt64) : Counters := c.add k (n - c.get k)

theorem Counters.put_get (c : Counters) (k : Counter) : c.put k (c.get k) = c := by
  rw [put, UInt64.sub_self, add_zero]

theorem Counters.get_put (c : Counters) (k : Counter) (n : UInt64) : (c.put k n).get k = n := by
  rw [put, get_add_self, UInt64.add_comm, UInt64.sub_add_cancel]

theorem Counters.put_add {j k : Counter} (h : j ≠ k) (c : Counters) (m n : UInt64) :
    (c.add j m).put k n = (c.put k n).add j m := by
  rw [put, put, get_add_of_ne h.symm, add_comm]

/-- The counter of something that can be wrong is set to a value. -/
def Variation.pin (k : Counter) (fault : k ∈ Counter.faults) (n : UInt64) : Variation :=
  .ofCounters (Counters.put · k n) fun j hj c m =>
    Counters.put_add (by rintro rfl; exact hj fault) c m n

/-- An engine counts nothing as wrong when nothing is. -/
theorem get_heed_of_fault?_eq_none {reading : Reading} (sound : reading.fault? = none)
    {k : Counter} (fault : k ∈ Counter.faults) :
    (e.heed now reading).counters.get k = e.counters.get k := by
  -- setting the counter to the value that it has is a variation that changes nothing
  let v := Variation.pin k fault (e.counters.get k)
  have same : e.vary v = e := by
    have counters : v.counters e.counters = e.counters := e.counters.put_get k
    rw [vary, counters]
    rfl
  have heeded : e.heed now reading = (e.heed now reading).vary v := by
    rw [← heed_vary e v now (sound ▸ v.counts_none), same]
  rw [heeded]
  exact Counters.get_put ..

end LocalPlay.Engine
