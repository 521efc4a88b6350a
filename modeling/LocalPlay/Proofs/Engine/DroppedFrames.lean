import LocalPlay.Proofs.Engine.Effects
import LocalPlay.Proofs.Engine.Variation
import Mathlib.Algebra.GroupWithZero.Nat

set_option autoImplicit false

/-! # Frames in which something is wrong

There are many ways in which a frame can be wrong, and an engine finds them at different places:
before it looks at the payload, after it has read a header, or only after the frame has taught it
who has the sender's address. Wherever it is, the engine counts one fault and drops the frame
(`drops_of_fault`); a frame with which nothing is wrong is never counted as faulty. -/

namespace LocalPlay.Engine

variable {e : Engine} {data : Bytes} {p : Internet.Packet}

/-! ## What can be wrong with a frame -/

theorem mem_faults_of_readUdp {reason : Counter} (h : (e.readUdp p).fault? = some reason) :
    reason ∈ Counter.faults := by
  unfold readUdp at h
  split at h
  · cases h
    decide
  · split at h
    · cases h
      decide
    · cases h

theorem mem_faults_of_readTcp {reason : Counter} (h : (e.readTcp p).fault? = some reason) :
    reason ∈ Counter.faults := by
  unfold readTcp at h
  split at h
  · cases h
    decide
  · split at h
    · cases h
      decide
    · cases h

theorem mem_faults_of_readIcmp {reason : Counter} (h : (e.readIcmp p).fault? = some reason) :
    reason ∈ Counter.faults := by
  unfold readIcmp at h
  split at h
  · cases h
  split at h
  · cases h
    decide
  split at h
  · cases h
    decide
  · split at h <;> cases h

theorem mem_faults_of_readContent {reason : Counter}
    (h : (e.readContent p).fault? = some reason) : reason ∈ Counter.faults := by
  unfold readContent at h
  split at h
  · split at h
    · exact mem_faults_of_readUdp h
    · exact mem_faults_of_readTcp h
    · exact mem_faults_of_readIcmp h
    · cases h
  · cases h
    decide

/-- Whatever is wrong with a frame, there is a counter for it among those of faults. -/
theorem mem_faults_of_read {reason : Counter} (h : (e.read data).fault? = some reason) :
    reason ∈ Counter.faults := by
  unfold read at h
  split at h
  · cases h
    decide
  unfold readFrame at h
  split at h
  · cases h
    decide
  split at h
  · unfold readArp at h
    split at h
    · cases h
      decide
    · split at h
      · cases h
      · cases h
        decide
  · unfold readIpv4 at h
    split at h
    · cases h
      decide
    · split at h
      · cases h
        decide
      · exact mem_faults_of_readContent h
  · cases h

/-! ## What is done about it -/

/-- An engine counts what is wrong with a frame. Before that, it may have learned something. -/
theorem heed_of_fault {reading : Reading} {reason : Counter} (h : reading.fault? = some reason)
    (e : Engine) (now : Instant) :
    e.heed now reading = (e.informed [] (reading.lessons now)).count reason := by
  have quiet (lessons : List Arp.Change) :
      e.informed [] lessons = { e with arp := e.arp.run lessons } := by
    rw [informed, List.append_nil]
  cases reading with
  | other => cases h
  | resolution p => cases h
  | dropped reason' =>
    cases h
    rw [quiet]
    rfl
  | packet srcMac p content =>
    cases content with
    | other | datagram | echo | segment => cases h
    | dropped reason' =>
      cases h
      rw [quiet]
      rfl

theorem get_received {k : Counter} (frames : k ≠ .rxFrames) (bytes : k ≠ .rxBytes) (e : Engine)
    (data : Bytes) : (e.received data).counters.get k = e.counters.get k := by
  calc (e.received data).counters.get k
    _ = (e.counters.add .rxFrames 1).get k := Counters.get_add_of_ne bytes _ _
    _ = e.counters.get k := Counters.get_add_of_ne frames _ _

/-- How many faults have been counted. -/
def Counters.faults (c : Counters) : Nat := (Counter.faults.map fun k => (c.get k).toNat).sum

theorem Counters.faults_congr {c c' : Counters}
    (same : ∀ k ∈ Counter.faults, c'.get k = c.get k) : c'.faults = c.faults := by
  rw [faults, faults, List.map_congr_left fun k hk => congrArg UInt64.toNat (same k hk)]

theorem Counters.faults_le_succ {c c' : Counters} {reason : Counter}
    (moved : c'.get reason = c.get reason + 1) (same : ∀ k ∈ Counter.faults, k ≠ reason →
      c'.get k = c.get k) (fault : reason ∈ Counter.faults) : c'.faults ≤ c.faults + 1 := by
  have step : (c'.get reason).toNat ≤ (c.get reason).toNat + 1 := by
    rw [moved, UInt64.toNat_add]
    exact Nat.mod_le _ _
  simp only [Counter.faults, List.mem_cons, List.not_mem_nil, or_false] at fault
  rcases fault with rfl | rfl | rfl | rfl <;>
    simp (disch := decide) only [faults, Counter.faults, List.map_cons, List.map_nil,
      List.sum_cons, List.sum_nil, same] <;>
    omega

/-- `e'` is the engine `e` after it dropped a frame. One of the counters of faults has moved by one,
    and apart from it only the counters of received frames may have moved; the engine may have
    learned something, and that is all. -/
structure Drops (e e' : Engine) : Prop where
  counted : ∃ reason ∈ Counter.faults, e'.counters.get reason = e.counters.get reason + 1 ∧
    ∀ k, k ≠ reason → k ≠ .rxFrames → k ≠ .rxBytes → e'.counters.get k = e.counters.get k
  rest : e' = { e with counters := e'.counters, arp := e'.arp }

theorem handleFrame_of_fault {reason : Counter} (h : (e.read data).fault? = some reason)
    (now : Instant) :
    e.handleFrame now data
      = ((e.received data).informed [] ((e.read data).lessons now)).count reason := by
  rw [handleFrame_eq, heed_of_fault h]

/-- The counters that move whenever a frame comes in are none of those of faults. -/
theorem not_received_of_fault {k : Counter} (fault : k ∈ Counter.faults) :
    k ≠ .rxFrames ∧ k ≠ .rxBytes := by
  constructor <;> rintro rfl <;> exact absurd fault (by decide)

theorem get_handleFrame_of_fault {reason : Counter} (h : (e.read data).fault? = some reason)
    (now : Instant) :
    (e.handleFrame now data).counters.get reason = e.counters.get reason + 1 := by
  obtain ⟨frames, bytes⟩ := not_received_of_fault (mem_faults_of_read h)
  rw [handleFrame_of_fault h, ← get_received frames bytes e data]
  exact Counters.get_add_self ..

theorem drops_of_fault {reason : Counter} (h : (e.read data).fault? = some reason)
    (now : Instant) : e.Drops (e.handleFrame now data) := by
  refine ⟨⟨reason, mem_faults_of_read h, get_handleFrame_of_fault h now, ?_⟩, ?_⟩
  · intro k other frames bytes
    rw [handleFrame_of_fault h, ← get_received frames bytes e data]
    exact Counters.get_add_of_ne other _ _
  · rw [handleFrame_of_fault h]
    simp [informed, count, countMany, received]

/-- A frame with which nothing is wrong is not counted as faulty. -/
theorem get_handleFrame_of_fault?_eq_none (sound : (e.read data).fault? = none) (now : Instant)
    {k : Counter} (fault : k ∈ Counter.faults) :
    (e.handleFrame now data).counters.get k = e.counters.get k := by
  obtain ⟨frames, bytes⟩ := not_received_of_fault fault
  rw [handleFrame_eq, get_heed_of_fault?_eq_none _ now sound fault, get_received frames bytes]

/-- **A frame that is dropped leaves no trace but its counter.** A frame raises the number of faults
    by one at most. If that number has moved, one counter of faults moved by one, the other
    counters apart from those of received frames stayed, and so did everything else: nothing was
    sent or reported, and no connection has changed. The table of hosts stayed, too, unless the frame
    brought a packet; then it has learned who has the sender's address, and no more. -/
theorem faulty_frames_dropped (e : Engine) (now : Instant) (data : Bytes) :
    (e.handleFrame now data).counters.faults ≤ e.counters.faults + 1 ∧
    ((e.handleFrame now data).counters.faults ≠ e.counters.faults →
      e.Drops (e.handleFrame now data) ∧
      (∀ frame p, e.Brings data frame p →
        (e.handleFrame now data).arp = e.arp.insert now frame.src p.src) ∧
      ((¬ ∃ frame p, e.Brings data frame p) → (e.handleFrame now data).arp = e.arp)) := by
  cases found : (e.read data).fault? with
  | none =>
    have same : (e.handleFrame now data).counters.faults = e.counters.faults :=
      Counters.faults_congr fun k fault => get_handleFrame_of_fault?_eq_none found now fault
    exact ⟨same ▸ Nat.le_succ _, fun moved => absurd same moved⟩
  | some reason =>
    have drops := drops_of_fault found now
    have table : (e.handleFrame now data).arp = e.arp.run ((e.read data).lessons now) := by
      rw [handleFrame_of_fault found]
      rfl
    refine ⟨?_, fun _ => ⟨drops, fun frame p brings => ?_, fun nothing => ?_⟩⟩
    · obtain ⟨reason, fault, moved, rest⟩ := drops.counted
      refine Counters.faults_le_succ moved (fun k hk other => ?_) fault
      exact rest k other (not_received_of_fault hk).1 (not_received_of_fault hk).2
    · rw [table, brings.read_eq]
      rfl
    · -- only a packet or a resolution teaches, and a resolution is never at fault
      rw [table]
      cases reading : e.read data with
      | other | dropped => rfl
      | resolution => exact absurd found (by simp [reading, Reading.fault?])
      | packet srcMac p content =>
        obtain ⟨frame, brings, -⟩ := brings_of_read reading
        exact absurd ⟨frame, p, brings⟩ nothing

/-- An engine that has heard nothing yet. -/
def unheard : Engine := .new .home .zero UInt32.ofNat

/-- A packet from an address outside the subnet. -/
def strayPacket : Bytes := { src := ⟨0xC0A80105⟩, dst := ⟨0x0A0D2501⟩ : Internet.Draft }.toBytes

/-- The frame in which station 9 sends it. -/
def strayFrame : Link.Frame where
  src := station 9
  etherType := Link.EtherType.ipv4.code
  payload := strayPacket

/-- The packet is dropped, but now the table of hosts knows who has the address. -/
theorem faulty_frames_dropped_stray :
    (unheard.handleFrame 4 strayFrame.toBytes).counters.faults ≠ unheard.counters.faults ∧
      unheard.Brings strayFrame.toBytes strayFrame ⟨strayPacket, []⟩ ∧
      (unheard.handleFrame 4 strayFrame.toBytes).sent = unheard.sent ∧
      (unheard.handleFrame 4 strayFrame.toBytes).arp
        = unheard.arp.insert 4 (station 9) ⟨0xC0A80105⟩ := by
  have moved : (unheard.handleFrame 4 strayFrame.toBytes).counters.faults
      ≠ unheard.counters.faults := by decide +kernel
  have brings : unheard.Brings strayFrame.toBytes strayFrame ⟨strayPacket, []⟩ :=
    ⟨Link.Frame.parse_toBytes _, by decide, rfl, by decide +kernel, by decide⟩
  obtain ⟨-, dropped⟩ := faulty_frames_dropped unheard 4 strayFrame.toBytes
  obtain ⟨drops, learned, -⟩ := dropped moved
  refine ⟨moved, brings, ?_, learned _ _ brings⟩
  rw [drops.rest]

end LocalPlay.Engine
