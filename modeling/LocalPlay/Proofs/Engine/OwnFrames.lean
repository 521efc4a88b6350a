import LocalPlay.Proofs.Engine.Effects

set_option autoImplicit false

/-! # Frames that come back

A link may well hand an engine what the engine has put on it. Every frame that an engine sends, on
whatever occasion, carries its own hardware address as its source, also when it passes on what
somebody else sent; and an engine that finds its own address there counts the frame and drops it. So
frames never go round in circles. -/

namespace LocalPlay.Engine

variable {e : Engine}

/-- An engine counts a frame of its own and does nothing about it. -/
theorem handleFrame_of_own (now : Instant) {frame : Link.Frame} (own : frame.src = e.localMac) :
    e.handleFrame now frame.toBytes = (e.received frame.toBytes).count .droppedOwnMac := by
  have reading : e.read frame.toBytes = .dropped .droppedOwnMac := by
    simp only [read, Link.Frame.parse_toBytes, readFrame, if_pos own]
  rw [handleFrame_eq, reading, heed]

/-- **What an engine sends does not keep it busy when it comes back.** Every frame that it ever put
    on the link can be read and carries the engine's hardware address as its source. When the frame
    comes back, at whatever later time, three counters move and everything else stays as it is: no
    frame goes out, nothing is reported, and neither hosts nor connections change. -/
theorem own_frames_unheeded {setup : Setup} {localMac : MacAddress} {words : Nat → UInt32}
    (run : (Engine.new setup localMac words).Leads e) :
    ∀ frame ∈ e.sent, Link.Frame.parse frame.toBytes = .ok frame ∧ frame.src = localMac ∧
      ∀ e', e.Leads e' → frame ∈ e'.sent ∧ ∀ now,
        e'.handleFrame now frame.toBytes
            = { e' with counters := (e'.handleFrame now frame.toBytes).counters } ∧
          ∀ k, k ≠ .rxFrames → k ≠ .rxBytes → k ≠ .droppedOwnMac →
            (e'.handleFrame now frame.toBytes).counters.get k = e'.counters.get k := by
  intro frame hframe
  obtain ⟨-, ours, -, fs, sent, own⟩ := run.continues
  have src : frame.src = localMac := own frame (by rwa [sent] at hframe)
  refine ⟨Link.Frame.parse_toBytes frame, src, ?_⟩
  intro e' later
  obtain ⟨-, ours', -, gs, sent', -⟩ := later.continues
  have src' : frame.src = e'.localMac := src.trans (ours'.trans ours).symm
  refine ⟨sent' ▸ List.mem_append_left gs hframe, fun now => ?_⟩
  rw [handleFrame_of_own now src']
  refine ⟨rfl, fun k frames bytes dropped => ?_⟩
  calc ((e'.received frame.toBytes).count .droppedOwnMac).counters.get k
    _ = (e'.received frame.toBytes).counters.get k := Counters.get_add_of_ne dropped _ _
    _ = (e'.counters.add .rxFrames 1).get k := Counters.get_add_of_ne bytes _ _
    _ = e'.counters.get k := Counters.get_add_of_ne frames _ _

/-- An engine that was asked for the gateway and has answered. -/
def asked : Engine :=
  (Engine.new .home .zero UInt32.ofNat).happen
    (.frame 0 (Arp.requestFrame (station 2) ⟨0x0A0D0002⟩ ⟨0x0A0D2501⟩).toBytes)

/-- The answer comes back, and is not answered. -/
theorem own_frames_unheeded_asked :
    asked.sent.length = 1 ∧ ∀ frame ∈ asked.sent, ∀ now,
      (asked.handleFrame now frame.toBytes).sent = asked.sent ∧
        (asked.handleFrame now frame.toBytes).reported = asked.reported := by
  have run : (Engine.new .home .zero UInt32.ofNat).Leads asked := .step .refl (.frame 0 _) trivial
  refine ⟨by decide +kernel, ?_⟩
  intro frame hframe now
  obtain ⟨-, -, back⟩ := own_frames_unheeded run frame hframe
  obtain ⟨same, -⟩ := (back asked .refl).2 now
  rw [same]
  exact ⟨rfl, rfl⟩

end LocalPlay.Engine
