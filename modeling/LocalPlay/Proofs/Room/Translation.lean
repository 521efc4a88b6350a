import LocalPlay.Proofs.Ldn.FrameRoundTrip
import LocalPlay.Room.Bridge

set_option autoImplicit false

/-! # From the room to a console and back

A bridge turns messages of the room into frames for consoles, and frames into messages. What goes out
and comes back keeps its kind and its payload, whatever the writer of frames did to make it shorter.
Whom a message is for is not in the frame but in the datagram around it, and there each kind has its
own rule (`Bridge.audience`). -/

namespace LocalPlay.Room

/-! ## Kinds -/

namespace Kind

theorem toConsole?_eq_none_iff {k : Kind} : k.toConsole? = none ↔ k = .destroyNetwork := by
  cases k <;> simp [toConsole?]

@[simp] theorem ofConsole_eq_scan {c : Ldn.Kind} : ofConsole c = .scan ↔ c = .scan := by
  cases c <;> simp [ofConsole]

@[simp] theorem ofConsole_eq_connect {c : Ldn.Kind} : ofConsole c = .connect ↔ c = .connect := by
  cases c <;> simp [ofConsole]

end Kind

namespace Bridge

variable {b : Bridge} {d : Udp.Parcel} {kind : Ldn.Kind}

/-! ## Whom a frame is for -/

theorem audience_fst (b : Bridge) (kind : Ldn.Kind) (dst : IpAddress) :
    (b.audience kind dst).1 = if kind = .scan then b.broadcast else dst := by
  cases kind <;> rfl

theorem audience_snd (b : Bridge) (kind : Ldn.Kind) (dst : IpAddress) :
    (b.audience kind dst).2 ↔ kind = .scan ∨ kind ≠ .connect ∧ b.IsBroadcast dst := by
  cases kind <;> simp [audience]

theorem not_suffices_iff {payload : Bytes} :
    ¬ Suffices kind payload ↔ kind = .connect ∧ payload.length < Ldn.Node.size := by
  rw [Suffices, Classical.not_imp, Nat.not_le]

/-! ## What becomes of a datagram -/

theorem toRoom?_of_not_concerns (other : ¬ b.Concerns d) : b.toRoom? d = none := if_neg other

/-- What becomes of a datagram with a frame of a known kind. -/
theorem toRoom?_of_parse {f : Ldn.Frame} (concerns : b.Concerns d)
    (read : Ldn.Frame.parse d.payload = .ok f) (known : f.kind? = some kind) :
    b.toRoom? d =
      if Suffices kind f.payload then some {
        kind := .ofConsole kind
        localIp := d.src.ip
        remoteIp := (b.audience kind d.dst.ip).1
        broadcast := (b.audience kind d.dst.ip).2
        payload := f.payload }
      else none := by
  simp only [toRoom?, if_pos concerns, read, known]

/-- What becomes of a datagram with a frame that was written here. -/
theorem toRoom?_of_encode {payload : Bytes} (short : payload.length ≤ Ldn.ZeroRun.bufferLimit)
    (concerns : b.Concerns d) (carries : d.payload = Ldn.encode kind payload) :
    b.toRoom? d =
      if Suffices kind payload then some {
        kind := .ofConsole kind
        localIp := d.src.ip
        remoteIp := (b.audience kind d.dst.ip).1
        broadcast := (b.audience kind d.dst.ip).2
        payload := payload }
      else none := by
  obtain ⟨f, read, known, rfl⟩ := Ldn.roundTrips_of_le kind short
  exact toRoom?_of_parse concerns (carries ▸ read) known

/-- **What goes out to a console comes back as it was.** Only the end of a game has no frame. Any
    other message with a payload within the limit becomes a frame for the console it is for, or for
    every console. A datagram that carries this frame and concerns the bridge becomes a message of
    the same kind with the same payload, from the sender of the datagram, unless it is too short to
    describe the player who connects. A scan is for every console, who connects means one console,
    and everything else is for whom the datagram is for. A datagram that does not concern the bridge
    becomes nothing. -/
theorem toRoom?_toConsole? (b : Bridge) (m : Message)
    (short : m.payload.length ≤ Ldn.ZeroRun.bufferLimit) :
    (b.toConsole? m = none ↔ m.kind = .destroyNetwork) ∧
    (∀ dst bytes, b.toConsole? m = some (dst, bytes) →
      dst = (if m.broadcast then b.broadcast else m.remoteIp) ∧
      ∀ d : Udp.Parcel, d.payload = bytes → d.src.port = b.port ∨ d.dst.port = b.port →
        (b.toRoom? d = none ↔ m.kind = .connect ∧ m.payload.length < Ldn.Node.size) ∧
        ∀ q, b.toRoom? d = some q →
          q.kind = m.kind ∧ q.payload = m.payload ∧ q.localIp = d.src.ip ∧
          (q.broadcast ↔ m.kind = .scan ∨
            m.kind ≠ .connect ∧ (d.dst.ip = b.broadcast ∨ d.dst.ip = .limitedBroadcast)) ∧
          q.remoteIp = if m.kind = .scan then b.broadcast else d.dst.ip) ∧
    ∀ d : Udp.Parcel, d.src.port ≠ b.port → d.dst.port ≠ b.port → b.toRoom? d = none := by
  refine ⟨?_, ?_, fun d src dst => toRoom?_of_not_concerns (not_or.2 ⟨src, dst⟩)⟩
  · rw [toConsole?, Option.map_eq_none_iff, Kind.toConsole?_eq_none_iff]
  · intro dst bytes out
    obtain ⟨kind, counterpart, written⟩ := Option.map_eq_some_iff.1 out
    obtain ⟨rfl, rfl⟩ := Prod.mk.inj written
    refine ⟨rfl, fun d carries concerns => ?_⟩
    rw [toRoom?_of_encode short concerns carries, Kind.toConsole?_eq_some_iff.1 counterpart]
    simp only [Kind.ofConsole_eq_scan, Kind.ofConsole_eq_connect, ne_eq]
    constructor
    · rw [ite_eq_right_iff, ← not_suffices_iff]
      simp
    · intro q back
      split at back
      · cases back
        exact ⟨rfl, rfl, rfl, audience_snd b kind d.dst.ip, audience_fst b kind d.dst.ip⟩
      · cases back

/-- The bridge of the subnet `10.13.0.0/16`. -/
def ofHome : Bridge := ⟨⟨0x0A0D2501⟩, ⟨0x0A0DFFFF⟩, defaultPort⟩

/-- A far player describes a game to a console; the description is mostly zeros. -/
def description : Message :=
  ⟨.scanResponse, ⟨0x0A0D0001⟩, ⟨0x0A0D0002⟩, false, 7 :: Bytes.zeros 99⟩

/-- A console sends the frame with the description to every host. -/
def repeated : Udp.Parcel where
  src := ⟨⟨0x0A0D0002⟩, 40000⟩
  dst := ⟨.limitedBroadcast, defaultPort⟩
  payload := Ldn.encode .scanResponse description.payload

theorem toRoom?_toConsole?_description :
    ofHome.toConsole? description = some (⟨0x0A0D0002⟩, repeated.payload) ∧
      repeated.payload.length < description.payload.length ∧
      ∃ q, ofHome.toRoom? repeated = some q ∧
        q.kind = .scanResponse ∧ q.payload = description.payload ∧ q.broadcast := by
  have goesOut : ofHome.toConsole? description = some (⟨0x0A0D0002⟩, repeated.payload) := by
    simp [toConsole?, description, repeated, Kind.toConsole?]
  obtain ⟨-, out, -⟩ := toRoom?_toConsole? ofHome description (by decide)
  obtain ⟨-, comesBack⟩ := out _ _ goesOut
  obtain ⟨lost, same⟩ := comesBack repeated (Eq.refl repeated.payload) (Or.inr rfl)
  have arrives : ofHome.toRoom? repeated ≠ none := by
    intro nothing
    exact absurd (lost.1 nothing).1 (by decide)
  obtain ⟨q, found⟩ := Option.ne_none_iff_exists'.1 arrives
  obtain ⟨kind, payload, -, broadcast, -⟩ := same q found
  have toAll : q.broadcast := broadcast.2 (Or.inr ⟨by decide, Or.inr rfl⟩)
  exact ⟨goesOut, by decide +kernel, q, found, kind, payload, toAll⟩

end Bridge

end LocalPlay.Room
