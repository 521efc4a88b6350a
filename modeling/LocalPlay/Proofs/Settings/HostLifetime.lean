import LocalPlay.Proofs.Arp.Runs
import LocalPlay.Proofs.Checked.Sending
import LocalPlay.Proofs.Settings.Acceptance

set_option autoImplicit false

/-! # How long a host may count

Noting a host takes the time it counts from now on, and a machine stops when its clock cannot show the
instant at which that time is up (`Checked.insert_eq_overflow_iff`). Settings are accepted with any
time but none at all (`mistakes_withTtl`), so with some of them the first host that is heard stops the
machine. The times with which that cannot happen before the last of the instants looked at here are
exactly those that end within the range of the clock even then (`notes_safely_iff`). -/

namespace LocalPlay

namespace Checked

variable {c : Arp.Cache} {now : Instant} {ip : IpAddress}

/-- A machine stops at a host to be noted exactly if its clock cannot show when the host stops to
    count. The unspecified address is not noted, so no instant is asked for. -/
theorem insert_eq_overflow_iff (mac : MacAddress) :
    insert c now mac ip = throw .overflow ↔
      ip ≠ .unspecified ∧ Arp.Cache.clockEnd ≤ now + c.ttl := by
  by_cases nobody : ip = .unspecified
  · simp only [insert, nobody, if_true, ne_eq, not_true, false_and, iff_false]
    intro stops
    cases stops
  by_cases shown : now + c.ttl < Arp.Cache.clockEnd
  · rw [insert_eq shown]
    simp only [Int.not_le.2 shown, and_false, iff_false]
    intro stops
    cases stops
  · have late : later now c.ttl = throw .overflow := if_neg shown
    rw [insert, if_neg nobody, late]
    exact iff_of_true rfl ⟨nobody, Int.not_lt.1 shown⟩

theorem insert_eq_pure_iff (mac : MacAddress) :
    insert c now mac ip = pure (c.insert now mac ip) ↔
      (ip ≠ .unspecified → now + c.ttl < Arp.Cache.clockEnd) := by
  constructor
  · intro passes somebody
    by_contra late
    have stops := (insert_eq_overflow_iff mac).2 ⟨somebody, Int.not_lt.1 late⟩
    rw [passes] at stops
    cases stops
  · intro shown
    by_cases nobody : ip = .unspecified
    · rw [insert, Arp.Cache.insert, if_pos nobody, if_pos nobody]
    · exact insert_eq (shown nobody) mac ip

end Checked

namespace Settings

/-- The last of the instants looked at: half of what a clock of signed 64-bit seconds can show. -/
def lastReading : Instant := 0x4000000000000000 * nanosPerSecond

/-- The table of hosts that these settings begin with. -/
def emptyTable (s : Settings) : Arp.Cache :=
  .empty (s.arp.ttlSeconds.toNat * nanosPerSecond) s.arp.capacity.toNat

/-- It is the table of a new engine. -/
theorem arp_new_toSetup (s : Settings) (localMac : MacAddress) (words : Nat → UInt32) :
    (Engine.new s.toSetup localMac words).arp = s.emptyTable := by
  have nanos : s.arp.ttlSeconds.toNat * 1000 * nanosPerMilli
      = s.arp.ttlSeconds.toNat * nanosPerSecond := by
    rw [Nat.mul_assoc]
    rfl
  rw [emptyTable, ← nanos]
  rfl

theorem ttl_run_emptyTable (s : Settings) (changes : List Arp.Change) :
    (s.emptyTable.run changes).ttl = s.arp.ttlSeconds.toNat * nanosPerSecond :=
  (Arp.Cache.limits_run _ changes).1

/-- The settings with another time for which a host counts. -/
def withTtl (s : Settings) (seconds : UInt64) : Settings :=
  { s with arp := { s.arp with ttlSeconds := seconds } }

/-- Settings are accepted with any time if they are with one, unless it is no time at all. -/
theorem mistakes_withTtl {s : Settings} (accepted : s.mistakes = []) {seconds : UInt64}
    (some : seconds ≠ 0) : (s.withTtl seconds).mistakes = [] := by
  rw [mistakes_eq_nil_iff] at accepted ⊢
  exact { accepted with arpTtl := one_le_toNat_iff.2 some }

/-- Whatever was done to the table of hosts before, any host can be noted at any instant from zero to
    the last one looked at. -/
def NotesSafely (s : Settings) : Prop :=
  ∀ (changes : List Arp.Change) (now : Instant) (mac : MacAddress) (ip : IpAddress),
    0 ≤ now → now ≤ lastReading →
      Checked.insert (s.emptyTable.run changes) now mac ip
        = pure ((s.emptyTable.run changes).insert now mac ip)

theorem lastReading_add_lt_clockEnd_iff (seconds : Nat) :
    lastReading + (seconds * nanosPerSecond : Nat) < Arp.Cache.clockEnd ↔
      seconds < 0x4000000000000000 := by
  show (0x4000000000000000 * 1000000000 + (seconds * 1000000000 : Nat) : Int)
      < 0x8000000000000000 * 1000000000 ↔ _
  omega

/-- Hosts are noted safely exactly if their time is over within the range of the clock when it starts
    at the last instant looked at. -/
theorem notesSafely_iff (s : Settings) :
    s.NotesSafely ↔ s.arp.ttlSeconds.toNat < 0x4000000000000000 := by
  rw [← lastReading_add_lt_clockEnd_iff, ← ttl_run_emptyTable s []]
  constructor
  · intro safe
    have noted := safe [] lastReading .zero .limitedBroadcast (by decide) (Int.le_refl _)
    exact (Checked.insert_eq_pure_iff .zero).1 noted (by decide)
  · intro short changes now mac ip _ before
    refine Checked.insert_eq ?_ mac ip
    rw [ttl_run_emptyTable] at short ⊢
    exact Int.lt_of_le_of_lt (Int.add_le_add_right before _) short

/-- **When noting a host stops a machine.** Whatever was done to the table of hosts before, noting a
    host goes beyond the range of the clock exactly if the time for which a host counts does, from now
    on. No such time is kept out of accepted settings but the empty one. It never happens up to the
    last instant looked at exactly if that time is shorter than what the clock can show after it. -/
theorem noting_overflows_iff (s : Settings) (accepted : s.mistakes = []) :
    (∀ seconds : UInt64, seconds ≠ 0 → (s.withTtl seconds).mistakes = []) ∧
    (∀ (changes : List Arp.Change) (now : Instant) (mac : MacAddress) (ip : IpAddress),
      Checked.insert (s.emptyTable.run changes) now mac ip = throw .overflow ↔
        ip ≠ .unspecified ∧
          Arp.Cache.clockEnd ≤ now + (s.arp.ttlSeconds.toNat * nanosPerSecond : Nat)) ∧
    (s.NotesSafely ↔ s.arp.ttlSeconds.toNat < 0x4000000000000000) := by
  refine ⟨fun seconds => mistakes_withTtl accepted, ?_, s.notesSafely_iff⟩
  intro changes now mac ip
  rw [Checked.insert_eq_overflow_iff, ttl_run_emptyTable]

/-- Settings with the longest time that a document can give. -/
def endless : Settings := ({} : Settings).withTtl 0x7FFFFFFFFFFFFFFF

/-- With the longest time a first host cannot be noted one second after the clock has begun. -/
theorem noting_overflows_endless :
    endless.mistakes = [] ∧
      Checked.insert (endless.emptyTable.run []) nanosPerSecond .broadcast (.ofOctets 10 13 0 1)
        = throw .overflow ∧ ¬ endless.NotesSafely := by
  have accepted : endless.mistakes = [] := mistakes_withTtl (by decide) (by decide)
  obtain ⟨-, overflows, safe⟩ := noting_overflows_iff endless accepted
  refine ⟨accepted, (overflows [] _ _ _).2 ⟨by decide, by decide⟩, ?_⟩
  rw [safe]
  decide

/-- Accepted settings can stop a machine. -/
theorem not_forall_notesSafely :
    ¬ ∀ s : Settings, s.mistakes = [] → s.NotesSafely := by
  intro safe
  have short := (notesSafely_iff endless).1 (safe endless (mistakes_withTtl (by decide) (by decide)))
  exact absurd short (by decide)

end Settings

end LocalPlay
