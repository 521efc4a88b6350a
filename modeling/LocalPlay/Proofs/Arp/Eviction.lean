import LocalPlay.Proofs.Arp.Sweeping

set_option autoImplicit false

/-! # What a full table gives up

Noting a host never costs another one its entry while there is room, nor when the host is in the
table already. Otherwise one entry goes (`Cache.GivesUp`), one whose time is up first, so that an
entry which counts is never given up while one that does not is kept. That is so in every table
that a history can lead to, on whatever clock: the readings need not even go forward. -/

namespace LocalPlay.Arp.Cache

variable {c : Cache} {ip : IpAddress} {now : Instant}

/-- `c.GivesUp c' ip now v`: on the way to `c'`, where `ip` was noted at `now`, the table `c` lost
    the entry `v`, whose time is up first, and no other one. -/
structure GivesUp (c c' : Cache) (ip : IpAddress) (now : Instant) (v : Entry) : Prop where
  held : c.held? v.ip = some v
  gone : c'.held? v.ip = none
  others : ∀ other, other ≠ ip → other ≠ v.ip → c'.held? other = c.held? other
  size_eq : c'.size = c.size
  soonest : ∀ other e, c.held? other = some e → v.expires ≤ e.expires
  sparesFresh : v.Fresh now → ∀ other e, c.held? other = some e → e.Fresh now

theorem not_displaces_of_room (room : c.held? ip ≠ none ∨ c.size < c.capacity) (v : Entry) :
    ¬ c.Displaces ip v := by
  rintro ⟨absent, full, -⟩
  rcases room with held | room
  · exact held absent
  · exact Nat.not_lt.2 full room

theorem WellFormed.size_insert_of_displaces (wf : c.WellFormed) (specified : ip ≠ .unspecified)
    {v : Entry} (displaces : c.Displaces ip v) (now : Instant) (mac : MacAddress) :
    (c.insert now mac ip).size = c.size := by
  have absent : ∀ e ∈ without v.ip c.entries, e.ip ≠ ip := fun e he =>
    held?_eq_none_iff.1 displaces.1 e (mem_without.1 he).1
  rw [size, entries_insert specified, makeRoom_of_displaces displaces, without_eq_self absent,
    List.length_append, List.length_singleton]
  exact KeyedList.length_filter_ne wf.nodup (soonest?_spec displaces.2.2).1

theorem WellFormed.givesUp_of_displaces (wf : c.WellFormed) (specified : ip ≠ .unspecified)
    {v : Entry} (displaces : c.Displaces ip v) (now : Instant) (mac : MacAddress) :
    c.GivesUp (c.insert now mac ip) ip now v := by
  obtain ⟨mem, least⟩ := soonest?_spec displaces.2.2
  have soonest (other : IpAddress) (e : Entry) (held : c.held? other = some e) :
      v.expires ≤ e.expires := least e (wf.held?_eq_some_iff.1 held).1
  constructor
  case held => exact wf.held?_eq_some_iff.2 ⟨mem, rfl⟩
  case gone => exact held?_insert_displaced specified displaces now mac
  case others =>
    intro other ne ne'
    refine held?_insert_of_stays specified ne ?_ now mac
    -- no second entry makes room
    intro w displaces'
    exact displaces_unique displaces displaces' ▸ ne'.symm
  case size_eq => exact wf.size_insert_of_displaces specified displaces now mac
  case soonest => exact soonest
  case sparesFresh =>
    -- the others' time is up no earlier
    intro fresh other e held
    exact Int.lt_of_lt_of_le fresh (soonest other e held)

theorem WellFormed.held?_sweep (wf : c.WellFormed) (now : Instant) (ip : IpAddress) :
    (c.sweep now).held? ip = (c.held? ip).filter fun e => e.Fresh now := by
  refine Option.ext fun e => ?_
  rw [(wf.sweep now).held?_eq_some_iff, sweep_eq, mem_counting, Option.filter_eq_some_iff,
    wf.held?_eq_some_iff, decide_eq_true_eq, and_right_comm]

theorem expiredCount_eq_countP (c : Cache) (now : Instant) :
    c.expiredCount now = c.entries.countP fun e => ¬ e.Fresh now := by
  have split := List.length_eq_countP_add_countP (fun e : Entry => e.Fresh now) (l := c.entries)
  simp only [expiredCount, size, sweep, ← List.countP_eq_length_filter]
  simp only [decide_eq_true_eq] at split
  omega

/-- **A note costs the table one entry at most, and that is the one whose time is up first.** After
    every history, the table has no more entries than it has room for, at most one for a host, and
    none for the unspecified address. Noting a host gives it its address for the time to live. The
    other entries stay as they are, unless the host is new and the table full: then it gives up one
    of them. A sweep drops the entries that do not count any more, and says how many they were. -/
theorem insert_givesUp_soonest (ttl capacity : Nat) (changes : List Change) :
    let c := (empty ttl capacity).run changes
    c.size ≤ max capacity 1 ∧ (c.entries.map Entry.ip).Nodup ∧ c.held? .unspecified = none ∧
      (∀ now mac ip, ip ≠ .unspecified →
        (c.insert now mac ip).held? ip = some ⟨ip, mac, now + ttl⟩ ∧
        (c.held? ip ≠ none ∨ c.size < max capacity 1 →
          ∀ other, other ≠ ip → (c.insert now mac ip).held? other = c.held? other) ∧
        (c.held? ip = none → c.size = max capacity 1 →
          ∃ v, c.GivesUp (c.insert now mac ip) ip now v)) ∧
      ∀ now, (∀ ip, (c.sweep now).held? ip = (c.held? ip).filter fun e => e.Fresh now) ∧
        c.expiredCount now = c.entries.countP fun e => ¬ e.Fresh now := by
  intro c
  have wf : c.WellFormed := (wellFormed_empty ttl capacity).run changes
  obtain ⟨sameTtl, sameCapacity⟩ : c.ttl = ttl ∧ c.capacity = max capacity 1 :=
    limits_run (empty ttl capacity) changes
  rw [← sameCapacity]
  refine ⟨wf.size_le, wf.nodup, held?_eq_none_iff.2 wf.specified, ?notes, ?sweeps⟩
  case notes =>
    intro now mac ip specified
    refine ⟨sameTtl ▸ held?_insert_self specified now mac, ?room, ?full⟩
    case room =>
      intro room other ne
      refine held?_insert_of_stays specified ne ?_ now mac
      exact fun v displaces => absurd displaces (not_displaces_of_room room v)
    case full =>
      intro absent full
      obtain ⟨v, displaces⟩ := exists_displaces wf.capacity_pos absent (Nat.le_of_eq full.symm)
      exact ⟨v, wf.givesUp_of_displaces specified displaces now mac⟩
  case sweeps =>
    exact fun now => ⟨wf.held?_sweep now, expiredCount_eq_countP c now⟩

/-- Two hosts in a table with room for two. The clock went back before the second was noted. -/
def backwardRun : List Change := [.insert 5 .zero ⟨2⟩, .insert 0 .zero ⟨3⟩]

/-- The host 3 was noted last, but its time is up first. -/
theorem givesUp_backwardRun :
    let c := (empty 10 2).run backwardRun
    (∃ v, c.GivesUp (c.insert 12 .zero ⟨4⟩) ⟨4⟩ 12 v) ∧
      (c.insert 12 .zero ⟨4⟩).held? ⟨2⟩ = c.held? ⟨2⟩ := by
  obtain ⟨-, -, -, notes, -⟩ := insert_givesUp_soonest 10 2 backwardRun
  exact ⟨(notes 12 .zero ⟨4⟩ (by decide)).2.2 (by decide) (by decide), by decide⟩

end LocalPlay.Arp.Cache
