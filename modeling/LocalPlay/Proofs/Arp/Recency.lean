import LocalPlay.Proofs.Arp.Runs
import Mathlib.Data.List.Dedup
import Mathlib.Data.List.Perm.Subperm

set_option autoImplicit false

/-! # The last note counts

What the table answers is what was noted last: not before it was noted, not when its time is up,
and not after it was forgotten. A full table gives up entries, but on a clock that always moves on
the entry whose time is up first is the one that was noted longest ago, so a host is safe until as
many others were noted as there is room for. -/

namespace LocalPlay.Arp

/-! ## The last note of a host -/

/-- `LastNoted changes ip s mac since`: the host was last noted at `s`, with the address `mac`, and
    in `since`, which is what happened after, it was not forgotten. -/
def LastNoted (changes : List Change) (ip : IpAddress) (s : Instant) (mac : MacAddress)
    (since : List Change) : Prop :=
  (∃ before, changes = before ++ .insert s mac ip :: since) ∧ ∀ x ∈ since, ¬ x.Overrides ip

/-- The other hosts that were noted, each once. -/
def othersNoted (ip : IpAddress) (changes : List Change) : List IpAddress :=
  ((changes.filterMap Change.noted?).filter fun a => a ≠ ip ∧ a ≠ .unspecified).dedup

section LastNoted

variable {changes since : List Change} {ip : IpAddress} {s : Instant} {mac : MacAddress}

theorem lastNoted_concat_insert (changes : List Change) (s : Instant) (mac : MacAddress)
    (ip : IpAddress) : LastNoted (changes ++ [.insert s mac ip]) ip s mac [] :=
  ⟨⟨changes, rfl⟩, by simp⟩

theorem LastNoted.concat {x : Change} (h : LastNoted changes ip s mac since)
    (stays : ¬ x.Overrides ip) : LastNoted (changes ++ [x]) ip s mac (since ++ [x]) := by
  obtain ⟨⟨before, rfl⟩, quiet⟩ := h
  refine ⟨⟨before, by simp⟩, ?_⟩
  intro y hy
  rcases List.mem_append.1 hy with hy | hy
  · exact quiet y hy
  · rwa [List.mem_singleton.1 hy]

theorem LastNoted.mem (h : LastNoted changes ip s mac since) : .insert s mac ip ∈ changes := by
  obtain ⟨⟨before, rfl⟩, -⟩ := h
  exact List.mem_append_right _ List.mem_cons_self

theorem mem_readings_of_insert (h : .insert s mac ip ∈ changes) : s ∈ readings changes :=
  List.mem_filterMap.2 ⟨_, h, rfl⟩

theorem mem_othersNoted {a : IpAddress} : a ∈ othersNoted ip changes ↔
    (∃ x ∈ changes, x.noted? = some a) ∧ a ≠ ip ∧ a ≠ .unspecified := by
  simp [othersNoted]

theorem length_othersNoted_le_append (ip : IpAddress) (changes later : List Change) :
    (othersNoted ip changes).length ≤ (othersNoted ip (changes ++ later)).length := by
  refine ((List.nodup_dedup _).subperm ?_).length_le
  intro a ha
  obtain ⟨⟨x, hx, noted⟩, other⟩ := mem_othersNoted.1 ha
  exact mem_othersNoted.2 ⟨⟨x, List.mem_append_left _ hx, noted⟩, other⟩

end LastNoted

namespace Cache

variable {ttl capacity : Nat} {changes before since : List Change} {ip : IpAddress} {s t : Instant}
  {mac : MacAddress}

/-- Every entry is what was last noted of its host. -/
theorem lastNoted_of_mem {e : Entry} (he : e ∈ ((empty ttl capacity).run changes).entries) :
    ∃ s since, LastNoted changes e.ip s e.mac since ∧ e.expires = s + ttl := by
  induction changes using List.reverseRecOn with
  | nil => exact absurd he List.not_mem_nil
  | append_singleton changes x ih =>
    have wf := (wellFormed_empty ttl capacity).run changes
    rw [run_concat] at he
    rcases mem_entries_change wf.specified he with ⟨old, stays⟩ | ⟨now, mac, ip, rfl, -, rfl⟩
    · obtain ⟨s, since, last, expires⟩ := ih old
      exact ⟨s, since ++ [x], last.concat stays, expires⟩
    · refine ⟨now, [], lastNoted_concat_insert .., ?_⟩
      rw [(limits_run _ changes).1]
      rfl

/-- Entries that stay as long as the host's, or longer, belong to hosts that were noted after it. -/
theorem mem_othersNoted_of_mem (earlier : ∀ r ∈ readings before, r < s) {e : Entry}
    (he : e ∈ ((empty ttl capacity).run (before ++ .insert s mac ip :: since)).entries)
    (other : e.ip ≠ ip) (stays : s + ttl ≤ e.expires) : e.ip ∈ othersNoted ip since := by
  have wf := (wellFormed_empty ttl capacity).run (before ++ .insert s mac ip :: since)
  obtain ⟨s', since', last, expires⟩ := lastNoted_of_mem he
  have later : s ≤ s' := Int.le_of_add_le_add_right (expires ▸ stays)
  refine mem_othersNoted.2 ⟨⟨.insert s' e.mac e.ip, ?_, rfl⟩, other, wf.specified e he⟩
  rcases List.mem_append.1 last.mem with mem | mem
  · exact absurd (earlier s' (mem_readings_of_insert mem)) (Int.not_lt.2 later)
  rcases List.mem_cons.1 mem with same | mem
  · exact absurd (Change.insert.inj same).2.2 other
  · exact mem

/-- A table that gives up the host's entry for another one is full of hosts that were noted after
    it. -/
theorem capacity_le_length_othersNoted (earlier : ∀ r ∈ readings before, r < s) {c : Cache}
    (hc : c = (empty ttl capacity).run (before ++ .insert s mac ip :: since))
    {new : IpAddress} (specified : new ≠ .unspecified) (ne : new ≠ ip)
    (displaces : c.Displaces new ⟨ip, mac, s + ttl⟩) (now : Instant) (newMac : MacAddress) :
    c.capacity ≤ (othersNoted ip (since ++ [.insert now newMac new])).length := by
  obtain ⟨absent, full, soonest⟩ := displaces
  obtain ⟨mem, least⟩ := soonest?_spec soonest
  have wf : c.WellFormed := hc ▸ (wellFormed_empty ttl capacity).run _
  have held : ip ∈ c.entries.map Entry.ip := List.mem_map.2 ⟨_, mem, rfl⟩
  -- the newcomer and the hosts of all the other entries
  let crowd := new :: (c.entries.map Entry.ip).erase ip
  have nodup : crowd.Nodup := by
    refine List.nodup_cons.2 ⟨?_, wf.nodup.erase ip⟩
    intro h
    obtain ⟨e, he, same⟩ := List.mem_map.1 (List.mem_of_mem_erase h)
    exact held?_eq_none_iff.1 absent e he same
  have noted : crowd ⊆ othersNoted ip (since ++ [.insert now newMac new]) := by
    intro a ha
    rcases List.mem_cons.1 ha with rfl | ha
    · exact mem_othersNoted.2 ⟨⟨_, List.mem_append_right _ List.mem_cons_self, rfl⟩, ne, specified⟩
    · obtain ⟨other, ha⟩ := wf.nodup.mem_erase_iff.1 ha
      obtain ⟨e, he, rfl⟩ := List.mem_map.1 ha
      obtain ⟨⟨x, hx, eq⟩, rest⟩ :=
        mem_othersNoted.1 (mem_othersNoted_of_mem earlier (hc ▸ he) other (least e he))
      exact mem_othersNoted.2 ⟨⟨x, List.mem_append_left _ hx, eq⟩, rest⟩
  have size : crowd.length = c.size := by
    have pos := List.length_pos_of_mem held
    simp only [crowd, List.length_cons, List.length_erase_of_mem held]
    rw [List.length_map] at pos ⊢
    exact Nat.sub_add_cancel pos
  calc c.capacity ≤ c.size := full
    _ = crowd.length := size.symm
    _ ≤ _ := (nodup.subperm noted).length_le

/-- What was noted of a host stays in the table while it counts, unless the host is crowded out. -/
theorem mem_run_of_lastNoted (earlier : ∀ r ∈ readings before, r < s)
    (specified : ip ≠ .unspecified) (quiet : ∀ x ∈ since, ¬ x.Overrides ip)
    (early : ∀ r ∈ readings since, r < s + ttl)
    (few : (othersNoted ip since).length < max capacity 1) :
    ⟨ip, mac, s + ttl⟩ ∈
      ((empty ttl capacity).run (before ++ .insert s mac ip :: since)).entries := by
  induction since using List.reverseRecOn with
  | nil =>
    rw [run_concat]
    refine (mem_entries_insert specified).2 (Or.inl ?_)
    rw [(limits_run _ before).1]
    rfl
  | append_singleton since x ih =>
    have fewer := length_othersNoted_le_append ip since [x]
    have mem := ih (fun y hy => quiet y (List.mem_append_left _ hy))
      (fun r hr => early r (by simp [hr])) (Nat.lt_of_le_of_lt fewer few)
    have stays := quiet x (List.mem_append_right _ List.mem_cons_self)
    rw [← List.cons_append, ← List.append_assoc, run_concat]
    generalize hc : (empty ttl capacity).run (before ++ .insert s mac ip :: since) = c at mem ⊢
    have wf : c.WellFormed := hc ▸ (wellFormed_empty ttl capacity).run _
    cases x with
    | insert now newMac new =>
      by_cases nobody : new = .unspecified
      · rwa [change, nobody, insert_unspecified]
      refine (mem_entries_insert nobody).2 (Or.inr ⟨mem, Ne.symm stays, ?_⟩)
      intro v displaces same
      have victim : v = ⟨ip, mac, s + ttl⟩ :=
        wf.eq_of_ip (soonest?_spec displaces.2.2).1 mem same.symm
      have crowded := capacity_le_length_othersNoted earlier hc.symm nobody stays
        (victim ▸ displaces) now newMac
      have room : c.capacity = max capacity 1 := hc ▸ (limits_run _ _).2
      omega
    | remove gone => exact mem_without.2 ⟨mem, Ne.symm stays⟩
    | clear => exact absurd trivial stays
    | sweep now =>
      have fresh := early now (by simp [Change.reading?])
      exact List.mem_filter.2 ⟨mem, decide_eq_true fresh⟩

/-- **The table answers what was noted last.** On a clock that always moves on, an answer is what
    was last noted of the host, while it counts; and while it counts it is answered, unless as many
    other hosts were noted since as there is room for. -/
theorem lookup_run_lastNoted (ttl capacity : Nat) (changes : List Change)
    (ticks : (readings changes).Pairwise (· < ·)) (ip : IpAddress) (t : Instant)
    (late : ∀ r ∈ readings changes, r ≤ t) :
    (∀ mac, ((empty ttl capacity).run changes).lookup t ip = some mac →
      ip ≠ .unspecified ∧
        ∃ s since, LastNoted changes ip s mac since ∧ s ≤ t ∧ t < s + ttl) ∧
    ∀ s mac since, LastNoted changes ip s mac since → ip ≠ .unspecified → t < s + ttl →
      (othersNoted ip since).length < max capacity 1 →
        ((empty ttl capacity).run changes).lookup t ip = some mac := by
  have wf := (wellFormed_empty ttl capacity).run changes
  constructor
  · intro mac found
    obtain ⟨e, he, rfl, fresh, rfl⟩ := wf.lookup_eq_some_iff.1 found
    obtain ⟨s, since, last, expires⟩ := lastNoted_of_mem he
    refine ⟨wf.specified e he, s, since, last, late s (mem_readings_of_insert last.mem), ?_⟩
    rw [← expires]
    exact fresh
  · rintro s mac since ⟨⟨before, rfl⟩, quiet⟩ specified fresh few
    simp only [readings_append, readings_cons, Change.reading?, Option.toList_some,
      List.singleton_append, List.pairwise_append, List.mem_append, List.mem_cons] at ticks late
    have earlier : ∀ r ∈ readings before, r < s := fun r hr => ticks.2.2 r hr s (Or.inl rfl)
    have early : ∀ r ∈ readings since, r < s + ttl := fun r hr =>
      Int.lt_of_le_of_lt (late r (Or.inr (Or.inr hr))) fresh
    have mem : ⟨ip, mac, s + ttl⟩ ∈
        ((empty ttl capacity).run (before ++ .insert s mac ip :: since)).entries :=
      mem_run_of_lastNoted earlier specified quiet early few
    exact wf.lookup_eq_some_iff.2 ⟨_, mem, rfl, fresh, rfl⟩

/-- A table with room for two: the host 2 moves to another station, and then the host 4 crowds out
    the host 3. -/
def busyRun : List Change :=
  [.insert 0 .zero ⟨2⟩, .insert 1 .zero ⟨3⟩, .insert 2 .broadcast ⟨2⟩, .insert 3 .zero ⟨4⟩,
    .sweep 4]

theorem lookup_busyRun :
    ((empty 10 2).run busyRun).lookup 5 ⟨2⟩ = some .broadcast ∧
      (⟨2⟩ : IpAddress) ≠ .unspecified ∧
        ∃ s since, LastNoted busyRun ⟨2⟩ s .broadcast since ∧ s ≤ 5 ∧ 5 < s + 10 := by
  obtain ⟨sound, complete⟩ := lookup_run_lastNoted 10 2 busyRun (by decide) ⟨2⟩ 5 (by decide)
  have last : LastNoted busyRun ⟨2⟩ 2 .broadcast [.insert 3 .zero ⟨4⟩, .sweep 4] :=
    ⟨⟨busyRun.take 2, rfl⟩, by decide⟩
  have found := complete 2 .broadcast _ last (by decide) (by decide) (by decide)
  exact ⟨found, sound _ found⟩

end Cache

end LocalPlay.Arp
