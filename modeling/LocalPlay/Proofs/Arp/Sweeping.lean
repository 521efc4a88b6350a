import LocalPlay.Proofs.Arp.Runs

set_option autoImplicit false

/-! # Nobody notices a sweep

A sweep drops entries that do not count any more. That changes how full the table is, and so what
later notes cost other hosts; but while an entry that does not count is in the table, one of those
is given up first. So what a note leaves of the entries that count depends on those alone
(`Cache.sweep_insert`), and two histories that differ in their sweeps keep the same entries that
count. -/

namespace LocalPlay.Arp

/-! ## The entries that count -/

/-- The entries that still count. -/
def counting (now : Instant) (es : List Entry) : List Entry := es.filter fun e => e.Fresh now

section Counting

variable {now later : Instant} {es : List Entry}

theorem mem_counting {e : Entry} : e ∈ counting now es ↔ e ∈ es ∧ e.Fresh now := by
  simp [counting]

theorem Entry.Fresh.of_le {e : Entry} (fresh : e.Fresh later) (le : now ≤ later) : e.Fresh now :=
  Int.lt_of_le_of_lt le fresh

theorem counting_counting (le : now ≤ later) :
    counting later (counting now es) = counting later es := by
  rw [counting, counting, List.filter_filter]
  refine List.filter_congr fun e _ => ?_
  by_cases fresh : e.Fresh later
  · simp [fresh, fresh.of_le le]
  · simp [fresh]

theorem counting_without (ip : IpAddress) :
    counting now (Cache.without ip es) = Cache.without ip (counting now es) := by
  simp only [counting, Cache.without, List.filter_filter, Bool.and_comm]

theorem counting_eq_self (fresh : ∀ e ∈ es, e.Fresh now) : counting now es = es :=
  List.filter_eq_self.2 fun e he => decide_eq_true (fresh e he)

theorem length_counting_lt {stale : Entry} (mem : stale ∈ es) (expired : ¬ stale.Fresh now) :
    (counting now es).length < es.length :=
  List.length_filter_lt_length_iff_exists.2 ⟨stale, mem, by simpa using expired⟩

end Counting

namespace Cache

variable {c : Cache} {ip : IpAddress} {now later : Instant}

theorem sweep_eq (c : Cache) (now : Instant) :
    c.sweep now = { c with entries := counting now c.entries } := rfl

theorem sweep_sweep (c : Cache) (le : now ≤ later) : (c.sweep now).sweep later = c.sweep later := by
  simp only [sweep_eq, counting_counting le]

theorem sweep_remove (c : Cache) (ip : IpAddress) (now : Instant) :
    (c.remove ip).sweep now = (c.sweep now).remove ip := by
  simp only [sweep_eq, remove, counting_without]

/-! ## What a note leaves of them -/

/-- While an entry that does not count is in the table, making room costs no entry that counts. -/
theorem counting_makeRoom (wf : c.WellFormed) {stale : Entry} (mem : stale ∈ c.entries)
    (expired : ¬ stale.Fresh now) (ip : IpAddress) :
    counting now (c.makeRoom ip) = counting now c.entries := by
  by_cases h : ∃ v, c.Displaces ip v
  · obtain ⟨v, displaces⟩ := h
    obtain ⟨held, least⟩ := soonest?_spec displaces.2.2
    have gone : ¬ v.Fresh now := fun fresh => expired (Int.lt_of_lt_of_le fresh (least stale mem))
    rw [makeRoom_of_displaces displaces, counting_without, without_eq_self]
    intro e he same
    obtain ⟨he, fresh⟩ := mem_counting.1 he
    exact gone (wf.eq_of_ip he held same ▸ fresh)
  · rw [makeRoom_eq_entries (not_exists.1 h)]

theorem sweep_insert_of_ne (specified : ip ≠ .unspecified) (now : Instant) (mac : MacAddress) :
    (c.insert now mac ip).sweep now =
      { c with entries :=
          without ip (counting now (c.makeRoom ip)) ++ counting now [⟨ip, mac, now + c.ttl⟩] } := by
  rw [insert, if_neg specified, ← counting_without, counting, counting, ← List.filter_append]
  rfl

/-- What a note leaves of the entries that count depends on those alone. -/
theorem sweep_insert (wf : c.WellFormed) (now : Instant) (mac : MacAddress) (ip : IpAddress) :
    (c.insert now mac ip).sweep now = ((c.sweep now).insert now mac ip).sweep now := by
  by_cases specified : ip = .unspecified
  · rw [specified, insert_unspecified, insert_unspecified, sweep_sweep c (Int.le_refl _)]
  by_cases fresh : ∀ e ∈ c.entries, e.Fresh now
  · rw [sweep_eq c, counting_eq_self fresh]
  -- a table that holds an entry which does not count is not full once that is swept out
  simp only [not_forall] at fresh
  obtain ⟨stale, mem, expired⟩ := fresh
  have room : (c.sweep now).size < (c.sweep now).capacity :=
    Nat.lt_of_lt_of_le (length_counting_lt mem expired) wf.size_le
  have stays (v : Entry) : ¬ (c.sweep now).Displaces ip v := fun h => Nat.not_lt.2 h.2.1 room
  have same : counting now (c.makeRoom ip) = counting now ((c.sweep now).makeRoom ip) := by
    rw [makeRoom_eq_entries stays, counting_makeRoom wf mem expired]
    exact (counting_counting (Int.le_refl now)).symm
  rw [sweep_insert_of_ne specified, sweep_insert_of_ne specified, same]
  rfl

/-! ## What is answered -/

theorem lookup_sweep (wf : c.WellFormed) (now : Instant) :
    (c.sweep now).lookup now = c.lookup now := by
  funext ip
  refine Option.ext fun mac => ?_
  rw [wf.lookup_eq_some_iff, (wf.sweep now).lookup_eq_some_iff]
  constructor
  · rintro ⟨e, he, same, fresh, rfl⟩
    exact ⟨e, (mem_counting.1 he).1, same, fresh, rfl⟩
  · rintro ⟨e, he, same, fresh, rfl⟩
    exact ⟨e, mem_counting.2 ⟨he, fresh⟩, same, fresh, rfl⟩

theorem bindings_sweep (c : Cache) (now : Instant) :
    (c.sweep now).bindings now = c.bindings now := by
  rw [bindings, sweep_sweep c (Int.le_refl _), bindings]

/-- Two tables that look the same once they are swept answer the same. -/
theorem answers_eq_of_sweep_eq {d : Cache} (hc : c.WellFormed) (hd : d.WellFormed)
    (same : c.sweep now = d.sweep now) :
    c.lookup now = d.lookup now ∧ c.bindings now = d.bindings now := by
  constructor
  · rw [← lookup_sweep hc, same, lookup_sweep hd]
  · rw [← bindings_sweep c, same, bindings_sweep]

/-! ## Histories with and without sweeps -/

def isSweep : Change → Bool
  | .sweep _ => true
  | .insert .. | .remove _ | .clear => false

/-- A history without its sweeps. -/
def unswept (changes : List Change) : List Change := changes.filter fun x => !isSweep x

/-- Whatever was swept meanwhile, the same entries count. -/
theorem sweep_run_unswept {changes : List Change} (wf : c.WellFormed)
    (steady : (readings changes).Pairwise (· ≤ ·)) (late : ∀ r ∈ readings changes, r ≤ now) :
    (c.run changes).sweep now = (c.run (unswept changes)).sweep now := by
  induction changes using List.reverseRecOn generalizing now with
  | nil => rfl
  | append_singleton changes x ih =>
    rw [readings_append, List.pairwise_append] at steady
    obtain ⟨steady, -, ordered⟩ := steady
    rw [readings_append] at late
    have before := ih steady fun r hr => late r (List.mem_append_left _ hr)
    rw [run_concat, unswept, List.filter_append, ← unswept]
    cases x with
    | insert at' mac ip =>
      have le : at' ≤ now := late at' (by simp [Change.reading?])
      -- the note sees the clock no earlier than anything before it
      have earlier : ∀ r ∈ readings changes, r ≤ at' := fun r hr =>
        ordered r hr at' (by simp [Change.reading?])
      have then' := ih steady earlier
      rw [List.filter_cons_of_pos rfl, List.filter_nil, run_concat]
      simp only [change]
      rw [← sweep_sweep _ le, sweep_insert (wf.run _), then', ← sweep_insert (wf.run _),
        sweep_sweep _ le]
    | remove ip =>
      rw [List.filter_cons_of_pos rfl, List.filter_nil, run_concat]
      simp only [change]
      rw [sweep_remove, before, sweep_remove]
    | clear =>
      rw [List.filter_cons_of_pos rfl, List.filter_nil, run_concat]
      obtain ⟨ttl, capacity⟩ := limits_run c changes
      obtain ⟨ttl', capacity'⟩ := limits_run c (unswept changes)
      simp only [change, clear, sweep, ttl, ttl', capacity, capacity']
    | sweep at' =>
      have le : at' ≤ now := late at' (by simp [Change.reading?])
      rw [List.filter_cons_of_neg (by simp [isSweep]), List.filter_nil, List.append_nil]
      simp only [change]
      rw [sweep_sweep _ le, before]

/-- **Nobody notices a sweep.** Of two histories that differ only in their sweeps, on a clock that
    never goes back, the tables answer every question alike: who has an address, whether anybody
    has it, and which hosts are known. -/
theorem answers_run_unswept (ttl capacity : Nat) (changes : List Change)
    (steady : (readings changes).Pairwise (· ≤ ·)) (now : Instant)
    (late : ∀ r ∈ readings changes, r ≤ now) :
    let swept := (empty ttl capacity).run changes
    let whole := (empty ttl capacity).run (unswept changes)
    swept.lookup now = whole.lookup now ∧ swept.bindings now = whole.bindings now := by
  have wf := wellFormed_empty ttl capacity
  exact answers_eq_of_sweep_eq (wf.run _) (wf.run _) (sweep_run_unswept wf steady late)

/-- The first sweep makes room for the host 4, which otherwise takes the place of the host 2. The
    second one drops the host 3, which stays in the unswept table without counting. -/
def sweptRun : List Change :=
  [.insert 0 .zero ⟨2⟩, .insert 5 .zero ⟨3⟩, .sweep 11, .insert 12 .zero ⟨4⟩, .sweep 16]

theorem answers_sweptRun :
    let swept := (empty 10 2).run sweptRun
    let whole := (empty 10 2).run (unswept sweptRun)
    swept.size ≠ whole.size ∧
      swept.lookup 17 = whole.lookup 17 ∧ swept.bindings 17 = whole.bindings 17 :=
  ⟨by decide, answers_run_unswept 10 2 sweptRun (by decide) 17 (by decide)⟩

end Cache

end LocalPlay.Arp
