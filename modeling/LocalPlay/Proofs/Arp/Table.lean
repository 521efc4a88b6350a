import LocalPlay.Arp.Cache
import LocalPlay.Proofs.KeyedList

set_option autoImplicit false

/-! # The table of hosts as a bounded map

A table is well formed when it has at most one entry for a host, none for the unspecified address,
and no more entries than it has room for. Every operation keeps that. What noting a host costs the
others is `Cache.Displaces`: a full table gives up the entry whose time is up first, and only if
the host is new to it. -/

namespace LocalPlay.Arp

namespace Cache

variable {c : Cache} {ip other : IpAddress} {now : Instant}

/-! ## Entries that go -/

theorem mem_without {es : List Entry} {e : Entry} : e ∈ without ip es ↔ e ∈ es ∧ e.ip ≠ ip := by
  simp [without]

theorem without_eq_self {es : List Entry} (absent : ∀ e ∈ es, e.ip ≠ ip) : without ip es = es :=
  List.filter_eq_self.2 fun e he => by simpa using absent e he

theorem length_without_lt {es : List Entry} {e : Entry} (he : e ∈ es) :
    (without e.ip es).length < es.length :=
  List.length_filter_lt_length_iff_exists.2 ⟨e, he, by simp⟩

theorem find?_without_self (ip : IpAddress) (es : List Entry) :
    (without ip es).find? (fun e => e.ip = ip) = none :=
  KeyedList.find?_eq_none_iff.2 fun _ he => (mem_without.1 he).2

theorem find?_without_of_ne (ne : other ≠ ip) (es : List Entry) :
    (without ip es).find? (fun e => e.ip = other) = es.find? fun e => e.ip = other := by
  rw [without, List.find?_filter]
  congr 1
  funext e
  by_cases same : e.ip = other
  · simp [same, ne]
  · simp [same]

theorem soonest?_eq_none {es : List Entry} (h : soonest? es = none) : es = [] := by
  cases es with
  | nil => rfl
  | cons e es =>
    rw [soonest?] at h
    split at h
    · simp at h
    · split at h <;> simp at h

/-- The entry whose time is up first is one of the entries, and no other one's is up earlier. -/
theorem soonest?_spec {es : List Entry} {v : Entry} (h : soonest? es = some v) :
    v ∈ es ∧ ∀ e ∈ es, v.expires ≤ e.expires := by
  induction es generalizing v with
  | nil => simp [soonest?] at h
  | cons e es ih =>
    rw [soonest?] at h
    cases rest : soonest? es with
    | none =>
      have empty := soonest?_eq_none rest
      simp_all
    | some w =>
      obtain ⟨mem, le⟩ := ih rest
      simp only [rest] at h
      split at h
      · next sooner =>
        obtain rfl := Option.some.inj h
        refine ⟨List.mem_cons_self, ?_⟩
        intro e' he'
        rcases List.mem_cons.1 he' with rfl | he'
        · exact Int.le_refl _
        · exact Int.le_trans sooner (le e' he')
      · next later =>
        obtain rfl := Option.some.inj h
        refine ⟨List.mem_cons_of_mem _ mem, ?_⟩
        intro e' he'
        rcases List.mem_cons.1 he' with rfl | he'
        · exact Int.le_of_lt (Int.not_le.1 later)
        · exact le e' he'

/-- `c.Displaces ip v`: room for the host `ip` is made by giving up the entry `v`. -/
def Displaces (c : Cache) (ip : IpAddress) (v : Entry) : Prop :=
  c.held? ip = none ∧ c.capacity ≤ c.size ∧ soonest? c.entries = some v

instance (c : Cache) (ip : IpAddress) (v : Entry) : Decidable (c.Displaces ip v) :=
  inferInstanceAs (Decidable (_ ∧ _ ∧ _))

theorem makeRoom_of_displaces {v : Entry} (h : c.Displaces ip v) :
    c.makeRoom ip = without v.ip c.entries := by
  obtain ⟨absent, full, soonest⟩ := h
  have noRoom : ¬ ((c.held? ip).isSome ∨ c.size < c.capacity) := by
    simp [absent, full]
  simp only [makeRoom, if_neg noRoom, soonest]

theorem makeRoom_eq_entries (h : ∀ v, ¬ c.Displaces ip v) : c.makeRoom ip = c.entries := by
  unfold makeRoom
  split
  · rfl
  · next noRoom =>
    rw [not_or, Option.not_isSome_iff_eq_none, Nat.not_lt] at noRoom
    split
    · rfl
    · next v soonest => exact absurd ⟨noRoom.1, noRoom.2, soonest⟩ (h v)

/-- A full table has an entry that it can give up for a host that is new to it. -/
theorem exists_displaces (pos : 0 < c.capacity) (absent : c.held? ip = none)
    (full : c.capacity ≤ c.size) : ∃ v, c.Displaces ip v := by
  have nonempty : c.entries ≠ [] := by
    intro empty
    simp [size, empty] at full
    omega
  obtain ⟨v, soonest⟩ := Option.ne_none_iff_exists'.1 (mt soonest?_eq_none nonempty)
  exact ⟨v, absent, full, soonest⟩

theorem displaces_unique {v w : Entry} (hv : c.Displaces ip v) (hw : c.Displaces ip w) : v = w :=
  Option.some.inj (hv.2.2.symm.trans hw.2.2)

theorem mem_makeRoom {e : Entry} :
    e ∈ c.makeRoom ip ↔ e ∈ c.entries ∧ ∀ v, c.Displaces ip v → e.ip ≠ v.ip := by
  by_cases h : ∃ v, c.Displaces ip v
  · obtain ⟨v, hv⟩ := h
    rw [makeRoom_of_displaces hv, mem_without]
    refine and_congr_right fun _ => ⟨?_, fun all => all v hv⟩
    intro ne w hw
    rwa [displaces_unique hw hv]
  · rw [not_exists] at h
    rw [makeRoom_eq_entries h]
    exact ⟨fun he => ⟨he, fun v hv => absurd hv (h v)⟩, And.left⟩

theorem insert_unspecified (now : Instant) (mac : MacAddress) :
    c.insert now mac .unspecified = c := if_pos rfl

theorem entries_insert (specified : ip ≠ .unspecified) (now : Instant) (mac : MacAddress) :
    (c.insert now mac ip).entries = without ip (c.makeRoom ip) ++ [⟨ip, mac, now + c.ttl⟩] := by
  rw [insert, if_neg specified]

/-- After a host was noted, the entries are the new one and those of the other hosts, without the
    one that was given up for it. -/
theorem mem_entries_insert (specified : ip ≠ .unspecified) {mac : MacAddress} {e : Entry} :
    e ∈ (c.insert now mac ip).entries ↔ e = ⟨ip, mac, now + c.ttl⟩ ∨
      e ∈ c.entries ∧ e.ip ≠ ip ∧ ∀ v, c.Displaces ip v → e.ip ≠ v.ip := by
  rw [entries_insert specified, List.mem_append, mem_without, mem_makeRoom, List.mem_singleton]
  tauto

/-! ## What a note leaves of a host's entry -/

theorem held?_eq_none_iff : c.held? ip = none ↔ ∀ e ∈ c.entries, e.ip ≠ ip :=
  KeyedList.find?_eq_none_iff

theorem held?_insert_self (specified : ip ≠ .unspecified) (now : Instant) (mac : MacAddress) :
    (c.insert now mac ip).held? ip = some ⟨ip, mac, now + c.ttl⟩ := by
  rw [held?, entries_insert specified, List.find?_append, find?_without_self]
  simp

theorem held?_insert_of_ne (specified : ip ≠ .unspecified) (ne : other ≠ ip) (now : Instant)
    (mac : MacAddress) : (c.insert now mac ip).held? other =
      (c.makeRoom ip).find? fun e => e.ip = other := by
  rw [held?, entries_insert specified, List.find?_append, find?_without_of_ne ne]
  simp [Ne.symm ne]

theorem held?_insert_of_stays (specified : ip ≠ .unspecified) (ne : other ≠ ip)
    (stays : ∀ v, c.Displaces ip v → v.ip ≠ other) (now : Instant) (mac : MacAddress) :
    (c.insert now mac ip).held? other = c.held? other := by
  rw [held?_insert_of_ne specified ne, held?]
  by_cases h : ∃ v, c.Displaces ip v
  · obtain ⟨v, displaces⟩ := h
    rw [makeRoom_of_displaces displaces, find?_without_of_ne (stays v displaces).symm]
  · rw [makeRoom_eq_entries (not_exists.1 h)]

theorem held?_insert_displaced (specified : ip ≠ .unspecified) {v : Entry}
    (displaces : c.Displaces ip v) (now : Instant) (mac : MacAddress) :
    (c.insert now mac ip).held? v.ip = none := by
  have ne : v.ip ≠ ip := held?_eq_none_iff.1 displaces.1 v (soonest?_spec displaces.2.2).1
  rw [held?_insert_of_ne specified ne, makeRoom_of_displaces displaces, find?_without_self]

/-! ## Tables that are maps -/

/-- The table has one entry for a host at most, and no more than it has room for. -/
structure WellFormed (c : Cache) : Prop where
  nodup : (c.entries.map Entry.ip).Nodup
  specified : ∀ e ∈ c.entries, e.ip ≠ .unspecified
  capacity_pos : 0 < c.capacity
  size_le : c.size ≤ c.capacity

theorem lookup_eq_some_iff {mac : MacAddress} :
    c.lookup now ip = some mac ↔ ∃ e, c.held? ip = some e ∧ e.Fresh now ∧ e.mac = mac := by
  simp only [lookup, Option.map_eq_some_iff, Option.filter_eq_some_iff, and_assoc,
    decide_eq_true_eq]

namespace WellFormed

variable (wf : c.WellFormed)
include wf

theorem eq_of_ip {e e' : Entry} (he : e ∈ c.entries) (he' : e' ∈ c.entries) (h : e.ip = e'.ip) :
    e = e' :=
  List.inj_on_of_nodup_map wf.nodup he he' h

theorem held?_eq_some_iff {e : Entry} : c.held? ip = some e ↔ e ∈ c.entries ∧ e.ip = ip :=
  KeyedList.find?_eq_some_iff wf.nodup

theorem lookup_eq_some_iff {mac : MacAddress} : c.lookup now ip = some mac ↔
    ∃ e ∈ c.entries, e.ip = ip ∧ e.Fresh now ∧ e.mac = mac := by
  simp only [Cache.lookup_eq_some_iff, wf.held?_eq_some_iff, and_assoc]

/-- The table lists a host with an address exactly if that is what it answers. -/
theorem mem_bindings_iff {mac : MacAddress} :
    (ip, mac) ∈ c.bindings now ↔ c.lookup now ip = some mac := by
  rw [wf.lookup_eq_some_iff, bindings, List.mem_mergeSort, List.mem_map]
  constructor
  · rintro ⟨e, he, same⟩
    cases same
    exact ⟨e, (List.mem_filter.1 he).1, rfl, of_decide_eq_true (List.mem_filter.1 he).2, rfl⟩
  · rintro ⟨e, he, rfl, fresh, rfl⟩
    exact ⟨e, List.mem_filter.2 ⟨he, decide_eq_true fresh⟩, rfl⟩

/-- Dropping entries keeps a table well formed. -/
theorem of_sublist {es : List Entry} (sub : es.Sublist c.entries) :
    WellFormed { c with entries := es } where
  nodup := wf.nodup.sublist (sub.map Entry.ip)
  specified e he := wf.specified e (sub.subset he)
  capacity_pos := wf.capacity_pos
  size_le := Nat.le_trans sub.length_le wf.size_le

theorem remove (ip : IpAddress) : (c.remove ip).WellFormed := wf.of_sublist List.filter_sublist

theorem clear : c.clear.WellFormed := wf.of_sublist (List.nil_sublist _)

theorem sweep (now : Instant) : (c.sweep now).WellFormed := wf.of_sublist List.filter_sublist

theorem length_without_makeRoom_lt (ip : IpAddress) :
    (without ip (c.makeRoom ip)).length < c.capacity := by
  have le (es : List Entry) : (without ip es).length ≤ es.length := List.length_filter_le ..
  by_cases held : ∃ e ∈ c.entries, e.ip = ip
  · -- the host's own entry makes room
    obtain ⟨e, he, rfl⟩ := held
    have notNew (v : Entry) : ¬ c.Displaces e.ip v := fun h => held?_eq_none_iff.1 h.1 e he rfl
    rw [makeRoom_eq_entries notNew]
    exact Nat.lt_of_lt_of_le (length_without_lt he) wf.size_le
  have absent : c.held? ip = none :=
    held?_eq_none_iff.2 fun e he same => held ⟨e, he, same⟩
  by_cases room : c.size < c.capacity
  · have stays (v : Entry) : ¬ c.Displaces ip v := fun h => Nat.not_lt.2 h.2.1 room
    rw [makeRoom_eq_entries stays]
    exact Nat.lt_of_le_of_lt (le _) room
  · -- the table is full, so it gives up an entry
    obtain ⟨v, displaces⟩ := exists_displaces wf.capacity_pos absent (Nat.not_lt.1 room)
    have shorter := length_without_lt (soonest?_spec displaces.2.2).1
    rw [makeRoom_of_displaces displaces]
    exact Nat.lt_of_le_of_lt (le _) (Nat.lt_of_lt_of_le shorter wf.size_le)

theorem insert (now : Instant) (mac : MacAddress) (ip : IpAddress) :
    (c.insert now mac ip).WellFormed := by
  by_cases specified : ip = .unspecified
  · rwa [specified, insert_unspecified]
  have frame : c.insert now mac ip
      = { c with entries := without ip (c.makeRoom ip) ++ [⟨ip, mac, now + c.ttl⟩] } :=
    if_neg specified
  have others : (without ip (c.makeRoom ip)).Sublist c.entries := by
    refine List.filter_sublist.trans ?_
    by_cases h : ∃ v, c.Displaces ip v
    · obtain ⟨v, hv⟩ := h
      rw [makeRoom_of_displaces hv]
      exact List.filter_sublist
    · rw [makeRoom_eq_entries (not_exists.1 h)]
  rw [frame]
  constructor
  · refine KeyedList.nodup_map_concat (wf.nodup.sublist (others.map Entry.ip)) ?_
    intro e he
    exact (mem_without.1 he).2
  · intro e he
    rcases List.mem_append.1 he with he | he
    · exact wf.specified e (others.subset he)
    · rwa [List.mem_singleton.1 he]
  · exact wf.capacity_pos
  · rw [size, List.length_append, List.length_singleton]
    exact wf.length_without_makeRoom_lt ip

end WellFormed

theorem wellFormed_empty (ttl capacity : Nat) : (empty ttl capacity).WellFormed where
  nodup := List.nodup_nil
  specified := by simp [empty]
  capacity_pos := Nat.le_max_right ..
  size_le := Nat.zero_le _

end Cache

end LocalPlay.Arp
