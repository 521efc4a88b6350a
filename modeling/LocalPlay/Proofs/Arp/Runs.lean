import LocalPlay.Proofs.Arp.Table
import Mathlib.Data.List.Induction

set_option autoImplicit false

/-! # Histories of the table of hosts

What the table holds is a matter of its whole history: hosts are noted, noted again, forgotten and
swept out, and a full table gives up entries on its own. A history is a row of changes, the oldest
first. -/

namespace LocalPlay.Arp

/-- Something done to the table of hosts. -/
inductive Change where
  | insert (now : Instant) (mac : MacAddress) (ip : IpAddress)
  | remove (ip : IpAddress)
  | clear
  | sweep (now : Instant)
deriving DecidableEq, Repr

namespace Change

/-- What the clock shows at a change, if the change looks at it. -/
def reading? : Change → Option Instant
  | insert now _ _ | sweep now => some now
  | remove _ | clear => none

/-- Whether what was noted of a host before does not count after the change. -/
def Overrides (ip : IpAddress) : Change → Prop
  | insert _ _ ip' | remove ip' => ip' = ip
  | clear => True
  | sweep _ => False

instance (ip : IpAddress) : DecidablePred (Overrides ip)
  | insert _ _ ip' | remove ip' => inferInstanceAs (Decidable (ip' = ip))
  | clear => .isTrue trivial
  | sweep _ => .isFalse id

/-- The host that a change notes. -/
def noted? : Change → Option IpAddress
  | insert _ _ ip => some ip
  | remove _ | clear | sweep _ => none

end Change

/-- What the clock shows during a history. -/
def readings (changes : List Change) : List Instant := changes.filterMap Change.reading?

@[simp] theorem readings_append (before after : List Change) :
    readings (before ++ after) = readings before ++ readings after :=
  List.filterMap_append

@[simp] theorem readings_cons (x : Change) (changes : List Change) :
    readings (x :: changes) = x.reading?.toList ++ readings changes := by
  cases h : x.reading? <;> simp [readings, h]

@[simp] theorem readings_nil : readings [] = [] := rfl

namespace Cache

/-- What a change does. -/
def change (c : Cache) : Change → Cache
  | .insert now mac ip => c.insert now mac ip
  | .remove ip => c.remove ip
  | .clear => c.clear
  | .sweep now => c.sweep now

/-- The table after a history. -/
def run (c : Cache) (changes : List Change) : Cache := changes.foldl change c

variable {c : Cache}

@[simp] theorem run_nil (c : Cache) : c.run [] = c := rfl

theorem run_append (c : Cache) (before after : List Change) :
    c.run (before ++ after) = (c.run before).run after := List.foldl_append

theorem run_concat (c : Cache) (changes : List Change) (x : Change) :
    c.run (changes ++ [x]) = (c.run changes).change x := by
  rw [run_append]
  rfl

/-- What every change keeps holds after every history. -/
theorem run_of_change {P : Cache → Prop} (keep : ∀ d x, P d → P (d.change x)) (start : P c)
    (changes : List Change) : P (c.run changes) := by
  induction changes using List.reverseRecOn with
  | nil => exact start
  | append_singleton changes x ih =>
    rw [run_concat]
    exact keep _ x ih

/-- No change alters what the table was set up with. -/
theorem limits_change (c : Cache) (x : Change) :
    (c.change x).ttl = c.ttl ∧ (c.change x).capacity = c.capacity := by
  cases x with
  | insert now mac ip =>
    simp only [change, insert]
    split <;> exact ⟨rfl, rfl⟩
  | remove | clear | sweep => exact ⟨rfl, rfl⟩

theorem limits_run (c : Cache) (changes : List Change) :
    (c.run changes).ttl = c.ttl ∧ (c.run changes).capacity = c.capacity := by
  refine run_of_change (P := fun d => d.ttl = c.ttl ∧ d.capacity = c.capacity) ?_ ⟨rfl, rfl⟩ changes
  rintro d x ⟨ttl, capacity⟩
  obtain ⟨ttl', capacity'⟩ := limits_change d x
  exact ⟨ttl'.trans ttl, capacity'.trans capacity⟩

theorem WellFormed.change (wf : c.WellFormed) (x : Change) : (c.change x).WellFormed := by
  cases x with
  | insert now mac ip => exact wf.insert now mac ip
  | remove ip => exact wf.remove ip
  | clear => exact wf.clear
  | sweep now => exact wf.sweep now

theorem WellFormed.run (wf : c.WellFormed) (changes : List Change) : (c.run changes).WellFormed :=
  run_of_change (fun _ x wf => wf.change x) wf changes

/-- An entry after a change was there before and still counts, or is what the change noted. -/
theorem mem_entries_change (specified : ∀ e ∈ c.entries, e.ip ≠ .unspecified) {x : Change}
    {e : Entry} (he : e ∈ (c.change x).entries) :
    (e ∈ c.entries ∧ ¬ x.Overrides e.ip) ∨
      ∃ now mac ip, x = .insert now mac ip ∧ ip ≠ .unspecified ∧ e = ⟨ip, mac, now + c.ttl⟩ := by
  cases x with
  | insert now mac ip =>
    by_cases unspecified : ip = .unspecified
    · subst unspecified
      rw [Cache.change, insert_unspecified] at he
      exact Or.inl ⟨he, (specified e he).symm⟩
    · rcases (mem_entries_insert unspecified).1 he with new | ⟨old, ne, -⟩
      · exact Or.inr ⟨now, mac, ip, rfl, unspecified, new⟩
      · exact Or.inl ⟨old, ne.symm⟩
  | remove ip =>
    obtain ⟨old, ne⟩ := mem_without.1 he
    exact Or.inl ⟨old, ne.symm⟩
  | clear => exact absurd he List.not_mem_nil
  | sweep now => exact Or.inl ⟨(List.mem_filter.1 he).1, id⟩

end Cache

end LocalPlay.Arp
