import Mathlib.Data.List.Nodup

set_option autoImplicit false

/-! # Lists with keys

The table of hosts and the table of connections are lists in which no key occurs twice, so that a
search by key finds the one element with that key. -/

namespace LocalPlay.KeyedList

variable {α κ : Type} [DecidableEq κ] {key : α → κ} {l : List α} {k : κ} {x : α}

theorem find?_eq_none_iff : (l.find? fun y => key y = k) = none ↔ ∀ y ∈ l, key y ≠ k := by
  simp

theorem mem_of_find? (h : (l.find? fun y => key y = k) = some x) : x ∈ l ∧ key x = k :=
  ⟨List.mem_of_find?_eq_some h, by simpa using List.find?_some h⟩

theorem find?_eq_some_iff (nodup : (l.map key).Nodup) :
    (l.find? fun y => key y = k) = some x ↔ x ∈ l ∧ key x = k := by
  refine ⟨mem_of_find?, ?_⟩
  rintro ⟨hx, rfl⟩
  cases h : l.find? fun y => key y = key x with
  | none => exact absurd rfl (find?_eq_none_iff.1 h x hx)
  | some y =>
    obtain ⟨hy, same⟩ := mem_of_find? h
    rw [List.inj_on_of_nodup_map nodup hy hx same]

omit [DecidableEq κ] in
theorem nodup_map_concat (nodup : (l.map key).Nodup) (new : ∀ y ∈ l, key y ≠ key x) :
    ((l ++ [x]).map key).Nodup := by
  rw [List.map_append, List.map_singleton, List.nodup_append]
  refine ⟨nodup, List.nodup_singleton _, ?_⟩
  intro a ha b hb
  obtain ⟨y, hy, rfl⟩ := List.mem_map.1 ha
  rw [List.mem_singleton.1 hb]
  exact new y hy

/-- Dropping a key drops one element. -/
theorem length_filter_ne (nodup : (l.map key).Nodup) (hx : x ∈ l) :
    (l.filter fun y => key y ≠ key x).length + 1 = l.length := by
  induction l with
  | nil => exact absurd hx List.not_mem_nil
  | cons y l ih =>
    rw [List.map_cons, List.nodup_cons] at nodup
    obtain ⟨new, nodup⟩ := nodup
    rcases List.mem_cons.1 hx with rfl | hx
    · have others : l.filter (fun y => key y ≠ key x) = l := by
        refine List.filter_eq_self.2 fun y hy => decide_eq_true ?_
        exact fun same => new (List.mem_map.2 ⟨y, hy, same⟩)
      rw [List.filter_cons_of_neg (by simp), others, List.length_cons]
    · have ne : key y ≠ key x := fun same => new (List.mem_map.2 ⟨x, hx, same.symm⟩)
      rw [List.filter_cons_of_pos (by simpa using ne), List.length_cons, List.length_cons,
        ih nodup hx]

end LocalPlay.KeyedList
