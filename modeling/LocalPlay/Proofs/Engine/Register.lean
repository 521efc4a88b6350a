import LocalPlay.Proofs.Engine.Book
import LocalPlay.Proofs.Engine.RelayTurns

set_option autoImplicit false

/-! # Connections by their numbers

An engine keeps a connection as long as its relay may have something left to write: first in the
table, then among those that are draining. Numbers are given out once, so a number stands for one
connection. The operations on the table write in the entry of one number, and the others stay as
they are, except that a draining connection whose relay has ended is forgotten. -/

namespace LocalPlay.Engine

variable {e e' : Engine} {c d : Connection} {id : Nat}

/-- The connections that an engine keeps. -/
def kept (e : Engine) : List Connection := e.connections ++ e.draining

/-- A number stands for one connection, and numbers are given out in order. -/
structure Registered (e : Engine) : Prop where
  ids_nodup : (e.kept.map Connection.id).Nodup
  given : ∀ c ∈ e.kept, c.id < e.opened

/-- What can become of a connection while others are dealt with: nothing, or, if its relay has
    ended, it is forgotten. -/
def Fades (o o' : Option Connection) : Prop :=
  o' = o ∨ o' = none ∧ ∀ c, o = some c → c.relay.stage = .ended

namespace Registered

theorem connection?_eq_some_iff (registered : e.Registered) :
    e.connection? id = some c ↔ c ∈ e.kept ∧ c.id = id :=
  KeyedList.find?_eq_some_iff registered.ids_nodup

theorem connection?_eq_none (registered : e.Registered) (new : e.opened ≤ id) :
    e.connection? id = none := by
  refine KeyedList.find?_eq_none_iff.2 fun d hd same => ?_
  exact Nat.not_lt.2 new (same ▸ registered.given d hd)

/-- A connection of the table is not draining. -/
theorem id_ne_of_mem_draining (registered : e.Registered) (isOpen : e.IsOpen id)
    (hd : d ∈ e.draining) : d.id ≠ id := by
  obtain ⟨d', hd', rfl⟩ := isOpen
  have nodup := registered.ids_nodup
  rw [kept, List.map_append, List.nodup_append] at nodup
  exact fun same => nodup.2.2 _ (List.mem_map_of_mem hd') _ (List.mem_map_of_mem hd) same.symm

theorem fades (registered : e.Registered) (registered' : e'.Registered)
    (old : ∀ d ∈ e'.kept, d.id = id → d ∈ e.kept)
    (stays : ∀ d ∈ e.kept, d.id = id → d.relay.stage ≠ .ended → d ∈ e'.kept) :
    Fades (e.connection? id) (e'.connection? id) := by
  cases known' : e'.connection? id with
  | some d =>
    obtain ⟨hd, same⟩ := registered'.connection?_eq_some_iff.1 known'
    exact Or.inl (registered.connection?_eq_some_iff.2 ⟨old d hd same, same⟩).symm
  | none =>
    refine Or.inr ⟨rfl, fun d known => ?_⟩
    obtain ⟨hd, same⟩ := registered.connection?_eq_some_iff.1 known
    by_contra alive
    have known := registered'.connection?_eq_some_iff.2 ⟨stays d hd same alive, same⟩
    rw [known'] at known
    cases known

end Registered

/-! ## Noting -/

theorem mem_substitute {cs : List Connection} :
    d ∈ substitute c cs ↔ d ∈ cs ∧ d.id ≠ c.id ∨ d = c ∧ ∃ d' ∈ cs, d'.id = c.id := by
  rw [substitute, List.mem_map]
  constructor
  · rintro ⟨d', hd', rfl⟩
    by_cases same : d'.id = c.id
    · exact Or.inr ⟨if_pos same, d', hd', same⟩
    · rw [if_neg same]
      exact Or.inl ⟨hd', same⟩
  · rintro (⟨hd, ne⟩ | ⟨rfl, d', hd', same⟩)
    · exact ⟨d, hd, if_neg ne⟩
    · exact ⟨d', hd', if_pos same⟩

theorem kept_update (e : Engine) (c : Connection) : (e.update c).kept = substitute c e.kept :=
  List.map_append.symm

theorem Registered.update (registered : e.Registered) (c : Connection) :
    (e.update c).Registered := by
  have ids : (e.update c).kept.map Connection.id = e.kept.map Connection.id := by
    rw [kept_update, map_substitute fun _ _ same => same]
  refine ⟨ids ▸ registered.ids_nodup, fun d hd => ?_⟩
  obtain ⟨d', hd', same⟩ := List.mem_map.1 (ids ▸ List.mem_map_of_mem hd)
  exact same ▸ registered.given d' hd'

theorem connection?_update_self (registered : e.Registered) (known : e.connection? c.id = some d) :
    (e.update c).connection? c.id = some c := by
  refine (registered.update c).connection?_eq_some_iff.2 ⟨?_, rfl⟩
  rw [kept_update, mem_substitute]
  exact Or.inr ⟨rfl, d, registered.connection?_eq_some_iff.1 known⟩

theorem fades_update (registered : e.Registered) (other : id ≠ c.id) :
    Fades (e.connection? id) ((e.update c).connection? id) := by
  refine registered.fades (registered.update c) ?_ ?_ <;> simp only [kept_update, mem_substitute]
  · rintro d (⟨hd, -⟩ | ⟨rfl, -⟩) same
    · exact hd
    · exact absurd same.symm other
  · exact fun d hd same _ => Or.inl ⟨hd, same ▸ other⟩

/-! ## Taking out of the table -/

theorem kept_retire_of_isOpen (isOpen : e.IsOpen c.id) :
    (e.retire c).kept = (e.connections.filter fun d => d.id ≠ c.id)
      ++ (e.draining.filter fun d => d.relay.stage ≠ .ended) ++ [c.letGo] := by
  have any : e.connections.any (fun d => d.id = c.id) := by simpa [IsOpen] using isOpen
  simp only [retire, if_pos any]
  exact (List.append_assoc ..).symm

theorem opened_retire (e : Engine) (c : Connection) : (e.retire c).opened = e.opened := by
  by_cases isOpen : e.connections.any fun d => d.id = c.id
  · rw [retire, if_pos isOpen]
  · rw [retire, if_neg isOpen]
    rfl

theorem Registered.retire (registered : e.Registered) (c : Connection) :
    (e.retire c).Registered := by
  by_cases isOpen : e.IsOpen c.id
  · have others : ((e.connections.filter fun d => d.id ≠ c.id)
        ++ e.draining.filter fun d => d.relay.stage ≠ .ended).Sublist e.kept :=
      List.filter_sublist.append List.filter_sublist
    constructor <;> rw [kept_retire_of_isOpen isOpen]
    · refine KeyedList.nodup_map_concat (registered.ids_nodup.sublist (others.map _)) ?_
      intro d hd
      rcases List.mem_append.1 hd with hd | hd
      · exact of_decide_eq_true (List.mem_filter.1 hd).2
      · exact registered.id_ne_of_mem_draining isOpen (List.mem_filter.1 hd).1
    · intro d hd
      rw [opened_retire]
      rcases List.mem_append.1 hd with hd | hd
      · exact registered.given d (others.subset hd)
      · obtain ⟨d', hd', same⟩ := isOpen
        rw [List.mem_singleton.1 hd]
        exact same ▸ registered.given d' (List.mem_append_left _ hd')
  · rw [retire_of_not_isOpen isOpen]
    exact registered.update _

theorem connection?_retire_self (registered : e.Registered) (known : e.connection? c.id = some d) :
    (e.retire c).connection? c.id = some c.letGo := by
  by_cases isOpen : e.IsOpen c.id
  · refine (registered.retire c).connection?_eq_some_iff.2 ⟨?_, rfl⟩
    rw [kept_retire_of_isOpen isOpen]
    exact List.mem_append_right _ (List.mem_singleton_self _)
  · rw [retire_of_not_isOpen isOpen]
    exact connection?_update_self (c := c.letGo) registered known

theorem fades_retire (registered : e.Registered) (other : id ≠ c.id) :
    Fades (e.connection? id) ((e.retire c).connection? id) := by
  by_cases isOpen : e.IsOpen c.id
  · have mem (d : Connection) : d ∈ (e.retire c).kept ↔ (d ∈ e.connections ∧ d.id ≠ c.id ∨
        d ∈ e.draining ∧ d.relay.stage ≠ .ended) ∨ d = c.letGo := by
      simp [kept_retire_of_isOpen isOpen, or_assoc]
    refine registered.fades (registered.retire c) ?_ ?_ <;> intro d hd same
    · rcases (mem d).1 hd with (⟨hd, -⟩ | ⟨hd, -⟩) | rfl
      · exact List.mem_append_left _ hd
      · exact List.mem_append_right _ hd
      · exact absurd same.symm other
    · intro alive
      rcases List.mem_append.1 hd with hd | hd
      · exact (mem d).2 (Or.inl (Or.inl ⟨hd, same ▸ other⟩))
      · exact (mem d).2 (Or.inl (Or.inr ⟨hd, alive⟩))
  · rw [retire_of_not_isOpen isOpen]
    exact fades_update (c := c.letGo) registered other

/-! ## Settling -/

/-- The connection as it is settled: one that is over lets its relay go. -/
def Connection.settled (c : Connection) : Connection := if c.session.isClosed then c.letGo else c

theorem Connection.Turns.settled {data output : Bytes} {c' : Connection}
    (turns : c.Turns data output c') : c.Turns data output c'.settled := by
  unfold Connection.settled
  split
  · next closed =>
    have released := turns.step (.letsGo (eq_of_beq closed))
    rwa [List.append_nil, List.append_nil] at released
  · exact turns

theorem opened_settle (e : Engine) (c : Connection) : (e.settle c).opened = e.opened := by
  unfold settle
  split
  · exact opened_retire e c
  · rfl

theorem Registered.settle (registered : e.Registered) (c : Connection) :
    (e.settle c).Registered := by
  unfold Engine.settle
  split
  · exact registered.retire c
  · exact registered.update c

theorem connection?_settle_self (registered : e.Registered) (known : e.connection? c.id = some d) :
    (e.settle c).connection? c.id = some c.settled := by
  unfold settle Connection.settled
  split
  · exact connection?_retire_self registered known
  · exact connection?_update_self registered known

/-- Settling a connection that the engine does not keep changes nothing. -/
theorem kept_settle_of_unknown (unknown : e.connection? c.id = none) :
    (e.settle c).kept = e.kept := by
  have absent := KeyedList.find?_eq_none_iff.1 unknown
  have past : ¬ e.IsOpen c.id := not_isOpen_iff.2 fun d hd => absent d (List.mem_append_left _ hd)
  have noted (c' : Connection) (same : c'.id = c.id) : (e.update c').kept = e.kept := by
    rw [kept_update, substitute_eq_self (same ▸ absent)]
  unfold settle
  split
  · rw [retire_of_not_isOpen past]
    exact noted c.letGo rfl
  · exact noted c rfl

theorem fades_settle (registered : e.Registered) (other : id ≠ c.id) :
    Fades (e.connection? id) ((e.settle c).connection? id) := by
  unfold settle
  split
  · exact fades_retire registered other
  · exact fades_update registered other

/-! ## Opening -/

theorem perm_kept_openConnection (e : Engine) (flow : Tcp.Flow) (clientMac : MacAddress) :
    (e.openConnection flow clientMac).1.kept.Perm
      (e.kept ++ [(e.openConnection flow clientMac).2]) := by
  refine .trans (.of_eq (List.append_assoc ..)) ?_
  exact List.perm_middle.trans (List.perm_append_singleton _ _).symm

section Opening

variable (registered : e.Registered) (flow : Tcp.Flow) (clientMac : MacAddress)
include registered

theorem Registered.openConnection : (e.openConnection flow clientMac).1.Registered := by
  have order := perm_kept_openConnection e flow clientMac
  constructor
  · refine (order.map Connection.id).nodup_iff.2 ?_
    refine KeyedList.nodup_map_concat registered.ids_nodup fun d hd => ?_
    exact Nat.ne_of_lt (registered.given d hd)
  · intro d hd
    rcases List.mem_append.1 (order.mem_iff.1 hd) with hd | hd
    · exact Nat.lt_succ_of_lt (registered.given d hd)
    · rw [List.mem_singleton.1 hd]
      exact Nat.lt_succ_self _

theorem connection?_openConnection_self :
    (e.openConnection flow clientMac).1.connection? e.opened
      = some (e.openConnection flow clientMac).2 := by
  refine (registered.openConnection flow clientMac).connection?_eq_some_iff.2 ⟨?_, rfl⟩
  rw [(perm_kept_openConnection e flow clientMac).mem_iff]
  exact List.mem_append_right _ (List.mem_singleton_self _)

theorem fades_openConnection (other : id ≠ e.opened) :
    Fades (e.connection? id) ((e.openConnection flow clientMac).1.connection? id) := by
  have order := perm_kept_openConnection e flow clientMac
  refine registered.fades (registered.openConnection flow clientMac) ?_ ?_ <;> intro d hd same
  · rcases List.mem_append.1 (order.mem_iff.1 hd) with hd | hd
    · exact hd
    · rw [List.mem_singleton.1 hd] at same
      exact absurd same.symm other
  · exact fun _ => order.mem_iff.2 (List.mem_append_left _ hd)

end Opening

end LocalPlay.Engine
