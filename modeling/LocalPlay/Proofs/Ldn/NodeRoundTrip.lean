import LocalPlay.Ldn.Node
import LocalPlay.Proofs.Bytes

set_option autoImplicit false

/-! # Records of nodes

A format of records of a fixed size has bytes that mean nothing; `Normalizes` says what becomes of
them, and of all other bytes, when a record is read and written again.

Every node is read back from its record (`Node.parse_toBytes`). In the other direction a record that
was read is written as it was, but for the bytes that mean nothing, which become zero, and the flag,
which becomes zero or one (`Node.toBytes_readAt`). -/

namespace LocalPlay.Ldn

/-- What a format makes of records that it did not write: a record of at least `size` bytes is read,
    writing it again gives `rewritten`, doing so twice changes nothing more, and what is read does
    not depend on reserved bytes or on what follows the record. -/
structure Normalizes {α : Type} (parse : Bytes → Except Malformed α) (toBytes : α → Bytes)
    (size : Nat) (Reserved : Nat → Prop) (rewritten : Bytes → Bytes) : Prop where
  rewrites : ∀ b : Bytes, size ≤ b.length → (parse b).map toBytes = .ok (rewritten b)
  settles : ∀ b : Bytes, size ≤ b.length → (parse (rewritten b)).map toBytes = .ok (rewritten b)
  ignores : ∀ b b' : Bytes, size ≤ b.length → size ≤ b'.length →
    (∀ i < size, ¬ Reserved i → b.byteAt i = b'.byteAt i) → parse b = parse b'

namespace Node

/-! ## Reading what was written -/

/-- A node is read where its record stands. -/
theorem readAt_of_carries {b : Bytes} {i : Nat} {n : Node} (there : b.Carries i n.toBytes) :
    readAt b i = n := by
  simp only [toBytes, Bytes.carries_append_iff, List.length_append, Bytes.length_le32,
    MacAddress.length_toBytes, List.length_cons, List.length_nil, Block.length_bytes,
    Bytes.length_le16, Nat.zero_add, nameSize, Nat.reduceAdd] at there
  obtain ⟨⟨⟨⟨⟨⟨ip, mac⟩, pair⟩, name⟩, -⟩, version⟩, -⟩ := there
  have id : b.byteAt (i + 10) = n.id := pair.byteAt_eq (j := 0) Nat.two_pos
  have connected : (b.byteAt (i + 11) != 0) = n.connected := by
    have flag : b.byteAt (i + 11) = if n.connected then 1 else 0 :=
      pair.byteAt_eq (j := 1) Nat.one_lt_two
    rw [flag]
    cases n.connected <;> rfl
  have field : Block.ofBytes nameSize (b.field (i + 12) nameSize) = n.userNameField :=
    Block.ofBytes_of_carries name
  rw [readAt, Bytes.le32At_of_field ip, MacAddress.readAt_of_carries mac, id, connected, field,
    Bytes.le16At_of_field version]

theorem parse_of_le {b : Bytes} (long : size ≤ b.length) : parse b = .ok (readAt b 0) :=
  if_neg (Nat.not_lt.2 long)

/-- Every node is read back from its record. -/
theorem parse_toBytes (n : Node) : parse n.toBytes = .ok n := by
  rw [parse_of_le (Nat.le_of_eq n.length_toBytes.symm), readAt_of_carries (Bytes.carries_self _)]

theorem toBytes_injective {m n : Node} (same : m.toBytes = n.toBytes) : m = n := by
  rw [← readAt_of_carries (Bytes.carries_self m.toBytes), same,
    readAt_of_carries (Bytes.carries_self n.toBytes)]

/-! ## Writing what was read -/

/-- The bytes of a record that mean nothing. -/
def Reserved (i : Nat) : Prop := i = 45 ∨ 48 ≤ i

instance : DecidablePred Reserved := fun _ => inferInstanceAs (Decidable (_ ∨ _))

/-- What is written for the byte `x` at offset `i` of a record. -/
def keptByte (i : Nat) (x : UInt8) : UInt8 :=
  if Reserved i then 0 else if i = 11 then (if x != 0 then 1 else 0) else x

/-- The record at offset `i`, as it is written when it was read. -/
def rewritten (b : Bytes) (i : Nat) : Bytes :=
  Bytes.tabulate size fun j => keptByte j (b.byteAt (i + j))

theorem toBytes_readAt {b : Bytes} {i : Nat} (inside : i + size ≤ b.length) :
    (readAt b i).toBytes = rewritten b i := by
  have within : i + 64 ≤ b.length := inside
  have kept {k n : Nat} {x : Bytes} (same : i + k + n ≤ b.length → x = b.field (i + k) n)
      (fits : k + n ≤ 64) (plain : ∀ j < n, ¬ Reserved (k + j) ∧ k + j ≠ 11) :
      (rewritten b i).Carries k x := by
    rw [same (by omega)]
    refine Bytes.carries_tabulate_field (by omega) fits fun j hj => ?_
    rw [keptByte, if_neg (plain j hj).1, if_neg (plain j hj).2, Nat.add_assoc]
  have unused {k n : Nat} (fits : k + n ≤ 64) (reserved : ∀ j < n, Reserved (k + j)) :
      (rewritten b i).Carries k (Bytes.zeros n) :=
    Bytes.carries_tabulate_zeros fits fun j hj => if_pos (reserved j hj)
  have pair : (rewritten b i).Carries 10
      [b.byteAt (i + 10), if (b.byteAt (i + 11) != 0) then 1 else 0] := by
    refine Bytes.carries_tabulate (x := [_, _]) (Nat.le_add_left 12 52) fun j hj => ?_
    match j, hj with
    | 0, _ => rfl
    | 1, _ => rfl
  refine Bytes.eq_of_carries ?_ ?_
  · simp only [toBytes, Bytes.carries_append_iff, List.length_append, Bytes.length_le32,
      MacAddress.length_toBytes, List.length_cons, List.length_nil, Block.length_bytes,
      Bytes.length_le16, Nat.zero_add, nameSize, Nat.reduceAdd]
    refine ⟨⟨⟨⟨⟨⟨?ip, ?mac⟩, pair⟩, ?name⟩, unused (n := 1) (by decide) (by decide)⟩, ?version⟩,
      unused (by decide) (by decide)⟩
    case ip => exact kept (k := 0) Bytes.le32_le32At (by decide) (by decide)
    case mac => exact kept MacAddress.toBytes_readAt (by decide) (by decide)
    case name => exact kept Block.bytes_ofBytes_field (by decide) (by decide)
    case version => exact kept Bytes.le16_le16At (by decide) (by decide)
  · rw [length_toBytes, rewritten, Bytes.length_tabulate]

theorem keptByte_congr {i : Nat} {x y : UInt8} (same : ¬ Reserved i → x = y) :
    keptByte i x = keptByte i y := by
  by_cases reserved : Reserved i
  · rw [keptByte, if_pos reserved, keptByte, if_pos reserved]
  · rw [same reserved]

/-- What is read does not depend on bytes that mean nothing. -/
theorem readAt_congr {b b' : Bytes} {i i' : Nat} (inside : i + size ≤ b.length)
    (inside' : i' + size ≤ b'.length)
    (same : ∀ j < size, ¬ Reserved j → b.byteAt (i + j) = b'.byteAt (i' + j)) :
    readAt b i = readAt b' i' := by
  have alike : rewritten b i = rewritten b' i' :=
    Bytes.tabulate_congr fun j hj => keptByte_congr (same j hj)
  refine toBytes_injective ?_
  rw [toBytes_readAt inside, toBytes_readAt inside', alike]

theorem normalizes : Normalizes parse toBytes size Reserved (rewritten · 0) where
  rewrites b long := by
    rw [parse_of_le long]
    exact congrArg Except.ok (toBytes_readAt (by rwa [Nat.zero_add]))
  settles b long := by
    rw [← toBytes_readAt (by rwa [Nat.zero_add]), parse_toBytes]
    rfl
  ignores b b' long long' same := by
    rw [parse_of_le long, parse_of_le long']
    refine congrArg Except.ok (readAt_congr (by rwa [Nat.zero_add]) (by rwa [Nat.zero_add]) ?_)
    simpa only [Nat.zero_add] using same

end Node

end LocalPlay.Ldn
