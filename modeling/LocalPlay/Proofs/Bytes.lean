import LocalPlay.Address.Ip
import LocalPlay.Address.Mac

set_option autoImplicit false

/-! # Reading and writing at an offset

Fields of a record stand one behind the other, so a field is found at the length of what stands in
front of it (`field_append_of_le`, `field_append_of_length`). Words go round in both directions:
one that was written where it is read comes back (`be32At_of_field` and its like), and writing one
that was read gives the bytes it was read from (`be16_be16At` and its like). -/

namespace LocalPlay

namespace Bytes

variable {a b : Bytes} {i n : Nat}

/-! ## Fields -/

theorem length_field_of_le (inside : i + n ≤ b.length) : (b.field i n).length = n := by
  rw [field, List.length_take, List.length_drop]
  omega

theorem zeros_append_zeros (m n : Nat) : zeros m ++ zeros n = zeros (m + n) :=
  List.replicate_append_replicate

/-- Two fields that stand side by side are one. -/
theorem field_append_field (b : Bytes) (i m n : Nat) :
    b.field i m ++ b.field (i + m) n = b.field i (m + n) := by
  rw [field, field, field, List.take_add, List.drop_drop]

/-- A string is what stands in front of a field, the field, and what follows. -/
theorem take_append_field_append_drop (b : Bytes) (i n : Nat) :
    b.take i ++ b.field i n ++ b.drop (i + n) = b := by
  rw [field, List.append_assoc, ← List.drop_drop, List.take_append_drop, List.take_append_drop]

/-- A field behind the first part of a string is a field of the second part. -/
theorem field_append_of_le (behind : a.length ≤ i) (b : Bytes) (n : Nat) :
    (a ++ b).field i n = b.field (i - a.length) n := by
  rw [field, List.drop_append, List.drop_eq_nil_of_le behind, List.nil_append, field]

/-- The first part of a string is its first field. -/
theorem field_append_of_length (whole : a.length = n) (b : Bytes) : (a ++ b).field 0 n = a := by
  rw [field, List.drop_zero, List.take_left' whole]

/-- The bytes of a field, one by one. -/
theorem field_eq_map (inside : i + n ≤ b.length) :
    b.field i n = (List.range' i n).map b.byteAt := by
  refine List.ext_getElem (by rw [length_field_of_le inside]; simp) fun j hj hj' => ?_
  rw [length_field_of_le inside] at hj
  have there : i + j < b.length := by omega
  simp [field, byteAt, there]

theorem byteAt_field {j : Nat} (inside : j < n) (b : Bytes) (i : Nat) :
    (b.field i n).byteAt j = b.byteAt (i + j) := by
  simp [field, byteAt, List.getD_eq_getElem?_getD, inside]

/-- Two strings of the same length are the same if their bytes are. -/
theorem ext_byteAt (length : a.length = b.length)
    (each : ∀ j < a.length, a.byteAt j = b.byteAt j) : a = b := by
  refine List.ext_getElem length fun j hj hj' => ?_
  simpa [byteAt, hj, hj'] using each j hj

theorem byteAt_set_self (inside : i < b.length) (x : UInt8) : byteAt (b.set i x) i = x := by
  simp [byteAt, inside]

theorem byteAt_set_of_ne {j : Nat} (ne : i ≠ j) (b : Bytes) (x : UInt8) :
    byteAt (b.set i x) j = b.byteAt j := by
  simp [byteAt, List.getD_eq_getElem?_getD, ne]

theorem field_congr {c : Bytes} (inside : i + n ≤ b.length) (inside' : i + n ≤ c.length)
    (same : ∀ j < n, b.byteAt (i + j) = c.byteAt (i + j)) : b.field i n = c.field i n := by
  have length := length_field_of_le inside
  refine ext_byteAt (by rw [length, length_field_of_le inside']) fun j hj => ?_
  rw [length] at hj
  rw [byteAt_field hj, byteAt_field hj, same j hj]

/-! ## Words that were written -/

theorem be16_zero : be16 0 = [0, 0] := rfl

theorem be16_injective {x y : UInt16} (same : be16 x = be16 y) : x = y := by
  have read (z : UInt16) : (be16 z).be16At 0 = z := be16At_of_field rfl
  rw [← read x, same, read y]

/-- A number that was written where it is read comes back but for what does not fit. -/
theorem be16At_of_field_ofNat {x : Nat} (written : b.field i 2 = ofNatBE 2 x) :
    b.be16At i = UInt16.ofNat x := by
  rw [be16At, written, toNatBE_ofNatBE]
  exact UInt16.ofNat_mod_size

theorem be32At_of_field {x : UInt32} (written : b.field i 4 = be32 x) : b.be32At i = x := by
  have fits : x.toNat % capacity 4 = x.toNat := Nat.mod_eq_of_lt x.toNat_lt
  rw [be32At, written, be32, toNatBE_ofNatBE, fits, UInt32.ofNat_toNat]

theorem le16At_of_field {x : UInt16} (written : b.field i 2 = le16 x) : b.le16At i = x := by
  have fits : x.toNat % capacity 2 = x.toNat := Nat.mod_eq_of_lt x.toNat_lt
  rw [le16At, written, le16, toNatLE_ofNatLE, fits, UInt16.ofNat_toNat]

theorem le32At_of_field {x : UInt32} (written : b.field i 4 = le32 x) : b.le32At i = x := by
  have fits : x.toNat % capacity 4 = x.toNat := Nat.mod_eq_of_lt x.toNat_lt
  rw [le32At, written, le32, toNatLE_ofNatLE, fits, UInt32.ofNat_toNat]

theorem le64At_of_field {x : UInt64} (written : b.field i 8 = le64 x) : b.le64At i = x := by
  have fits : x.toNat % capacity 8 = x.toNat := Nat.mod_eq_of_lt x.toNat_lt
  rw [le64At, written, le64, toNatLE_ofNatLE, fits, UInt64.ofNat_toNat]

/-! ## Words that were read -/

theorem toNatBE_lt (b : Bytes) : toNatBE b < capacity b.length := by
  have bound := toNatLE_lt b.reverse
  rwa [List.length_reverse] at bound

theorem toNatLE_field_lt (inside : i + n ≤ b.length) : toNatLE (b.field i n) < capacity n := by
  have bound := toNatLE_lt (b.field i n)
  rwa [length_field_of_le inside] at bound

theorem toNatBE_field_lt (inside : i + n ≤ b.length) : toNatBE (b.field i n) < capacity n := by
  have bound := toNatBE_lt (b.field i n)
  rwa [length_field_of_le inside] at bound

theorem ofNatLE_toNatLE_field (inside : i + n ≤ b.length) :
    ofNatLE n (toNatLE (b.field i n)) = b.field i n := by
  have same := ofNatLE_toNatLE (b.field i n)
  rwa [length_field_of_le inside] at same

theorem ofNatBE_toNatBE_field (inside : i + n ≤ b.length) :
    ofNatBE n (toNatBE (b.field i n)) = b.field i n := by
  have same := ofNatBE_toNatBE (b.field i n)
  rwa [length_field_of_le inside] at same

theorem be16_be16At (inside : i + 2 ≤ b.length) : be16 (b.be16At i) = b.field i 2 := by
  rw [be16, be16At, UInt16.toNat_ofNat_of_lt' (toNatBE_field_lt inside),
    ofNatBE_toNatBE_field inside]

theorem be32_be32At (inside : i + 4 ≤ b.length) : be32 (b.be32At i) = b.field i 4 := by
  rw [be32, be32At, UInt32.toNat_ofNat_of_lt' (toNatBE_field_lt inside),
    ofNatBE_toNatBE_field inside]

theorem le16_le16At (inside : i + 2 ≤ b.length) : le16 (b.le16At i) = b.field i 2 := by
  rw [le16, le16At, UInt16.toNat_ofNat_of_lt' (toNatLE_field_lt inside),
    ofNatLE_toNatLE_field inside]

theorem le32_le32At (inside : i + 4 ≤ b.length) : le32 (b.le32At i) = b.field i 4 := by
  rw [le32, le32At, UInt32.toNat_ofNat_of_lt' (toNatLE_field_lt inside),
    ofNatLE_toNatLE_field inside]

theorem le64_le64At (inside : i + 8 ≤ b.length) : le64 (b.le64At i) = b.field i 8 := by
  rw [le64, le64At, UInt64.toNat_ofNat_of_lt' (toNatLE_field_lt inside),
    ofNatLE_toNatLE_field inside]

theorem singleton_byteAt (inside : i + 1 ≤ b.length) : [b.byteAt i] = b.field i 1 :=
  (field_eq_map inside).symm

theorem pair_byteAt (inside : i + 2 ≤ b.length) :
    [b.byteAt i, b.byteAt (i + 1)] = b.field i 2 :=
  (field_eq_map inside).symm

/-! ## What stands where -/

/-- The string `x` stands in `b` at offset `i`. -/
def Carries (b : Bytes) (i : Nat) (x : Bytes) : Prop := b.field i x.length = x

theorem carries_self (b : Bytes) : b.Carries 0 b := List.take_length

theorem carries_of_eq_field {x : Bytes} (same : x = b.field i n) (length : x.length = n) :
    b.Carries i x := by
  rw [Carries, length, same]

/-- A string in two parts stands where its parts stand, one behind the other. -/
theorem carries_append_iff {x y : Bytes} :
    b.Carries i (x ++ y) ↔ b.Carries i x ∧ b.Carries (i + x.length) y := by
  simp only [Carries, List.length_append, ← field_append_field]
  constructor
  · intro both
    have first : (b.field i x.length).length = x.length := by
      have length := congrArg List.length both
      simp only [field, List.length_append, List.length_take, List.length_drop] at length ⊢
      omega
    exact List.append_inj both first
  · rintro ⟨first, second⟩
    rw [first, second]

theorem Carries.byteAt_eq {x : Bytes} (there : b.Carries i x) {j : Nat} (inside : j < x.length) :
    b.byteAt (i + j) = x.byteAt j := by
  rw [← byteAt_field inside, there]

/-- A string stands where its bytes stand. -/
theorem carries_of_byteAt_eq {x : Bytes} (inside : i + x.length ≤ b.length)
    (each : ∀ j < x.length, b.byteAt (i + j) = x.byteAt j) : b.Carries i x := by
  refine ext_byteAt (length_field_of_le inside) fun j hj => ?_
  rw [length_field_of_le inside] at hj
  rw [byteAt_field hj, each j hj]

theorem eq_of_carries {x : Bytes} (there : b.Carries 0 x) (length : b.length = x.length) :
    x = b := by
  rw [← there, ← length]
  exact List.take_length

/-- Strings of the same size stand one behind the other if each stands where it should. -/
theorem carries_flatMap_iff {α : Type} {f : α → Bytes} {size : Nat} (even : ∀ x, (f x).length = size)
    (xs : List α) : b.Carries i (xs.flatMap f) ↔
      ∀ k (h : k < xs.length), b.Carries (i + k * size) (f xs[k]) := by
  induction xs generalizing i with
  | nil => simp [Carries, field]
  | cons x xs ih =>
    have next (k : Nat) : i + size + k * size = i + (k + 1) * size := by
      rw [Nat.succ_mul, Nat.add_comm (k * size), Nat.add_assoc]
    rw [List.flatMap_cons, carries_append_iff, even, ih]
    constructor
    · rintro ⟨first, rest⟩ k h
      cases k with
      | zero => simpa using first
      | succ k =>
        rw [← next]
        exact rest k (Nat.lt_of_succ_lt_succ h)
    · intro each
      refine ⟨by simpa using each 0 (Nat.succ_pos _), fun k h => ?_⟩
      rw [next]
      exact each (k + 1) (Nat.succ_lt_succ h)

/-! ## Strings given byte by byte -/

/-- The string of the given size whose bytes are given. -/
def tabulate (size : Nat) (f : Nat → UInt8) : Bytes := (List.range size).map f

section Tabulate

variable {size k : Nat} {f : Nat → UInt8}

@[simp] theorem length_tabulate (size : Nat) (f : Nat → UInt8) :
    (tabulate size f).length = size := by
  simp [tabulate]

theorem byteAt_tabulate (inside : k < size) (f : Nat → UInt8) :
    (tabulate size f).byteAt k = f k := by
  simp [tabulate, byteAt, inside]

theorem tabulate_congr {g : Nat → UInt8} (same : ∀ j < size, f j = g j) :
    tabulate size f = tabulate size g :=
  List.map_congr_left fun j hj => same j (List.mem_range.1 hj)

/-- A string stands where its bytes are given. -/
theorem carries_tabulate {x : Bytes} (fits : k + x.length ≤ size)
    (each : ∀ j < x.length, f (k + j) = x.byteAt j) : (tabulate size f).Carries k x := by
  refine carries_of_byteAt_eq (by rwa [length_tabulate]) fun j hj => ?_
  rw [byteAt_tabulate (by omega), each j hj]

theorem carries_tabulate_field (inside : i + n ≤ b.length) (fits : k + n ≤ size)
    (same : ∀ j < n, f (k + j) = b.byteAt (i + j)) :
    (tabulate size f).Carries k (b.field i n) := by
  have length := length_field_of_le inside
  refine carries_tabulate (by rwa [length]) fun j hj => ?_
  rw [length] at hj
  rw [same j hj, byteAt_field hj]

theorem carries_tabulate_zeros (fits : k + n ≤ size) (zero : ∀ j < n, f (k + j) = 0) :
    (tabulate size f).Carries k (zeros n) := by
  refine carries_tabulate (by rwa [length_zeros]) fun j hj => ?_
  rw [length_zeros] at hj
  simp [zero j hj, byteAt, zeros, hj]

end Tabulate

end Bytes

namespace MacAddress

theorem toBytes_readAt {b : Bytes} {i : Nat} (inside : i + 6 ≤ b.length) :
    (readAt b i).toBytes = b.field i 6 := by
  rw [Bytes.field_eq_map inside]
  rfl

theorem readAt_of_carries {b : Bytes} {i : Nat} {m : MacAddress} (there : b.Carries i m.toBytes) :
    readAt b i = m := by
  have octet {j : Nat} (inside : j < 6) : b.byteAt (i + j) = m.toBytes.byteAt j :=
    there.byteAt_eq inside
  have first : b.byteAt i = m.o₁ := octet (j := 0) (by decide)
  simp (disch := decide) only [readAt, first, octet]
  rfl

end MacAddress

namespace IpAddress

theorem toBytes_readAt {b : Bytes} {i : Nat} (inside : i + 4 ≤ b.length) :
    (readAt b i).toBytes = b.field i 4 := Bytes.be32_be32At inside

end IpAddress

namespace Block

/-- A block that stands where it is read comes back. -/
theorem ofBytes_of_carries {b : Bytes} {i n : Nat} {x : Block n} (there : b.Carries i x.bytes) :
    ofBytes n (b.field i n) = x := by
  have read : b.field i x.bytes.length = x.bytes := there
  rw [x.length_bytes] at read
  rw [read, ofBytes_bytes]

theorem bytes_ofBytes_field {b : Bytes} {i n : Nat} (inside : i + n ≤ b.length) :
    (ofBytes n (b.field i n)).bytes = b.field i n :=
  bytes_ofBytes_of_length (Bytes.length_field_of_le inside)

end Block

end LocalPlay
