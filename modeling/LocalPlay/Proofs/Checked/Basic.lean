import LocalPlay.Proofs.Bytes
import Mathlib.Algebra.GroupWithZero.Nat

set_option autoImplicit false

/-! # What a machine refuses to do

The readers and writers of this library are total: past the end of a string they see zeros, and
numbers have no limit. A machine is stricter. It stops at an index or a part that is not there, at a
copy between parts of different sizes, at a clamp whose bounds are crossed, and at a number that does
not fit. Here are the same operations with these checks made (`Checked`), and for each of them when
it passes; then it does what its total counterpart does. -/

namespace LocalPlay

/-- Why a machine stops. -/
inductive Fault where
  /-- A byte is read or written that is not there. -/
  | index
  /-- A part is taken that is not there, or that ends before it begins. -/
  | slice
  /-- Something is copied to a part of another size. -/
  | copy
  /-- Something is clamped between a lower and an upper bound that are crossed. -/
  | clamp
  /-- A number does not fit, or would be negative. -/
  | overflow
deriving DecidableEq, Repr

/-- What comes of steps at each of which a machine may stop. -/
abbrev Checked (α : Type) := Except Fault α

namespace Checked

variable {α : Type} {b x : Bytes} {i n start stop : Nat}

/-- The result of a step, if the step is allowed. -/
def allow (a : α) (allowed : Prop) [Decidable allowed] (otherwise : Fault) : Checked α :=
  if allowed then pure a else throw otherwise

theorem allow_eq {allowed : Prop} [Decidable allowed] (ok : allowed) (a : α) (otherwise : Fault) :
    allow a allowed otherwise = pure a :=
  if_pos ok

/-! ## Parts of a string -/

def byte (b : Bytes) (i : Nat) : Checked UInt8 := allow (b.byteAt i) (i < b.length) .index

/-- The part from `start` up to, but without, `stop`. -/
def slice (b : Bytes) (start stop : Nat) : Checked Bytes :=
  allow (b.field start (stop - start)) (start ≤ stop ∧ stop ≤ b.length) .slice

/-- The part from `start` to the end. -/
def rest (b : Bytes) (start : Nat) : Checked Bytes := slice b start b.length

/-- What is to be copied to a part of the given size. -/
def copy (size : Nat) (x : Bytes) : Checked Bytes := allow x (x.length = size) .copy

def setByte (b : Bytes) (i : Nat) (x : UInt8) : Checked Bytes :=
  allow (b.set i x) (i < b.length) .index

/-- The string with `x` in the place of the part from `start` to `stop`. -/
def overwrite (b : Bytes) (start stop : Nat) (x : Bytes) : Checked Bytes := do
  let old ← slice b start stop
  let new ← copy old.length x
  return b.take start ++ new ++ b.drop stop

theorem byte_eq (inside : i < b.length) : byte b i = pure (b.byteAt i) := allow_eq inside ..

theorem slice_eq (forward : start ≤ stop) (inside : stop ≤ b.length) :
    slice b start stop = pure (b.field start (stop - start)) :=
  allow_eq ⟨forward, inside⟩ ..

/-- No part ends before it begins, even if both places are there. -/
example : slice [1, 2, 3] 2 1 = throw .slice := rfl

theorem slice_zero_eq (inside : stop ≤ b.length) : slice b 0 stop = pure (b.take stop) :=
  slice_eq (Nat.zero_le _) inside

theorem slice_add_eq (inside : i + n ≤ b.length) : slice b i (i + n) = pure (b.field i n) := by
  rw [slice_eq (Nat.le_add_right i n) inside, Nat.add_sub_cancel_left]

theorem rest_eq (inside : start ≤ b.length) : rest b start = pure (b.drop start) := by
  have all : b.field start (b.length - start) = b.drop start :=
    List.take_of_length_le (Nat.le_of_eq List.length_drop)
  rw [rest, slice_eq inside (Nat.le_refl _), all]

theorem copy_eq (same : x.length = n) : copy n x = pure x := allow_eq same ..

/-- A part is overwritten with something of its size. -/
theorem overwrite_append {front old new back : Bytes} (first : front.length = start)
    (last : start + old.length = stop) (same : new.length = old.length) :
    overwrite (front ++ old ++ back) start stop new = pure (front ++ new ++ back) := by
  subst first last
  have part : (front ++ old ++ back).field front.length old.length = old := by
    rw [List.append_assoc, Bytes.field_append_of_le (Nat.le_refl _), Nat.sub_self,
      Bytes.field_append_of_length rfl]
  have inside : front.length + old.length ≤ (front ++ old ++ back).length := by
    simp only [List.length_append]
    omega
  have before : (front ++ old ++ back).take front.length = front := by
    rw [List.append_assoc, List.take_left]
  have after : (front ++ old ++ back).drop (front.length + old.length) = back :=
    List.drop_left' List.length_append
  rw [overwrite, slice_add_eq inside, part, pure_bind, copy_eq same, pure_bind, before, after]

/-! ## Numbers -/

/-- How many bits a length has. -/
def lengthBits : Nat := 64

def clamp (n low high : Nat) : Checked Nat := allow (max low (min n high)) (low ≤ high) .clamp

def add (bits m n : Nat) : Checked Nat := allow (m + n) (m + n < 2 ^ bits) .overflow

def sub (m n : Nat) : Checked Nat := allow (m - n) (n ≤ m) .overflow

def mul (bits m n : Nat) : Checked Nat := allow (m * n) (m * n < 2 ^ bits) .overflow

def shiftLeft (x : UInt32) (n : Nat) : Checked UInt32 :=
  allow (x <<< UInt32.ofNat n) (n < 32) .overflow

theorem clamp_eq {low high : Nat} (ordered : low ≤ high) (n : Nat) :
    clamp n low high = pure (max low (min n high)) :=
  allow_eq ordered ..

/-- Bounds that are crossed stop a machine, whatever is to be clamped. -/
example : clamp 24 28 20 = throw .clamp := rfl

theorem add_eq {bits m n : Nat} (fits : m + n < 2 ^ bits) : add bits m n = pure (m + n) :=
  allow_eq fits ..

/-- Two lengths that each leave a bit free can be added. -/
theorem add_length_eq {m n : Nat} (left : m < 2 ^ 63) (right : n < 2 ^ 63) :
    add lengthBits m n = pure (m + n) :=
  add_eq (Nat.add_lt_add left right)

theorem sub_eq {m n : Nat} (ordered : n ≤ m) : sub m n = pure (m - n) := allow_eq ordered ..

theorem mul_eq {bits m n : Nat} (fits : m * n < 2 ^ bits) : mul bits m n = pure (m * n) :=
  allow_eq fits ..

theorem shiftLeft_eq {n : Nat} (fits : n < 32) (x : UInt32) :
    shiftLeft x n = pure (x <<< UInt32.ofNat n) :=
  allow_eq fits ..

/-- A word is not shifted by as many bits as it has. -/
example : shiftLeft 0xFFFFFFFF 32 = throw .overflow := rfl

/-! ## Words and addresses

Words are put together from bytes that are read one by one, or from a copy of all of them; addresses
of the link are copied. -/

def be16 (b : Bytes) (i : Nat) : Checked UInt16 := do
  return UInt16.ofNat (Bytes.toNatBE [← byte b i, ← byte b (i + 1)])

def be32 (b : Bytes) (i : Nat) : Checked UInt32 := do
  return UInt32.ofNat
    (Bytes.toNatBE [← byte b i, ← byte b (i + 1), ← byte b (i + 2), ← byte b (i + 3)])

def ip (b : Bytes) (i : Nat) : Checked IpAddress := do
  return .ofOctets (← byte b i) (← byte b (i + 1)) (← byte b (i + 2)) (← byte b (i + 3))

def mac (b : Bytes) (i : Nat) : Checked MacAddress := do
  let octets ← copy 6 (← slice b i (i + 6))
  return .readAt octets 0

def le16 (b : Bytes) (i : Nat) : Checked UInt16 := do
  return UInt16.ofNat (Bytes.toNatLE [← byte b i, ← byte b (i + 1)])

def le32 (b : Bytes) (i : Nat) : Checked UInt32 := do
  return UInt32.ofNat
    (Bytes.toNatLE [← byte b i, ← byte b (i + 1), ← byte b (i + 2), ← byte b (i + 3)])

/-- A copy of `n` bytes. -/
def block (n : Nat) (b : Bytes) (i : Nat) : Checked (Block n) := do
  let bytes ← copy n (← slice b i (i + n))
  return .ofBytes n bytes

def le32Copy (b : Bytes) (i : Nat) : Checked UInt32 := do
  return UInt32.ofNat (Bytes.toNatLE (← block 4 b i).bytes)

def le64Copy (b : Bytes) (i : Nat) : Checked UInt64 := do
  return UInt64.ofNat (Bytes.toNatLE (← block 8 b i).bytes)

theorem be16_eq (inside : i + 2 ≤ b.length) : be16 b i = pure (b.be16At i) := by
  rw [be16, byte_eq (by omega), byte_eq (by omega), Bytes.be16At, ← Bytes.pair_byteAt inside]
  rfl

theorem le16_eq (inside : i + 2 ≤ b.length) : le16 b i = pure (b.le16At i) := by
  rw [le16, byte_eq (by omega), byte_eq (by omega), Bytes.le16At, ← Bytes.pair_byteAt inside]
  rfl

theorem be32_eq (inside : i + 4 ≤ b.length) : be32 b i = pure (b.be32At i) := by
  rw [be32, byte_eq (by omega), byte_eq (by omega), byte_eq (by omega), byte_eq (by omega),
    Bytes.be32At, Bytes.field_eq_map inside]
  rfl

theorem le32_eq (inside : i + 4 ≤ b.length) : le32 b i = pure (b.le32At i) := by
  rw [le32, byte_eq (by omega), byte_eq (by omega), byte_eq (by omega), byte_eq (by omega),
    Bytes.le32At, Bytes.field_eq_map inside]
  rfl

theorem ip_eq (inside : i + 4 ≤ b.length) : ip b i = pure (.readAt b i) := by
  rw [ip, byte_eq (by omega), byte_eq (by omega), byte_eq (by omega), byte_eq (by omega),
    IpAddress.readAt, Bytes.be32At, Bytes.field_eq_map inside]
  rfl

theorem mac_eq (inside : i + 6 ≤ b.length) : mac b i = pure (.readAt b i) := by
  rw [mac, slice_add_eq inside, pure_bind, copy_eq (Bytes.length_field_of_le inside), pure_bind,
    ← MacAddress.toBytes_readAt inside]
  rfl

theorem block_eq (inside : i + n ≤ b.length) :
    block n b i = pure (.ofBytes n (b.field i n)) := by
  rw [block, slice_add_eq inside, pure_bind, copy_eq (Bytes.length_field_of_le inside), pure_bind]

theorem le32Copy_eq (inside : i + 4 ≤ b.length) : le32Copy b i = pure (b.le32At i) := by
  rw [le32Copy, block_eq inside, pure_bind, Block.bytes_ofBytes_field inside, Bytes.le32At]

theorem le64Copy_eq (inside : i + 8 ≤ b.length) : le64Copy b i = pure (b.le64At i) := by
  rw [le64Copy, block_eq inside, pure_bind, Block.bytes_ofBytes_field inside, Bytes.le64At]

end Checked

end LocalPlay
