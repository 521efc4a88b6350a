set_option autoImplicit false

/-! # Byte strings

Everything on the wire is a list of bytes. This file fixes how numbers are laid out in it: network
formats put the most significant byte first (`ofNatBE`, `toNatBE`), the records of the console's
own protocol put the least significant byte first (`ofNatLE`, `toNatLE`). The functions on words
of a fixed width are instances of these two.

A layout is read at an offset with `byteAt`, `be16At` and the like. They are total: past the end
they see zeros, so a reader that has compared the length first never depends on that. -/

namespace LocalPlay

abbrev Bytes := List UInt8

namespace Bytes

/-! ## Numbers as bytes -/

/-- The `w` low bytes of `n`, least significant first. -/
def ofNatLE : Nat → Nat → Bytes
  | 0, _ => []
  | w + 1, n => UInt8.ofNat (n % 256) :: ofNatLE w (n / 256)

/-- The number whose bytes, least significant first, are given. -/
def toNatLE : Bytes → Nat
  | [] => 0
  | b :: bs => b.toNat + 256 * toNatLE bs

/-- How many numbers `w` bytes can hold. -/
def capacity : Nat → Nat
  | 0 => 1
  | w + 1 => 256 * capacity w

/-- The `w` low bytes of `n`, most significant first. -/
def ofNatBE (w n : Nat) : Bytes := (ofNatLE w n).reverse

/-- The number whose bytes, most significant first, are given. -/
def toNatBE (bs : Bytes) : Nat := toNatLE bs.reverse

@[simp] theorem length_ofNatLE (w n : Nat) : (ofNatLE w n).length = w := by
  induction w generalizing n with
  | zero => rfl
  | succ w ih => simp [ofNatLE, ih]

@[simp] theorem length_ofNatBE (w n : Nat) : (ofNatBE w n).length = w := by
  simp [ofNatBE]

theorem toNatLE_lt (bs : Bytes) : toNatLE bs < capacity bs.length := by
  induction bs with
  | nil => simp [toNatLE, capacity]
  | cons b bs ih =>
    have hb : b.toNat < 256 := b.toNat_lt
    simp only [toNatLE, List.length_cons, capacity]
    omega

/-- Writing a number in `w` bytes and reading it back loses only what does not fit. -/
@[simp] theorem toNatLE_ofNatLE (w n : Nat) : toNatLE (ofNatLE w n) = n % capacity w := by
  induction w generalizing n with
  | zero => simp [ofNatLE, toNatLE, capacity, Nat.mod_one]
  | succ w ih =>
    have h : (UInt8.ofNat (n % 256)).toNat = n % 256 := by
      simp
    rw [ofNatLE, toNatLE, ih, h, capacity, Nat.mod_mul]

@[simp] theorem toNatBE_ofNatBE (w n : Nat) : toNatBE (ofNatBE w n) = n % capacity w := by
  simp [toNatBE, ofNatBE]

/-- Reading bytes as a number and writing it in as many bytes gives them back. -/
theorem ofNatLE_toNatLE (bs : Bytes) : ofNatLE bs.length (toNatLE bs) = bs := by
  induction bs with
  | nil => rfl
  | cons b bs ih =>
    have hb : b.toNat < 256 := b.toNat_lt
    have hmod : (b.toNat + 256 * toNatLE bs) % 256 = b.toNat := by omega
    have hdiv : (b.toNat + 256 * toNatLE bs) / 256 = toNatLE bs := by omega
    simp [ofNatLE, toNatLE, hmod, hdiv, ih]

theorem ofNatBE_toNatBE (bs : Bytes) : ofNatBE bs.length (toNatBE bs) = bs := by
  have h := ofNatLE_toNatLE bs.reverse
  rw [List.length_reverse] at h
  rw [ofNatBE, toNatBE, h, List.reverse_reverse]

/-! ## Words of a fixed width -/

/-- Two bytes, most significant first. -/
def be16 (x : UInt16) : Bytes := ofNatBE 2 x.toNat

/-- Four bytes, most significant first. -/
def be32 (x : UInt32) : Bytes := ofNatBE 4 x.toNat

/-- Two bytes, least significant first. -/
def le16 (x : UInt16) : Bytes := ofNatLE 2 x.toNat

/-- Four bytes, least significant first. -/
def le32 (x : UInt32) : Bytes := ofNatLE 4 x.toNat

/-- Eight bytes, least significant first. -/
def le64 (x : UInt64) : Bytes := ofNatLE 8 x.toNat

@[simp] theorem length_be16 (x : UInt16) : (be16 x).length = 2 := length_ofNatBE 2 _

@[simp] theorem length_be32 (x : UInt32) : (be32 x).length = 4 := length_ofNatBE 4 _

@[simp] theorem length_le16 (x : UInt16) : (le16 x).length = 2 := length_ofNatLE 2 _

@[simp] theorem length_le32 (x : UInt32) : (le32 x).length = 4 := length_ofNatLE 4 _

@[simp] theorem length_le64 (x : UInt64) : (le64 x).length = 8 := length_ofNatLE 8 _

/-! ## Reading at an offset -/

/-- The byte at offset `i`; zero past the end. -/
def byteAt (b : Bytes) (i : Nat) : UInt8 := b.getD i 0

/-- The bytes at offsets `start` up to, but without, `start + count`; fewer at the end. -/
def field (b : Bytes) (start count : Nat) : Bytes := (b.drop start).take count

/-- The word of two bytes at offset `i`, most significant first. -/
def be16At (b : Bytes) (i : Nat) : UInt16 := UInt16.ofNat (toNatBE (b.field i 2))

/-- The word of four bytes at offset `i`, most significant first. -/
def be32At (b : Bytes) (i : Nat) : UInt32 := UInt32.ofNat (toNatBE (b.field i 4))

/-- The word of two bytes at offset `i`, least significant first. -/
def le16At (b : Bytes) (i : Nat) : UInt16 := UInt16.ofNat (toNatLE (b.field i 2))

/-- The word of four bytes at offset `i`, least significant first. -/
def le32At (b : Bytes) (i : Nat) : UInt32 := UInt32.ofNat (toNatLE (b.field i 4))

/-- The word of eight bytes at offset `i`, least significant first. -/
def le64At (b : Bytes) (i : Nat) : UInt64 := UInt64.ofNat (toNatLE (b.field i 8))

/-- A word that was written where it is read. -/
theorem be16At_of_field {b : Bytes} {i : Nat} {x : UInt16} (written : b.field i 2 = be16 x) :
    b.be16At i = x := by
  have fits : x.toNat % capacity 2 = x.toNat := Nat.mod_eq_of_lt x.toNat_lt
  rw [be16At, written, be16, toNatBE_ofNatBE, fits, UInt16.ofNat_toNat]

section Append

variable {b : Bytes} {i : Nat}

/-- What follows a string does not matter to who reads in it. -/
theorem byteAt_append (inside : i < b.length) (rest : Bytes) :
    (b ++ rest).byteAt i = b.byteAt i := by
  simp [byteAt, List.getD_eq_getElem?_getD, List.getElem?_append_left inside]

theorem field_append {count : Nat} (inside : i + count ≤ b.length) (rest : Bytes) :
    (b ++ rest).field i count = b.field i count := by
  have after : count ≤ (b.drop i).length := by
    rw [List.length_drop]
    omega
  rw [field, List.drop_append_of_le_length (by omega), List.take_append_of_le_length after, field]

theorem be16At_append (inside : i + 2 ≤ b.length) (rest : Bytes) :
    (b ++ rest).be16At i = b.be16At i := by
  rw [be16At, field_append inside, be16At]

theorem be32At_append (inside : i + 4 ≤ b.length) (rest : Bytes) :
    (b ++ rest).be32At i = b.be32At i := by
  rw [be32At, field_append inside, be32At]

end Append

/-! ## Cutting and filling -/

/-- A string of `count` zero bytes. -/
def zeros (count : Nat) : Bytes := List.replicate count 0

/-- The first `count` bytes, filled up with zeros. -/
def fit (b : Bytes) (count : Nat) : Bytes := b.take count ++ zeros (count - b.length)

@[simp] theorem length_zeros (count : Nat) : (zeros count).length = count := by
  simp [zeros]

@[simp] theorem length_fit (b : Bytes) (count : Nat) : (b.fit count).length = count := by
  simp only [fit, List.length_append, List.length_take, length_zeros]
  omega

end Bytes

/-! ## Fields of a fixed size -/

/-- A string of exactly `n` bytes, as a record keeps it in a field of that size. -/
structure Block (n : Nat) where
  bytes : Bytes
  /-- There are as many as the field holds. -/
  length_bytes : bytes.length = n
deriving DecidableEq, Repr

namespace Block

/-- The first `n` bytes of `b`, filled up with zeros. -/
def ofBytes (n : Nat) (b : Bytes) : Block n := ⟨b.fit n, b.length_fit n⟩

instance (n : Nat) : Inhabited (Block n) := ⟨ofBytes n []⟩

theorem bytes_ofBytes_of_length {n : Nat} {b : Bytes} (h : b.length = n) :
    (ofBytes n b).bytes = b := by
  subst h
  simp [ofBytes, Bytes.fit, Bytes.zeros]

@[simp] theorem ofBytes_bytes {n : Nat} (f : Block n) : ofBytes n f.bytes = f := by
  cases f with
  | mk b h => simp only [Block.mk.injEq, ofBytes]; exact bytes_ofBytes_of_length h

end Block

end LocalPlay
