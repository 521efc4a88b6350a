import LocalPlay.Proofs.Bytes
import LocalPlay.Proofs.Internet.Checksum
import Mathlib.Algebra.BigOperators.Group.Finset.Basic

set_option autoImplicit false

/-! # Damage that the checksum does not show

A message verifies if its words add up to a positive multiple of 65535. Words are below 65536, so
changing one of them keeps that multiple only if it turns zero into all ones or the other way round
(`Swapped`). The sum stays positive then, unless nothing but zeros is left. Two bytes must change for
that, so a message with one byte changed, let alone one bit, never verifies. -/

namespace LocalPlay.Internet

/-! ## The words of a message -/

/-- The 16-bit word at place `k` of a message, high byte first; bytes past the end count as zero. -/
def wordAt (message : Bytes) (k : Nat) : Nat :=
  256 * (message.byteAt (2 * k)).toNat + (message.byteAt (2 * k + 1)).toNat

theorem wordAt_lt (message : Bytes) (k : Nat) : wordAt message k < 65536 := by
  have high := (message.byteAt (2 * k)).toNat_lt
  have low := (message.byteAt (2 * k + 1)).toNat_lt
  rw [wordAt]
  omega

theorem wordAt_of_le {message : Bytes} {k : Nat} (past : message.length ≤ 2 * k) :
    wordAt message k = 0 := by
  have zero {i : Nat} (h : message.length ≤ i) : message.byteAt i = 0 := by
    simp [Bytes.byteAt, h]
  rw [wordAt, zero past, zero (Nat.le_succ_of_le past)]
  rfl

theorem wordAt_cons_cons_zero (a b : UInt8) (rest : Bytes) :
    wordAt (a :: b :: rest) 0 = 256 * a.toNat + b.toNat := rfl

theorem wordAt_cons_cons_succ (a b : UInt8) (rest : Bytes) (k : Nat) :
    wordAt (a :: b :: rest) (k + 1) = wordAt rest k := rfl

/-- The sum of the words, one by one. -/
theorem wordSum_eq_sum {message : Bytes} {n : Nat} (covers : message.length ≤ 2 * n) :
    wordSum message = ∑ k ∈ Finset.range n, wordAt message k := by
  fun_induction wordSum message generalizing n with
  | case1 => exact (Finset.sum_eq_zero fun k _ => wordAt_of_le (Nat.zero_le _)).symm
  | case2 b =>
    obtain ⟨n, rfl⟩ := Nat.exists_eq_add_one.2 (show 0 < n by simp at covers; omega)
    have others : ∑ k ∈ Finset.range n, wordAt [b] (k + 1) = 0 :=
      Finset.sum_eq_zero fun k _ => wordAt_of_le (by simp; omega)
    rw [Finset.sum_range_succ', others, Nat.zero_add]
    rfl
  | case3 a b rest ih =>
    simp only [List.length_cons] at covers
    obtain ⟨n, rfl⟩ := Nat.exists_eq_add_one.2 (show 0 < n by omega)
    simp only [Finset.sum_range_succ', wordAt_cons_cons_zero, wordAt_cons_cons_succ]
    rw [ih (n := n) (by omega), Nat.add_comm]

/-- Words add up to zero only if there is nothing but zeros. -/
theorem wordSum_pos_iff (message : Bytes) : 0 < wordSum message ↔ ∃ b ∈ message, b ≠ 0 := by
  have byte (b : UInt8) : b ≠ 0 ↔ 0 < b.toNat := by
    rw [Nat.pos_iff_ne_zero, ne_eq, ne_eq, ← UInt8.toNat_inj, UInt8.toNat_zero]
  fun_induction wordSum message with
  | case1 => simp
  | case2 b =>
    simp only [List.mem_singleton, exists_eq_left, byte]
    omega
  | case3 a b rest ih =>
    have tail : 0 < wordSum rest ↔ ∃ b ∈ rest, b ≠ 0 := ih
    rw [List.exists_mem_cons_iff, List.exists_mem_cons_iff, ← tail, byte, byte]
    omega

/-! ## One word changed -/

/-- Two messages of one length that differ in the word at place `k` and in no other. -/
structure DifferAt (k : Nat) (message damaged : Bytes) : Prop where
  length : damaged.length = message.length
  differ : wordAt damaged k ≠ wordAt message k
  same : ∀ j, j ≠ k → wordAt damaged j = wordAt message j

/-- All zeros were turned into all ones, or all ones into all zeros. -/
def Swapped (before after : Nat) : Prop :=
  before = 0x0000 ∧ after = 0xFFFF ∨ before = 0xFFFF ∧ after = 0x0000

instance (before after : Nat) : Decidable (Swapped before after) :=
  inferInstanceAs (Decidable (_ ∨ _))

section OneWord

variable {k : Nat} {message damaged : Bytes}

/-- Past the end there is nothing to compare. -/
theorem differAt_iff : DifferAt k message damaged ↔ damaged.length = message.length ∧
    wordAt damaged k ≠ wordAt message k ∧
    ∀ j < message.length, j ≠ k → wordAt damaged j = wordAt message j := by
  constructor
  · rintro ⟨length, differ, same⟩
    exact ⟨length, differ, fun j _ => same j⟩
  · rintro ⟨length, differ, same⟩
    refine ⟨length, differ, fun j apart => ?_⟩
    by_cases inside : j < message.length
    · exact same j inside apart
    · have past : wordAt message j = 0 := wordAt_of_le (by omega)
      have past' : wordAt damaged j = 0 := wordAt_of_le (by omega)
      rw [past, past']

instance : Decidable (DifferAt k message damaged) := decidable_of_iff _ differAt_iff.symm

theorem DifferAt.lt_length (differ : DifferAt k message damaged) : 2 * k < message.length := by
  by_contra past
  have none : wordAt message k = 0 := wordAt_of_le (Nat.le_of_not_lt past)
  have none' : wordAt damaged k = 0 :=
    wordAt_of_le (Nat.le_of_not_lt (by rwa [differ.length]))
  exact differ.differ (none'.trans none.symm)

/-- The sums differ by what the word at that place does. -/
theorem DifferAt.wordSum_add (differ : DifferAt k message damaged) :
    wordSum damaged + wordAt message k = wordSum message + wordAt damaged k := by
  have place : k ∈ Finset.range message.length := Finset.mem_range.2 (by
    have inside := differ.lt_length
    omega)
  have others : ∑ j ∈ (Finset.range message.length).erase k, wordAt damaged j
      = ∑ j ∈ (Finset.range message.length).erase k, wordAt message j :=
    Finset.sum_congr rfl fun j mem => differ.same j (Finset.ne_of_mem_erase mem)
  have sum : wordSum message = _ := wordSum_eq_sum (n := message.length) (by omega)
  have sum' : wordSum damaged = _ := wordSum_eq_sum (n := message.length) (by
    rw [differ.length]
    omega)
  rw [← Finset.sum_erase_add _ _ place] at sum sum'
  rw [sum, sum', others]
  omega

/-- A multiple of 65535 stays one only if a word is swapped. -/
theorem DifferAt.multiple_iff (differ : DifferAt k message damaged) {offset : Nat}
    (multiple : (offset + wordSum message) % 65535 = 0) :
    (offset + wordSum damaged) % 65535 = 0 ↔ Swapped (wordAt message k) (wordAt damaged k) := by
  have sums := differ.wordSum_add
  have ne := differ.differ
  have before := wordAt_lt message k
  have after := wordAt_lt damaged k
  rw [Swapped]
  omega

/-- A message that verifies still does if a word is swapped and something other than zeros is left. -/
theorem DifferAt.checksum_eq_zero_iff (differ : DifferAt k message damaged)
    (short : message.length ≤ 65535) (verifies : checksum message = 0) :
    checksum damaged = 0 ↔
      Swapped (wordAt message k) (wordAt damaged k) ∧ ∃ b ∈ damaged, b ≠ 0 := by
  have short' : damaged.length ≤ 65535 := differ.length ▸ short
  have before := @Internet.checksum_eq_zero_iff message (by omega)
  have after := @Internet.checksum_eq_zero_iff damaged (by omega)
  have multiple : (0 + wordSum message) % 65535 = 0 := by
    rw [Nat.zero_add]
    exact (before.1 verifies).2
  have stays := differ.multiple_iff multiple
  rw [Nat.zero_add] at stays
  rw [after, stays, wordSum_pos_iff, and_comm]

end OneWord

/-! ## Behind a pseudo-header -/

section PseudoHeader

variable {src dst : IpAddress} {protocol : UInt8} {k : Nat} {message damaged : Bytes}

/-- The words of the pseudo-header of a message are not all zero: one of them is its length. -/
theorem le_wordSum_pseudoHeader {length : Nat} (short : length ≤ 65535) :
    length ≤ wordSum (pseudoHeader src dst protocol length) := by
  have size : (UInt16.ofNat length).toNat = length :=
    UInt16.toNat_ofNat_of_lt' (Nat.lt_succ_of_le short)
  have last : Bytes.ofNatBE 2 length = Bytes.be16 (UInt16.ofNat length) := by
    rw [Bytes.be16, size]
  rw [pseudoHeader, wordSum_append (by simp), last, wordSum_be16, size]
  exact Nat.le_add_left _ _

theorem pseudoChecksum_eq_zero_iff (short : message.length ≤ 65535) (some : 0 < message.length) :
    pseudoChecksum src dst protocol message = 0 ↔
      (wordSum (pseudoHeader src dst protocol message.length) + wordSum message) % 65535 = 0 := by
  have header := length_pseudoHeader src dst protocol message.length
  have whole : (pseudoHeader src dst protocol message.length ++ message).length ≤ 131072 := by
    rw [List.length_append, header]
    omega
  have positive := @le_wordSum_pseudoHeader src dst protocol message.length short
  rw [pseudoChecksum_eq, checksum_eq_zero_iff whole, wordSum_append (by rw [header])]
  omega

/-- Behind a pseudo-header something other than zeros is always left. -/
theorem DifferAt.pseudoChecksum_eq_zero_iff (differ : DifferAt k message damaged)
    (short : message.length ≤ 65535) (verifies : pseudoChecksum src dst protocol message = 0) :
    pseudoChecksum src dst protocol damaged = 0 ↔
      Swapped (wordAt message k) (wordAt damaged k) := by
  have some : 0 < message.length := Nat.lt_of_le_of_lt (Nat.zero_le _) differ.lt_length
  rw [Internet.pseudoChecksum_eq_zero_iff short some] at verifies
  rw [Internet.pseudoChecksum_eq_zero_iff (by rwa [differ.length]) (by rwa [differ.length]),
    differ.length, differ.multiple_iff verifies]

end PseudoHeader

/-! ## One byte changed -/

section OneByte

variable {message : Bytes} {i : Nat} {x : UInt8}

/-- Changing a byte changes the word in which it stands, and of that one half. -/
theorem wordAt_set (inside : i < message.length) (ne : x ≠ message.byteAt i) :
    wordAt (message.set i x) (i / 2) ≠ wordAt message (i / 2) ∧
      ¬ Swapped (wordAt message (i / 2)) (wordAt (message.set i x) (i / 2)) := by
  have bits := x.toNat_lt
  have bits' := (message.byteAt i).toNat_lt
  have changed : x.toNat ≠ (message.byteAt i).toNat := fun same => ne (UInt8.toNat_inj.1 same)
  rcases Nat.mod_two_eq_zero_or_one i with high | low
  · have place : 2 * (i / 2) = i := by omega
    have other := (message.byteAt (i + 1)).toNat_lt
    rw [wordAt, wordAt, place, Bytes.byteAt_set_self inside,
      Bytes.byteAt_set_of_ne (Nat.ne_add_one i), Swapped]
    omega
  · have place : 2 * (i / 2) + 1 = i := by omega
    have apart : i ≠ 2 * (i / 2) := by omega
    have other := (message.byteAt (2 * (i / 2))).toNat_lt
    rw [wordAt, wordAt, place, Bytes.byteAt_set_self inside, Bytes.byteAt_set_of_ne apart, Swapped]
    omega

theorem differAt_set (inside : i < message.length) (ne : x ≠ message.byteAt i) :
    DifferAt (i / 2) message (message.set i x) where
  length := List.length_set
  differ := (wordAt_set inside ne).1
  same j apart := by
    rw [wordAt, wordAt, Bytes.byteAt_set_of_ne (by omega), Bytes.byteAt_set_of_ne (by omega)]

/-- A message with one bit turned over. -/
def flipBit (message : Bytes) (i : Nat) (bit : Fin 8) : Bytes :=
  message.set i (message.byteAt i ^^^ (1 <<< UInt8.ofNat bit))

theorem flipped_ne (b : UInt8) (bit : Fin 8) : b ^^^ (1 <<< UInt8.ofNat bit) ≠ b := by
  have one : ∀ bit : Fin 8, (1 : UInt8) <<< UInt8.ofNat bit ≠ 0 := by decide
  intro same
  have nothing : b ^^^ (b ^^^ (1 <<< UInt8.ofNat bit)) = b ^^^ b := by rw [same]
  rw [← UInt8.xor_assoc, UInt8.xor_self, UInt8.zero_xor] at nothing
  exact one bit nothing

end OneByte

/-- **What damage to a word the checksum shows.** Of a message that verifies, let one word be
    changed. Then it verifies again exactly if all zeros were turned into all ones, or the other way
    round, and something other than zeros is left; behind a pseudo-header there always is. So no
    message verifies after one of its bits was turned over. -/
theorem damage_detected (message : Bytes) (short : message.length ≤ 65535) :
    (∀ damaged k, DifferAt k message damaged →
      (checksum message = 0 → (checksum damaged = 0 ↔
        Swapped (wordAt message k) (wordAt damaged k) ∧ ∃ b ∈ damaged, b ≠ 0)) ∧
      ∀ src dst protocol, pseudoChecksum src dst protocol message = 0 →
        (pseudoChecksum src dst protocol damaged = 0 ↔
          Swapped (wordAt message k) (wordAt damaged k))) ∧
    ∀ i < message.length, ∀ bit : Fin 8,
      (checksum message = 0 → checksum (flipBit message i bit) ≠ 0) ∧
      ∀ src dst protocol, pseudoChecksum src dst protocol message = 0 →
        pseudoChecksum src dst protocol (flipBit message i bit) ≠ 0 := by
  refine ⟨?_, ?_⟩
  · intro damaged k differ
    exact ⟨differ.checksum_eq_zero_iff short, fun _ _ _ => differ.pseudoChecksum_eq_zero_iff short⟩
  · intro i inside bit
    have ne := flipped_ne (message.byteAt i) bit
    have differ := differAt_set inside ne
    have half := (wordAt_set inside ne).2
    refine ⟨?_, ?_⟩
    · intro verifies again
      exact half ((differ.checksum_eq_zero_iff short verifies).1 again).1
    · intro src dst protocol verifies again
      exact half ((differ.pseudoChecksum_eq_zero_iff short verifies).1 again)

/-- A message of one word of ones and one of zeros. Swapping either leaves a multiple of 65535, but
    only one of the two leaves something to add up. -/
theorem damage_detected_swapped :
    checksum [0xFF, 0xFF, 0, 0] = 0 ∧ checksum [0xFF, 0xFF, 0xFF, 0xFF] = 0 ∧
      checksum [0, 0, 0, 0] ≠ 0 ∧ checksum [0xFF, 0xFB, 0, 0] ≠ 0 ∧
    pseudoChecksum .unspecified .unspecified 0 [0xFF, 0xFB, 0, 0] = 0 ∧
      pseudoChecksum .unspecified .unspecified 0 [0xFF, 0xFB, 0xFF, 0xFF] = 0 ∧
      pseudoChecksum .unspecified .unspecified 0 [0xFF, 0xFB, 0, 1] ≠ 0 := by
  have verifies : checksum [0xFF, 0xFF, 0, 0] = 0 :=
    (checksum_eq_zero_iff (by decide)).2 (by decide)
  have verifies' : pseudoChecksum .unspecified .unspecified 0 [0xFF, 0xFB, 0, 0] = 0 :=
    (pseudoChecksum_eq_zero_iff (by decide) (by decide)).2 (by decide)
  obtain ⟨words, bits⟩ := damage_detected [0xFF, 0xFF, 0, 0] (by decide)
  obtain ⟨words', bits'⟩ := damage_detected [0xFF, 0xFB, 0, 0] (by decide)
  refine ⟨verifies, ?_, ?_, ?_, verifies', ?_, ?_⟩
  · exact ((words _ 1 (by decide)).1 verifies).2 (by decide)
  · rw [ne_eq, (words _ 0 (by decide)).1 verifies]
    decide
  · exact (bits 1 (by decide) 2).1 verifies
  · exact ((words' _ 1 (by decide)).2 _ _ _ verifies').2 (by decide)
  · exact (bits' 3 (by decide) 0).2 _ _ _ verifies'

end LocalPlay.Internet
