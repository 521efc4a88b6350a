import LocalPlay.Proofs.Internet.Damage
import Mathlib.Logic.Function.Iterate

set_option autoImplicit false

/-! # What the checksum is

The register and the rounds of folding are a way to compute a residue modulo 65535. A message of at
most 65535 bytes never fills the register (`toNat_sumWords_front`), two rounds are always enough
(`exists_rounds`), and the checksum is the complement of the residue of the sum of the words, where
zero is written as all ones unless the message is nothing but zeros (`isResidue_iff`). -/

namespace LocalPlay.Internet

/-! ## The register -/

theorem wordSum_front_le (front back : Bytes) : wordSum front ≤ wordSum (front ++ back) := by
  fun_induction wordSum front with
  | case1 => exact Nat.zero_le _
  | case2 b =>
    cases back with
    | nil => exact Nat.le_refl _
    | cons a rest =>
      simp only [List.cons_append, List.nil_append, wordSum]
      omega
  | case3 a b rest ih =>
    simp only [List.cons_append, wordSum]
    exact Nat.add_le_add_left ih _

/-- Nothing is lost of the sum while the register is filled: after the first part of a message it
    holds the sum of the words so far. -/
theorem toNat_sumWords_front {front back : Bytes} (short : (front ++ back).length ≤ 131072) :
    (sumWords 0 front).toNat = wordSum front := by
  have whole := wordSum_lt short
  have part := wordSum_front_le front back
  rw [toNat_sumWords (by rw [UInt32.toNat_zero]; omega), UInt32.toNat_zero, Nat.zero_add]

/-! ## The rounds -/

/-- One round of folding: what exceeds 16 bits is added to the rest. -/
def foldRound (n : Nat) : Nat := n % 65536 + n / 65536

/-- Folding stops after `rounds` rounds: not before the sum has 16 bits, and with the sum that it
    has then. -/
def FoldsIn (n rounds : Nat) : Prop :=
  foldCarries n = foldRound^[rounds] n ∧ ∀ j < rounds, 65536 ≤ foldRound^[j] n

theorem foldsIn_zero {n : Nat} (small : n < 65536) : FoldsIn n 0 := by
  constructor
  · rw [foldCarries, if_pos small, Function.iterate_zero_apply]
  · intro j hj
    exact absurd hj (Nat.not_lt_zero j)

theorem FoldsIn.succ {n rounds : Nat} (large : 65536 ≤ n) (rest : FoldsIn (foldRound n) rounds) :
    FoldsIn n (rounds + 1) := by
  obtain ⟨folded, before⟩ := rest
  constructor
  · rw [foldCarries, if_neg (Nat.not_lt.2 large), Function.iterate_succ_apply]
    exact folded
  · intro j hj
    cases j with
    | zero => exact large
    | succ j =>
      rw [Function.iterate_succ_apply]
      exact before j (Nat.lt_of_succ_lt_succ hj)

/-- A register is folded in two rounds at most. -/
theorem exists_rounds {n : Nat} (fits : n < 4294967296) : ∃ rounds ≤ 2, FoldsIn n rounds := by
  by_cases none : n < 65536
  · exact ⟨0, by decide, foldsIn_zero none⟩
  have first : foldRound n ≤ 131070 := by
    rw [foldRound]
    omega
  by_cases one : foldRound n < 65536
  · exact ⟨1, by decide, (foldsIn_zero one).succ (Nat.le_of_not_lt none)⟩
  have second : foldRound (foldRound n) < 65536 := by
    rw [foldRound]
    omega
  have inOne : FoldsIn (foldRound n) 1 := (foldsIn_zero second).succ (Nat.le_of_not_lt one)
  exact ⟨2, by decide, inOne.succ (Nat.le_of_not_lt none)⟩

/-! ## The residue -/

/-- The words of a message, added up: high byte first, and a last odd byte is a high byte. -/
def referenceSum (message : Bytes) : Nat :=
  ∑ k ∈ Finset.range ((message.length + 1) / 2), wordAt message k

theorem referenceSum_eq (message : Bytes) : referenceSum message = wordSum message :=
  (wordSum_eq_sum (by omega)).symm

/-- The residue of a message modulo 65535, from 1 to 65535; zero if the message is nothing but
    zeros. -/
def IsResidue (message : Bytes) (r : Nat) : Prop :=
  (∀ b ∈ message, b = 0) ∧ r = 0 ∨
    (∃ b ∈ message, b ≠ 0) ∧ 1 ≤ r ∧ r ≤ 65535 ∧ r % 65535 = referenceSum message % 65535

instance (message : Bytes) : DecidablePred (IsResidue message) := fun _ =>
  inferInstanceAs (Decidable (_ ∨ _))

/-- Folding gives the residue. -/
theorem isResidue_foldCarries_iff (message : Bytes) (r : Nat) :
    IsResidue message r ↔ r = foldCarries (wordSum message) := by
  have blank : (∀ b ∈ message, b = 0) ↔ ¬ ∃ b ∈ message, b ≠ 0 := by simp
  have bound := foldCarries_lt (wordSum message)
  have residue := foldCarries_mod (wordSum message)
  rw [IsResidue, referenceSum_eq, blank, ← wordSum_pos_iff]
  by_cases some : 0 < wordSum message
  · have pos := foldCarries_pos some
    omega
  · have none : wordSum message = 0 := Nat.eq_zero_of_not_pos some
    rw [none, foldCarries_zero]
    omega

theorem isResidue_iff {message : Bytes} (short : message.length ≤ 65535) (r : Nat) :
    IsResidue message r ↔ r ≤ 65535 ∧ (checksum message).toNat = 65535 - r := by
  have bound := foldCarries_lt (wordSum message)
  rw [isResidue_foldCarries_iff, toNat_checksum (by omega)]
  omega

/-! ## Writing a word -/

/-- The message with another word at offset `i`. -/
def putWord (message : Bytes) (i : Nat) (x : UInt16) : Bytes :=
  message.take i ++ Bytes.be16 x ++ message.drop (i + 2)

/-- A message verifies with its checksum in the place of two zeros at an even offset. -/
theorem checksum_putWord {message : Bytes} {i : Nat} {stamp : UInt16}
    (short : message.length ≤ 65535) (even : i % 2 = 0) (free : message.field i 2 = [0, 0])
    (stamped : IsStamp stamp (checksum message)) : checksum (putWord message i stamp) = 0 := by
  have parts := Bytes.take_append_field_append_drop message i 2
  rw [free] at parts
  have inside : i + 2 ≤ message.length := by
    have two := congrArg List.length free
    rw [Bytes.field, List.length_take, List.length_drop, List.length_cons, List.length_singleton]
      at two
    omega
  have front : (message.take i).length = i := List.length_take_of_le (by omega)
  refine checksum_stamped (by rwa [front]) ?_ (by rwa [parts])
  rw [front, List.length_drop]
  omega

/-- **What the checksum is, and that a message carries it.** For a message of at most 65535 bytes:
    the register never wraps around while the words are added; folding stops, after two rounds at the
    most; and the checksum is the complement of the residue of the sum of the words, so it is the only
    number that is. Behind the addresses, the protocol and the length it is the same checksum, of all
    of them. Written over two zeros at an even offset, it makes the message verify, and if it is zero,
    so do all ones. -/
theorem checksum_complements_residue (message : Bytes) (short : message.length ≤ 65535) :
    (∀ front back : Bytes, front ++ back = message →
      (sumWords 0 front).toNat = referenceSum front) ∧
    (∃ rounds ≤ 2, FoldsIn (sumWords 0 message).toNat rounds) ∧
    (∀ r : Nat, IsResidue message r ↔ r ≤ 0xFFFF ∧ (checksum message).toNat = 0xFFFF - r) ∧
    (∀ (src dst : IpAddress) (protocol : UInt8), pseudoChecksum src dst protocol message
      = checksum (src.toBytes ++ dst.toBytes ++ [0, protocol]
          ++ Bytes.be16 (UInt16.ofNat message.length) ++ message)) ∧
    ∀ (i : Nat) (stamp : UInt16), i % 2 = 0 → message.field i 2 = [0, 0] →
      (stamp = checksum message ∨ checksum message = 0 ∧ stamp = 0xFFFF) →
        checksum (putWord message i stamp) = 0 := by
  refine ⟨?register, exists_rounds (UInt32.toNat_lt _), isResidue_iff short, ?pseudo, ?stamp⟩
  case register =>
    intro front back whole
    have fits : (front ++ back).length ≤ 131072 := by
      rw [whole]
      omega
    rw [referenceSum_eq, toNat_sumWords_front fits]
  case pseudo =>
    intro src dst protocol
    have size : (UInt16.ofNat message.length).toNat = message.length :=
      UInt16.toNat_ofNat_of_lt' (Nat.lt_succ_of_le short)
    rw [pseudoChecksum_eq, pseudoHeader, Bytes.be16, size]
  case stamp =>
    intro i stamp even free stamped
    exact checksum_putWord short even free stamped

/-- A message whose words are 65535 and 0 has the residue 65535 and the checksum zero, so all ones
    may be written over the word of zeros. -/
theorem checksum_complements_residue_ones :
    IsResidue [0xFF, 0xFF, 0, 0] 0xFFFF ∧ checksum [0xFF, 0xFF, 0, 0] = 0 ∧
      checksum [0xFF, 0xFF, 0xFF, 0xFF] = 0 := by
  obtain ⟨-, -, residue, -, stamp⟩ := checksum_complements_residue [0xFF, 0xFF, 0, 0] (by decide)
  have zero : checksum [0xFF, 0xFF, 0, 0] = 0 :=
    UInt16.toNat_inj.1 ((residue 0xFFFF).1 (by decide +kernel)).2
  exact ⟨by decide +kernel, zero, stamp 2 0xFFFF (by decide) (by decide) (Or.inr ⟨zero, rfl⟩)⟩

end LocalPlay.Internet
