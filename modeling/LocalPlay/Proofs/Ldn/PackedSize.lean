import LocalPlay.Proofs.Ldn.ZeroRun
import Mathlib.Algebra.GroupWithZero.Nat

set_option autoImplicit false

/-! # How long the compressed form is

The compressed form has one byte for each byte that is not zero and two bytes for each token of
zeros, and a run of zeros takes as few tokens as can hold it (`length_encode_ofBytes`). So it can be
said beforehand which byte strings have a compressed form, and which of these forms can be expanded
again. -/

namespace LocalPlay.Ldn.ZeroRun

/-! ## Runs of zeros -/

/-- The lengths of the longest runs of zeros in a byte string, in order: of whatever stands between
    bytes that are not zero, if anything does. -/
def zeroRuns (b : Bytes) : List Nat :=
  ((b.splitOnP fun x => x ≠ 0).map List.length).filter fun n => n ≠ 0

/-- How many tokens a run of zeros takes: one for each 255 zeros, and one for the rest. -/
def tokensFor (n : Nat) : Nat := (n + 254) / 255

theorem tokensFor_add_full (n : Nat) : tokensFor (n + 255) = tokensFor n + 1 := by
  rw [tokensFor, tokensFor]
  omega

/-- How many bytes the compressed form of a byte string has. -/
def packedSize (b : Bytes) : Nat :=
  b.countP (fun x => x ≠ 0) + 2 * ((zeroRuns b).map tokensFor).sum

theorem eq_zero_of_mem_zeros {n : Nat} {x : UInt8} (h : x ∈ Bytes.zeros n) : x = 0 :=
  List.eq_of_mem_replicate h

theorem sum_tokensFor_filter (runs : List Nat) :
    ((runs.filter fun n => n ≠ 0).map tokensFor).sum = (runs.map tokensFor).sum := by
  induction runs with
  | nil => rfl
  | cons n runs ih =>
    rw [List.filter_cons, List.map_cons, List.sum_cons, ← ih]
    by_cases empty : n = 0
    · rw [if_neg (by simp [empty]), empty, tokensFor]
      omega
    · rw [if_pos (by simp [empty]), List.map_cons, List.sum_cons]

theorem countP_zeros (n : Nat) : (Bytes.zeros n).countP (fun x => x ≠ 0) = 0 := by
  rw [List.countP_eq_zero]
  intro x hx
  simp [eq_zero_of_mem_zeros hx]

/-- The size of a run of zeros and nothing else. -/
theorem packedSize_zeros (n : Nat) : packedSize (Bytes.zeros n) = 2 * tokensFor n := by
  have alone : (Bytes.zeros n).splitOnP (fun x => x ≠ 0) = [Bytes.zeros n] :=
    List.splitOnP_eq_singleton fun x hx => by simp [eq_zero_of_mem_zeros hx]
  rw [packedSize, zeroRuns, sum_tokensFor_filter, alone, countP_zeros]
  simp

/-- A byte that is not zero ends a run. -/
theorem packedSize_zeros_append_cons (n : Nat) {x : UInt8} (hx : x ≠ 0) (b : Bytes) :
    packedSize (Bytes.zeros n ++ x :: b) = 2 * tokensFor n + 1 + packedSize b := by
  have first : (Bytes.zeros n ++ x :: b).splitOnP (fun x => x ≠ 0)
      = Bytes.zeros n :: b.splitOnP fun x => x ≠ 0 :=
    List.splitOnP_append_cons_of_forall_mem (fun y hy => by simp [eq_zero_of_mem_zeros hy]) x
      (by simp [hx]) b
  have count : (Bytes.zeros n ++ x :: b).countP (fun x => x ≠ 0)
      = b.countP (fun x => x ≠ 0) + 1 := by
    rw [List.countP_append, countP_zeros, List.countP_cons_of_pos (by simp [hx]), Nat.zero_add]
  simp only [packedSize, zeroRuns, sum_tokensFor_filter, first, count, List.map_cons,
    List.sum_cons, Bytes.length_zeros]
  omega

theorem zeros_append_cons_zero (n : Nat) (b : Bytes) :
    Bytes.zeros n ++ 0 :: b = Bytes.zeros (n + 1) ++ b := by
  rw [Bytes.zeros, Bytes.zeros, List.replicate_succ', List.append_assoc]
  rfl

/-- A full token is two bytes, whatever follows it. -/
theorem packedSize_zeros_append_of_full (n : Nat) (b : Bytes) :
    packedSize (Bytes.zeros (n + 255) ++ b) = 2 + packedSize (Bytes.zeros n ++ b) := by
  induction b generalizing n with
  | nil =>
    rw [List.append_nil, List.append_nil, packedSize_zeros, packedSize_zeros, tokensFor_add_full]
    omega
  | cons x b ih =>
    by_cases zero : x = 0
    · rw [zero, zeros_append_cons_zero, zeros_append_cons_zero, Nat.add_right_comm]
      exact ih (n + 1)
    · rw [packedSize_zeros_append_cons _ zero, packedSize_zeros_append_cons _ zero,
        tokensFor_add_full]
      omega

/-! ## Rows of tokens -/

/-- How many zeros the last token of a row has, if the row ends in zeros. The last token comes
    first. -/
def openRun : List Token → Nat
  | .zeros count :: _ => count.toNat + 1
  | _ => 0

theorem length_encode_cons (token : Token) (row : List Token) :
    (encode (token :: row)).length = token.toBytes.length + (encode row).length := by
  rw [encode_cons, List.length_append]

theorem length_encode_reverse (row : List Token) :
    (encode row.reverse).length = (encode row).length := by
  rw [encode, encode, List.length_flatMap, List.length_flatMap, List.map_reverse,
    List.sum_reverse]

/-- A zero makes the last token count one more, or takes a new token if the last one is full or does
    not stand for zeros. -/
theorem push_zero_cases {row : List Token} (filled : openRun row ≤ 255) :
    (0 < openRun row ∧ openRun row < 255 ∧ openRun (push row 0) = openRun row + 1 ∧
      (encode (push row 0)).length = (encode row).length) ∨
    ((openRun row = 0 ∨ openRun row = 255) ∧ openRun (push row 0) = 1 ∧
      (encode (push row 0)).length = (encode row).length + 2) := by
  have new : openRun (.zeros 0 :: row) = 1 ∧
      (encode (.zeros 0 :: row)).length = (encode row).length + 2 :=
    ⟨rfl, (length_encode_cons _ row).trans (Nat.add_comm ..)⟩
  cases row with
  | nil => exact Or.inr ⟨Or.inl rfl, new⟩
  | cons token rest =>
    cases token with
    | literal b ne_zero => exact Or.inr ⟨Or.inl rfl, new⟩
    | zeros count =>
      have last : openRun (.zeros count :: rest) = count.toNat + 1 := rfl
      rw [last] at filled ⊢
      by_cases room : count < fullCount
      · have below := lt_fullCount_iff.1 room
        rw [push_zero_of_lt room, length_encode_cons, length_encode_cons]
        exact Or.inl ⟨Nat.succ_pos _, Nat.succ_lt_succ below,
          congrArg (· + 1) (toNat_add_one_of_lt room), rfl⟩
      · have full := mt lt_fullCount_iff.2 room
        rw [push_zero_of_not_lt room]
        exact Or.inr ⟨Or.inr (by omega), new⟩

/-- What a row grows by when bytes are added to it: the bytes take what they would take behind the
    zeros in which the row ends, but these have their token already. -/
theorem length_encode_foldl_push (b : Bytes) (row : List Token) (filled : openRun row ≤ 255) :
    (encode (b.foldl push row)).length + 2 * tokensFor (openRun row)
      = (encode row).length + packedSize (Bytes.zeros (openRun row) ++ b) := by
  induction b generalizing row with
  | nil => rw [List.append_nil, packedSize_zeros, List.foldl_nil]
  | cons x b ih =>
    rw [List.foldl_cons]
    by_cases zero : x = 0
    · rw [zero, zeros_append_cons_zero]
      rcases push_zero_cases filled with ⟨begun, room, longer, same⟩ | ⟨closed, one, two⟩
      · have rest := ih (push row 0) (by omega)
        rw [longer, same] at rest
        simp only [tokensFor] at rest ⊢
        omega
      · have rest := ih (push row 0) (by omega)
        rw [one, two] at rest
        rcases closed with empty | full
        · rw [empty, Nat.zero_add]
          simp only [tokensFor] at rest ⊢
          omega
        · have more := packedSize_zeros_append_of_full 1 b
          rw [full, Nat.add_comm 255 1]
          simp only [tokensFor] at rest ⊢
          omega
    · have ended : openRun (.literal x zero :: row) = 0 := rfl
      have nothing : packedSize (Bytes.zeros 0 ++ b) = packedSize b := rfl
      have rest := ih (.literal x zero :: row) (Nat.zero_le _)
      rw [length_encode_cons, ended, nothing] at rest
      rw [packedSize_zeros_append_cons _ zero, push_of_ne_zero row zero]
      simp only [tokensFor, Token.toBytes, List.length_singleton] at rest ⊢
      omega

/-- The compressed form is as long as the bytes and the runs of zeros require. -/
theorem length_encode_ofBytes (b : Bytes) : (encode (ofBytes b)).length = packedSize b := by
  rw [ofBytes, length_encode_reverse]
  exact (length_encode_foldl_push b [] (Nat.zero_le _)).trans (Nat.zero_add _)

/-! ## Both ways -/

/-- **What can be compressed, and what can be expanded again.** Compression succeeds exactly for the
    byte strings whose compressed form, which has one byte for each byte that is not zero and two for
    each token of zeros, has at most 2048 bytes. What it returns has that size, and expands to the
    byte string if that has at most 2048 bytes, too; otherwise expansion refuses it. -/
theorem compress_packedSize (b : Bytes) :
    (∀ packed, compress b = .ok packed →
      packed.length ≤ 2048 ∧ packed.length = packedSize b ∧
      (b.length ≤ 2048 → decompress packed = .ok b) ∧
      (2048 < b.length → decompress packed = .error (.expandedTooLong 2048))) ∧
    ((∃ why, compress b = .error why) ↔ 2048 < packedSize b) := by
  have size := length_encode_ofBytes b
  have limit : bufferLimit = 2048 := rfl
  constructor
  · intro packed h
    obtain ⟨packed_eq, short⟩ := eq_encode_of_compress h
    have expanded := decompress_of_compress h
    rw [limit] at expanded
    refine ⟨short, packed_eq ▸ size, fun fits => ?_, fun long => ?_⟩
    · rwa [if_pos fits] at expanded
    · rwa [if_neg (Nat.not_le_of_lt long)] at expanded
  · rw [compress_eq, size]
    by_cases short : packedSize b ≤ bufferLimit
    · rw [if_pos short]
      exact iff_of_false (by simp) (Nat.not_lt_of_le short)
    · rw [if_neg short]
      exact iff_of_true ⟨_, rfl⟩ (Nat.lt_of_not_le short)

/-- Many zeros are compressed to a few bytes, which do not expand; many other bytes are not
    compressed. -/
theorem compress_packedSize_many :
    (∃ packed, compress (Bytes.zeros 2049) = .ok packed ∧ packed.length = 18 ∧
      decompress packed = .error (.expandedTooLong 2048)) ∧
    ∃ why, compress (List.replicate 2049 7) = .error why := by
  obtain ⟨packs, fails⟩ := compress_packedSize (Bytes.zeros 2049)
  have size : packedSize (Bytes.zeros 2049) = 18 := packedSize_zeros 2049
  refine ⟨?_, (compress_packedSize (List.replicate 2049 7)).2.2 (by decide +kernel)⟩
  cases h : compress (Bytes.zeros 2049) with
  | error why =>
    have long := fails.1 ⟨why, h⟩
    rw [size] at long
    exact absurd long (by decide)
  | ok packed =>
    obtain ⟨-, length, -, refused⟩ := packs packed h
    exact ⟨packed, rfl, length.trans size, refused (by rw [Bytes.length_zeros]; decide)⟩

end LocalPlay.Ldn.ZeroRun
