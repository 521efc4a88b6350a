import LocalPlay.Internet.Checksum

set_option autoImplicit false

/-! # The arithmetic of the checksum

As long as the register does not overflow it holds the sum of the words (`toNat_sumWords`), and
folding keeps that sum up to multiples of 65535 (`foldCarries_mod`). There are two ways to write the
residue zero in 16 bits: folding gives all ones, unless there was nothing but zeros to add
(`foldCarries_eq_max_iff`). So a message sums to zero after complementing exactly if its words add
up to a positive multiple of 65535, which is what stamping it with its checksum brings about
(`checksum_stamped`). -/

namespace LocalPlay.Internet

/-! ## The sum in the register -/

/-- The sum of the 16-bit words of a message. A last odd byte is the high byte of a word. -/
def wordSum : Bytes → Nat
  | [] => 0
  | [b] => 256 * b.toNat
  | a :: b :: rest => 256 * a.toNat + b.toNat + wordSum rest

theorem wordSum_le (message : Bytes) : wordSum message ≤ 65535 * ((message.length + 1) / 2) := by
  fun_induction wordSum message with
  | case1 => simp
  | case2 b =>
    have hb := b.toNat_lt
    simp
    omega
  | case3 a b rest ih =>
    have ha := a.toNat_lt
    have hb := b.toNat_lt
    simp only [List.length_cons]
    omega

/-- A message of at most 131072 bytes does not overflow the register. -/
theorem wordSum_lt {message : Bytes} (short : message.length ≤ 131072) :
    wordSum message < 4294967296 := by
  have bound := wordSum_le message
  omega

theorem wordSum_append {front : Bytes} (even : front.length % 2 = 0) (back : Bytes) :
    wordSum (front ++ back) = wordSum front + wordSum back := by
  fun_induction wordSum front with
  | case1 => simp
  | case2 b => simp at even
  | case3 a b rest ih =>
    simp only [List.length_cons] at even
    simp only [List.cons_append, wordSum, ih (by omega)]
    omega

theorem wordSum_be16 (x : UInt16) : wordSum (Bytes.be16 x) = x.toNat := by
  have hx := x.toNat_lt
  simp only [Bytes.be16, Bytes.ofNatBE, Bytes.ofNatLE, List.reverse_cons, List.reverse_nil,
    List.nil_append, List.cons_append, wordSum, UInt8.toNat_ofNat']
  omega

theorem toNat_sumWords {register : UInt32} {message : Bytes}
    (fits : register.toNat + wordSum message < 4294967296) :
    (sumWords register message).toNat = register.toNat + wordSum message := by
  fun_induction sumWords register message with
  | case1 register => simp [wordSum]
  | case2 register b =>
    simp only [wordSum] at fits ⊢
    rw [UInt32.toNat_add, UInt32.toNat_ofNat_of_lt' (Nat.lt_of_le_of_lt (Nat.le_add_left ..) fits),
      Nat.mod_eq_of_lt fits]
  | case3 register a b rest ih =>
    simp only [wordSum] at fits ⊢
    have word : (register + UInt32.ofNat (256 * a.toNat + b.toNat)).toNat
        = register.toNat + (256 * a.toNat + b.toNat) := by
      rw [UInt32.toNat_add, UInt32.toNat_ofNat_of_lt' (by simp only [UInt32.size]; omega),
        Nat.mod_eq_of_lt (by omega)]
    rw [ih (by omega), word]
    omega

/-- Summing goes on where the first part of a message ends, if that is between two words. -/
theorem sumWords_append (register : UInt32) {front : Bytes} (even : front.length % 2 = 0)
    (back : Bytes) : sumWords register (front ++ back) = sumWords (sumWords register front) back := by
  fun_induction sumWords register front with
  | case1 register => rfl
  | case2 register b => simp at even
  | case3 register a b rest ih =>
    simp only [List.length_cons] at even
    exact ih (by omega)

theorem length_pseudoHeader (src dst : IpAddress) (protocol : UInt8) (length : Nat) :
    (pseudoHeader src dst protocol length).length = 12 := rfl

/-- The checksum of a UDP or TCP message is that of the message behind its pseudo-header. -/
theorem pseudoChecksum_eq (src dst : IpAddress) (protocol : UInt8) (message : Bytes) :
    pseudoChecksum src dst protocol message
      = checksum (pseudoHeader src dst protocol message.length ++ message) := by
  rw [pseudoChecksum, checksum, sumWords_append 0 (by rw [length_pseudoHeader])]

/-! ## Folding -/

theorem foldCarries_mod (n : Nat) : foldCarries n % 65535 = n % 65535 := by
  fun_induction foldCarries n with
  | case1 n h => rfl
  | case2 n h ih => omega

theorem foldCarries_pos {n : Nat} (pos : 0 < n) : 0 < foldCarries n := by
  fun_induction foldCarries n with
  | case1 n h => exact pos
  | case2 n h ih => exact ih (by omega)

theorem foldCarries_zero : foldCarries 0 = 0 := by
  rw [foldCarries, if_pos (by decide)]

/-- All ones are left of a positive multiple of 65535, and of nothing else. -/
theorem foldCarries_eq_max_iff (n : Nat) : foldCarries n = 65535 ↔ 0 < n ∧ n % 65535 = 0 := by
  have residue := foldCarries_mod n
  have bound := foldCarries_lt n
  constructor
  · intro full
    refine ⟨Nat.pos_of_ne_zero ?_, by omega⟩
    rintro rfl
    rw [foldCarries_zero] at full
    cases full
  · rintro ⟨pos, multiple⟩
    have := foldCarries_pos pos
    omega

theorem toNat_finish (register : UInt32) :
    (finish register).toNat = 65535 - foldCarries register.toNat :=
  UInt16.toNat_ofNat_of_lt' (by simp only [UInt16.size]; omega)

theorem toNat_checksum {message : Bytes} (short : message.length ≤ 131072) :
    (checksum message).toNat = 65535 - foldCarries (wordSum message) := by
  rw [checksum, toNat_finish, toNat_sumWords (by simpa using wordSum_lt short), UInt32.toNat_zero,
    Nat.zero_add]

/-- A message verifies if its words add up to a positive multiple of 65535. -/
theorem checksum_eq_zero_iff {message : Bytes} (short : message.length ≤ 131072) :
    checksum message = 0 ↔ 0 < wordSum message ∧ wordSum message % 65535 = 0 := by
  have bound := foldCarries_lt (wordSum message)
  rw [← foldCarries_eq_max_iff, ← UInt16.toNat_inj, toNat_checksum short, UInt16.toNat_zero]
  omega

/-! ## Stamping -/

/-- The checksum as it may be written where two zeros stood: as it is, or in its other form if it is
    zero. -/
def IsStamp (stamp sum : UInt16) : Prop := stamp = sum ∨ sum = 0 ∧ stamp = 0xFFFF

/-- A message verifies once its checksum has been written where two zeros stood. -/
theorem checksum_stamped {front back : Bytes} {stamp : UInt16} (even : front.length % 2 = 0)
    (short : front.length + 2 + back.length ≤ 131072)
    (stamped : IsStamp stamp (checksum (front ++ [0, 0] ++ back))) :
    checksum (front ++ Bytes.be16 stamp ++ back) = 0 := by
  have blankLength : (front ++ [0, 0] ++ back).length ≤ 131072 := by
    rwa [List.length_append, List.length_append]
  have fullLength : (front ++ Bytes.be16 stamp ++ back).length ≤ 131072 := by
    rwa [List.length_append, List.length_append, Bytes.length_be16]
  have blank : wordSum (front ++ [0, 0] ++ back) = wordSum front + wordSum back := by
    rw [wordSum_append (by simp; omega), wordSum_append even]
    simp [wordSum]
  have full : wordSum (front ++ Bytes.be16 stamp ++ back)
      = wordSum front + wordSum back + stamp.toNat := by
    rw [wordSum_append (by simp; omega), wordSum_append even, wordSum_be16]
    omega
  have sum := toNat_checksum blankLength
  have residue := foldCarries_mod (wordSum front + wordSum back)
  have bound := foldCarries_lt (wordSum front + wordSum back)
  have zero : wordSum front + wordSum back = 0 →
      foldCarries (wordSum front + wordSum back) = 0 := by
    intro nothing
    rw [nothing, foldCarries_zero]
  rw [checksum_eq_zero_iff fullLength, full]
  rw [blank] at sum
  rcases stamped with rfl | ⟨nothing, rfl⟩
  · omega
  · rw [nothing, UInt16.toNat_zero] at sum
    have ones : (0xFFFF : UInt16).toNat = 65535 := rfl
    omega

/-- The same for a message behind a pseudo-header. -/
theorem pseudoChecksum_stamped {src dst : IpAddress} {protocol : UInt8} {front back : Bytes}
    {stamp : UInt16} (even : front.length % 2 = 0) (short : front.length + 2 + back.length ≤ 65535)
    (stamped : IsStamp stamp (pseudoChecksum src dst protocol (front ++ [0, 0] ++ back))) :
    pseudoChecksum src dst protocol (front ++ Bytes.be16 stamp ++ back) = 0 := by
  have sameLength : (front ++ Bytes.be16 stamp ++ back).length
      = (front ++ [0, 0] ++ back).length := by
    simp only [List.length_append, Bytes.length_be16, List.length_cons, List.length_nil]
  rw [pseudoChecksum_eq] at stamped ⊢
  rw [sameLength, ← List.append_assoc, ← List.append_assoc]
  rw [← List.append_assoc, ← List.append_assoc] at stamped
  refine checksum_stamped ?_ ?_ stamped
  · rw [List.length_append, length_pseudoHeader]
    omega
  · rw [List.length_append, length_pseudoHeader]
    omega

end LocalPlay.Internet
