import LocalPlay.Text.Utf8
import Mathlib.Data.List.TakeWhile

set_option autoImplicit false

/-! # Encoded text, whole and cut

The bytes of a character are a lead byte and as many continuation bytes as it asks for (`Encodes`), so
decoding takes exactly them (`decodeUtf8_encode_append`). When the encoded form of a text is cut
somewhere, what is left is the longest initial part of the text that is not cut, and at most one
replacement character for the character that is (`decodeUtf8_take_encode`). -/

namespace LocalPlay.Text

/-- The bytes of a row of characters. -/
def encode (cs : List Char) : Bytes := cs.flatMap String.utf8EncodeChar

@[simp] theorem encode_nil : encode [] = [] := rfl

@[simp] theorem encode_cons (c : Char) (cs : List Char) :
    encode (c :: cs) = String.utf8EncodeChar c ++ encode cs := rfl

@[simp] theorem encode_append (cs ds : List Char) : encode (cs ++ ds) = encode cs ++ encode ds :=
  List.flatMap_append

theorem utf8_eq (s : String) : utf8 s = encode s.toList := rfl

/-! ## The bytes of a character -/

/-- `Encodes c x`: the bytes `x` are a lead byte and the continuation bytes that it asks for, and
    together their bits are those of the character `c`. -/
inductive Encodes : Char → Bytes → Prop where
  | one {c : Char} {b : UInt8} (first : lead b = .single c) : Encodes c [b]
  | two {b b₁ : UInt8} {bits : Nat} (first : lead b = .two bits)
      (second : isContinuation b₁ = true) : Encodes (Char.ofNat (addBits bits b₁)) [b, b₁]
  | three {b b₁ b₂ lo hi : UInt8} {bits : Nat} (first : lead b = .three bits lo hi)
      (second : within lo hi b₁ = true) (third : isContinuation b₂ = true) :
      Encodes (Char.ofNat (addBits (addBits bits b₁) b₂)) [b, b₁, b₂]
  | four {b b₁ b₂ b₃ lo hi : UInt8} {bits : Nat} (first : lead b = .four bits lo hi)
      (second : within lo hi b₁ = true) (third : isContinuation b₂ = true)
      (fourth : isContinuation b₃ = true) :
      Encodes (Char.ofNat (addBits (addBits (addBits bits b₁) b₂) b₃)) [b, b₁, b₂, b₃]

section Decoding

variable {c : Char} {x : Bytes}

/-- The bytes of a character are decoded to it, whatever follows them. -/
theorem Encodes.decodeUtf8_append (h : Encodes c x) (rest : Bytes) :
    decodeUtf8 (x ++ rest) = c :: decodeUtf8 rest := by
  cases h with
  | one first => simp [decodeUtf8, first]
  | two first second => simp [decodeUtf8, first, second]
  | three first second third => simp [decodeUtf8, first, second, third]
  | four first second third fourth => simp [decodeUtf8, first, second, third, fourth]

/-- The first bytes of a character, but not all of them, are decoded to one replacement character. -/
theorem Encodes.decodeUtf8_take (h : Encodes c x) {n : Nat} (some : 0 < n) (part : n < x.length) :
    decodeUtf8 (x.take n) = [replacement] := by
  cases h with
  | one first =>
    simp only [List.length_singleton] at part
    omega
  | two first second =>
    obtain rfl : n = 1 := by
      simp only [List.length_cons, List.length_nil] at part
      omega
    simp [decodeUtf8, first]
  | three first second third =>
    obtain rfl | rfl : n = 1 ∨ n = 2 := by
      simp only [List.length_cons, List.length_nil] at part
      omega
    · simp [decodeUtf8, first]
    · simp [decodeUtf8, first, second]
  | four first second third fourth =>
    obtain rfl | rfl | rfl : n = 1 ∨ n = 2 ∨ n = 3 := by
      simp only [List.length_cons, List.length_nil] at part
      omega
    · simp [decodeUtf8, first]
    · simp [decodeUtf8, first, second]
    · simp [decodeUtf8, first, second, third]

end Decoding

/-! ## Every character -/

deriving instance DecidableEq for Lead

theorem lead_single {n : Nat} (range : n < 0x80) :
    lead (UInt8.ofNat n) = .single (Char.ofNat n) := by
  have table : ∀ n : Fin 0x80, lead (UInt8.ofNat n) = .single (Char.ofNat n) := by decide
  exact table ⟨n, range⟩

theorem lead_two {n : Nat} (low : 2 ≤ n) (range : n < 32) :
    lead (UInt8.ofNat (n + 0xC0)) = .two n := by
  have table : ∀ n : Fin 32, 2 ≤ n.val → lead (UInt8.ofNat (n.val + 0xC0)) = .two n := by decide
  exact table ⟨n, range⟩ low

/-- Zero keeps out what fewer bytes can say, thirteen the numbers that are no characters. -/
theorem lead_three {n : Nat} (range : n < 16) :
    lead (UInt8.ofNat (n + 0xE0))
      = .three n (if n = 0 then 0xA0 else 0x80) (if n = 13 then 0x9F else 0xBF) := by
  have table : ∀ n : Fin 16, lead (UInt8.ofNat (n.val + 0xE0))
      = .three n (if n.val = 0 then 0xA0 else 0x80) (if n.val = 13 then 0x9F else 0xBF) := by
    decide
  exact table ⟨n, range⟩

/-- Zero keeps out what fewer bytes can say, four the numbers past the last character. -/
theorem lead_four {n : Nat} (range : n < 5) :
    lead (UInt8.ofNat (n + 0xF0))
      = .four n (if n = 0 then 0x90 else 0x80) (if n = 4 then 0x8F else 0xBF) := by
  have table : ∀ n : Fin 5, lead (UInt8.ofNat (n.val + 0xF0))
      = .four n (if n.val = 0 then 0x90 else 0x80) (if n.val = 4 then 0x8F else 0xBF) := by
    decide
  exact table ⟨n, range⟩

section Continuation

variable {n : Nat}

theorem toNat_continuation (bits : n < 64) : (UInt8.ofNat (n + 0x80)).toNat = n + 0x80 :=
  UInt8.toNat_ofNat_of_lt' (by simp only [UInt8.size]; omega)

theorem isContinuation_ofNat (bits : n < 64) : isContinuation (UInt8.ofNat (n + 0x80)) = true := by
  simp only [isContinuation, within, UInt8.le_iff_toNat_le, toNat_continuation bits,
    UInt8.toNat_ofNat, Bool.and_eq_true, decide_eq_true_eq]
  omega

theorem addBits_ofNat (bits : n < 64) (front : Nat) :
    addBits front (UInt8.ofNat (n + 0x80)) = front * 64 + n := by
  have number := toNat_continuation bits
  unfold addBits
  omega

end Continuation

theorem within_iff {lo hi b : UInt8} :
    within lo hi b = true ↔ lo.toNat ≤ b.toNat ∧ b.toNat ≤ hi.toNat := by
  simp only [within, Bool.and_eq_true, decide_eq_true_eq, UInt8.le_iff_toNat_le]

theorem encodes_utf8EncodeChar (c : Char) : Encodes c (String.utf8EncodeChar c) := by
  have valid := c.valid
  have number : Char.ofNat c.toNat = c := Char.ofNat_toNat c
  have value : c.val.toNat = c.toNat := rfl
  simp only [String.utf8EncodeChar, UInt32.isValidChar, Nat.isValidChar, value] at valid ⊢
  generalize c.toNat = n at valid number
  subst number
  split
  · next small => exact .one (lead_single (by omega))
  split
  · next some small =>
    have bits : n / 64 % 32 = n / 64 := by omega
    have second : n % 64 < 64 := Nat.mod_lt n (by decide)
    have whole : n = addBits (n / 64) (UInt8.ofNat (n % 64 + 0x80)) := by
      rw [addBits_ofNat second]
      omega
    rw [bits]
    have encodes := Encodes.two (lead_two (n := n / 64) (by omega) (by omega))
      (isContinuation_ofNat second)
    rwa [← whole] at encodes
  split
  · next some small =>
    have bits : n / 4096 % 16 = n / 4096 := by omega
    have second : n / 64 % 64 < 64 := Nat.mod_lt _ (by decide)
    have third : n % 64 < 64 := Nat.mod_lt n (by decide)
    have whole : n = addBits (addBits (n / 4096) (UInt8.ofNat (n / 64 % 64 + 0x80)))
        (UInt8.ofNat (n % 64 + 0x80)) := by
      rw [addBits_ofNat second, addBits_ofNat third]
      omega
    have allowed : within (if n / 4096 = 0 then 0xA0 else 0x80) (if n / 4096 = 13 then 0x9F else 0xBF)
        (UInt8.ofNat (n / 64 % 64 + 0x80)) = true := by
      rw [within_iff, toNat_continuation second, apply_ite UInt8.toNat, apply_ite UInt8.toNat]
      simp only [UInt8.reduceToNat]
      split <;> split <;> omega
    rw [bits]
    have encodes := Encodes.three (lead_three (n := n / 4096) (by omega)) allowed
      (isContinuation_ofNat third)
    rwa [← whole] at encodes
  · next some =>
    have bits : n / 262144 % 8 = n / 262144 := by omega
    have second : n / 4096 % 64 < 64 := Nat.mod_lt _ (by decide)
    have third : n / 64 % 64 < 64 := Nat.mod_lt _ (by decide)
    have fourth : n % 64 < 64 := Nat.mod_lt n (by decide)
    have whole : n = addBits (addBits (addBits (n / 262144) (UInt8.ofNat (n / 4096 % 64 + 0x80)))
        (UInt8.ofNat (n / 64 % 64 + 0x80))) (UInt8.ofNat (n % 64 + 0x80)) := by
      rw [addBits_ofNat second, addBits_ofNat third, addBits_ofNat fourth]
      omega
    have allowed : within (if n / 262144 = 0 then 0x90 else 0x80) (if n / 262144 = 4 then 0x8F else 0xBF)
        (UInt8.ofNat (n / 4096 % 64 + 0x80)) = true := by
      rw [within_iff, toNat_continuation second, apply_ite UInt8.toNat, apply_ite UInt8.toNat]
      simp only [UInt8.reduceToNat]
      split <;> split <;> omega
    rw [bits]
    have encodes := Encodes.four (lead_four (n := n / 262144) (by omega)) allowed
      (isContinuation_ofNat third) (isContinuation_ofNat fourth)
    rwa [← whole] at encodes

/-! ## Text -/

/-- Encoded text is decoded to itself, whatever follows it. -/
theorem decodeUtf8_encode_append (cs : List Char) (rest : Bytes) :
    decodeUtf8 (encode cs ++ rest) = cs ++ decodeUtf8 rest := by
  induction cs with
  | nil => rfl
  | cons c cs ih =>
    rw [encode_cons, List.append_assoc, (encodes_utf8EncodeChar c).decodeUtf8_append, ih,
      List.cons_append]

theorem decodeUtf8_encode (cs : List Char) : decodeUtf8 (encode cs) = cs := by
  have whole := decodeUtf8_encode_append cs []
  rwa [List.append_nil, decodeUtf8, List.append_nil] at whole

theorem length_encode_le_of_isPrefix {cs ds : List Char} (front : cs <+: ds) :
    (encode cs).length ≤ (encode ds).length := by
  obtain ⟨rest, rfl⟩ := front
  rw [encode_append, List.length_append]
  exact Nat.le_add_right _ _

/-! ## Text that was cut -/

/-- `CutAt n front back`: of the text `front ++ back`, the first `n` bytes hold the characters `front`
    whole, and no more of them. -/
structure CutAt (n : Nat) (front back : List Char) : Prop where
  fits : (encode front).length ≤ n
  full : ∀ c rest, back = c :: rest → n < (encode (front ++ [c])).length

theorem exists_cutAt (n : Nat) (cs : List Char) :
    ∃ front back, cs = front ++ back ∧ CutAt n front back := by
  induction cs generalizing n with
  | nil => exact ⟨[], [], rfl, Nat.zero_le n, by simp⟩
  | cons c cs ih =>
    by_cases fits : (String.utf8EncodeChar c).length ≤ n
    · obtain ⟨front, back, rfl, cut⟩ := ih (n - (String.utf8EncodeChar c).length)
      refine ⟨c :: front, back, rfl, ?_, ?_⟩
      · have rest := cut.fits
        rw [encode_cons, List.length_append]
        omega
      · intro d rest first
        have beyond := cut.full d rest first
        rw [List.cons_append, encode_cons, List.length_append]
        omega
    · refine ⟨[], c :: cs, rfl, Nat.zero_le n, ?_⟩
      intro d rest first
      obtain ⟨rfl, rfl⟩ := List.cons.inj first
      simpa using fits

namespace CutAt

variable {n : Nat} {front back : List Char}

/-- No initial part of the text that fits is longer than the one that was kept. -/
theorem length_le (cut : CutAt n front back) {other : List Char} (part : other <+: front ++ back)
    (fits : (encode other).length ≤ n) : other.length ≤ front.length := by
  by_contra longer
  -- a longer part has the character behind the cut
  obtain ⟨c, rest, rfl⟩ : ∃ c rest, back = c :: rest := by
    cases back with
    | nil =>
      have := part.length_le
      rw [List.append_nil] at this
      exact absurd this longer
    | cons c rest => exact ⟨c, rest, rfl⟩
  have within : front ++ [c] <+: other := by
    refine List.prefix_of_prefix_length_le ⟨rest, by simp⟩ part ?_
    rw [List.length_append, List.length_singleton]
    omega
  have beyond := cut.full c rest rfl
  have kept := length_encode_le_of_isPrefix within
  omega

/-- What is left of a text that was cut: the characters that were kept, and a replacement character
    if the cut is within another one. -/
theorem decodeUtf8_take (cut : CutAt n front back) :
    decodeUtf8 ((encode (front ++ back)).take n)
      = front ++ if (encode front).length < n ∧ back ≠ [] then [replacement] else [] := by
  have fits := cut.fits
  rw [encode_append, List.take_append, List.take_of_length_le fits, decodeUtf8_encode_append]
  congr 1
  cases back with
  | nil => simp [decodeUtf8]
  | cons c rest =>
    have beyond := cut.full c rest rfl
    simp only [encode_append, encode_cons, encode_nil, List.append_nil, List.length_append] at beyond
    rw [encode_cons, List.take_append_of_le_length (by omega)]
    by_cases inside : (encode front).length < n
    · rw [(encodes_utf8EncodeChar c).decodeUtf8_take (by omega) (by omega), if_pos (by simpa using inside)]
    · have nothing : n - (encode front).length = 0 := by omega
      rw [nothing, List.take_zero, decodeUtf8, if_neg (by simpa using inside)]

/-- The cut is within the character that begins within the first `n` bytes and does not end there. -/
theorem inside_iff (cut : CutAt n front back) :
    (encode front).length < n ∧ back ≠ [] ↔ ∃ before c after, front ++ back = before ++ c :: after ∧
      (encode before).length < n ∧ n < (encode (before ++ [c])).length := by
  constructor
  · rintro ⟨short, more⟩
    obtain ⟨c, rest, rfl⟩ := List.exists_cons_of_ne_nil more
    exact ⟨front, c, rest, rfl, short, cut.full c rest rfl⟩
  · rintro ⟨before, c, after, same, short, beyond⟩
    have fits := cut.fits
    have kept : before.length ≤ front.length :=
      cut.length_le (same ▸ List.prefix_append _ _) (Nat.le_of_lt short)
    have atMost : front.length ≤ before.length := by
      by_contra longer
      have within : before ++ [c] <+: front := by
        have part : before ++ [c] <+: front ++ back := ⟨after, by simp [same]⟩
        refine List.prefix_of_prefix_length_le part (List.prefix_append _ _) ?_
        rw [List.length_append, List.length_singleton]
        omega
      have := length_encode_le_of_isPrefix within
      omega
    obtain ⟨rfl, rfl⟩ := List.append_inj same (Nat.le_antisymm atMost kept)
    exact ⟨short, List.cons_ne_nil _ _⟩

end CutAt

/-! ## The zero byte -/

/-- The character that ends a text in a field. -/
def nul : Char := Char.ofNat 0

theorem utf8EncodeChar_nul : String.utf8EncodeChar nul = [0] := rfl

theorem ne_zero_of_mem_utf8EncodeChar {c : Char} (ne : c ≠ nul) {b : UInt8}
    (hb : b ∈ String.utf8EncodeChar c) : b ≠ 0 := by
  have some : c.val.toNat ≠ 0 := by
    intro zero
    refine ne (Char.ext (UInt32.toNat_inj.1 ?_))
    rw [zero]
    rfl
  have byte {n : Nat} (low : 0 < n) (high : n < 256) : UInt8.ofNat n ≠ 0 := by
    intro zero
    have number := congrArg UInt8.toNat zero
    rw [UInt8.toNat_ofNat_of_lt' high, UInt8.toNat_zero] at number
    omega
  simp only [String.utf8EncodeChar] at hb
  split at hb
  · obtain rfl := List.mem_singleton.1 hb
    exact byte (by omega) (by omega)
  split at hb
  · simp only [List.mem_cons, List.not_mem_nil, or_false] at hb
    rcases hb with rfl | rfl <;> exact byte (by omega) (by omega)
  split at hb
  · simp only [List.mem_cons, List.not_mem_nil, or_false] at hb
    rcases hb with rfl | rfl | rfl <;> exact byte (by omega) (by omega)
  · simp only [List.mem_cons, List.not_mem_nil, or_false] at hb
    rcases hb with rfl | rfl | rfl | rfl <;> exact byte (by omega) (by omega)

/-- The bytes before the first zero byte are those of the characters before the first `nul`. -/
theorem takeWhile_encode (cs : List Char) :
    (encode cs).takeWhile (· ≠ 0) = encode (cs.takeWhile (· ≠ nul)) := by
  induction cs with
  | nil => rfl
  | cons c cs ih =>
    by_cases last : c = nul
    · subst last
      rw [encode_cons, utf8EncodeChar_nul]
      simp
    · have plain : ∀ b ∈ String.utf8EncodeChar c, decide (b ≠ 0) = true := by
        intro b hb
        exact decide_eq_true (ne_zero_of_mem_utf8EncodeChar last hb)
      rw [encode_cons, List.takeWhile_append_of_pos plain, ih, List.takeWhile_cons_of_pos (by simpa),
        encode_cons]

/-- A field holds the first `n` bytes of a text and then zeros: what is read in it are those of the
    first `n` bytes that belong to characters before the first `nul`. -/
theorem ofNulTerminated_take_append_zeros (cs : List Char) (n m : Nat) :
    ofNulTerminated ((encode cs).take n ++ Bytes.zeros m)
      = String.ofList (decodeUtf8 ((encode (cs.takeWhile (· ≠ nul))).take n)) := by
  have ends (x : Bytes) : (x ++ Bytes.zeros m).takeWhile (· ≠ 0) = x.takeWhile (· ≠ 0) := by
    rw [List.takeWhile_append]
    split
    · next whole =>
      rw [Bytes.zeros, List.takeWhile_replicate, if_neg (by simp), List.append_nil]
      exact ((List.takeWhile_prefix _).eq_of_length whole).symm
    · rfl
  rw [ofNulTerminated, ends, ← List.take_takeWhile, takeWhile_encode]

end LocalPlay.Text
