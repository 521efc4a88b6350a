import LocalPlay.Proofs.Ldn.ZeroRun
import Mathlib.Data.List.Chain
import Mathlib.Data.Set.Function

set_option autoImplicit false

/-! # The canonical form of a byte string

Many rows of tokens stand for the same byte string, since a run of zeros can be cut anywhere, and
the reader takes them all. One of them is canonical: no token has more than 255 zeros, and none that
could take in one more is followed by another. A canonical row is what splitting into tokens makes
of the byte string for which it stands (`ofBytes_expand`), and splitting always makes a canonical row
(`isCanonical_ofBytes`). So compression and canonical forms determine each other
(`compress_bijOn`). -/

namespace LocalPlay.Ldn.ZeroRun

namespace Token

/-- A token of zeros has at most 255 of them. -/
def IsWithinRun : Token → Prop
  | literal _ _ => True
  | zeros count => count ≤ fullCount

/-- A token of zeros that could take in one more stands in front of no other token of zeros. -/
def MayPrecede : Token → Token → Prop
  | zeros count, zeros _ => ¬ count < fullCount
  | _, _ => True

instance (token : Token) : Decidable token.IsWithinRun :=
  match token with
  | literal _ _ => inferInstanceAs (Decidable True)
  | zeros count => inferInstanceAs (Decidable (count ≤ fullCount))

instance (token next : Token) : Decidable (token.MayPrecede next) :=
  match token, next with
  | zeros count, zeros _ => inferInstanceAs (Decidable (¬ count < fullCount))
  | zeros _, literal _ _ => inferInstanceAs (Decidable True)
  | literal _ _, _ => inferInstanceAs (Decidable True)

theorem mayPrecede_literal (token : Token) {b : UInt8} (ne_zero : b ≠ 0) :
    token.MayPrecede (literal b ne_zero) := by
  cases token <;> trivial

/-- How many zeros the second token has does not matter. -/
theorem MayPrecede.zeros {token : Token} {count : UInt8} (before : token.MayPrecede (zeros count))
    (count' : UInt8) : token.MayPrecede (zeros count') := by
  cases token <;> exact before

end Token

/-- A row of tokens in which every run of zeros takes as few tokens as there can be, each but the
    last one full. -/
structure IsCanonical (row : List Token) : Prop where
  within : ∀ token ∈ row, token.IsWithinRun
  tight : row.IsChain Token.MayPrecede

instance (row : List Token) : Decidable (IsCanonical row) :=
  decidable_of_iff ((∀ token ∈ row, token.IsWithinRun) ∧ row.IsChain Token.MayPrecede)
    ⟨fun h => ⟨h.1, h.2⟩, fun h => ⟨h.within, h.tight⟩⟩

theorem isCanonical_nil : IsCanonical [] := by
  refine ⟨?_, List.isChain_nil⟩
  intro token mem
  cases mem

theorem isCanonical_append_iff {row row' : List Token} :
    IsCanonical (row ++ row') ↔ IsCanonical row ∧ IsCanonical row' ∧
      ∀ last ∈ row.getLast?, ∀ next ∈ row'.head?, last.MayPrecede next := by
  constructor
  · rintro ⟨within, tight⟩
    obtain ⟨front, back, between⟩ := List.isChain_append.1 tight
    refine ⟨⟨?_, front⟩, ⟨?_, back⟩, between⟩
    · intro token mem
      exact within token (List.mem_append_left _ mem)
    · intro token mem
      exact within token (List.mem_append_right _ mem)
  · rintro ⟨front, back, between⟩
    refine ⟨?_, List.isChain_append.2 ⟨front.tight, back.tight, between⟩⟩
    intro token mem
    rcases List.mem_append.1 mem with mem | mem
    · exact front.within token mem
    · exact back.within token mem

theorem isCanonical_singleton_iff {token : Token} : IsCanonical [token] ↔ token.IsWithinRun := by
  refine ⟨fun canonical => canonical.within token (List.mem_singleton_self _), ?_⟩
  intro within
  refine ⟨?_, List.isChain_singleton _⟩
  intro token' mem
  rwa [List.mem_singleton.1 mem]

/-- A row whose last token comes first, as it is while it is made. -/
theorem isCanonical_reverse_cons_iff {token : Token} {row : List Token} :
    IsCanonical (token :: row).reverse ↔ IsCanonical row.reverse ∧ token.IsWithinRun ∧
      ∀ last ∈ row.head?, last.MayPrecede token := by
  rw [List.reverse_cons, isCanonical_append_iff, isCanonical_singleton_iff, List.getLast?_reverse]
  simp only [List.head?_cons, Option.mem_def, Option.some.injEq, forall_eq']

/-! ## Splitting makes a canonical row -/

/-- A zero begins a token where the last one does not take it in. -/
theorem push_zero_of_mayPrecede {row : List Token}
    (closed : ∀ last ∈ row.head?, last.MayPrecede (.zeros 0)) : push row 0 = .zeros 0 :: row := by
  rcases row with _ | ⟨_ | count, row⟩
  · rfl
  · rfl
  · exact push_zero_of_not_lt (closed _ rfl) row

/-- The last token takes in no zero, or it is a run that has room for one. -/
theorem closed_or_room (row : List Token) :
    (∀ last ∈ row.head?, last.MayPrecede (.zeros 0)) ∨
      ∃ count rest, row = .zeros count :: rest ∧ count < fullCount := by
  cases row with
  | nil => exact Or.inl fun _ mem => nomatch mem
  | cons last rest =>
    cases last with
    | literal b ne_zero => exact Or.inl fun _ mem => Option.some.inj mem ▸ trivial
    | zeros count =>
      by_cases room : count < fullCount
      · exact Or.inr ⟨count, rest, rfl, room⟩
      · exact Or.inl fun _ mem => Option.some.inj mem ▸ room

theorem isCanonical_reverse_push {row : List Token} (canonical : IsCanonical row.reverse)
    (b : UInt8) : IsCanonical (push row b).reverse := by
  by_cases zero : b = 0
  · subst zero
    rcases closed_or_room row with closed | ⟨count, rest, rfl, room⟩
    · rw [push_zero_of_mayPrecede closed]
      exact isCanonical_reverse_cons_iff.2 ⟨canonical, UInt8.zero_le, closed⟩
    · -- the run stays behind what it was behind
      obtain ⟨others, -, behind⟩ := isCanonical_reverse_cons_iff.1 canonical
      have within : (count + 1).toNat ≤ fullCount.toNat := by
        rw [toNat_add_one_of_lt room]
        exact lt_fullCount_iff.1 room
      rw [push_zero_of_lt room]
      exact isCanonical_reverse_cons_iff.2
        ⟨others, UInt8.le_iff_toNat_le.2 within, fun last mem => (behind last mem).zeros _⟩
  · rw [push_of_ne_zero row zero]
    exact isCanonical_reverse_cons_iff.2
      ⟨canonical, trivial, fun last _ => last.mayPrecede_literal zero⟩

theorem isCanonical_reverse_foldl_push (b : Bytes) {row : List Token}
    (canonical : IsCanonical row.reverse) : IsCanonical (b.foldl push row).reverse := by
  induction b generalizing row with
  | nil => exact canonical
  | cons x b ih => exact ih (isCanonical_reverse_push canonical x)

/-- Splitting into tokens makes a canonical row. -/
theorem isCanonical_ofBytes (b : Bytes) : IsCanonical (ofBytes b) :=
  isCanonical_reverse_foldl_push b isCanonical_nil

/-! ## Splitting finds the canonical row -/

/-- Only a token of zeros stands for something that begins with a zero. -/
theorem exists_zeros_of_head?_expand {row : List Token} (zero : (expand row).head? = some 0) :
    ∃ count others, row = .zeros count :: others := by
  cases row with
  | nil => cases zero
  | cons token others =>
    cases token with
    | literal b ne_zero => exact absurd (Option.some.inj zero) ne_zero
    | zeros count => exact ⟨count, others, rfl⟩

/-- A canonical row is what splitting makes of the byte string for which it stands. -/
theorem ofBytes_expand {row : List Token} (canonical : IsCanonical row) :
    ofBytes (expand row) = row := by
  induction row with
  | nil => rfl
  | cons token row ih =>
    have split : IsCanonical ([token] ++ row) := canonical
    obtain ⟨first, others, between⟩ := isCanonical_append_iff.1 split
    rw [isCanonical_singleton_iff] at first
    cases token with
    | literal b ne_zero =>
      have begins : ofBytes (b :: expand row) = .literal b ne_zero :: ofBytes (expand row) :=
        ofBytes_cons_of_ne_zero ne_zero _
      rw [ih others] at begins
      exact begins
    | zeros count =>
      have most : count.toNat ≤ 254 := UInt8.le_iff_toNat_le.1 first
      have full : ∀ x ∈ (expand row).head?, x = 0 → count.toNat = 254 := by
        rintro x next rfl
        obtain ⟨count', rest, rfl⟩ := exists_zeros_of_head?_expand next
        have noRoom : ¬ count < fullCount := between _ rfl _ rfl
        rw [lt_fullCount_iff] at noRoom
        omega
      have begins := ofBytes_cons_zeros most full
      rw [UInt8.ofNat_toNat, ih others] at begins
      exact begins

/-! ## Both ways -/

theorem compress_expand {row : List Token} (canonical : IsCanonical row)
    (short : (encode row).length ≤ bufferLimit) : compress (expand row) = .ok (encode row) := by
  rw [compress_eq, ofBytes_expand canonical, if_pos short]

/-- **Compression and canonical forms determine each other.** Whatever compression returns is the
    form of a canonical row. The form of a canonical row expands to what the row stands for, and that
    is compressed to this form again, if neither has more than 2048 bytes. So among the strings that
    are within the limits on both sides compression is a bijection onto the canonical forms. -/
theorem compress_bijOn :
    (∀ b packed, compress b = .ok packed → ∃ row, IsCanonical row ∧ encode row = packed) ∧
    (∀ row, IsCanonical row → (encode row).length ≤ 2048 → (expand row).length ≤ 2048 →
      decompress (encode row) = .ok (expand row) ∧
        compress (expand row) = .ok (encode row)) ∧
    Set.BijOn compress
      {b | b.length ≤ 2048 ∧ ∃ packed, compress b = .ok packed}
      {answer | ∃ row, IsCanonical row ∧ (encode row).length ≤ 2048 ∧
        (expand row).length ≤ 2048 ∧ answer = .ok (encode row)} := by
  refine ⟨?made, ?back, ?into, ?apart, ?all⟩
  case made =>
    intro b packed packs
    exact ⟨ofBytes b, isCanonical_ofBytes b, (eq_encode_of_compress packs).1.symm⟩
  case back =>
    intro row canonical short fits
    refine ⟨?_, compress_expand canonical short⟩
    rw [decompress, expandWithin_encode]
    exact if_pos fits
  case into =>
    rintro b ⟨fits, packed, packs⟩
    obtain ⟨rfl, short⟩ := eq_encode_of_compress packs
    refine ⟨ofBytes b, isCanonical_ofBytes b, short, ?_, packs⟩
    rwa [expand_ofBytes]
  case apart =>
    -- the form of a string says what the string is
    rintro b ⟨-, packed, packs⟩ b' ⟨-, packed', packs'⟩ same
    have form := (eq_encode_of_compress packs).1
    have form' := (eq_encode_of_compress packs').1
    have packed_eq : packed = packed' := Except.ok.inj (packs.symm.trans (same.trans packs'))
    have row_eq : ofBytes b = ofBytes b' :=
      encode_injective (form.symm.trans (packed_eq.trans form'))
    rw [← expand_ofBytes b, row_eq, expand_ofBytes]
  case all =>
    rintro _ ⟨row, canonical, short, fits, rfl⟩
    have packs := compress_expand canonical short
    exact ⟨expand row, ⟨fits, encode row, packs⟩, packs⟩

/-- Three hundred zeros have one form that compression makes. The reader also takes a token of 256
    zeros, and a run that is cut in the wrong place, but compression makes neither. -/
theorem compress_bijOn_longRun :
    (decompress [0, 254, 0, 44] = .ok (Bytes.zeros 300) ∧
      compress (Bytes.zeros 300) = .ok [0, 254, 0, 44]) ∧
    (∀ b, compress b ≠ .ok [0, 255, 0, 43]) ∧ ∀ b, compress b ≠ .ok [0, 44, 0, 254] := by
  obtain ⟨made, back, -⟩ := compress_bijOn
  have refused (row : List Token) (loose : ¬ IsCanonical row) (b : Bytes) :
      compress b ≠ .ok (encode row) := by
    intro packs
    obtain ⟨row', canonical, same⟩ := made b _ packs
    exact loose (encode_injective same ▸ canonical)
  have both := back [.zeros 254, .zeros 44] (by decide) (by decide) (by decide +kernel)
  have run : expand [.zeros 254, .zeros 44] = Bytes.zeros 300 := by decide +kernel
  rw [run] at both
  exact ⟨both, refused [.zeros 255, .zeros 43] (by decide),
    refused [.zeros 44, .zeros 254] (by decide)⟩

end LocalPlay.Ldn.ZeroRun
