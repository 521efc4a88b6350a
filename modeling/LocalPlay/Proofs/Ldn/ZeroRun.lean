import LocalPlay.Ldn.ZeroRun

set_option autoImplicit false

/-! # Expanding what was compressed

The reader of the compressed form goes through it token by token, and takes a token only if what it
stands for still has room. So the compressed form of a row of tokens expands to what the row stands
for, if that is short enough, however long the compressed form is. The writer goes through the byte
string token by token as well (`ofBytes_cons`), but looks for room for the compressed form instead
(`compressWithin_eq`). -/

namespace LocalPlay.Ldn.ZeroRun

/-! ## Rows of tokens -/

@[simp] theorem encode_nil : encode [] = [] := rfl

@[simp] theorem encode_cons (token : Token) (row : List Token) :
    encode (token :: row) = token.toBytes ++ encode row :=
  List.flatMap_cons

@[simp] theorem expand_nil : expand [] = [] := rfl

@[simp] theorem expand_cons (token : Token) (row : List Token) :
    expand (token :: row) = token.expand ++ expand row :=
  List.flatMap_cons

/-! ## The reader -/

/-- What the reader does with the bytes of a token in front of others. -/
theorem expandWithin_toBytes_append (room : Nat) (token : Token) (rest : Bytes) :
    expandWithin room (token.toBytes ++ rest) =
      if room < token.expand.length then .error (.expandedTooLong bufferLimit)
      else (expandWithin (room - token.expand.length) rest).map (token.expand ++ ·) := by
  cases token with
  | literal b ne_zero =>
    rw [Token.toBytes, List.singleton_append, expandWithin.eq_def]
    exact if_neg ne_zero
  | zeros count =>
    rw [Token.toBytes, List.cons_append, List.singleton_append, expandWithin.eq_def]
    simp only [Token.expand, Bytes.length_zeros]
    rw [if_pos trivial]

/-- The compressed form of a row of tokens expands to what the row stands for, if there is room. -/
theorem expandWithin_encode (room : Nat) (row : List Token) :
    expandWithin room (encode row) =
      if (expand row).length ≤ room then .ok (expand row)
      else .error (.expandedTooLong bufferLimit) := by
  induction row generalizing room with
  | nil => rfl
  | cons token row ih =>
    -- the room that the first token leaves is the room that the others have
    rw [encode_cons, expandWithin_toBytes_append, ih, expand_cons, List.length_append]
    by_cases full : room < token.expand.length
    · rw [if_pos full, if_neg (by omega)]
    · rw [if_neg full]
      by_cases fits : (expand row).length ≤ room - token.expand.length
      · rw [if_pos fits, if_pos (by omega)]
        rfl
      · rw [if_neg fits, if_neg (by omega)]
        rfl

/-! ## What the reader accepts -/

theorem exists_of_map_eq_ok {ε α β : Type} {f : α → β} {x : Except ε α} {b : β}
    (mapped : x.map f = .ok b) : ∃ a, x = .ok a ∧ f a = b := by
  cases x with
  | error why => cases mapped
  | ok a => exact ⟨a, rfl, Except.ok.inj mapped⟩

/-- What the reader accepts splits into tokens. -/
theorem exists_row_of_expandWithin {room : Nat} {b expanded : Bytes}
    (read : expandWithin room b = .ok expanded) :
    ∃ row, encode row = b ∧ expand row = expanded ∧ expanded.length ≤ room := by
  fun_induction expandWithin room b generalizing expanded with
  | case1 room =>
    cases read
    exact ⟨[], rfl, rfl, Nat.zero_le _⟩
  | case2 | case3 | case5 => cases read
  | case4 room count rest size fits =>
    rename_i ih
    obtain ⟨others, rest_eq, rfl⟩ := exists_of_map_eq_ok read
    obtain ⟨row, rfl, rfl, bound⟩ := ih rest_eq
    refine ⟨.zeros count :: row, rfl, rfl, ?_⟩
    rw [List.length_append, Bytes.length_zeros]
    omega
  | case6 room b rest ne_zero fits ih =>
    obtain ⟨others, rest_eq, rfl⟩ := exists_of_map_eq_ok read
    obtain ⟨row, rfl, rfl, bound⟩ := ih rest_eq
    refine ⟨.literal b ne_zero :: row, rfl, rfl, ?_⟩
    rw [List.length_cons]
    omega

/-- The reader accepts a string if it splits into tokens and what they stand for has room. -/
theorem expandWithin_eq_ok_iff {room : Nat} {b expanded : Bytes} :
    expandWithin room b = .ok expanded ↔
      ∃ row, encode row = b ∧ expand row = expanded ∧ expanded.length ≤ room := by
  refine ⟨exists_row_of_expandWithin, ?_⟩
  rintro ⟨row, rfl, rfl, fits⟩
  rw [expandWithin_encode, if_pos fits]

/-- A string splits into tokens in at most one way. -/
theorem encode_injective {row row' : List Token} (same : encode row = encode row') :
    row = row' := by
  induction row generalizing row' with
  | nil =>
    rcases row' with _ | ⟨_ | _, row'⟩
    · rfl
    all_goals cases same
  | cons token row ih =>
    rcases row' with _ | ⟨token', row'⟩
    · cases token <;> cases same
    · -- the first byte tells what kind of token it begins
      cases token with
      | literal b ne_zero =>
        cases token' with
        | literal b' ne_zero' =>
          obtain ⟨rfl, rest⟩ := List.cons.inj same
          rw [ih rest]
        | zeros count' => exact absurd (List.cons.inj same).1 ne_zero
      | zeros count =>
        cases token' with
        | literal b' ne_zero' => exact absurd (List.cons.inj same).1.symm ne_zero'
        | zeros count' =>
          obtain ⟨rfl, rest⟩ := List.cons.inj (List.cons.inj same).2
          rw [ih rest]

/-! ## The writer -/

/-- More zeros, as long as the last token has room for them. -/
theorem foldl_push_zeros {count : UInt8} {n : Nat} (room : count.toNat + n ≤ 254)
    (row : List Token) :
    (Bytes.zeros n).foldl push (.zeros count :: row)
      = .zeros (UInt8.ofNat (count.toNat + n)) :: row := by
  induction n generalizing count with
  | zero => simp [Bytes.zeros]
  | succ n ih =>
    have below : count < fullCount := lt_fullCount_iff.2 (by omega)
    have next := toNat_add_one_of_lt below
    rw [Bytes.zeros, List.replicate_succ, List.foldl_cons, push_zero_of_lt below, ← Bytes.zeros,
      ih (by omega), next, Nat.add_right_comm, Nat.add_assoc]

theorem push_ne_nil (row : List Token) (x : UInt8) : push row x ≠ [] := by
  unfold push
  split
  · split
    · split <;> exact List.cons_ne_nil _ _
    · exact List.cons_ne_nil _ _
  · exact List.cons_ne_nil _ _

/-- Only the last token of a row matters to what is added. -/
theorem push_append {row : List Token} (begun : row ≠ []) (others : List Token) (x : UInt8) :
    push (row ++ others) x = push row x ++ others := by
  obtain ⟨token, row, rfl⟩ := List.exists_cons_of_ne_nil begun
  by_cases zero : x = 0
  · subst zero
    cases token with
    | literal b ne_zero => rfl
    | zeros count =>
      rw [List.cons_append]
      by_cases room : count < fullCount
      · rw [push_zero_of_lt room, push_zero_of_lt room, List.cons_append]
      · rw [push_zero_of_not_lt room, push_zero_of_not_lt room, List.cons_append, List.cons_append]
  · rw [push_of_ne_zero _ zero, push_of_ne_zero _ zero, List.cons_append, List.cons_append,
      List.cons_append]

theorem foldl_push_append {row : List Token} (begun : row ≠ []) (others : List Token) (b : Bytes) :
    b.foldl push (row ++ others) = b.foldl push row ++ others := by
  induction b generalizing row with
  | nil => rfl
  | cons x b ih => rw [List.foldl_cons, List.foldl_cons, push_append begun, ih (push_ne_nil row x)]

/-- If the next byte begins a token of its own, then the bytes are split as if nothing stood before
    them. -/
theorem foldl_push_of_begins {token : Token} {b : Bytes}
    (begins : ∀ x ∈ b.head?, push [token] x = push [] x ++ [token]) :
    b.foldl push [token] = b.foldl push [] ++ [token] := by
  cases b with
  | nil => rfl
  | cons x b =>
    rw [List.foldl_cons, List.foldl_cons, begins x rfl, foldl_push_append (push_ne_nil [] x)]

/-- The zeros that stand at the head of a byte string, but at most `n`, and what follows them. If a
    zero follows, then there are `n` of them. -/
theorem exists_zeros_append (n : Nat) (b : Bytes) :
    ∃ rest, b = Bytes.zeros ((b.take n).takeWhile (· = 0)).length ++ rest ∧
      ((b.take n).takeWhile (· = 0)).length ≤ n ∧
      ∀ x ∈ rest.head?, x = 0 → ((b.take n).takeWhile (· = 0)).length = n := by
  induction n generalizing b with
  | zero => exact ⟨b, by simp [Bytes.zeros]⟩
  | succ n ih =>
    cases b with
    | nil => exact ⟨[], by simp [Bytes.zeros]⟩
    | cons x b =>
      by_cases zero : x = 0
      · obtain ⟨rest, whole, most, full⟩ := ih b
        refine ⟨rest, ?_, ?_, ?_⟩
        · simpa [zero, Bytes.zeros, List.replicate_succ] using whole
        · simpa [zero] using most
        · simpa [zero] using full
      · exact ⟨x :: b, by simp [zero, Bytes.zeros]⟩

theorem ofBytes_of_foldl_push {b rest : Bytes} {token : Token}
    (split : b.foldl push [] = rest.foldl push [] ++ [token]) :
    ofBytes b = token :: ofBytes rest := by
  rw [ofBytes, split, List.reverse_append, List.reverse_singleton, List.singleton_append, ofBytes]

theorem ofBytes_cons_of_ne_zero {x : UInt8} (ne_zero : x ≠ 0) (b : Bytes) :
    ofBytes (x :: b) = .literal x ne_zero :: ofBytes b := by
  refine ofBytes_of_foldl_push ?_
  rw [List.foldl_cons, push_of_ne_zero _ ne_zero]
  refine foldl_push_of_begins ?_
  intro y _
  by_cases zero : y = 0
  · rw [zero]
    rfl
  · rw [push_of_ne_zero _ zero, push_of_ne_zero _ zero, List.singleton_append]

/-- A run that is full, or behind which there is no zero, is a token of its own. -/
theorem ofBytes_cons_zeros {n : Nat} (most : n ≤ 254) {rest : Bytes}
    (full : ∀ x ∈ rest.head?, x = 0 → n = 254) :
    ofBytes (0 :: (Bytes.zeros n ++ rest)) = .zeros (UInt8.ofNat n) :: ofBytes rest := by
  have run := @foldl_push_zeros 0 n (by simpa using most) []
  rw [UInt8.toNat_zero, Nat.zero_add] at run
  refine ofBytes_of_foldl_push ?_
  rw [List.foldl_cons, List.foldl_append]
  show rest.foldl push ((Bytes.zeros n).foldl push [.zeros 0]) = _
  rw [run]
  refine foldl_push_of_begins ?_
  intro x next
  by_cases zero : x = 0
  · have noRoom : ¬ UInt8.ofNat n < fullCount := by
      rw [full x next zero]
      decide
    rw [zero]
    exact push_zero_of_not_lt noRoom []
  · rw [push_of_ne_zero _ zero, push_of_ne_zero _ zero, List.singleton_append]

/-- A byte string is split into its first token and the tokens of what that does not stand for. -/
theorem ofBytes_cons (x : UInt8) (b : Bytes) :
    ofBytes (x :: b)
      = .first x b :: ofBytes ((x :: b).drop (Token.first x b).expand.length) := by
  by_cases zero : x = 0
  · subst zero
    obtain ⟨rest, whole, most, full⟩ := exists_zeros_append fullCount.toNat b
    have first : Token.first 0 b = .zeros (UInt8.ofNat _) := dif_pos rfl
    generalize ((b.take fullCount.toNat).takeWhile (· = 0)).length = n at whole most full first
    have count : (UInt8.ofNat n).toNat = n :=
      UInt8.toNat_ofNat_of_lt' (Nat.lt_of_le_of_lt most (by decide))
    rw [first, Token.expand, Bytes.length_zeros, count, List.drop_succ_cons, whole,
      List.drop_left' (Bytes.length_zeros n)]
    exact ofBytes_cons_zeros most full
  · have first : Token.first x b = .literal x zero := dif_neg zero
    rw [first]
    exact ofBytes_cons_of_ne_zero zero b

/-- The writer makes the compressed form of the tokens, if there is room for it. -/
theorem compressWithin_eq (room : Nat) (b : Bytes) :
    compressWithin room b =
      if (encode (ofBytes b)).length ≤ room then .ok (encode (ofBytes b))
      else .error (.compressedTooLong bufferLimit) := by
  fun_induction compressWithin room b with
  | case1 room => rfl
  | case2 room x b token full =>
    have first : Token.first x b = token := rfl
    rw [ofBytes_cons, first, encode_cons, List.length_append, if_neg (by omega)]
  | case3 room x b token fits ih =>
    have first : Token.first x b = token := rfl
    -- the room that the first token leaves is the room that the others have
    rw [ih, ofBytes_cons, first, encode_cons, List.length_append]
    by_cases left : (encode (ofBytes ((x :: b).drop token.expand.length))).length
        ≤ room - token.toBytes.length
    · rw [if_pos left, if_pos (by omega)]
      rfl
    · rw [if_neg left, if_neg (by omega)]
      rfl

/-! ## Both ways -/

theorem compress_eq (b : Bytes) :
    compress b =
      if (encode (ofBytes b)).length ≤ bufferLimit then .ok (encode (ofBytes b))
      else .error (.compressedTooLong bufferLimit) :=
  compressWithin_eq bufferLimit b

theorem eq_encode_of_compress {b packed : Bytes} (h : compress b = .ok packed) :
    packed = encode (ofBytes b) ∧ packed.length ≤ bufferLimit := by
  rw [compress_eq] at h
  split at h
  · next fits =>
    cases h
    exact ⟨rfl, fits⟩
  · cases h

theorem eq_compressedTooLong_of_compress {b : Bytes} {why : RunFault}
    (h : compress b = .error why) : why = .compressedTooLong bufferLimit := by
  rw [compress_eq] at h
  split at h
  · cases h
  · cases h
    rfl

/-- What was compressed expands to what it was, unless that is too long. -/
theorem decompress_of_compress {b packed : Bytes} (h : compress b = .ok packed) :
    decompress packed =
      if b.length ≤ bufferLimit then .ok b else .error (.expandedTooLong bufferLimit) := by
  rw [(eq_encode_of_compress h).1, decompress, expandWithin_encode, expand_ofBytes]

end LocalPlay.Ldn.ZeroRun
