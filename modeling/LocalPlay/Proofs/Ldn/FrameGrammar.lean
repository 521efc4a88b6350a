import LocalPlay.Ldn.Frame
import LocalPlay.Proofs.Bytes
import LocalPlay.Proofs.Ldn.ZeroRun

set_option autoImplicit false

/-! # Which strings are frames

A reader of frames meets whatever a datagram carries. `Frame.Declares` says what it accepts without
mentioning how it reads: a whole header that begins with the mark, the body that the header
declares, and, if the body is said to be compressed, a split of it into tokens that stand for no
more bytes than there is room for. Nothing else counts: not the two unused bytes, not what follows
the body, and not the length that the sender claims for the expanded body, which is passed on as it
came. -/

namespace LocalPlay

namespace Bytes

variable {b c : Bytes} {i n k : Nat}

/-- Strings that begin alike have the same fields there. -/
theorem field_eq_of_take (same : c.take k = b.take k) (inside : i + n ≤ k) :
    c.field i n = b.field i n := by
  have cut (x : Bytes) : x.field i n = field (x.take k) i n := by
    rw [field, field, List.drop_take, List.take_take, Nat.min_eq_left (by omega)]
  rw [cut c, cut b, same]

theorem byteAt_eq_of_take (same : c.take k = b.take k) (inside : i < k) :
    c.byteAt i = b.byteAt i := by
  have cut (x : Bytes) : x.byteAt i = byteAt (x.take k) i := by
    simp [byteAt, List.getD_eq_getElem?_getD, inside]
  rw [cut c, cut b, same]

theorem le16At_eq_of_take (same : c.take k = b.take k) (inside : i + 2 ≤ k) :
    c.le16At i = b.le16At i := by
  rw [le16At, field_eq_of_take same inside, le16At]

theorem le32At_eq_of_take (same : c.take k = b.take k) (inside : i + 4 ≤ k) :
    c.le32At i = b.le32At i := by
  rw [le32At, field_eq_of_take same inside, le32At]

/-- Strings that end alike have the same fields there. -/
theorem field_eq_of_drop (same : c.drop i = b.drop i) (n : Nat) : c.field i n = b.field i n := by
  rw [field, same, field]

end Bytes

namespace Ldn.Frame

variable {b c : Bytes} {f : Frame}

/-- The length that the header declares for the body. -/
def declaredLength (b : Bytes) : Nat := (b.le16At 6).toNat

/-- The body that the header declares. -/
def declaredBody (b : Bytes) : Bytes := b.field headerSize (declaredLength b)

/-- The header is whole, begins with the mark, and declares a body that is there. -/
structure Declares (b : Bytes) : Prop where
  header : headerSize ≤ b.length
  mark : b.le32At 0 = Ldn.mark
  body : headerSize + declaredLength b ≤ b.length

/-- A body that is said to be compressed splits into tokens, and what they stand for has room. -/
def Expandable (b : Bytes) : Prop :=
  b.byteAt 5 = 1 → 0 < declaredLength b →
    ∃ row, ZeroRun.encode row = declaredBody b ∧
      (ZeroRun.expand row).length ≤ ZeroRun.bufferLimit

/-! ## What is accepted -/

/-- What the reader makes of a string whose header and body are there. -/
theorem parse_of_declares (declares : Declares b) :
    parse b = match expandBody (b.byteAt 5 == 1) (declaredBody b) with
      | .error why => .error (.runs why)
      | .ok payload => .ok {
          kind := b.byteAt 4
          compressed := b.byteAt 5 == 1
          length := b.le16At 6
          expandedLength := b.le16At 8
          payload := payload } :=
  (if_neg (Nat.not_lt.2 declares.header)).trans
    ((if_neg (Decidable.not_not.2 declares.mark)).trans (if_neg (Nat.not_lt.2 declares.body)))

theorem declares_of_parse (read : parse b = .ok f) : Declares b := by
  simp only [parse] at read
  split at read
  · cases read
  next header =>
  split at read
  · cases read
  next mark =>
  split at read
  · cases read
  next body =>
  exact ⟨Nat.not_lt.1 header, Decidable.not_not.1 mark, Nat.not_lt.1 body⟩

/-- Which bodies can be expanded, and to what. A body that is not compressed stands for itself. -/
theorem expandBody_eq_ok_iff {compressed : Bool} {body payload : Bytes} :
    expandBody compressed body = .ok payload ↔
      (compressed = false ∧ payload = body) ∨
      (compressed = true ∧ ∃ row, ZeroRun.encode row = body ∧ ZeroRun.expand row = payload ∧
        payload.length ≤ ZeroRun.bufferLimit) := by
  cases compressed with
  | false => simp [expandBody, eq_comm]
  | true => simp [expandBody, ZeroRun.decompress, ZeroRun.expandWithin_eq_ok_iff]

/-- What a frame that was read holds. -/
theorem parse_eq_ok_iff : parse b = .ok f ↔ Declares b ∧
    expandBody (b.byteAt 5 == 1) (declaredBody b) = .ok f.payload ∧
    f.kind = b.byteAt 4 ∧ f.compressed = (b.byteAt 5 == 1) ∧ f.length = b.le16At 6 ∧
    f.expandedLength = b.le16At 8 := by
  constructor
  · intro read
    have declares := declares_of_parse read
    rw [parse_of_declares declares] at read
    split at read
    · cases read
    · next payload expanded =>
      cases read
      exact ⟨declares, expanded, rfl, rfl, rfl, rfl⟩
  · rintro ⟨declares, expanded, kind, compressed, length, expandedLength⟩
    rw [parse_of_declares declares, expanded, ← kind, ← compressed, ← length, ← expandedLength]

theorem exists_parse_iff : (∃ f, parse b = .ok f) ↔ Declares b ∧ Expandable b := by
  constructor
  · rintro ⟨f, read⟩
    obtain ⟨declares, expanded, -⟩ := parse_eq_ok_iff.1 read
    refine ⟨declares, fun flag _ => ?_⟩
    rcases expandBody_eq_ok_iff.1 expanded with ⟨plain, -⟩ | ⟨-, row, split, stands, fits⟩
    · simp [flag] at plain
    · exact ⟨row, split, stands ▸ fits⟩
  · rintro ⟨declares, expandable⟩
    have expands : ∃ payload, expandBody (b.byteAt 5 == 1) (declaredBody b) = .ok payload := by
      by_cases flag : b.byteAt 5 = 1
      · rcases Nat.eq_zero_or_pos (declaredLength b) with empty | pos
        · -- an empty body is a row of no tokens
          have nothing : declaredBody b = [] := by
            rw [declaredBody, empty, Bytes.field, List.take_zero]
          rw [nothing, flag]
          exact ⟨[], rfl⟩
        · obtain ⟨row, split, fits⟩ := expandable flag pos
          exact ⟨_, expandBody_eq_ok_iff.2 (Or.inr ⟨by simpa using flag, row, split, rfl, fits⟩)⟩
      · exact ⟨_, expandBody_eq_ok_iff.2 (Or.inl ⟨by simpa using flag, rfl⟩)⟩
    obtain ⟨payload, expanded⟩ := expands
    exact ⟨⟨_, _, _, _, payload⟩, parse_eq_ok_iff.2 ⟨declares, expanded, rfl, rfl, rfl, rfl⟩⟩

/-! ## What does not count -/

/-- What follows the declared body does not count. -/
theorem parse_append (header : headerSize ≤ b.length)
    (body : headerSize + declaredLength b ≤ b.length) (rest : Bytes) :
    parse (b ++ rest) = parse b := by
  have front : (b ++ rest).take headerSize = b.take headerSize :=
    List.take_append_of_le_length header
  have length : (b ++ rest).le16At 6 = b.le16At 6 := Bytes.le16At_eq_of_take front (by decide)
  have body' : headerSize + (b.le16At 6).toNat ≤ b.length := body
  simp only [parse, length, Bytes.le32At_eq_of_take front (show 0 + 4 ≤ headerSize by decide),
    Bytes.byteAt_eq_of_take front (show 4 < headerSize by decide),
    Bytes.byteAt_eq_of_take front (show 5 < headerSize by decide),
    Bytes.le16At_eq_of_take front (show 8 + 2 ≤ headerSize by decide),
    Bytes.field_append body', List.length_append]
  rw [if_neg (show ¬ b.length + rest.length < headerSize by omega),
    if_neg (show ¬ b.length < headerSize by omega),
    if_neg (show ¬ b.length + rest.length < headerSize + (b.le16At 6).toNat by omega),
    if_neg (show ¬ b.length < headerSize + (b.le16At 6).toNat by omega)]

/-- Of the bytes behind the declared length of the body and in front of the body, only the length
    before compression is passed on. -/
theorem parse_eq_map (length : c.length = b.length) (front : c.take 8 = b.take 8)
    (back : c.drop headerSize = b.drop headerSize) :
    parse c = (parse b).map fun f => { f with expandedLength := c.le16At 8 } := by
  have declared : c.le16At 6 = b.le16At 6 := Bytes.le16At_eq_of_take front (by decide)
  simp only [parse, length, declared, Bytes.le32At_eq_of_take front (show 0 + 4 ≤ 8 by decide),
    Bytes.byteAt_eq_of_take front (show 4 < 8 by decide),
    Bytes.byteAt_eq_of_take front (show 5 < 8 by decide), Bytes.field_eq_of_drop back]
  split
  · rfl
  split
  · rfl
  split
  · rfl
  split <;> rfl

/-- **A string is read as a frame exactly if it has the form of one.** The frame that is read holds
    what the header says, and as its payload the body, or what the tokens of a compressed body stand
    for, in the one way in which it splits into tokens. Neither the two unused bytes nor what follows
    the body count for anything, and a wrong length before compression is passed on as it is. -/
theorem parse_form (b : Bytes) :
    ((∃ f, parse b = .ok f) ↔ Declares b ∧ Expandable b) ∧
    (∀ f, parse b = .ok f →
      (f.kind = b.byteAt 4 ∧ f.length = b.le16At 6 ∧ f.expandedLength = b.le16At 8 ∧
        (f.compressed ↔ b.byteAt 5 = 1)) ∧
      (b.byteAt 5 ≠ 1 → f.payload = declaredBody b) ∧
      (b.byteAt 5 = 1 → ∃ row, ZeroRun.encode row = declaredBody b ∧
        f.payload = ZeroRun.expand row ∧
        ∀ row', ZeroRun.encode row' = declaredBody b → row' = row)) ∧
    (∀ c, c.length = b.length → c.take 10 = b.take 10 → c.drop 12 = b.drop 12 →
      parse c = parse b) ∧
    (headerSize + declaredLength b ≤ b.length →
      ∀ rest, parse (b.take (headerSize + declaredLength b) ++ rest) = parse b) ∧
    ∀ c, c.length = b.length → c.take 8 = b.take 8 → c.drop 10 = b.drop 10 →
      parse c = (parse b).map fun f => { f with expandedLength := c.le16At 8 } := by
  refine ⟨exists_parse_iff, fun f read => ?_, fun c length front back => ?_, fun body rest => ?_,
    fun c length front back => ?_⟩
  · obtain ⟨-, expanded, kind, compressed, size, expandedLength⟩ := parse_eq_ok_iff.1 read
    refine ⟨⟨kind, size, expandedLength, by simp [compressed]⟩, fun plain => ?_, fun flag => ?_⟩
    · rcases expandBody_eq_ok_iff.1 expanded with ⟨-, same⟩ | ⟨packed, -⟩
      · exact same
      · exact absurd (eq_of_beq packed) plain
    · rcases expandBody_eq_ok_iff.1 expanded with ⟨plain, -⟩ | ⟨-, row, split, stands, -⟩
      · simp [flag] at plain
      · refine ⟨row, split, stands.symm, fun row' split' => ?_⟩
        exact ZeroRun.encode_injective (split'.trans split.symm)
  · have front' : c.take 8 = b.take 8 := by
      have cut := congrArg (List.take 8) front
      rwa [List.take_take, List.take_take] at cut
    have claimed : c.le16At 8 = b.le16At 8 := Bytes.le16At_eq_of_take front (by decide)
    rw [parse_eq_map length front' back, claimed]
    -- the length that is passed on is the one that was read
    cases read : parse b with
    | error why => rfl
    | ok f =>
      obtain ⟨-, -, -, -, -, expandedLength⟩ := parse_eq_ok_iff.1 read
      rw [← expandedLength]
      rfl
  · have cut : (b.take (headerSize + declaredLength b)).length = headerSize + declaredLength b :=
      List.length_take_of_le body
    have declared : declaredLength (b.take (headerSize + declaredLength b)) = declaredLength b := by
      have front : (b.take (headerSize + declaredLength b)).take headerSize = b.take headerSize := by
        rw [List.take_take, Nat.min_eq_left (Nat.le_add_right ..)]
      exact congrArg UInt16.toNat (Bytes.le16At_eq_of_take front (by decide))
    have follows (rest : Bytes) := parse_append (b := b.take (headerSize + declaredLength b))
      (by omega) (by omega) rest
    rw [follows rest, ← follows (b.drop (headerSize + declaredLength b)), List.take_append_drop]
  · refine parse_eq_map length front ?_
    have cut := congrArg (List.drop 2) back
    rwa [List.drop_drop, List.drop_drop] at cut

/-- A compressed frame that claims a wrong length, has something in the unused bytes, and is followed
    by more. -/
def mislabelled : Bytes :=
  [0x00, 0x14, 0x45, 0x11, 3, 1, 4, 0, 99, 0, 0xAA, 0xBB, 9, 0, 2, 7, 0xEE]

theorem parse_form_mislabelled :
    (∃ f, parse mislabelled = .ok f ∧ f.payload = [9, 0, 0, 0, 7] ∧ f.expandedLength = 99) ∧
      parse (mislabelled.take 10 ++ [0, 0] ++ mislabelled.drop 12) = parse mislabelled ∧
      parse (mislabelled.take 16) = parse mislabelled ∧
      parse (mislabelled.take 8 ++ [5, 0] ++ mislabelled.drop 10)
        = (parse mislabelled).map fun f => { f with expandedLength := 5 } := by
  obtain ⟨accepted, held, unused, follows, claims⟩ := parse_form mislabelled
  have split : ZeroRun.encode [.literal 9 (by decide), .zeros 2, .literal 7 (by decide)]
      = declaredBody mislabelled := rfl
  obtain ⟨f, read⟩ := accepted.2 ⟨⟨by decide, by decide, by decide⟩, fun _ _ => ⟨_, split, by decide⟩⟩
  obtain ⟨⟨-, -, claimed, -⟩, -, compressed⟩ := held f read
  obtain ⟨row, -, payload, only⟩ := compressed rfl
  refine ⟨⟨f, read, ?_, claimed⟩, unused _ rfl rfl rfl, ?_, claims _ rfl rfl rfl⟩
  · rw [payload, ← only _ split]
    rfl
  · have alone := follows (by decide) []
    rwa [List.append_nil] at alone

end Ldn.Frame

end LocalPlay
