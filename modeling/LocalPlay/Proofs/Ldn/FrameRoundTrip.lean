import LocalPlay.Ldn.Frame
import LocalPlay.Proofs.Ldn.ZeroRun

set_option autoImplicit false

/-! # Reading a frame that was written

The header of a frame reads back as it was written, as long as the length of the body fits into its
16 bits. Whether the payload comes back as well depends on its body. The writer compresses whatever
has a short compressed form, and the reader refuses whatever has a long expanded form: these are not
the same payloads. -/

namespace LocalPlay.Ldn

/-! ## The header -/

/-- A word that was written where it is read. -/
theorem le16At_of_field {b : Bytes} {i n : Nat} (written : b.field i 2 = Bytes.ofNatLE 2 n) :
    b.le16At i = UInt16.ofNat n := by
  rw [Bytes.le16At, written, Bytes.toNatLE_ofNatLE]
  exact UInt16.ofNat_mod_size

section Header

variable (kind : Kind) (compressed : Bool) (length expandedLength : Nat) (body : Bytes)

theorem length_header : (header kind compressed length expandedLength).length = headerSize := rfl

theorem le32At_header :
    (header kind compressed length expandedLength ++ body).le32At 0 = mark := by
  have written : (header kind compressed length expandedLength ++ body).field 0 4
      = Bytes.le32 mark := rfl
  rw [Bytes.le32At, written]
  decide

theorem byteAt_header_kind :
    (header kind compressed length expandedLength ++ body).byteAt 4 = kind.code := rfl

theorem byteAt_header_compressed :
    ((header kind compressed length expandedLength ++ body).byteAt 5 == 1) = compressed := by
  cases compressed <;> rfl

theorem le16At_header_length :
    (header kind compressed length expandedLength ++ body).le16At 6 = UInt16.ofNat length :=
  le16At_of_field rfl

theorem le16At_header_expandedLength :
    (header kind compressed length expandedLength ++ body).le16At 8
      = UInt16.ofNat expandedLength :=
  le16At_of_field rfl

theorem field_header_body :
    (header kind compressed length expandedLength ++ body).field headerSize body.length = body :=
  List.take_length

end Header

/-- A frame reads back as it was written, except that the reader expands its body. -/
theorem parse_header_append (kind : Kind) (compressed : Bool) (expandedLength : Nat)
    (body : Bytes) (size : body.length ≤ 65535) :
    Frame.parse (header kind compressed body.length expandedLength ++ body) =
      match Frame.expandBody compressed body with
      | .error why => .error (.runs why)
      | .ok payload => .ok {
          kind := kind.code
          compressed := compressed
          length := UInt16.ofNat body.length
          expandedLength := UInt16.ofNat expandedLength
          payload := payload } := by
  have length : (UInt16.ofNat body.length).toNat = body.length :=
    UInt16.toNat_ofNat_of_lt' (Nat.lt_succ_of_le size)
  simp only [Frame.parse, List.length_append, length_header, le32At_header, le16At_header_length,
    le16At_header_expandedLength, byteAt_header_kind, byteAt_header_compressed, length,
    field_header_body]
  exact (if_neg (by omega)).trans ((if_neg (by simp)).trans (if_neg (by omega)))

/-! ## The payload -/

/-- Whether the reader of a frame gets the kind and the payload that its writer was given. -/
def RoundTrips (kind : Kind) (payload : Bytes) : Prop :=
  ∃ f, Frame.parse (encode kind payload) = .ok f ∧ f.kind? = some kind ∧ f.payload = payload

theorem RoundTrips.of_parse {kind : Kind} {payload : Bytes} {f : Frame}
    (read : Frame.parse (encode kind payload) = .ok f) (code : f.kind = kind.code)
    (same : f.payload = payload) : RoundTrips kind payload :=
  ⟨f, read, by rw [Frame.kind?, code, Kind.ofCode?_code], same⟩

theorem shorterForm?_eq_some {payload packed : Bytes} :
    shorterForm? payload = some packed ↔
      ZeroRun.compress payload = .ok packed ∧ packed.length < payload.length := by
  unfold shorterForm?
  split
  · next packed' packs =>
    rw [packs, Option.ite_none_right_eq_some, Option.some.injEq, Except.ok.injEq, and_comm]
    exact and_congr_right fun h => by rw [h]
  · next why fails => simp [fails]

/-- A payload above the limit is sent as it is only if its compressed form is above it, too. -/
theorem compress_of_shorterForm?_eq_none {payload : Bytes} (plain : shorterForm? payload = none)
    (long : ZeroRun.bufferLimit < payload.length) :
    ZeroRun.compress payload = .error (.compressedTooLong ZeroRun.bufferLimit) := by
  cases packs : ZeroRun.compress payload with
  | error why => rw [ZeroRun.eq_compressedTooLong_of_compress packs]
  | ok packed =>
    have bound := (ZeroRun.eq_encode_of_compress packs).2
    rw [shorterForm?_eq_some.2 ⟨packs, by omega⟩] at plain
    cases plain

theorem roundTrips_of_shorterForm?_eq_none {payload : Bytes} (kind : Kind)
    (size : payload.length ≤ 65535) (plain : shorterForm? payload = none) :
    RoundTrips kind payload := by
  have read := parse_header_append kind false 0 payload size
  have written : encode kind payload = header kind false payload.length 0 ++ payload := by
    rw [encode, plain]
  rw [← written] at read
  exact .of_parse read rfl rfl

/-- What the reader makes of a frame whose body was compressed. -/
theorem parse_encode_of_shorterForm? {payload packed : Bytes} (kind : Kind)
    (size : payload.length ≤ 65535) (packs : shorterForm? payload = some packed) :
    Frame.parse (encode kind payload) =
      if payload.length ≤ ZeroRun.bufferLimit then .ok {
        kind := kind.code
        compressed := true
        length := UInt16.ofNat packed.length
        expandedLength := UInt16.ofNat payload.length
        payload := payload }
      else .error (.runs (.expandedTooLong ZeroRun.bufferLimit)) := by
  obtain ⟨packed_eq, shorter⟩ := shorterForm?_eq_some.1 packs
  have size' : packed.length ≤ 65535 := by omega
  have written : encode kind payload = header kind true packed.length payload.length ++ packed := by
    rw [encode, packs]
  have expanded : Frame.expandBody true packed = _ := ZeroRun.decompress_of_compress packed_eq
  rw [written, parse_header_append kind true payload.length packed size', expanded]
  by_cases short : payload.length ≤ ZeroRun.bufferLimit
  · simp only [if_pos short]
  · simp only [if_neg short]

/-- A payload within the limit of the reader comes back, whether it is compressed or not. -/
theorem roundTrips_of_le {payload : Bytes} (kind : Kind)
    (short : payload.length ≤ ZeroRun.bufferLimit) : RoundTrips kind payload := by
  have size : payload.length ≤ 65535 := Nat.le_trans short (by decide)
  cases packs : shorterForm? payload with
  | none => exact roundTrips_of_shorterForm?_eq_none kind size packs
  | some packed =>
    have read := parse_encode_of_shorterForm? kind size packs
    rw [if_pos short] at read
    exact .of_parse read rfl rfl

/-- **When a payload comes back.** It does if it is within the limit of the reader, or so far from
    it that the writer does not compress it. Otherwise the reader refuses the frame. -/
theorem roundTrips_iff_and_refused (kind : Kind) (payload : Bytes)
    (size : payload.length ≤ 65535) :
    (RoundTrips kind payload ↔ payload.length ≤ ZeroRun.bufferLimit ∨
      ZeroRun.compress payload = .error (.compressedTooLong ZeroRun.bufferLimit)) ∧
    (¬ RoundTrips kind payload → Frame.parse (encode kind payload) =
      .error (.runs (.expandedTooLong ZeroRun.bufferLimit))) := by
  cases packs : shorterForm? payload with
  | none =>
    have comesBack := roundTrips_of_shorterForm?_eq_none kind size packs
    refine ⟨iff_of_true comesBack ?_, fun lost => absurd comesBack lost⟩
    by_cases short : payload.length ≤ ZeroRun.bufferLimit
    · exact Or.inl short
    · exact Or.inr (compress_of_shorterForm?_eq_none packs (Nat.lt_of_not_le short))
  | some packed =>
    have read := parse_encode_of_shorterForm? kind size packs
    by_cases short : payload.length ≤ ZeroRun.bufferLimit
    · rw [if_pos short] at read
      have comesBack : RoundTrips kind payload := .of_parse read rfl rfl
      exact ⟨iff_of_true comesBack (Or.inl short), fun lost => absurd comesBack lost⟩
    · -- whatever has a short compressed form is sent compressed, however long it is
      rw [if_neg short] at read
      refine ⟨iff_of_false ?_ ?_, fun _ => read⟩
      · rintro ⟨f, read', -⟩
        rw [read] at read'
        cases read'
      · rintro (short' | fails)
        · exact short short'
        · rw [(shorterForm?_eq_some.1 packs).1] at fails
          cases fails

/-- Zeros that the writer compresses to eighteen bytes and the reader has no room for. -/
def longZeros : Bytes := Bytes.zeros 2049

theorem length_longZeros : longZeros.length = 2049 := Bytes.length_zeros 2049

theorem shorterForm?_longZeros :
    shorterForm? longZeros = some (ZeroRun.encode (ZeroRun.ofBytes longZeros)) := by
  have length : (ZeroRun.encode (ZeroRun.ofBytes longZeros)).length = 18 := by decide +kernel
  rw [shorterForm?_eq_some, ZeroRun.compress_eq, length, length_longZeros, if_pos (by decide)]
  exact ⟨rfl, by decide⟩

theorem roundTrips_and_refused_longZeros :
    RoundTrips .scanResponse [1, 0, 0, 0, 2] ∧
      Frame.parse (encode .scan longZeros) =
        .error (.runs (.expandedTooLong ZeroRun.bufferLimit)) := by
  obtain ⟨short, -⟩ := roundTrips_iff_and_refused .scanResponse [1, 0, 0, 0, 2] (by decide)
  obtain ⟨long, refused⟩ :=
    roundTrips_iff_and_refused .scan longZeros (by rw [length_longZeros]; decide)
  refine ⟨short.2 (Or.inl (by decide)), refused (mt long.1 ?_)⟩
  rw [(shorterForm?_eq_some.1 shorterForm?_longZeros).1, length_longZeros]
  simp [ZeroRun.bufferLimit]

theorem not_forall_roundTrips :
    ¬ ∀ kind payload, payload.length ≤ 65535 → RoundTrips kind payload := by
  intro h
  have size : longZeros.length ≤ 65535 := by rw [length_longZeros]; decide
  obtain ⟨f, read, -⟩ := h .scan longZeros size
  rw [parse_encode_of_shorterForm? .scan size shorterForm?_longZeros, length_longZeros,
    if_neg (by decide)] at read
  cases read

end LocalPlay.Ldn
