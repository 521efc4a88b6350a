import LocalPlay.Internet.Echo
import LocalPlay.Proofs.Bytes
import LocalPlay.Proofs.Internet.Checksum

set_option autoImplicit false

/-! # Echo messages that were made here are read back

Every string of at least eight bytes is an echo message, and reading and writing undo each other
(`Echo.parse_eq_ok_iff`). A message that was made here verifies, unless it is longer than any
packet. -/

namespace LocalPlay.Internet.Echo

variable {b : Bytes} {m : Echo}

@[simp] theorem length_toBytes (m : Echo) : m.toBytes.length = headerSize + m.payload.length := by
  simp only [toBytes, List.length_append, Bytes.length_be16, List.length_cons, List.length_nil,
    headerSize]

theorem exists_parse (long : headerSize ≤ b.length) : ∃ m, parse b = .ok m :=
  ⟨_, if_neg (Nat.not_lt.2 long)⟩

/-- A message that was written is read back. -/
theorem parse_toBytes (m : Echo) : parse m.toBytes = .ok m := by
  have long : ¬ m.toBytes.length < headerSize := by
    rw [length_toBytes]
    omega
  have checksum : m.toBytes.be16At 2 = m.checksum := Bytes.be16At_of_field rfl
  have identifier : m.toBytes.be16At 4 = m.identifier := Bytes.be16At_of_field rfl
  have sequence : m.toBytes.be16At 6 = m.sequence := Bytes.be16At_of_field rfl
  rw [parse, if_neg long, checksum, identifier, sequence]
  rfl

/-- The fields of a message, written side by side, are the bytes that they were read from. -/
theorem toBytes_fields (long : headerSize ≤ b.length) :
    toBytes ⟨b.byteAt 0, b.byteAt 1, b.be16At 2, b.be16At 4, b.be16At 6, b.drop headerSize⟩ = b := by
  have long : 8 ≤ b.length := long
  have octets : [b.byteAt 0, b.byteAt 1] = b.field 0 2 := Bytes.pair_byteAt (by omega)
  have sum : b.field 0 2 ++ b.field 2 2 = b.field 0 4 := Bytes.field_append_field ..
  have identifier : b.field 0 4 ++ b.field 4 2 = b.field 0 6 := Bytes.field_append_field ..
  have header : b.field 0 6 ++ b.field 6 2 = b.take 8 := Bytes.field_append_field ..
  rw [toBytes, octets, Bytes.be16_be16At (by omega), Bytes.be16_be16At (by omega),
    Bytes.be16_be16At long, sum, identifier, header, headerSize, List.take_append_drop]

/-- The bytes of a message are the only ones that it is read from. -/
theorem parse_eq_ok_iff : parse b = .ok m ↔ b = m.toBytes := by
  constructor
  · intro parsed
    unfold parse at parsed
    split at parsed
    · cases parsed
    next long =>
    cases parsed
    exact (toBytes_fields (Nat.le_of_not_lt long)).symm
  · rintro rfl
    exact parse_toBytes m

/-- The checksum of a message that was made here holds. -/
theorem verifies_message (kind : EchoKind) (identifier sequence : UInt16) {payload : Bytes}
    (short : headerSize + payload.length ≤ 131072) :
    (message kind identifier sequence payload).Verifies := by
  -- the checksum is written where two zeros stood, behind the kind and the code
  let front : Bytes := [kind.code, 0]
  let back := Bytes.be16 identifier ++ Bytes.be16 sequence ++ payload
  have blank : toBytes ⟨kind.code, 0, 0, identifier, sequence, payload⟩ = front ++ [0, 0] ++ back := by
    rw [← Bytes.be16_zero]
    simp [toBytes, front, back]
  have stamped : (message kind identifier sequence payload).toBytes
      = front ++ Bytes.be16 (Internet.checksum (front ++ [0, 0] ++ back)) ++ back := by
    rw [← blank]
    simp [toBytes, message, front, back]
  have size : front.length = 2 := rfl
  have sum : Internet.checksum (message kind identifier sequence payload).toBytes = 0 := by
    rw [stamped]
    refine checksum_stamped (by rw [size]) ?_ (Or.inl rfl)
    simp only [size, back, headerSize, List.length_append, Bytes.length_be16] at short ⊢
    omega
  exact sum

end LocalPlay.Internet.Echo
