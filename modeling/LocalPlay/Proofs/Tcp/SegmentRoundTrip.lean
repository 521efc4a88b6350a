import LocalPlay.Proofs.Bytes
import LocalPlay.Proofs.Internet.Checksum
import LocalPlay.Tcp.Segment

set_option autoImplicit false

/-! # Segments that were made here are read back

The options of a draft stand in the header in whole words of four bytes (`Draft.length_optionArea`),
at most ten of them, so that the four bits for the length of the header always hold it
(`Draft.headerLength_toBytes`). What is written is read back as it was given
(`segment_read_back`). -/

namespace LocalPlay.Tcp

namespace Draft

variable (d : Draft) (src dst : IpAddress)

/-! ## The layout -/

/-- How many bytes of the options are sent. -/
def keptOptions : Nat := min d.options.length optionsLimit

/-- The options that are sent take whole words of four bytes. -/
theorem length_optionArea : d.optionArea.length = 4 * ((d.keptOptions + 3) / 4) := by
  rw [optionArea, Bytes.length_fit, List.length_take, keptOptions, Nat.min_comm, Nat.mul_comm]

theorem length_optionArea_le : d.optionArea.length ≤ optionsLimit := by
  have kept : d.keptOptions ≤ optionsLimit := Nat.min_le_right ..
  rw [length_optionArea]
  simp only [optionsLimit] at kept ⊢
  omega

/-- The options come first, then zeros up to the next whole word. -/
theorem optionArea_eq : d.optionArea = d.options.take optionsLimit
    ++ Bytes.zeros (4 * ((d.keptOptions + 3) / 4) - d.keptOptions) := by
  have length : (d.options.take optionsLimit).length = d.keptOptions := by
    rw [List.length_take, keptOptions, Nat.min_comm]
  have whole : d.keptOptions ≤ (d.keptOptions + 3) / 4 * 4 := by omega
  have all : (d.options.take optionsLimit).take ((d.keptOptions + 3) / 4 * 4)
      = d.options.take optionsLimit := List.take_of_length_le (length ▸ whole)
  simp only [optionArea, Bytes.fit, length, all, Nat.mul_comm 4]

@[simp] theorem length_front : d.front.length = 16 := by
  simp [front]

/-- The header without its options. -/
def bareHeader : Bytes :=
  d.front ++ Bytes.be16 (checksum src dst (d.front ++ [0, 0] ++ d.back)) ++ [0, 0]

@[simp] theorem length_bareHeader : (d.bareHeader src dst).length = headerSize := by
  simp [bareHeader, headerSize]

theorem toBytes_eq :
    d.toBytes src dst = d.bareHeader src dst ++ (d.optionArea ++ d.payload) := by
  simp only [toBytes, bareHeader, back, List.append_assoc]

@[simp] theorem length_toBytes :
    (d.toBytes src dst).length = headerSize + (d.optionArea.length + d.payload.length) := by
  rw [toBytes_eq, List.length_append, List.length_append, length_bareHeader]

/-! ## Reading -/

/-- The length of the header, as its four bits declare it. -/
theorem headerLength_toBytes :
    ((d.toBytes src dst).byteAt 12).toNat / 16 * 4 = headerSize + d.optionArea.length := by
  have offset : (d.toBytes src dst).byteAt 12
      = UInt8.ofNat ((headerSize + d.optionArea.length) / 4 * 16) := rfl
  have short := d.length_optionArea_le
  have words := d.length_optionArea
  rw [offset, UInt8.toNat_ofNat']
  simp only [headerSize, optionsLimit] at short ⊢
  omega

/-- The segment that a draft describes. -/
def segment : Segment where
  srcPort := d.srcPort
  dstPort := d.dstPort
  seq := d.seq
  ack := d.ack
  flags := d.flags
  window := d.window
  checksum := checksum src dst (d.front ++ [0, 0] ++ d.back)
  options := d.optionArea
  payload := d.payload

/-- A segment that was written is read back. -/
theorem parse_toBytes : Segment.parse (d.toBytes src dst) = .ok (d.segment src dst) := by
  have srcPort : (d.toBytes src dst).be16At 0 = d.srcPort := Bytes.be16At_of_field rfl
  have dstPort : (d.toBytes src dst).be16At 2 = d.dstPort := Bytes.be16At_of_field rfl
  have seq : (d.toBytes src dst).be32At 4 = d.seq := Bytes.be32At_of_field rfl
  have ack : (d.toBytes src dst).be32At 8 = d.ack := Bytes.be32At_of_field rfl
  have flags : Flags.ofByte ((d.toBytes src dst).byteAt 13) = d.flags := Flags.ofByte_toByte _
  have window : (d.toBytes src dst).be16At 14 = d.window := Bytes.be16At_of_field rfl
  have checksum : (d.toBytes src dst).be16At 16 = (d.segment src dst).checksum :=
    Bytes.be16At_of_field rfl
  have options : (d.toBytes src dst).field headerSize d.optionArea.length = d.optionArea := by
    rw [toBytes_eq, Bytes.field_append_of_le (Nat.le_of_eq (d.length_bareHeader src dst)),
      length_bareHeader, Nat.sub_self, Bytes.field_append_of_length rfl]
  have payload : (d.toBytes src dst).drop (headerSize + d.optionArea.length) = d.payload := by
    rw [toBytes_eq, ← List.append_assoc]
    exact List.drop_left' (by rw [List.length_append, length_bareHeader])
  simp only [Segment.parse, headerLength_toBytes, length_toBytes, Nat.add_sub_cancel_left]
  rw [if_neg (by omega), if_neg (by omega), if_neg (by omega), srcPort, dstPort, seq, ack, flags,
    window, checksum, options, payload]
  rfl

/-- The checksum that is written holds. -/
theorem verifies_toBytes (fits : headerSize + d.optionArea.length + d.payload.length ≤ 65535) :
    Verifies src dst (d.toBytes src dst) := by
  refine Internet.pseudoChecksum_stamped (by rw [length_front]) ?_ (Or.inl rfl)
  simp only [length_front, back, List.length_append, List.length_cons, List.length_nil, headerSize]
    at fits ⊢
  omega

end Draft

/-- **What was sent is what is read.** Whatever the options are, a segment that is not longer than a
    packet can declare is read back with the ports, the numbers, the flags, the window and the
    payload that it was given. Its header has the first 40 bytes of the options, filled up with
    zeros to whole words, and its checksum holds. -/
theorem segment_read_back (d : Draft) (src dst : IpAddress)
    (fits : headerSize + 4 * ((d.keptOptions + 3) / 4) + d.payload.length ≤ 65535) :
    ∃ s, Segment.parse (d.toBytes src dst) = .ok s ∧
      s.srcPort = d.srcPort ∧ s.dstPort = d.dstPort ∧ s.seq = d.seq ∧ s.ack = d.ack ∧
      s.flags = d.flags ∧ s.window = d.window ∧ s.payload = d.payload ∧
      s.headerLength = headerSize + 4 * ((d.keptOptions + 3) / 4) ∧
      s.options = d.options.take optionsLimit
        ++ Bytes.zeros (4 * ((d.keptOptions + 3) / 4) - d.keptOptions) ∧
      Verifies src dst (d.toBytes src dst) := by
  refine ⟨d.segment src dst, d.parse_toBytes src dst, rfl, rfl, rfl, rfl, rfl, rfl, rfl, ?_,
    d.optionArea_eq, ?_⟩
  · rw [Segment.headerLength, ← d.length_optionArea]
    rfl
  · rw [← d.length_optionArea] at fits
    exact d.verifies_toBytes src dst fits

/-- A segment with 43 bytes of options and an odd number of bytes of payload. -/
def crowded : Draft where
  srcPort := 49152
  dstPort := 80
  seq := 0xFFFFFFFF
  flags := { syn := true, urg := true }
  options := Bytes.zeros 38 ++ [2, 4, 5, 180, 1]
  payload := [0x68, 0x69, 0x21]

/-- The last three bytes of the options are left out, and the header is as long as one can be. -/
theorem segment_read_back_crowded :
    headerSize + 4 * ((crowded.keptOptions + 3) / 4) + crowded.payload.length ≤ 65535 ∧
      ∃ s, Segment.parse (crowded.toBytes ⟨0x0A0D0002⟩ ⟨0x0A0D2501⟩) = .ok s ∧
        s.headerLength = 60 ∧ s.options = Bytes.zeros 38 ++ [2, 4] ∧ s.payload = crowded.payload ∧
        Verifies ⟨0x0A0D0002⟩ ⟨0x0A0D2501⟩ (crowded.toBytes ⟨0x0A0D0002⟩ ⟨0x0A0D2501⟩) := by
  have fits : headerSize + 4 * ((crowded.keptOptions + 3) / 4) + crowded.payload.length ≤ 65535 := by
    decide
  obtain ⟨s, parsed, -, -, -, -, -, -, payload, length, options, verifies⟩ :=
    segment_read_back crowded ⟨0x0A0D0002⟩ ⟨0x0A0D2501⟩ fits
  exact ⟨fits, s, parsed, length, options, payload, verifies⟩

end LocalPlay.Tcp
