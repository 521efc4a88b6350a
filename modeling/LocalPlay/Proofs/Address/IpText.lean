import LocalPlay.Address.Ip
import LocalPlay.Proofs.Bytes
import LocalPlay.Proofs.Text.Decimal
import Mathlib.Data.List.Basic

set_option autoImplicit false

/-! # Internet addresses as text

What is printed of an address or of an endpoint is read back. -/

namespace LocalPlay

namespace IpAddress

/-! ## Pieces -/

theorem pieces_eq_splitOn (sep : Char) (s : List Char) : pieces sep s = s.splitOn sep := by
  induction s with
  | nil => rfl
  | cons c s ih =>
    rw [List.splitOn_eq_splitOnP] at ih ⊢
    rw [pieces, ih, List.splitOnP_cons_eq_if_modifyHead]
    by_cases same : c = sep
    · rw [if_pos same, if_pos (beq_iff_eq.2 same)]
    · rw [if_neg same, if_neg (mt beq_iff_eq.1 same)]
      obtain ⟨piece, others, split⟩ := List.exists_cons_of_ne_nil
        (List.splitOnP_ne_nil (fun c => c == sep) s)
      rw [split]
      rfl

/-- What was joined is taken apart, if the separator stands in none of the parts. -/
theorem pieces_intercalate {sep : Char} {parts : List (List Char)}
    (apart : ∀ part ∈ parts, sep ∉ part) (nonempty : parts ≠ []) :
    pieces sep ([sep].intercalate parts) = parts := by
  rw [pieces_eq_splitOn, List.splitOn_intercalate sep apart nonempty]

theorem forall_mem_intercalate {P : Char → Prop} {joint : List Char} {parts : List (List Char)}
    (inJoint : ∀ c ∈ joint, P c) (inParts : ∀ part ∈ parts, ∀ c ∈ part, P c) :
    ∀ c ∈ joint.intercalate parts, P c := by
  induction parts with
  | nil => simp
  | cons part parts ih =>
    cases parts with
    | nil => simpa using inParts
    | cons next parts =>
      intro c mem
      simp only [List.intercalate_cons_cons, List.mem_append] at mem
      rcases mem with (here | between) | later
      · exact inParts part List.mem_cons_self c here
      · exact inJoint c between
      · exact ih (fun part mem => inParts part (List.mem_cons_of_mem _ mem)) c later

/-! ## Addresses -/

theorem octet?_digits (b : UInt8) : octet? (Text.digits b.toNat) = some b := by
  have small := b.toNat_lt
  have short : (Text.digits b.toNat).length ≤ 3 :=
    Text.length_digits_le (Nat.lt_trans small (by decide))
  rw [octet?, if_pos ⟨short, Text.no_leading_zero _⟩, Text.ofDigits?_digits, Option.bind_some,
    if_pos small, UInt8.ofNat_toNat]

/-- No separator is a digit. -/
theorem notMem_digits {sep : Char} (other : ∀ d : Fin 10, Text.digitChar d ≠ sep) (n : Nat) :
    sep ∉ Text.digits n := by
  intro mem
  exact Text.forall_mem_digits (P := (· ≠ sep)) other n sep mem rfl

theorem colon_notMem_toChars (ip : IpAddress) : ':' ∉ ip.toChars := by
  have other : ∀ c ∈ ip.toChars, c ≠ ':' := by
    refine forall_mem_intercalate (by simp) ?_
    intro part mem
    obtain ⟨b, -, rfl⟩ := List.mem_map.1 mem
    exact Text.forall_mem_digits (by decide) b.toNat
  exact fun mem => other _ mem rfl

theorem ofChars?_toChars (ip : IpAddress) : ofChars? ip.toChars = some ip := by
  have apart : ∀ part ∈ ip.toBytes.map fun b => Text.digits b.toNat, '.' ∉ part := by
    intro part mem
    obtain ⟨b, -, rfl⟩ := List.mem_map.1 mem
    exact notMem_digits (by decide) b.toNat
  obtain ⟨a, b, c, d, bytes⟩ : ∃ a b c d, ip.toBytes = [a, b, c, d] := ⟨_, _, _, _, rfl⟩
  have whole : ofOctets a b c d = ip := by
    have fits : ip.bits.toNat % Bytes.capacity 4 = ip.bits.toNat :=
      Nat.mod_eq_of_lt ip.bits.toNat_lt
    rw [ofOctets, ← bytes, toBytes, Bytes.be32, Bytes.toNatBE_ofNatBE, fits, UInt32.ofNat_toNat]
  have split : pieces '.' ip.toChars = [a, b, c, d].map fun b => Text.digits b.toNat := by
    rw [toChars, pieces_intercalate apart (by simp [bytes]), bytes]
  simp only [ofChars?, split, List.map_cons, List.map_nil, octet?_digits]
  exact congrArg some whole

@[simp] theorem ofString?_toString (ip : IpAddress) : ofString? (toString ip) = some ip := by
  have printed : (toString ip).toList = ip.toChars := String.toList_ofList
  rw [ofString?, printed, ofChars?_toChars]

end IpAddress

namespace Endpoint

theorem port?_digits (port : UInt16) : port? (Text.digits port.toNat) = some port := by
  rw [port?, Text.ofDigits?_digits, Option.bind_some, if_pos port.toNat_lt, UInt16.ofNat_toNat]

theorem ofChars?_toChars (p : Endpoint) : ofChars? p.toChars = some p := by
  have split : IpAddress.pieces ':' p.toChars = [p.ip.toChars, Text.digits p.port.toNat] := by
    have joined : p.toChars = [':'].intercalate [p.ip.toChars, Text.digits p.port.toNat] := by
      rw [List.intercalate_cons_cons, List.intercalate_singleton, List.append_assoc]
      rfl
    rw [joined, IpAddress.pieces_intercalate ?_ (by simp)]
    intro part mem
    rcases List.mem_pair.1 mem with rfl | rfl
    · exact p.ip.colon_notMem_toChars
    · exact IpAddress.notMem_digits (by decide) p.port.toNat
  simp only [ofChars?, split, IpAddress.ofChars?_toChars, port?_digits]
  rfl

@[simp] theorem ofString?_toString (p : Endpoint) : ofString? (toString p) = some p := by
  have printed : (toString p).toList = p.toChars := String.toList_ofList
  rw [ofString?, printed, ofChars?_toChars]

end Endpoint

end LocalPlay
