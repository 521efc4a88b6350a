import LocalPlay.Proofs.Ldn.NodeRoundTrip
import LocalPlay.Proofs.Text.Utf8

set_option autoImplicit false

/-! # Names of players

The field for a name holds as many bytes of it as leave room for a zero byte. Bytes know nothing of
characters: the last one that is kept may be the first of several (`CutInside`), and a `nul` in the
name ends it early. What is shown is the longest initial part of the name that was kept whole
(`IsShown`), with one replacement character for a character that was cut. -/

namespace LocalPlay.Ldn

/-- How many bytes of a name are kept. -/
def nameLimit : Nat := nameSize - 1

/-- `IsShown name shown`: of the initial parts of a name that can be kept whole and that no `nul`
    ends, `shown` is the longest. -/
structure IsShown (name shown : List Char) : Prop where
  isPrefix : shown <+: name
  fits : (Text.encode shown).length ≤ nameLimit
  noNul : Text.nul ∉ shown
  longest : ∀ other, other <+: name → (Text.encode other).length ≤ nameLimit → Text.nul ∉ other →
    other.length ≤ shown.length

/-- A character of the name is kept in part, and no `nul` stands before it. -/
def CutInside (name : List Char) : Prop :=
  ∃ before c after, name = before ++ c :: after ∧ Text.nul ∉ before ∧
    (Text.encode before).length < nameLimit ∧ nameLimit < (Text.encode (before ++ [c])).length

/-- Thirty-one bytes leave room for one of the three that a euro sign takes. -/
example : CutInside (List.replicate 31 'x' ++ ['€']) :=
  ⟨List.replicate 31 'x', '€', [], rfl, by decide, by decide, by decide⟩

/-! ## Up to the first `nul` -/

section FirstNul

variable {name : List Char}

theorem nul_notMem_takeWhile (name : List Char) : Text.nul ∉ name.takeWhile (· ≠ Text.nul) := by
  intro mem
  simpa using List.mem_takeWhile_imp mem

/-- An initial part without `nul` ends before the first one. -/
theorem isPrefix_takeWhile {part : List Char} (isPrefix : part <+: name) (noNul : Text.nul ∉ part) :
    part <+: name.takeWhile (· ≠ Text.nul) := by
  obtain ⟨rest, rfl⟩ := isPrefix
  have plain : ∀ c ∈ part, decide (c ≠ Text.nul) = true := by
    intro c mem
    refine decide_eq_true ?_
    rintro rfl
    exact noNul mem
  rw [List.takeWhile_append_of_pos plain]
  exact List.prefix_append _ _

theorem isShown_iff {shown : List Char} :
    IsShown name shown ↔ IsShown (name.takeWhile (· ≠ Text.nul)) shown := by
  have front : name.takeWhile (· ≠ Text.nul) <+: name := List.takeWhile_prefix _
  constructor
  · rintro ⟨isPrefix, fits, noNul, longest⟩
    refine ⟨isPrefix_takeWhile isPrefix noNul, fits, noNul, ?_⟩
    intro other part
    exact longest other (part.trans front)
  · rintro ⟨isPrefix, fits, noNul, longest⟩
    refine ⟨isPrefix.trans front, fits, noNul, ?_⟩
    intro other part fits noNul
    exact longest other (isPrefix_takeWhile part noNul) fits noNul

/-- A character that is kept in part takes more than one byte, so it is no `nul`. -/
theorem cutInside_iff : CutInside name ↔ ∃ before c after,
    name.takeWhile (· ≠ Text.nul) = before ++ c :: after ∧
      (Text.encode before).length < nameLimit ∧
        nameLimit < (Text.encode (before ++ [c])).length := by
  constructor
  · rintro ⟨before, c, after, rfl, noNul, short, beyond⟩
    have ne : c ≠ Text.nul := by
      rintro rfl
      rw [Text.encode_append, List.length_append] at beyond
      have one : (Text.encode [Text.nul]).length = 1 := rfl
      omega
    have isPrefix : before ++ [c] <+: before ++ c :: after := ⟨after, by simp⟩
    obtain ⟨rest, split⟩ := isPrefix_takeWhile isPrefix (by simp [noNul, ne.symm])
    refine ⟨before, c, rest, ?_, short, beyond⟩
    rw [← split, List.append_assoc, List.singleton_append]
  · rintro ⟨before, c, after, split, short, beyond⟩
    obtain ⟨rest, whole⟩ : name.takeWhile (· ≠ Text.nul) <+: name := List.takeWhile_prefix _
    refine ⟨before, c, after ++ rest, ?_, ?_, short, beyond⟩
    · rw [← whole, split, List.append_assoc, List.cons_append]
    · intro mem
      refine nul_notMem_takeWhile name ?_
      rw [split]
      exact List.mem_append_left _ mem

end FirstNul

/-! ## The field -/

namespace Node

theorem bytes_setUserName (n : Node) (name : String) :
    (n.setUserName name).userNameField.bytes
      = (Text.utf8 name).take nameLimit
        ++ Bytes.zeros (nameSize - min nameLimit (Text.utf8 name).length) := by
  have short : ((Text.utf8 name).take nameLimit).length = min nameLimit (Text.utf8 name).length :=
    List.length_take
  show Bytes.fit ((Text.utf8 name).take nameLimit) nameSize = _
  rw [Bytes.fit, short, List.take_of_length_le]
  rw [short, nameLimit]
  omega

/-- All that is left of a row of names is the last one. -/
theorem foldl_setUserName (n : Node) (names : List String) (name : String) :
    (names ++ [name]).foldl setUserName n = n.setUserName name := by
  induction names generalizing n with
  | nil => rfl
  | cons first names ih =>
    rw [List.cons_append, List.foldl_cons, ih]
    rfl

/-- What is shown of a name. -/
theorem exists_userName (n : Node) (name : String) :
    ∃ shown, IsShown name.toList shown ∧
      (CutInside name.toList →
        (n.setUserName name).userName = String.ofList (shown ++ [Text.replacement])) ∧
      (¬ CutInside name.toList → (n.setUserName name).userName = String.ofList shown) := by
  obtain ⟨front, back, split, cut⟩ :=
    Text.exists_cutAt nameLimit (name.toList.takeWhile (· ≠ Text.nul))
  have read : (n.setUserName name).userName
      = String.ofList (front ++ if (Text.encode front).length < nameLimit ∧ back ≠ []
          then [Text.replacement] else []) := by
    rw [userName, bytes_setUserName, Text.utf8_eq, Text.ofNulTerminated_take_append_zeros, split,
      cut.decodeUtf8_take]
  rw [cutInside_iff, split, ← cut.inside_iff]
  refine ⟨front, isShown_iff.2 ?_, ?_, ?_⟩
  · rw [split]
    refine ⟨List.prefix_append _ _, cut.fits, ?_, fun other part fits _ => cut.length_le part fits⟩
    intro mem
    refine nul_notMem_takeWhile name.toList ?_
    rw [split]
    exact List.mem_append_left _ mem
  · intro inside
    rw [read, if_pos inside]
  · intro outside
    rw [read, if_neg outside, List.append_nil]

/-- A name that fits and has no `nul` comes back. -/
theorem userName_setUserName (n : Node) {name : String}
    (fits : (Text.utf8 name).length ≤ nameLimit) (noNul : Text.nul ∉ name.toList) :
    (n.setUserName name).userName = name := by
  have whole : name.toList.takeWhile (· ≠ Text.nul) = name.toList := by
    refine List.takeWhile_eq_self_iff.2 ?_
    intro c mem
    refine decide_eq_true ?_
    rintro rfl
    exact noNul mem
  rw [Text.utf8_eq] at fits
  rw [userName, bytes_setUserName, Text.utf8_eq, Text.ofNulTerminated_take_append_zeros, whole,
    List.take_of_length_le fits, Text.decodeUtf8_encode, String.ofList_toList]

/-- **What becomes of a name.** After a row of names the field depends on the last one only: it holds
    the bytes of that name that are kept, and zeros, at least one of them; and the node is read back
    from its record with it. What is shown is the longest initial part of the name that was kept whole
    and that no `nul` ends, with one replacement character behind it if a character was kept in part
    and no `nul` stands before it. So a name that fits and has no `nul` is shown as it is. -/
theorem userName_of_renamed (n : Node) (earlier : List String) (name : String) :
    let renamed := (earlier ++ [name]).foldl setUserName n
    renamed.userNameField.bytes = (Text.utf8 name).take nameLimit
        ++ Bytes.zeros (nameSize - min nameLimit (Text.utf8 name).length) ∧
      Bytes.byteAt renamed.userNameField.bytes nameLimit = 0 ∧
      parse renamed.toBytes = .ok renamed ∧
      (∃ shown, IsShown name.toList shown ∧
        (CutInside name.toList →
          renamed.userName = String.ofList (shown ++ [Text.replacement])) ∧
        (¬ CutInside name.toList → renamed.userName = String.ofList shown)) ∧
      ((Text.utf8 name).length ≤ nameLimit → Text.nul ∉ name.toList → renamed.userName = name) := by
  intro renamed
  have last : renamed = n.setUserName name := foldl_setUserName n earlier name
  rw [last]
  refine ⟨n.bytes_setUserName name, ?_, parse_toBytes _, n.exists_userName name,
    n.userName_setUserName⟩
  rw [bytes_setUserName, Bytes.byteAt, List.getD_eq_getElem?_getD,
    List.getElem?_append_right (by rw [List.length_take]; omega), Bytes.zeros,
    List.getElem?_replicate]
  split <;> rfl

end Node

end LocalPlay.Ldn
