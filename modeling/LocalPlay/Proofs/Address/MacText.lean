import LocalPlay.Address.Mac
import Mathlib.Data.List.Flatten
import Mathlib.Data.List.Forall2

set_option autoImplicit false

/-! # Which texts are hardware addresses

A hardware address is written as six pairs of digits, joined by colons, by dashes or by nothing
(`MacAddress.Spells`). The reader takes every such text for the address that it spells, and so it
reads back what is printed, but it takes more: it counts separators without looking where they stand
or whether they are alike, and it takes a plus sign for the first digit of a pair. Nothing else is
amiss with a text that it accepts (`MacAddress.spells_iff`). -/

namespace LocalPlay

/-! ## Digits -/

namespace Text

/-- The digits in base sixteen, of either case, and their values. -/
def IsHexDigit (c : Char) (value : Nat) : Prop :=
  value < 16 ∧ (c = digitChar value ∨ c = (digitChar value).toUpper)

instance (c : Char) (value : Nat) : Decidable (IsHexDigit c value) :=
  inferInstanceAs (Decidable (_ ∧ _))

theorem hexDigit?_of_isHexDigit {c : Char} {value : Nat} (digit : IsHexDigit c value) :
    hexDigit? c = some value := by
  have upper : ∀ value : Fin 16, hexDigit? (digitChar value).toUpper = some value.val := by decide
  obtain ⟨small, rfl | rfl⟩ := digit
  · exact hexDigit?_digitChar small
  · exact upper ⟨value, small⟩

/-- There is no digit outside ASCII. -/
theorem toNat_lt_of_hexDigit? {c : Char} {value : Nat} (digit : hexDigit? c = some value) :
    c.toNat < 128 := by
  have bound {limit : Char} (h : c ≤ limit) (ascii : limit.toNat < 128) : c.toNat < 128 :=
    Nat.lt_of_le_of_lt h ascii
  unfold hexDigit? at digit
  split at digit
  · next range => exact bound range.2 (by decide)
  · split at digit
    · next range => exact bound range.2 (by decide)
    · split at digit
      · next range => exact bound range.2 (by decide)
      · cases digit

theorem isHexDigit_of_hexDigit? {c : Char} {value : Nat} (digit : hexDigit? c = some value) :
    IsHexDigit c value := by
  have table : ∀ code : Fin 128, ∀ value ∈ hexDigit? (Char.ofNat code),
      IsHexDigit (Char.ofNat code) value := by decide
  have ascii := toNat_lt_of_hexDigit? digit
  have found := table ⟨c.toNat, ascii⟩ value
  rw [Char.ofNat_toNat] at found
  exact found digit

theorem hexDigit?_eq_some_iff {c : Char} {value : Nat} :
    hexDigit? c = some value ↔ IsHexDigit c value :=
  ⟨isHexDigit_of_hexDigit?, hexDigit?_of_isHexDigit⟩

theorem not_isHexDigit_plus (value : Nat) : ¬ IsHexDigit '+' value := by
  rw [← hexDigit?_eq_some_iff]
  exact Option.some_ne_none value ∘ Eq.symm

/-- A digit is no separator. -/
theorem IsHexDigit.not_isSeparator {c : Char} {value : Nat} (digit : IsHexDigit c value) :
    MacAddress.isSeparator c = false := by
  have lower : ∀ value : Fin 16, MacAddress.isSeparator (digitChar value) = false := by decide
  have upper : ∀ value : Fin 16, MacAddress.isSeparator (digitChar value).toUpper = false := by
    decide
  obtain ⟨small, rfl | rfl⟩ := digit
  · exact lower ⟨value, small⟩
  · exact upper ⟨value, small⟩

end Text

namespace MacAddress

/-! ## Written forms -/

/-- A pair of digits and the octet that it spells. -/
def SpellsOctet (pair : List Char) (b : UInt8) : Prop :=
  ∃ c d high low, pair = [c, d] ∧ Text.IsHexDigit c high ∧ Text.IsHexDigit d low ∧
    b.toNat = 16 * high + low

/-- What may stand between the pairs of digits of an address. -/
def joints : List (List Char) := [[':'], ['-'], []]

/-- A text is written as an address: six pairs of digits, joined alike. -/
def Spells (s : List Char) (m : MacAddress) : Prop :=
  ∃ joint ∈ joints, ∃ pairs, s = joint.intercalate pairs ∧ List.Forall₂ SpellsOctet pairs m.toBytes

theorem spellsOctet_octetText (b : UInt8) : SpellsOctet (octetText b) b := by
  have small := b.toNat_lt
  refine ⟨_, _, b.toNat / 16, b.toNat % 16, rfl, ⟨?_, Or.inl rfl⟩, ⟨?_, Or.inl rfl⟩, ?_⟩
  · omega
  · omega
  · omega

/-- What is printed is written as an address. -/
theorem spells_toChars (m : MacAddress) : Spells m.toChars m := by
  refine ⟨[':'], List.mem_cons_self, m.toBytes.map octetText, rfl, ?_⟩
  rw [List.forall₂_map_left_iff, List.forall₂_same]
  intro b _
  exact spellsOctet_octetText b

/-! ## The reader -/

/-- What the reader takes for the text of an octet: a pair of digits, or a plus sign and a digit. -/
def ReadsOctet (pair : List Char) (b : UInt8) : Prop :=
  SpellsOctet pair b ∨ ∃ d, pair = ['+', d] ∧ Text.IsHexDigit d b.toNat

/-- What the reader accepts: six octets in a row once the separators, none or five in number, have
    been taken out. -/
def Accepts (s : List Char) (m : MacAddress) : Prop :=
  ((s.filter isSeparator).length = 0 ∨ (s.filter isSeparator).length = 5) ∧
    ∃ pairs, s.filter (fun c => !isSeparator c) = pairs.flatten ∧
      List.Forall₂ ReadsOctet pairs m.toBytes

theorem octet?_plus_eq_some_iff {d : Char} {b : UInt8} :
    octet? '+' d = some b ↔ Text.IsHexDigit d b.toNat := by
  have read : octet? '+' d = (Text.hexDigit? d).map UInt8.ofNat := rfl
  rw [read, Option.map_eq_some_iff]
  constructor
  · rintro ⟨value, digit, rfl⟩
    have spelled := Text.hexDigit?_eq_some_iff.1 digit
    rwa [UInt8.toNat_ofNat_of_lt' (Nat.lt_trans spelled.1 (by decide))]
  · intro digit
    exact ⟨_, Text.hexDigit?_eq_some_iff.2 digit, UInt8.ofNat_toNat⟩

theorem octet?_eq_some_iff_spellsOctet {c d : Char} {b : UInt8} (noPlus : c ≠ '+') :
    octet? c d = some b ↔ SpellsOctet [c, d] b := by
  have read : octet? c d = (Text.hexDigit? c).bind fun high =>
      (Text.hexDigit? d).bind fun low => some (UInt8.ofNat (16 * high + low)) := if_neg noPlus
  simp only [read, Option.bind_eq_some_iff, Option.some.injEq, Text.hexDigit?_eq_some_iff]
  constructor
  · rintro ⟨high, digit, low, digit', rfl⟩
    refine ⟨c, d, high, low, rfl, digit, digit', UInt8.toNat_ofNat_of_lt' ?_⟩
    have small := digit.1
    have small' := digit'.1
    show 16 * high + low < 256
    omega
  · rintro ⟨c, d, high, low, same, digit, digit', value⟩
    cases same
    refine ⟨high, digit, low, digit', ?_⟩
    rw [← value, UInt8.ofNat_toNat]

theorem octet?_eq_some_iff {c d : Char} {b : UInt8} :
    octet? c d = some b ↔ ReadsOctet [c, d] b := by
  by_cases plus : c = '+'
  · subst plus
    rw [octet?_plus_eq_some_iff]
    constructor
    · intro digit
      exact Or.inr ⟨d, rfl, digit⟩
    · rintro (⟨c, d, high, low, same, digit, -⟩ | ⟨d, same, digit⟩)
      · cases same
        exact absurd digit (Text.not_isHexDigit_plus high)
      · cases same
        exact digit
  · rw [octet?_eq_some_iff_spellsOctet plus]
    constructor
    · exact Or.inl
    · rintro (spells | ⟨d, same, -⟩)
      · exact spells
      · exact absurd (List.cons.inj same).1 plus

theorem ReadsOctet.exists_octet? {pair : List Char} {b : UInt8} (reads : ReadsOctet pair b) :
    ∃ c d, pair = [c, d] ∧ octet? c d = some b := by
  obtain ⟨c, d, rfl⟩ : ∃ c d, pair = [c, d] := by
    rcases reads with ⟨c, d, -, -, rfl, -⟩ | ⟨d, rfl, -⟩
    · exact ⟨c, d, rfl⟩
    · exact ⟨'+', d, rfl⟩
  exact ⟨c, d, rfl, octet?_eq_some_iff.2 reads⟩

theorem accepts_of_ofChars? {s : List Char} {m : MacAddress} (read : ofChars? s = some m) :
    Accepts s m := by
  simp only [ofChars?] at read
  split at read
  next counted =>
    split at read
    next digits =>
      simp only [Option.bind_eq_bind, Option.bind_eq_some_iff, Option.pure_def,
        Option.some.injEq, octet?_eq_some_iff] at read
      obtain ⟨o₁, h₁, o₂, h₂, o₃, h₃, o₄, h₄, o₅, h₅, o₆, h₆, rfl⟩ := read
      exact ⟨counted, [[_, _], [_, _], [_, _], [_, _], [_, _], [_, _]], digits,
        .cons h₁ (.cons h₂ (.cons h₃ (.cons h₄ (.cons h₅ (.cons h₆ .nil)))))⟩
    next => cases read
  next => cases read

theorem ofChars?_of_accepts {s : List Char} {m : MacAddress} (accepts : Accepts s m) :
    ofChars? s = some m := by
  obtain ⟨counted, pairs, digits, octets⟩ := accepts
  simp only [toBytes, List.forall₂_cons_right_iff, List.forall₂_nil_right_iff] at octets
  obtain ⟨p₁, _, h₁, ⟨p₂, _, h₂, ⟨p₃, _, h₃, ⟨p₄, _, h₄, ⟨p₅, _, h₅, ⟨p₆, _, h₆, rfl, rfl⟩, rfl⟩,
    rfl⟩, rfl⟩, rfl⟩, rfl⟩ := octets
  obtain ⟨_, _, rfl, r₁⟩ := h₁.exists_octet?
  obtain ⟨_, _, rfl, r₂⟩ := h₂.exists_octet?
  obtain ⟨_, _, rfl, r₃⟩ := h₃.exists_octet?
  obtain ⟨_, _, rfl, r₄⟩ := h₄.exists_octet?
  obtain ⟨_, _, rfl, r₅⟩ := h₅.exists_octet?
  obtain ⟨_, _, rfl, r₆⟩ := h₆.exists_octet?
  simp only [ofChars?, if_pos counted, digits, List.flatten_cons, List.flatten_nil,
    List.cons_append, List.nil_append, r₁, r₂, r₃, r₄, r₅, r₆]
  rfl

theorem ofChars?_eq_some_iff {s : List Char} {m : MacAddress} :
    ofChars? s = some m ↔ Accepts s m :=
  ⟨accepts_of_ofChars?, ofChars?_of_accepts⟩

/-! ## Where the separators stand -/

/-- The separators stand where they do in an address: behind each of six groups of two characters
    but the last, and alike, or nowhere. -/
def InPlace (s : List Char) : Prop :=
  ∃ joint ∈ joints, ∃ groups, s = joint.intercalate groups ∧ groups.length = 6 ∧
    ∀ group ∈ groups, group.length = 2 ∧ ∀ c ∈ group, isSeparator c = false

theorem filter_intercalate (p : Char → Bool) (joint : List Char) (groups : List (List Char)) :
    (joint.intercalate groups).filter p
      = (joint.filter p).intercalate (groups.map (List.filter p)) := by
  induction groups with
  | nil => rfl
  | cons group groups ih =>
    cases groups with
    | nil => simp only [List.map_cons, List.map_nil, List.intercalate_singleton]
    | cons next groups =>
      simp only [List.map_cons, List.intercalate_cons_cons, List.filter_append] at ih ⊢
      rw [ih]

theorem nil_intercalate (groups : List (List Char)) : [].intercalate groups = groups.flatten := by
  induction groups with
  | nil => rfl
  | cons group groups ih =>
    cases groups with
    | nil => simp only [List.intercalate_singleton, List.flatten_cons, List.flatten_nil,
        List.append_nil]
    | cons next groups =>
      rw [List.intercalate_cons_cons, List.append_nil, ih]
      rfl

section Groups

variable {joint : List Char} {groups : List (List Char)}

/-- Without the separators the groups are left. -/
theorem filter_groups (known : joint ∈ joints)
    (plain : ∀ group ∈ groups, ∀ c ∈ group, isSeparator c = false) :
    (joint.intercalate groups).filter (fun c => !isSeparator c) = groups.flatten := by
  have gone : ∀ joint ∈ joints, joint.filter (fun c => !isSeparator c) = [] := by decide
  have kept (group : List Char) (mem : group ∈ groups) :
      group.filter (fun c => !isSeparator c) = group := by
    rw [List.filter_eq_self]
    intro c inside
    rw [plain group mem c inside]
    rfl
  have left : groups.map (List.filter fun c => !isSeparator c) = groups :=
    (List.map_congr_left kept).trans (List.map_id groups)
  rw [filter_intercalate, gone joint known, left, nil_intercalate]

/-- There are no separators, or one fewer than groups. -/
theorem length_filter_groups (known : joint ∈ joints) (six : groups.length = 6)
    (plain : ∀ group ∈ groups, ∀ c ∈ group, isSeparator c = false) :
    ((joint.intercalate groups).filter isSeparator).length = 0 ∨
      ((joint.intercalate groups).filter isSeparator).length = 5 := by
  have count : ∀ joint ∈ joints,
      ((joint.filter isSeparator).intercalate (List.replicate 6 [])).length = 0 ∨
        ((joint.filter isSeparator).intercalate (List.replicate 6 [])).length = 5 := by decide
  have left : groups.map (List.filter isSeparator) = List.replicate 6 [] := by
    refine List.eq_replicate_iff.2 ⟨by rw [List.length_map, six], ?_⟩
    intro rest mem
    obtain ⟨group, inGroups, rfl⟩ := List.mem_map.1 mem
    rw [List.filter_eq_nil_iff]
    intro c inside
    rw [plain group inGroups c inside]
    exact Bool.false_ne_true
  rw [filter_intercalate, left]
  exact count joint known

end Groups

/-! ## Written forms and accepted ones -/

section Texts

variable {s : List Char} {m : MacAddress}

theorem SpellsOctet.length {pair : List Char} {b : UInt8} (spells : SpellsOctet pair b) :
    pair.length = 2 := by
  obtain ⟨c, d, high, low, rfl, -⟩ := spells
  rfl

theorem SpellsOctet.exists_isHexDigit {pair : List Char} {b : UInt8} (spells : SpellsOctet pair b)
    {c : Char} (mem : c ∈ pair) : ∃ value, Text.IsHexDigit c value := by
  obtain ⟨c, d, high, low, rfl, digit, digit', -⟩ := spells
  rcases List.mem_pair.1 mem with rfl | rfl
  · exact ⟨high, digit⟩
  · exact ⟨low, digit'⟩

theorem SpellsOctet.plain {pair : List Char} {b : UInt8} (spells : SpellsOctet pair b) :
    ∀ c ∈ pair, isSeparator c = false := by
  intro c mem
  obtain ⟨value, digit⟩ := spells.exists_isHexDigit mem
  exact digit.not_isSeparator

theorem ReadsOctet.length {pair : List Char} {b : UInt8} (reads : ReadsOctet pair b) :
    pair.length = 2 := by
  obtain ⟨c, d, rfl, -⟩ := reads.exists_octet?
  rfl

/-- Without a plus sign only digits are read. -/
theorem ReadsOctet.spellsOctet {pair : List Char} {b : UInt8} (reads : ReadsOctet pair b)
    (noPlus : '+' ∉ pair) : SpellsOctet pair b := by
  rcases reads with spells | ⟨d, rfl, -⟩
  · exact spells
  · exact absurd List.mem_cons_self noPlus

/-- Something that holds of every text of an octet holds of every one in a row of them. -/
theorem forall_pairs {R : List Char → UInt8 → Prop} {P : List Char → Prop}
    {pairs : List (List Char)} {octets : Bytes} (related : List.Forall₂ R pairs octets)
    (holds : ∀ pair b, R pair b → P pair) : ∀ pair ∈ pairs, P pair := by
  have both := related.imp fun pair b r => And.intro (holds pair b r) r
  exact ((List.forall₂_and_left pairs octets).1 both).1

/-- What is written as an address is accepted. -/
theorem Spells.accepts (spells : Spells s m) : Accepts s m := by
  obtain ⟨joint, known, pairs, rfl, octets⟩ := spells
  have plain := forall_pairs octets fun _ _ => SpellsOctet.plain
  exact ⟨length_filter_groups known octets.length_eq plain, pairs, filter_groups known plain,
    octets.imp fun pair b spelled => Or.inl spelled⟩

theorem Spells.inPlace (spells : Spells s m) : InPlace s := by
  obtain ⟨joint, known, pairs, rfl, octets⟩ := spells
  have each := forall_pairs octets fun _ _ spelled => And.intro spelled.length spelled.plain
  exact ⟨joint, known, pairs, rfl, octets.length_eq, each⟩

theorem Spells.noPlus (spells : Spells s m) : '+' ∉ s := by
  intro mem
  obtain ⟨joint, known, pairs, rfl, octets⟩ := spells
  have left := filter_groups known (forall_pairs octets fun _ _ => SpellsOctet.plain)
  have stays : '+' ∈ pairs.flatten := left ▸ List.mem_filter.2 ⟨mem, by decide⟩
  obtain ⟨pair, inPairs, inPair⟩ := List.mem_flatten.1 stays
  have digits := forall_pairs octets fun _ _ spelled => spelled.exists_isHexDigit (c := '+')
  obtain ⟨value, digit⟩ := digits pair inPairs inPair
  exact Text.not_isHexDigit_plus value digit

/-- A text that is accepted is written as the address, unless it has a plus sign or a separator out
    of place. -/
theorem Accepts.spells (accepts : Accepts s m) (noPlus : '+' ∉ s) (inPlace : InPlace s) :
    Spells s m := by
  obtain ⟨-, pairs, left, octets⟩ := accepts
  obtain ⟨joint, known, groups, rfl, six, each⟩ := inPlace
  -- the groups and the pairs cut the same characters in the same way
  have same : groups = pairs := by
    refine List.eq_iff_flatten_eq.2 ⟨?characters, ?lengths⟩
    case characters => rw [← left, filter_groups known fun group mem => (each group mem).2]
    case lengths =>
      have lengths {rows : List (List Char)} (count : rows.length = 6)
          (two : ∀ row ∈ rows, row.length = 2) : rows.map List.length = List.replicate 6 2 := by
        rw [List.map_eq_replicate_iff.2 two, count]
      rw [lengths six fun group mem => (each group mem).1,
        lengths octets.length_eq (forall_pairs octets fun _ _ => ReadsOctet.length)]
  subst same
  have plusless : ∀ group ∈ groups, '+' ∉ group := by
    intro group mem inside
    have stays : '+' ∈ (joint.intercalate groups).filter fun c => !isSeparator c :=
      left ▸ List.mem_flatten_of_mem mem inside
    exact noPlus (List.mem_filter.1 stays).1
  have both := (List.forall₂_and_left groups m.toBytes).2 ⟨plusless, octets⟩
  exact ⟨joint, known, groups, rfl, both.imp fun group b read => read.2.spellsOctet read.1⟩

theorem spells_iff : Spells s m ↔ ofChars? s = some m ∧ '+' ∉ s ∧ InPlace s := by
  rw [ofChars?_eq_some_iff]
  constructor
  · intro spells
    exact ⟨spells.accepts, spells.noPlus, spells.inPlace⟩
  · rintro ⟨accepts, noPlus, inPlace⟩
    exact accepts.spells noPlus inPlace

end Texts

/-- **Which texts are read as hardware addresses.** A text is accepted if it spells six octets when
    its separators are taken out, of which there must be none or five; a plus sign and a digit count
    as an octet. A text is written as an address exactly if it is accepted, has no plus sign, and has
    its separators, all alike, between the pairs or nowhere. What is printed is read back. -/
theorem ofString?_eq_some_iff_and_spells_iff (s : String) (m : MacAddress) :
    (ofString? s = some m ↔ Accepts s.toList m) ∧
    (Spells s.toList m ↔ ofString? s = some m ∧ '+' ∉ s.toList ∧ InPlace s.toList) ∧
    ofString? (toString m) = some m := by
  refine ⟨ofChars?_eq_some_iff, spells_iff, ?_⟩
  have printed : (toString m).toList = m.toChars := String.toList_ofList
  rw [ofString?, printed]
  exact (spells_iff.1 (spells_toChars m)).1

/-- Some texts are read that are not written as addresses. -/
theorem not_forall_ofString?_iff_spells :
    ¬ ∀ (s : String) (m : MacAddress), ofString? s = some m ↔ Spells s.toList m := by
  intro h
  -- the plus sign is taken for a digit
  have spells := (h "+a:0b:0c:0d:0e:0f" ⟨10, 11, 12, 13, 14, 15⟩).1 (by decide)
  exact spells.noPlus (by decide)

end MacAddress

end LocalPlay
