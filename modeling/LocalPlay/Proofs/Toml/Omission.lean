import LocalPlay.Proofs.Toml.Standard

set_option autoImplicit false

/-! # Leaving parts out of a document

Lines can be taken out of a document, those of whole sections or of single keys (`Omission.cut`). What
is left are the lines of the remaining sections (`Omission.spoken_cut_lines`), and a value is found in
them if it was there and is not left out (`Omission.lookup_remaining`, `Omission.lookup_kept`). -/

namespace LocalPlay.Toml

/-- What is left out of a document: whole sections, by their names, and keys, by the names of their
    sections and their own. -/
structure Omission where
  sections : String → Bool
  keys : String → String → Bool

namespace Omission

/-- Nothing is left out. -/
def nothing : Omission := ⟨fun _ => false, fun _ _ => false⟩

variable (o : Omission)

/-- Whether a key is left out, alone or with its section. -/
def omits (name key : String) : Bool := o.sections name || o.keys name key

/-- The lines that are left of a document. The name is that of the section that the lines stand in. -/
def cut (name : String) : List Line → List Line
  | [] => []
  | .blank :: lines => .blank :: cut name lines
  | .header next :: lines =>
    if o.sections next then cut next lines else .header next :: cut next lines
  | .setting key item :: lines =>
    if o.omits name key then cut name lines else .setting key item :: cut name lines

/-- What is left of a section that is not left out. -/
def kept (s : Section) : Section :=
  { s with items := s.items.filter fun i => !o.keys s.name i.1 }

/-- What is left of a row of sections. -/
def remaining (sections : List Section) : List Section :=
  (sections.filter fun s => !o.sections s.name).map o.kept

/-! ## Lines that are left -/

theorem cut_nothing (name : String) (lines : List Line) : nothing.cut name lines = lines := by
  induction lines generalizing name with
  | nil => rfl
  | cons line lines ih =>
    cases line with
    | blank => exact congrArg (Line.blank :: ·) (ih name)
    | header next => exact congrArg (Line.header next :: ·) (ih next)
    | setting key item => exact congrArg (Line.setting key item :: ·) (ih name)

/-- Empty lines do not matter to what is left of the others. -/
theorem spoken_cut (name : String) (lines : List Line) :
    Line.spoken (o.cut name lines) = o.cut name (Line.spoken lines) := by
  induction lines generalizing name with
  | nil => rfl
  | cons line lines ih =>
    cases line with
    | blank => exact ih name
    | header next =>
      have stays : Line.spoken (.header next :: lines)
          = .header next :: Line.spoken lines := rfl
      rw [stays, cut, cut, ← ih next]
      split
      · rfl
      · rfl
    | setting key item =>
      have stays : Line.spoken (.setting key item :: lines)
          = .setting key item :: Line.spoken lines := rfl
      rw [stays, cut, cut, ← ih name]
      split
      · rfl
      · rfl

theorem cut_settings (name : String) (items : List (String × Item)) (rest : List Line) :
    o.cut name ((items.map fun (key, item) => Line.setting key item) ++ rest)
      = ((items.filter fun i => !o.omits name i.1).map fun (key, item) => Line.setting key item)
        ++ o.cut name rest := by
  induction items with
  | nil => rfl
  | cons i items ih =>
    obtain ⟨key, item⟩ := i
    rw [List.map_cons, List.cons_append, cut, ih]
    cases gone : o.omits name key with
    | true => simp [gone]
    | false => simp [gone]

theorem cut_lines (name : String) (s : Section) (rest : List Line) :
    o.cut name (s.lines ++ rest)
      = (if o.sections s.name then [] else (o.kept s).lines) ++ o.cut s.name rest := by
  rw [Section.lines, List.cons_append, cut, cut_settings]
  cases gone : o.sections s.name with
  | true => simp [omits, gone]
  | false => simp [omits, gone, kept, Section.lines]

theorem cut_sections (name : String) (sections : List Section) :
    o.cut name (sections.flatMap Section.lines) = (o.remaining sections).flatMap Section.lines := by
  induction sections generalizing name with
  | nil => rfl
  | cons s sections ih =>
    rw [List.flatMap_cons, cut_lines, ih]
    cases gone : o.sections s.name with
    | true => simp [remaining, gone]
    | false => simp [remaining, gone]

/-- What is left of the lines of some sections are those of the remaining ones, but for empty
    lines. -/
theorem spoken_cut_lines (name : String) {sections : List Section} {lines : List Line}
    (shape : Line.spoken lines = sections.flatMap Section.lines) :
    Line.spoken (o.cut name lines) = (o.remaining sections).flatMap Section.lines := by
  rw [spoken_cut, shape, cut_sections]

theorem sound_remaining {sections : List Section} (sound : Section.Sound sections) :
    Section.Sound (o.remaining sections) := by
  have kept {s : Section} (mem : s ∈ o.remaining sections) :
      ∃ whole ∈ sections, s.name = whole.name ∧ List.Sublist s.items whole.items := by
    obtain ⟨whole, stays, rfl⟩ := List.mem_map.1 mem
    exact ⟨whole, (List.mem_filter.1 stays).1, rfl, List.filter_sublist⟩
  constructor
  case names =>
    have same : (o.remaining sections).map Section.name
        = (sections.filter fun s => !o.sections s.name).map Section.name := by
      rw [remaining, List.map_map]
      rfl
    rw [same]
    exact sound.names.sublist (List.filter_sublist.map _)
  case keys =>
    intro s mem
    obtain ⟨whole, inSections, -, items⟩ := kept mem
    exact (sound.keys whole inSections).sublist (items.map _)
  case bareNames =>
    intro s mem
    obtain ⟨whole, inSections, same, -⟩ := kept mem
    exact same ▸ sound.bareNames whole inSections
  case bareKeys =>
    intro s mem i inItems
    obtain ⟨whole, inSections, -, items⟩ := kept mem
    exact sound.bareKeys whole inSections i (items.subset inItems)
  case writable =>
    intro s mem i inItems
    obtain ⟨whole, inSections, -, items⟩ := kept mem
    exact sound.writable whole inSections i (items.subset inItems)

/-! ## Values that are left -/

theorem lookup_filter {α : Type} (gone : String → Bool) (entries : List (String × α))
    (name : String) : (entries.filter fun e => !gone e.1).lookup name
      = if gone name then none else entries.lookup name := by
  induction entries with
  | nil => simp
  | cons e entries ih =>
    obtain ⟨key, a⟩ := e
    by_cases same : name = key
    · subst same
      cases left : gone name with
      | true => simpa [left] using ih
      | false => simp [left]
    · have other : (name == key) = false := beq_false_of_ne same
      cases left : gone key with
      | true => simpa [left, List.lookup_cons, other] using ih
      | false => simpa [left, List.lookup_cons, other] using ih

/-- A section is found if it is not left out, with what is left of it. -/
theorem lookup_remaining (sections : List Section) (name : String) :
    ((o.remaining sections).map Section.entry).lookup name
      = if o.sections name then none
        else (sections.map fun s => (o.kept s).entry).lookup name := by
  rw [← lookup_filter, List.filter_map, remaining, List.map_map]
  rfl

/-- A value is found if its key is not left out. -/
theorem lookup_kept (s : Section) (key : String) :
    (values (o.kept s).items).lookup key
      = if o.keys s.name key then none else (values s.items).lookup key := by
  rw [← lookup_filter (o.keys s.name), values, values, List.filter_map]
  rfl

end Omission

end LocalPlay.Toml
