import LocalPlay.Toml.Format

set_option autoImplicit false

/-! # What the standard asks of a format

A document is a row of lines (`Line`): headers, keys with their values, and empty lines. The standard
says which sections lines make, and not how a line looks. So what is relied upon is stated for any
way to write lines (`Format.Standard`), and only of sections that can be written without quoting a
name (`Section.Sound`). -/

namespace LocalPlay.Toml

/-! ## Lines -/

/-- A name can be written without quotes. -/
def Bare (name : String) : Prop := name.toList ≠ [] ∧ name.toList.all isBare = true

instance : DecidablePred Bare := fun _ => inferInstanceAs (Decidable (_ ∧ _))

/-- A line of a document. -/
inductive Line where
  /-- An empty line. -/
  | blank
  /-- The header of a section. -/
  | header (name : String)
  /-- A key and its value, which may have line ends in it. -/
  | setting (key : String) (item : Item)
deriving DecidableEq, Repr

namespace Line

/-- The text of a row of lines, if each is written in a given way. -/
def text (written : Line → List Char) (lines : List Line) : String :=
  .ofList (lines.flatMap written)

/-- The lines that say something. -/
def spoken (lines : List Line) : List Line := lines.filter (· ≠ .blank)

theorem spoken_append (lines others : List Line) :
    spoken (lines ++ others) = spoken lines ++ spoken others := List.filter_append _ _

end Line

namespace Section

/-- The lines of a section: its header, and a line for each key. -/
def lines (s : Section) : List Line :=
  .header s.name :: s.items.map fun (key, item) => .setting key item

theorem spoken_lines (s : Section) : Line.spoken s.lines = s.lines := by
  rw [Line.spoken, List.filter_eq_self, lines]
  intro line mem
  rcases List.mem_cons.1 mem with rfl | mem
  · rfl
  · obtain ⟨item, -, rfl⟩ := List.mem_map.1 mem
    rfl

end Section

/-! ## Entries -/

/-- The value that an item is. -/
def Item.value : Item → Value
  | text s => .text s
  | number n => .integer n
  | flag b => .boolean b
  | texts ss => .array (ss.map .text)

/-- The values of items, by their keys. -/
def values (items : List (String × Item)) : Value.Entries :=
  items.map fun (key, item) => (key, item.value)

namespace Section

/-- The entry of a document that a section is. -/
def entry (s : Section) : String × Value := (s.name, .table .given (values s.items))

/-- A row of sections can be written so that each value is found again: no name stands for two
    sections, no key for two values of a section, no name or key needs quotes, and no number is too
    large. -/
structure Sound (sections : List Section) : Prop where
  names : (sections.map name).Nodup
  keys : ∀ s ∈ sections, (s.items.map Prod.fst).Nodup
  bareNames : ∀ s ∈ sections, Bare s.name
  bareKeys : ∀ s ∈ sections, ∀ i ∈ s.items, Bare i.1
  writable : ∀ s ∈ sections, s.Writable

end Section

/-! ## The standard -/

/-- A format keeps to the standard, and writes each line in a given way. -/
structure Format.Standard [Format] (written : Line → List Char) : Prop where
  /-- Each section is written as its header and a line for each of its keys, in their order. There
      may be empty lines anywhere. -/
  writes (sections : List Section) (sound : Section.Sound sections) :
    ∃ lines, Line.spoken lines = sections.flatMap Section.lines ∧
      Format.write sections = .ok (Line.text written lines)
  /-- A number that does not fit into 64 bits with a sign is refused. -/
  refuses (sections : List Section) (large : ¬ ∀ s ∈ sections, s.Writable) :
    ∃ why, Format.write sections = .error why
  /-- A header begins a table, and the lines behind it give values to the keys of that table, up to
      the next header. Empty lines say nothing. -/
  reads (sections : List Section) (sound : Section.Sound sections) (lines : List Line)
    (shape : Line.spoken lines = sections.flatMap Section.lines) :
    Format.read (Line.text written lines) = .ok (sections.map Section.entry)

end LocalPlay.Toml
