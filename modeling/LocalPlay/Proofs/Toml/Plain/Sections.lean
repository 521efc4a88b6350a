import LocalPlay.Proofs.Toml.Plain.Lines
import LocalPlay.Toml.Plain
import Mathlib.Data.List.Nodup

set_option autoImplicit false

/-! # The plain format keeps to the standard

Sections are written line by line, with an empty line between each two (`document_eq`). The entries
that are read from the lines of sound sections are those sections, each with its values, and empty
lines may stand anywhere (`read?_text`). -/

namespace LocalPlay.Toml

namespace Value

variable {name : String} {v w : Value} {entries : Entries}

theorem lookup_eq_none (new : name ∉ entries.map Prod.fst) : entries.lookup name = none := by
  rw [List.lookup_eq_none_iff]
  intro entry mem
  rw [bne_iff_ne]
  rintro rfl
  exact new (List.mem_map_of_mem mem)

/-- A new name is added behind the others. -/
theorem put_new (new : name ∉ entries.map Prod.fst) :
    put name v entries = entries ++ [(name, v)] := by
  induction entries with
  | nil => rfl
  | cons entry entries ih =>
    rw [List.map_cons, List.mem_cons, not_or] at new
    rw [put, if_neg (Ne.symm new.1), ih new.2]
    rfl

/-- A name that is there gets its value in its place. -/
theorem put_last (new : name ∉ entries.map Prod.fst) :
    put name v (entries ++ [(name, w)]) = entries ++ [(name, v)] := by
  induction entries with
  | nil => exact if_pos rfl
  | cons entry entries ih =>
    rw [List.map_cons, List.mem_cons, not_or] at new
    rw [List.cons_append, put, if_neg (Ne.symm new.1), ih new.2]
    rfl

theorem lookup_last (new : name ∉ entries.map Prod.fst) :
    (entries ++ [(name, w)]).lookup name = some w := by
  rw [List.lookup_append, lookup_eq_none new, Option.none_or, List.lookup_cons_self]

end Value

/-! ## Sections as lines -/

namespace Line

/-- Empty lines say nothing. -/
theorem filterMap_spoken (lines : List Line) :
    (spoken lines).filterMap statement? = lines.filterMap statement? := by
  rw [spoken, List.filterMap_filter]
  refine List.filterMap_congr ?_
  intro line _
  cases line <;> rfl

end Line

namespace Section

theorem flatMap_lines (s : Section) : s.lines.flatMap Line.toChars = s.toChars := by
  rw [lines, List.flatMap_cons, List.flatMap_map]
  rfl

/-- The lines of a document, an empty one between each two sections. -/
def documentLines (sections : List Section) : List Line :=
  [.blank].intercalate (sections.map lines)

theorem document_eq (sections : List Section) :
    document sections = Line.text Line.toChars (documentLines sections) := by
  refine congrArg String.ofList ?_
  unfold documentLines
  induction sections with
  | nil => rfl
  | cons s rest ih =>
    cases rest with
    | nil =>
      simp only [List.map_cons, List.map_nil, List.intercalate_singleton, flatMap_lines]
    | cons next rest =>
      simp only [List.map_cons, List.intercalate_cons_cons, List.flatMap_append, flatMap_lines]
        at ih ⊢
      rw [ih]
      rfl

theorem spoken_documentLines (sections : List Section) :
    Line.spoken (documentLines sections) = sections.flatMap lines := by
  unfold documentLines
  induction sections with
  | nil => rfl
  | cons s rest ih =>
    cases rest with
    | nil =>
      rw [List.map_singleton, List.intercalate_singleton, spoken_lines, List.flatMap_singleton]
    | cons next rest =>
      rw [List.map_cons, List.map_cons, List.intercalate_cons_cons, ← List.map_cons,
        Line.spoken_append, Line.spoken_append, spoken_lines, ih, List.append_assoc]
      rfl

end Section

/-! ## The entries that sections make -/

namespace Section

/-- The statements of a section. -/
def statements (s : Section) : List Statement :=
  .header [] s.name :: s.items.map fun (key, item) => .assign [] key item.value

theorem filterMap_lines (s : Section) : s.lines.filterMap Line.statement? = s.statements := by
  simp [lines, statements, Line.statement?, Function.comp_def]

end Section

namespace Draft

variable {name key : String} {entries inner : Value.Entries}

theorem add_header (path : List String) (new : name ∉ entries.map Prod.fst) :
    add ⟨entries, path⟩ (.header [] name)
      = some ⟨entries ++ [(name, .table .given [])], [name]⟩ := by
  have opened : Value.openTable name (.given, entries)
      = some (entries ++ [(name, .table .given [])]) := by
    rw [Value.openTable]
    simp only [Value.lookup_eq_none new, Value.put_new new]
  rw [add, Value.alter, opened]
  rfl

theorem add_assign (new : name ∉ entries.map Prod.fst) (newKey : key ∉ inner.map Prod.fst)
    (v : Value) :
    add ⟨entries ++ [(name, .table .given inner)], [name]⟩ (.assign [] key v)
      = some ⟨entries ++ [(name, .table .given (inner ++ [(key, v)]))], [name]⟩ := by
  have added : Value.assign [] key v (.given, inner) = some (inner ++ [(key, v)]) := by
    simp only [Value.assign, Value.alter, List.isEmpty_nil, true_or, if_true]
    rw [Value.add?, Value.lookup_eq_none newKey, Value.put_new newKey]
  rw [add, Value.alter, Value.lookup_last new]
  simp [Value.alter, added, Value.put_last new]

/-- Assignments to the last table. -/
theorem foldlM_assigns (new : name ∉ entries.map Prod.fst) {items : List (String × Item)}
    (nodup : (inner.map Prod.fst ++ items.map Prod.fst).Nodup) :
    (items.map fun (key, item) => Statement.assign [] key item.value).foldlM add
        ⟨entries ++ [(name, .table .given inner)], [name]⟩
      = some ⟨entries ++ [(name, .table .given (inner ++ values items))], [name]⟩ := by
  induction items generalizing inner with
  | nil => simp [values]
  | cons i items ih =>
    obtain ⟨key, item⟩ := i
    have newKey : key ∉ inner.map Prod.fst := by
      intro mem
      exact List.disjoint_of_nodup_append nodup mem List.mem_cons_self
    have later : ((inner ++ [(key, item.value)]).map Prod.fst ++ items.map Prod.fst).Nodup := by
      simpa using nodup
    rw [List.map_cons, List.foldlM_cons, add_assign new newKey]
    show List.foldlM add _ _ = _
    rw [ih later, List.append_assoc]
    rfl

/-- Sections whose names are new are added behind the others. -/
theorem foldlM_sections {sections : List Section} {path : List String}
    (nodup : (entries.map Prod.fst ++ sections.map Section.name).Nodup)
    (keys : ∀ s ∈ sections, (s.items.map Prod.fst).Nodup) :
    ((sections.flatMap Section.statements).foldlM add ⟨entries, path⟩).map Draft.entries
      = some (entries ++ sections.map Section.entry) := by
  induction sections generalizing entries path with
  | nil => simp
  | cons s sections ih =>
    rw [List.forall_mem_cons] at keys
    have new : s.name ∉ entries.map Prod.fst := by
      intro mem
      exact List.disjoint_of_nodup_append nodup mem List.mem_cons_self
    have later : ((entries ++ [s.entry]).map Prod.fst ++ sections.map Section.name).Nodup := by
      simpa [Section.entry] using nodup
    have whole : s.statements.foldlM add ⟨entries, path⟩
        = some ⟨entries ++ [s.entry], [s.name]⟩ := by
      rw [Section.statements, List.foldlM_cons, add_header path new]
      exact foldlM_assigns new keys.1
    rw [List.flatMap_cons, List.foldlM_append, whole]
    show (List.foldlM add _ _).map _ = _
    rw [ih later keys.2, List.append_assoc]
    rfl

end Draft

/-! ## Reading a document -/

namespace Line

/-- No line begins with the mark of an encoding. -/
theorem stops_byteOrderMark {lines : List Line} (readable : ∀ line ∈ lines, line.Readable) :
    Stops (· == byteOrderMark) (lines.flatMap toChars) := by
  cases lines with
  | nil => exact stops_nil _
  | cons line lines =>
    rw [List.flatMap_cons]
    have readable := readable line List.mem_cons_self
    cases line with
    | blank => exact stops_cons.2 rfl
    | header name => exact stops_cons.2 rfl
    | setting key item =>
      have shape : (setting key item).toChars ++ lines.flatMap toChars
          = key.toList ++ ([' ', '=', ' '] ++ item.toChars ++ ['\n'] ++ lines.flatMap toChars) := by
        simp [toChars]
      rw [shape]
      refine readable.1.stops_of ?_ _
      intro c bare
      rw [beq_eq_false_iff_ne]
      rintro rfl
      exact absurd bare (by decide)

end Line

namespace Section

variable {sections : List Section}

theorem Sound.readable (sound : Sound sections) :
    ∀ line ∈ sections.flatMap lines, line.Readable := by
  intro line mem
  obtain ⟨s, inSections, mem⟩ := List.mem_flatMap.1 mem
  rcases List.mem_cons.1 mem with rfl | mem
  · exact sound.bareNames s inSections
  · obtain ⟨i, inItems, rfl⟩ := List.mem_map.1 mem
    exact ⟨sound.bareKeys s inSections i inItems, sound.writable s inSections i inItems⟩

/-- **A document is read as the sections that were written**, wherever there are empty lines. -/
theorem read?_text (sound : Sound sections) {lines : List Line}
    (shape : Line.spoken lines = sections.flatMap Section.lines) :
    read? (Line.text Line.toChars lines) = some (sections.map entry) := by
  have readable : ∀ line ∈ lines, line.Readable := by
    intro line mem
    by_cases isBlank : line = .blank
    · rw [isBlank]
      trivial
    · refine sound.readable line (shape ▸ List.mem_filter.2 ⟨mem, ?_⟩)
      simpa using isBlank
  have statements : lines.filterMap Line.statement? = sections.flatMap statements := by
    rw [← Line.filterMap_spoken, shape, List.filterMap_flatMap]
    simp only [filterMap_lines]
  have noMark : (lines.flatMap Line.toChars).head? ≠ some byteOrderMark := by
    intro head
    cases Line.stops_byteOrderMark readable byteOrderMark head
  have built : entriesOf (sections.flatMap Section.statements) = some ([] ++ sections.map entry) :=
    Draft.foldlM_sections sound.names sound.keys
  rw [read?, Line.text, String.toList_ofList, if_neg noMark, Line.readAll_toChars readable,
    Option.bind_some, statements, built, List.nil_append]

end Section

/-- **The plain format keeps to the standard.** -/
theorem plain_standard : Format.Standard Line.toChars where
  writes sections sound := by
    refine ⟨Section.documentLines sections, Section.spoken_documentLines sections, ?_⟩
    rw [← Section.document_eq]
    exact if_pos sound.writable
  refuses sections large := ⟨"number out of range", if_neg large⟩
  reads sections sound lines shape := by
    simp only [Format.read, Section.read?_text sound shape]

end LocalPlay.Toml
