import LocalPlay.Proofs.Toml.Plain.Values

set_option autoImplicit false

/-! # Written lines are read back

The plain format writes a document line by line (`Line.toChars`), and every line but an empty one is
a statement (`Line.statement?`). The statements that are read from a document are those of its lines
(`readAll_toChars`). -/

namespace LocalPlay.Toml

/-! ## Names and keys -/

/-- Whether a character that stands where a statement may begin is not the first one of a name. -/
def isMark (c : Char) : Bool := isQuote c || isLoose c || c == '['

theorem isMark_of_isBare {c : Char} (bare : isBare c = true) : isMark c = false := by
  rw [← Bool.not_eq_true]
  intro mark
  simp only [isMark, isQuote, isLoose, isSpace, isLineEnd, Bool.or_eq_true, beq_iff_eq] at mark
  rcases mark with ((rfl | rfl) | ((rfl | rfl) | rfl) | rfl | rfl) | rfl <;>
    exact absurd bare (by decide)

section Names

variable {name : String} {rest : List Char}

theorem Bare.stops_of (bare : Bare name) {p : Char → Bool}
    (others : ∀ c, isBare c = true → p c = false) (rest : List Char) :
    Stops p (name.toList ++ rest) := by
  obtain ⟨nonempty, inside⟩ := bare
  rw [List.all_eq_true] at inside
  cases written : name.toList with
  | nil => exact absurd written nonempty
  | cons c cs => exact stops_cons.2 (others c (inside c (written ▸ List.mem_cons_self)))

theorem Bare.stops (bare : Bare name) (rest : List Char) : Stops isMark (name.toList ++ rest) :=
  bare.stops_of (fun _ => isMark_of_isBare) rest

theorem keyPart?_bare (bare : Bare name) (stops : Stops isBare rest) :
    keyPart? (name.toList ++ rest) = some (name, rest) := by
  have word : (name.toList ++ rest).takeWhile isBare = name.toList :=
    takeWhile_append_of_stops (List.all_eq_true.1 bare.2) stops
  have noQuote {q : Char} (mark : isMark q = true) : (name.toList ++ rest).head? ≠ some q := by
    intro head
    rw [bare.stops rest q head] at mark
    cases mark
  rw [keyPart?, if_neg (noQuote rfl), if_neg (noQuote rfl)]
  simp [word, bare.1]

/-- A name is a key of one part, if no point follows. -/
theorem key?_bare (bare : Bare name) (stops : Stops isBare rest)
    (noPoint : Stops (· == '.') (skipSpace rest)) :
    key? (name.toList ++ rest) = some ([], name, skipSpace rest) := by
  have start : skipSpace (name.toList ++ rest) = name.toList ++ rest :=
    skipSpace_of_stops ((bare.stops rest).mono fun c holds => by simp [isMark, isLoose, holds])
  have parts : keyParts? (name.toList ++ rest) = some ([name], skipSpace rest) := by
    rw [keyParts?, start, keyPart?_bare bare stops]
    split
    · next none => cases none
    · next part rest' found =>
      cases found
      split
      · next point =>
        rw [point] at noPoint
        cases stops_cons.1 noPoint
      · rfl
  rw [key?, parts]
  rfl

end Names

/-! ## Lines -/

namespace Line

/-- The characters of a line. -/
def toChars : Line → List Char
  | blank => ['\n']
  | header name => '[' :: name.toList ++ [']', '\n']
  | setting key item => key.toList ++ [' ', '=', ' '] ++ item.toChars ++ ['\n']

/-- What a line says, if it says anything. -/
def statement? : Line → Option Statement
  | blank => none
  | header name => some (.header [] name)
  | setting key item => some (.assign [] key item.value)

/-- A line can be read: its name needs no quotes and its value can be written. -/
def Readable : Line → Prop
  | blank => True
  | header name => Bare name
  | setting key item => Bare key ∧ item.Writable

end Line

variable {name key : String} {item : Item}

theorem headerLine?_bare (bare : Bare name) (t : List Char) :
    headerLine? [']'] (name.toList ++ ']' :: '\n' :: t) = some ([], name, t) := by
  have read : key? (name.toList ++ ']' :: '\n' :: t) = some ([], name, ']' :: '\n' :: t) :=
    key?_bare bare (stops_cons.2 (by decide)) (stops_cons.2 rfl)
  rw [headerLine?, read]
  rfl

theorem take?_header (bare : Bare name) (t : List Char) :
    Statement.take? ((Line.header name).toChars ++ t) = some (.header [] name, t) := by
  have shape : (Line.header name).toChars ++ t = '[' :: (name.toList ++ ']' :: '\n' :: t) := by
    simp [Line.toChars]
  rw [shape]
  unfold Statement.take?
  split
  · next double =>
    have twice := (List.cons.inj double).2
    cases bare.stops (']' :: '\n' :: t) '[' (twice ▸ rfl)
  · next rest noDouble single =>
    rw [← (List.cons.inj single).2, headerLine?_bare bare t]
    rfl
  · next noSingle => exact absurd rfl (noSingle _)

theorem assignment?_bare (bare : Bare key) (writable : item.Writable) (t : List Char) :
    assignment? (value? nestingLimit) (key.toList ++ ' ' :: '=' :: ' ' :: (item.toChars ++ '\n' :: t))
      = some (([], key, item.value), '\n' :: t) := by
  let rest := item.toChars ++ '\n' :: t
  have behind : skipSpace (' ' :: '=' :: ' ' :: rest) = '=' :: ' ' :: rest := by
    rw [skipSpace_space, skipSpace_of_stops (stops_cons.2 rfl)]
  have keyRead : key? (key.toList ++ ' ' :: '=' :: ' ' :: rest) = some ([], key, '=' :: ' ' :: rest) := by
    rw [key?_bare bare (stops_cons.2 (by decide)) (behind ▸ stops_cons.2 rfl), behind]
  have value : skipSpace (' ' :: rest) = rest := by
    rw [skipSpace_space, skipSpace_of_stops (item.stops_toChars _)]
  have valueRead : value? nestingLimit rest = some (item.value, '\n' :: t) :=
    value?_toChars _ writable (stops_cons.2 (by decide))
  rw [assignment?, keyRead]
  simp only [value, valueRead, Option.map_some]

theorem take?_setting (bare : Bare key) (writable : item.Writable) (t : List Char) :
    Statement.take? ((Line.setting key item).toChars ++ t)
      = some (.assign [] key item.value, t) := by
  let rest := ' ' :: '=' :: ' ' :: (item.toChars ++ '\n' :: t)
  have shape : (Line.setting key item).toChars ++ t = key.toList ++ rest := by
    simp [Line.toChars, rest]
  have noBracket {u : List Char} (opens : key.toList ++ rest = '[' :: u) : False := by
    cases bare.stops rest '[' (opens ▸ rfl)
  rw [shape]
  unfold Statement.take?
  split
  · next opens => exact (noBracket opens).elim
  · next opens => exact (noBracket opens).elim
  · rw [assignment?_bare bare writable t]
    rfl

/-! ## All lines -/

theorem readAll_nil : Statement.readAll [] = some [] := by
  unfold Statement.readAll
  rfl

theorem readAll_blank (t : List Char) : Statement.readAll ('\n' :: t) = Statement.readAll t := by
  have start : skipSpace ('\n' :: t) = '\n' :: t := skipSpace_of_stops (stops_cons.2 rfl)
  rw [Statement.readAll, start]
  simp [newline?]

/-- A statement is taken where one may begin. -/
theorem readAll_statement {s t : List Char} {statement : Statement} (begins : Stops isLoose s)
    (reads : Statement.take? s = some (statement, t)) (shorter : t.length < s.length) :
    Statement.readAll s = (Statement.readAll t).map (statement :: ·) := by
  have start : skipSpace s = s :=
    skipSpace_of_stops (begins.mono fun c holds => by simp [isLoose, holds])
  have noEnd : newline? s = none :=
    newline?_of_stops (begins.mono fun c holds => by simp [isLoose, holds])
  have noComment : s.head? ≠ some '#' := fun head => by cases begins '#' head
  rw [Statement.readAll, start]
  split
  · cases shorter
  · rw [if_neg (by simp [noComment, noEnd]), reads]
    exact if_pos shorter

namespace Line

theorem take?_toChars {line : Line} (readable : line.Readable) {statement : Statement}
    (means : line.statement? = some statement) (t : List Char) :
    Statement.take? (line.toChars ++ t) = some (statement, t) := by
  cases line with
  | blank => cases means
  | header name =>
    cases means
    exact take?_header readable t
  | setting key item =>
    cases means
    exact take?_setting readable.1 readable.2 t

theorem stops_toChars {line : Line} (readable : line.Readable) (means : line.statement?.isSome)
    (t : List Char) : Stops isLoose (line.toChars ++ t) := by
  cases line with
  | blank => cases means
  | header name => exact stops_cons.2 rfl
  | setting key item =>
    have shape : (setting key item).toChars ++ t
        = key.toList ++ ([' ', '=', ' '] ++ (item.toChars ++ ('\n' :: t))) := by
      simp [toChars]
    rw [shape]
    exact (readable.1.stops _).mono fun c holds => by simp [isMark, holds]

theorem length_toChars_pos (line : Line) : 0 < line.toChars.length := by
  cases line <;> simp [toChars]

/-- **A document that was written line by line is read as the statements of its lines**, wherever
    there are empty lines. -/
theorem readAll_toChars {lines : List Line} (readable : ∀ line ∈ lines, line.Readable) :
    Statement.readAll (lines.flatMap toChars) = some (lines.filterMap statement?) := by
  induction lines with
  | nil => exact readAll_nil
  | cons line lines ih =>
    rw [List.forall_mem_cons] at readable
    have later := ih readable.2
    rw [List.flatMap_cons]
    cases means : line.statement? with
    | none =>
      have isBlank : line = blank := by
        cases line with
        | blank => rfl
        | header name => cases means
        | setting key item => cases means
      rw [isBlank, List.filterMap_cons_none rfl]
      exact (readAll_blank _).trans later
    | some statement =>
      have shorter : (lines.flatMap toChars).length
          < (line.toChars ++ lines.flatMap toChars).length := by
        rw [List.length_append]
        exact Nat.lt_add_of_pos_left line.length_toChars_pos
      rw [List.filterMap_cons_some means,
        readAll_statement (stops_toChars readable.1 (means ▸ rfl) _)
          (take?_toChars readable.1 means _) shorter, later]
      rfl

end Line

end LocalPlay.Toml
