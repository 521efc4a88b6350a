import LocalPlay.Toml.Plain.Layout

set_option autoImplicit false

/-! # Where a reader stops

A reader that takes characters of a kind takes just those that were written, if another character
follows (`Stops`). -/

namespace LocalPlay.Toml

variable {s : List Char}

/-- A text does not begin with a character of this kind. -/
def Stops (p : Char → Bool) (s : List Char) : Prop := ∀ c, s.head? = some c → p c = false

theorem stops_nil (p : Char → Bool) : Stops p [] := by
  intro c head
  cases head

@[simp] theorem stops_cons {p : Char → Bool} {c : Char} : Stops p (c :: s) ↔ p c = false := by
  constructor
  · intro stops
    exact stops c rfl
  · rintro other d head
    cases head
    exact other

theorem Stops.mono {p q : Char → Bool} (stops : Stops p s) (implies : ∀ c, q c = true → p c = true) :
    Stops q s := by
  intro c head
  have other := stops c head
  rw [← Bool.not_eq_true] at other ⊢
  exact fun holds => other (implies c holds)

theorem takeWhile_of_stops {p : Char → Bool} (stops : Stops p s) : s.takeWhile p = [] := by
  cases s with
  | nil => rfl
  | cons c s => rw [List.takeWhile_cons_of_neg (by simp [stops_cons.1 stops])]

theorem takeWhile_append_of_stops {p : Char → Bool} {word rest : List Char}
    (inside : ∀ c ∈ word, p c = true) (stops : Stops p rest) :
    (word ++ rest).takeWhile p = word := by
  rw [List.takeWhile_append_of_pos inside, takeWhile_of_stops stops, List.append_nil]

/-! ## Space and line ends -/

theorem skipSpace_of_stops (stops : Stops isSpace s) : skipSpace s = s := by
  cases s with
  | nil => rfl
  | cons c s => exact List.dropWhile_cons_of_neg (by simp [stops_cons.1 stops])

@[simp] theorem skipSpace_space (s : List Char) : skipSpace (' ' :: s) = skipSpace s :=
  List.dropWhile_cons_of_pos rfl

/-- Whether a character may begin a line end. -/
def isLineEnd (c : Char) : Bool := c == '\n' || c == '\r'

theorem newline?_of_stops (stops : Stops isLineEnd s) : newline? s = none := by
  cases s with
  | nil => rfl
  | cons c s =>
    have noEnd := stops_cons.1 stops
    simp only [isLineEnd, Bool.or_eq_false_iff, beq_eq_false_iff_ne] at noEnd
    unfold newline?
    split
    · next same => exact absurd (List.cons.inj same).1 noEnd.1
    · next same => exact absurd (List.cons.inj same).1 noEnd.2
    · rfl

theorem skipComment_of_stops (stops : Stops (· == '#') s) : skipComment s = s := by
  cases s with
  | nil => rfl
  | cons c s =>
    have noMark := stops_cons.1 stops
    unfold skipComment
    split
    · next same =>
      rw [(List.cons.inj same).1] at noMark
      cases noMark
    · rfl

@[simp] theorem endLine?_newline (s : List Char) : endLine? ('\n' :: s) = some s := rfl

/-! ## Between the values of a row -/

@[simp] theorem skipLoose_newline (s : List Char) : skipLoose ('\n' :: s) = skipLoose s := by
  rw [skipLoose]
  rfl

@[simp] theorem skipLoose_space (s : List Char) : skipLoose (' ' :: s) = skipLoose s := by
  rw [skipLoose, skipLoose, skipSpace_space]

/-- Whether a character may stand between the values of a row: in space, in a comment or in a line
    end. -/
def isLoose (c : Char) : Bool := isSpace c || c == '#' || isLineEnd c

theorem skipLoose_of_stops (stops : Stops isLoose s) : skipLoose s = s := by
  have space : Stops isSpace s := stops.mono fun c holds => by simp [isLoose, holds]
  have mark : Stops (· == '#') s := stops.mono fun c holds => by simp [isLoose, holds]
  have lineEnd : Stops isLineEnd s := stops.mono fun c holds => by simp [isLoose, holds]
  rw [skipLoose, skipSpace_of_stops space, skipComment_of_stops mark, newline?_of_stops lineEnd]

end LocalPlay.Toml
