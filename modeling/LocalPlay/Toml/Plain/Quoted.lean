import LocalPlay.Text.Decimal
import LocalPlay.Toml.Plain.Layout

set_option autoImplicit false

/-! # Quoted text

Text in a document stands between quotes. Double quotes allow escapes; between single quotes every
character stands for itself. Three quotes of either kind enclose text of several lines: a line end right
after them does not count, and up to two quotes may stand before the three that end the
text. -/

namespace LocalPlay.Toml

/-- The quote that allows escapes. -/
def quote : Char := '\x22'

/-- The quote that allows none. -/
def apostrophe : Char := '\x27'

/-- The character that begins an escape. -/
def backslash : Char := '\x5c'

/-- What a reader has taken, with a character in front. -/
def prepend {α : Type} (a : α) : List α × List Char → List α × List Char
  | (as, rest) => (a :: as, rest)

/-! ## Escapes -/

/-- The character whose number the first `n` characters spell in base sixteen, and how many
characters that takes with the letter before them. -/
def codePoint? (n : Nat) (s : List Char) : Option (Char × Nat) :=
  if n ≤ s.length then
    (Text.ofDigitsFrom? 16 Text.hexDigit? 0 (s.take n)).bind fun v =>
      if v.isValidChar then some (Char.ofNat v, n + 1) else none
  else none

/-- The character that an escape stands for, and how many characters the escape takes after the
backslash. -/
def escape? : List Char → Option (Char × Nat)
  | 'b' :: _ => some ('\x08', 1)
  | 't' :: _ => some ('\t', 1)
  | 'n' :: _ => some ('\n', 1)
  | 'f' :: _ => some ('\x0c', 1)
  | 'r' :: _ => some ('\r', 1)
  | '\x22' :: _ => some ('\x22', 1)
  | '\x5c' :: _ => some ('\x5c', 1)
  | 'u' :: rest => codePoint? 4 rest
  | 'U' :: rest => codePoint? 8 rest
  | _ => none

/-! ## One line -/

/-- Takes text up to and with the double quote that ends it. -/
def basicText? (s : List Char) : Option (List Char × List Char) :=
  match s with
  | [] => none
  | c :: rest =>
    if c = quote then some ([], rest)
    else if c = backslash then
      match escape? rest with
      | none => none
      | some (d, n) => (basicText? (rest.drop n)).map (prepend d)
    else if isPlain c then (basicText? rest).map (prepend c)
    else none
termination_by s.length
decreasing_by all_goals (simp only [List.length_cons, List.length_drop]; omega)

/-- Takes text up to and with the single quote that ends it. -/
def literalText? : List Char → Option (List Char × List Char)
  | [] => none
  | c :: rest =>
    if c = apostrophe then some ([], rest)
    else if isPlain c then (literalText? rest).map (prepend c)
    else none

/-! ## Several lines -/

/-- Three quotes that end a text: how many quotes of the text stand before them, and what
follows. -/
def closing? (q : Char) (s : List Char) : Option (Nat × List Char) :=
  if s.take 3 = [q, q, q] then
    let extra := min 2 ((s.drop 3).takeWhile (· = q)).length
    some (extra, s.drop (3 + extra))
  else none

/-- What is left after a line end that a backslash cancels, together with all blank space and line ends
that follow. -/
def continuation? (s : List Char) : Option (List Char) :=
  (newline? (skipSpace s)).map skipLines

theorem length_continuation?_le {s rest : List Char} (h : continuation? s = some rest) :
    rest.length ≤ s.length := by
  unfold continuation? at h
  obtain ⟨t, ht, rfl⟩ := Option.map_eq_some_iff.1 h
  have := length_newline?_lt ht
  have := length_skipSpace_le s
  have := length_skipLines_le t
  omega

/-- Takes text up to and with the three double quotes that end it. -/
def basicLines? (s : List Char) : Option (List Char × List Char) :=
  match s with
  | [] => none
  | c :: rest =>
    if c = quote then
      match closing? quote (c :: rest) with
      | some (extra, rest') => some (List.replicate extra quote, rest')
      | none => (basicLines? rest).map (prepend c)
    else if c = backslash then
      match _h : continuation? rest with
      | some rest' => basicLines? rest'
      | none =>
        match escape? rest with
        | none => none
        | some (d, n) => (basicLines? (rest.drop n)).map (prepend d)
    else match _h : newline? (c :: rest) with
      | some rest' => (basicLines? rest').map (prepend '\n')
      | none => if isPlain c then (basicLines? rest).map (prepend c) else none
termination_by s.length
decreasing_by
  · exact Nat.lt_succ_self _
  · exact Nat.lt_succ_of_le (length_continuation?_le _h)
  · rw [List.length_drop, List.length_cons]
    omega
  · exact length_newline?_lt _h
  · exact Nat.lt_succ_self _

/-- Takes text up to and with the three single quotes that end it. -/
def literalLines? (s : List Char) : Option (List Char × List Char) :=
  match s with
  | [] => none
  | c :: rest =>
    if c = apostrophe then
      match closing? apostrophe (c :: rest) with
      | some (extra, rest') => some (List.replicate extra apostrophe, rest')
      | none => (literalLines? rest).map (prepend c)
    else match _h : newline? (c :: rest) with
      | some rest' => (literalLines? rest').map (prepend '\n')
      | none => if isPlain c then (literalLines? rest).map (prepend c) else none
termination_by s.length
decreasing_by
  · exact Nat.lt_succ_self _
  · exact length_newline?_lt _h
  · exact Nat.lt_succ_self _

/-- What is left after a line end, if there is one at the start. -/
def skipNewline (s : List Char) : List Char := (newline? s).getD s

/-- Takes text with the quotes around it. -/
def quoted? (s : List Char) : Option (List Char × List Char) :=
  if s.take 3 = [quote, quote, quote] then basicLines? (skipNewline (s.drop 3))
  else if s.take 3 = [apostrophe, apostrophe, apostrophe] then
    literalLines? (skipNewline (s.drop 3))
  else if s.head? = some quote then basicText? (s.drop 1)
  else if s.head? = some apostrophe then literalText? (s.drop 1)
  else none

end LocalPlay.Toml
