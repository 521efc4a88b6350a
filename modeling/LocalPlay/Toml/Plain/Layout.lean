set_option autoImplicit false

/-! # Layout of a document

What stands between the parts of a document: spaces and tabs, line ends and comments. A reader takes
the characters that are left and gives those that are left after it. -/

namespace LocalPlay.Toml

def isSpace (c : Char) : Bool := c == ' ' || c == '\t'

/-- Whether a character may stand in a comment, and in a string: neither a line end nor another
control character, the tab excepted. -/
def isPlain (c : Char) : Bool :=
  c == '\t' || (0x20 ≤ c.toNat && c.toNat ≤ 0x7E) || 0x80 ≤ c.toNat

/-- Skips spaces and tabs. -/
def skipSpace (s : List Char) : List Char := s.dropWhile isSpace

/-- Takes a line end: a line feed, or a carriage return and a line feed. -/
def newline? : List Char → Option (List Char)
  | '\n' :: rest => some rest
  | '\r' :: '\n' :: rest => some rest
  | _ => none

/-- Skips a comment, up to the end of its line. -/
def skipComment : List Char → List Char
  | '#' :: rest => rest.dropWhile isPlain
  | s => s

/-- Takes what may follow the last part of a line: space, a comment, and the end of the line or of the
document. -/
def endLine? (s : List Char) : Option (List Char) :=
  match skipComment (skipSpace s) with
  | [] => some []
  | rest => newline? rest

theorem length_dropWhile_le (p : Char → Bool) (s : List Char) :
    (s.dropWhile p).length ≤ s.length :=
  (List.dropWhile_sublist p).length_le

theorem length_skipSpace_le (s : List Char) : (skipSpace s).length ≤ s.length :=
  length_dropWhile_le _ _

theorem length_skipComment_le (s : List Char) : (skipComment s).length ≤ s.length := by
  unfold skipComment
  split
  · have := length_dropWhile_le isPlain
    rename_i rest
    have := this rest
    simp only [List.length_cons]
    omega
  · exact Nat.le_refl _

theorem length_newline?_lt {s rest : List Char} (h : newline? s = some rest) :
    rest.length < s.length := by
  unfold newline? at h
  split at h
  · obtain rfl := Option.some.inj h
    exact Nat.lt_succ_self _
  · obtain rfl := Option.some.inj h
    rw [List.length_cons, List.length_cons]
    omega
  · exact absurd h (by simp)

/-- Skips spaces, tabs and line ends. -/
def skipLines (s : List Char) : List Char :=
  match _h : newline? (skipSpace s) with
  | some rest => skipLines rest
  | none => skipSpace s
termination_by s.length
decreasing_by
  have := length_newline?_lt _h
  have := length_skipSpace_le s
  omega

/-- Skips spaces, tabs, comments and line ends. A comment that no line end follows is left. -/
def skipLoose (s : List Char) : List Char :=
  match _h : newline? (skipComment (skipSpace s)) with
  | some rest => skipLoose rest
  | none => skipSpace s
termination_by s.length
decreasing_by
  have := length_newline?_lt _h
  have := length_skipComment_le (skipSpace s)
  have := length_skipSpace_le s
  omega

theorem length_skipLines_le (s : List Char) : (skipLines s).length ≤ s.length := by
  fun_induction skipLines s with
  | case1 s rest h ih =>
    have := length_newline?_lt h
    have := length_skipSpace_le s
    omega
  | case2 s h => exact length_skipSpace_le s

end LocalPlay.Toml
