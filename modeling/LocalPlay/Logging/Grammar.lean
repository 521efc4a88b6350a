import LocalPlay.Logging.Level
import LocalPlay.Text.Blank

set_option autoImplicit false

/-! # Grammars

How levels and directives look in writing is up to the library that filters the log, which is a
parameter of everything that reads one. White space around them does not count. -/

namespace LocalPlay.Logging

/-- What a library reads in texts without white space around them. -/
class Grammar where
  /-- The level that a text tells, if it tells one. -/
  level? : List Char → Option Level
  /-- Whether a text is a directive: it sets the threshold of one part of the program. -/
  isDirective : List Char → Bool

/-- The level that a text tells. -/
def Level.ofText? [Grammar] (s : String) : Option Level := Grammar.level? (Text.trim s.toList)

/-- Whether a text is a single directive: a comma would begin another one. -/
def isDirective [Grammar] (s : String) : Bool :=
  let trimmed := Text.trim s.toList
  !trimmed.isEmpty && !trimmed.contains ',' && Grammar.isDirective trimmed

/-- Whether a text names a format of the log. -/
def isFormat (s : String) : Bool := ["pretty", "compact", "json"].contains s

end LocalPlay.Logging
