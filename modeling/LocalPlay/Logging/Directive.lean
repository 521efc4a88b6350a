import LocalPlay.Logging.Grammar
import LocalPlay.Text.Alphanumeric
import LocalPlay.Text.Decimal

set_option autoImplicit false

/-! # Levels and directives in writing

A grammar that runs. A level is written as its name, in letters of either case, or as a number from
one, for the most important, to five. A threshold is a level, or the word that shuts everything out.

A directive sets the threshold of one part of the program: a target, perhaps with a span in brackets
that may ask for fields in braces, then an equals sign and the threshold. Any of them may be
missing, but not all. -/

namespace LocalPlay.Logging

namespace Level

/-- Every level, the most important first. -/
def all : List Level := [error, warn, info, debug, trace]

/-- Whether a text is a name, in letters of either case. -/
def named (s : List Char) (name : String) : Bool := s.map Char.toLower == name.toList

/-- The level that a text without white space around it tells. -/
def ofChars? (s : List Char) : Option Level :=
  match Text.ofSignedDigits? s with
  | some n => if n = 0 then none else all[n - 1]?
  | none => all.find? fun l => named s l.name

end Level

/-- Whether a text without white space around it tells a threshold: a level, zero or the word that
shuts everything out, or nothing. -/
def isThreshold (s : List Char) : Bool :=
  s.isEmpty || (Level.ofChars? s).isSome || Text.ofSignedDigits? s == some 0
    || Level.named s "off"

/-- How far the reading of a directive has come. -/
inductive DirectiveStage where
  /-- Nothing has been read. -/
  | start
  /-- Inside a target, or a level without one. -/
  | target
  /-- Inside the brackets of a span. -/
  | span
  /-- Right after the brace that opens fields. -/
  | fieldsOpen
  /-- Inside the braces of fields. -/
  | fields
  /-- Right after the brace that closes fields. -/
  | fieldsClosed
  /-- Right after the bracket that closes a span. -/
  | spanClosed
deriving DecidableEq, Repr

/-- Whether a target can begin with a character. -/
def beginsTarget (c : Char) : Bool :=
  Text.isAlphanumeric c || c == '-' || c == ':' || c == '_'

/-- Whether the rest of a text completes a directive. -/
def completes : DirectiveStage → List Char → Bool
  | .target, [] => true
  | .spanClosed, [] => true
  | _, [] => false
  | .start, c :: rest =>
    if c = '[' then completes .span rest
    else if beginsTarget c then completes .target rest
    else false
  | .target, c :: rest =>
    if c = '=' then isThreshold rest
    else if c = '[' then completes .span rest
    else completes .target rest
  | .span, c :: rest =>
    if c = ']' then completes .spanClosed rest
    else if c = '\x7b' then completes .fieldsOpen rest
    else completes .span rest
  | .fieldsOpen, c :: rest => if c = '\x7d' then false else completes .fields rest
  | .fields, c :: rest =>
    if c = '\x7d' then completes .fieldsClosed rest else completes .fields rest
  | .fieldsClosed, c :: rest => if c = ']' then completes .spanClosed rest else false
  | .spanClosed, c :: rest => if c = '=' then isThreshold rest else false

instance grammar : Grammar where
  level? := Level.ofChars?
  isDirective := completes .start

end LocalPlay.Logging
