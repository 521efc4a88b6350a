import LocalPlay.Toml.Plain.Quoted
import LocalPlay.Toml.Plain.Scalar
import LocalPlay.Toml.Plain.Table
import LocalPlay.Toml.Section

set_option autoImplicit false

/-! # Statements

A document is a row of statements: the header of a table, the header of one more table of a row, or
a key and its value. -/

namespace LocalPlay.Toml

inductive Statement where
  /-- What follows belongs to the table of this name, inside the tables of the path. -/
  | header (path : List String) (name : String)
  /-- What follows belongs to one more table of this name, inside the tables of the path. -/
  | rowHeader (path : List String) (name : String)
  /-- The value of this name, inside the tables of the path. -/
  | assign (path : List String) (name : String) (value : Value)
deriving Repr

/-- How deep values may be nested. -/
def nestingLimit : Nat := 79

/-- How many parts a key may have. -/
def keyLimit : Nat := 79

/-! ## Keys -/

/-- Takes one part of a key: a quoted text of one line, or a bare word. -/
def keyPart? (s : List Char) : Option (String × List Char) :=
  if s.head? = some quote then (basicText? (s.drop 1)).map fun (t, rest) => (.ofList t, rest)
  else if s.head? = some apostrophe then
    (literalText? (s.drop 1)).map fun (t, rest) => (.ofList t, rest)
  else
    let word := s.takeWhile isBare
    if word.isEmpty then none else some (.ofList word, s.drop word.length)

/-- Takes the parts of a key, which are joined by points. -/
def keyParts? (s : List Char) : Option (List String × List Char) :=
  match keyPart? (skipSpace s) with
  | none => none
  | some (part, rest) =>
    match skipSpace rest with
    | '.' :: rest' =>
      if rest'.length < s.length then
        (keyParts? rest').map fun (parts, rest'') => (part :: parts, rest'')
      else none
    | rest' => some ([part], rest')
termination_by s.length

/-- Takes a key: its last part is the name, the others are the path to it. -/
def key? (s : List Char) : Option (List String × String × List Char) :=
  (keyParts? s).bind fun (parts, rest) =>
    if parts.length ≤ keyLimit then
      parts.getLast?.map fun name => (parts.dropLast, name, rest)
    else none

/-! ## Values -/

/-- What takes a value from the characters that are left. -/
abbrev Taker := List Char → Option (Value × List Char)

/-- Takes a value that holds no others. -/
def simpleValue? (s : List Char) : Option (Value × List Char) :=
  if s.head? = some quote ∨ s.head? = some apostrophe then
    (quoted? s).map fun (t, rest) => (.text (.ofList t), rest)
  else (scalar? s).map fun (v, rest) =>
    match v with
    | .integer n => (.integer n, rest)
    | .float => (.float, rest)
    | .boolean b => (.boolean b, rest)
    | .datetime => (.datetime, rest)

/-- Takes the values of a row up to and with the bracket that ends it. Each but the last is followed by a
comma; the last may be. -/
def rowItems? (item : Taker) (s : List Char) : Option (List Value × List Char) :=
  match skipLoose s with
  | ']' :: rest => some ([], rest)
  | start =>
    match item start with
    | none => none
    | some (v, rest) =>
      match skipLoose rest with
      | ']' :: rest' => some ([v], rest')
      | ',' :: rest' =>
        if rest'.length < s.length then (rowItems? item rest').map fun (vs, u) => (v :: vs, u)
        else none
      | _ => none
termination_by s.length

/-- Takes a key, an equals sign and a value. -/
def assignment? (item : Taker) (s : List Char) :
    Option ((List String × String × Value) × List Char) :=
  match key? s with
  | some (path, name, '=' :: rest) =>
    (item (skipSpace rest)).map fun (v, rest') => ((path, name, v), rest')
  | _ => none

/-- Takes the assignments between braces up to and with the brace that ends them. There is at least
one, and a comma between each two. -/
def pairs? (item : Taker) (s : List Char) :
    Option (List (List String × String × Value) × List Char) :=
  match assignment? item s with
  | none => none
  | some (p, rest) =>
    match skipSpace rest with
    | '\x7d' :: rest' => some ([p], rest')
    | ',' :: rest' =>
      if rest'.length < s.length then (pairs? item rest').map fun (ps, u) => (p :: ps, u)
      else none
    | _ => none
termination_by s.length

/-- Takes a table between braces, after the opening brace. -/
def inlineTable? (item : Taker) (s : List Char) : Option (Value × List Char) :=
  match skipSpace s with
  | '\x7d' :: rest => some (.table .braced [], rest)
  | _ => (pairs? item s).bind fun (ps, rest) => (Value.ofPairs ps).map fun v => (v, rest)

/-- Takes a value in which others are nested at most `depth` deep. -/
def value? : Nat → List Char → Option (Value × List Char)
  | 0, s => if s.head? = some '[' ∨ s.head? = some '\x7b' then none else simpleValue? s
  | depth + 1, s =>
    match s with
    | '[' :: rest => (rowItems? (value? depth) rest).map fun (vs, u) => (.array vs, u)
    | '\x7b' :: rest => inlineTable? (value? depth) rest
    | _ => simpleValue? s

/-! ## Lines -/

/-- Takes a header after its opening brackets: a key, the closing brackets, and the rest of the
line. -/
def headerLine? (closing : List Char) (s : List Char) :
    Option (List String × String × List Char) :=
  match key? s with
  | none => none
  | some (path, name, rest) =>
    if rest.take closing.length = closing then
      (endLine? (rest.drop closing.length)).map fun rest' => (path, name, rest')
    else none

/-- Takes a statement and the rest of its line. -/
def Statement.take? (s : List Char) : Option (Statement × List Char) :=
  match s with
  | '[' :: '[' :: rest =>
    (headerLine? [']', ']'] rest).map fun (path, name, rest') => (.rowHeader path name, rest')
  | '[' :: rest =>
    (headerLine? [']'] rest).map fun (path, name, rest') => (.header path name, rest')
  | _ =>
    match assignment? (value? nestingLimit) s with
    | none => none
    | some ((path, name, v), rest) =>
      (endLine? rest).map fun rest' => (.assign path name v, rest')

/-- The statements of a document. Lines without a statement do not count. -/
def Statement.readAll (s : List Char) : Option (List Statement) :=
  match skipSpace s with
  | [] => some []
  | start =>
    if start.head? = some '#' ∨ (newline? start).isSome then
      match endLine? start with
      | none => none
      | some rest => if rest.length < s.length then readAll rest else none
    else
      match Statement.take? start with
      | none => none
      | some (st, rest) =>
        if rest.length < s.length then (readAll rest).map (st :: ·) else none
termination_by s.length

end LocalPlay.Toml
