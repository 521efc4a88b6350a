set_option autoImplicit false

/-! # Values of a document

A document is a table of values. A table remembers how it came to be, because that decides what may
be added to it later. -/

namespace LocalPlay.Toml

/-- How a table came to be. -/
inductive Origin where
  /-- It is the document, or has a header of its own. -/
  | given
  /-- It stands between braces. -/
  | braced
  /-- The header of a table inside it was there first. -/
  | implied
  /-- A dotted key goes through it. -/
  | dotted
deriving DecidableEq, Repr

inductive Value where
  | text (s : String)
  | integer (n : Int)
  /-- A number with a fraction or an exponent, infinity, or no number. -/
  | float
  | boolean (b : Bool)
  | datetime
  | array (items : List Value)
  /-- A table, with its entries in the order in which they came. -/
  | table (origin : Origin) (entries : List (String × Value))
  /-- A row of tables, each with a header of its own. -/
  | tables (items : List (List (String × Value)))
deriving Repr, Inhabited

namespace Value

/-- The entries of a table or of a document. -/
abbrev Entries := List (String × Value)

end Value

end LocalPlay.Toml
