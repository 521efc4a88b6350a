import LocalPlay.Toml.Plain.Statement

set_option autoImplicit false

/-! # Documents

The table that the statements of a document make. A header names the table that the assignments after
it go into; assignments before the first header go into the document itself. -/

namespace LocalPlay.Toml

/-- A document while its statements are being read: its entries so far, and the path of the table that
assignments go into. -/
structure Draft where
  entries : Value.Entries := []
  /-- The path of the table that was given the last header. -/
  current : List String := []

namespace Draft

/-- What a statement adds to a document. -/
def add (d : Draft) : Statement → Option Draft
  | .header path name =>
    (Value.alter false (Value.openTable name) path (.given, d.entries)).map fun entries =>
      ⟨entries, path ++ [name]⟩
  | .rowHeader path name =>
    (Value.alter false (Value.extendTables name) path (.given, d.entries)).map fun entries =>
      ⟨entries, path ++ [name]⟩
  | .assign path name v =>
    (Value.alter false (Value.assign path name v) d.current (.given, d.entries)).map fun entries =>
      { d with entries := entries }

end Draft

/-- The entries of a document, from its statements. -/
def entriesOf (statements : List Statement) : Option Value.Entries :=
  (statements.foldlM Draft.add {}).map Draft.entries

/-- The mark that may stand at the start of a text to tell how it is encoded. -/
def byteOrderMark : Char := Char.ofNat 0xFEFF

/-- The entries of a document, from its text. -/
def read? (text : String) : Option Value.Entries :=
  let s := text.toList
  (Statement.readAll (if s.head? = some byteOrderMark then s.drop 1 else s)).bind entriesOf

end LocalPlay.Toml
