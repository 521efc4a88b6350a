import LocalPlay.Toml.Section
import LocalPlay.Toml.Value

set_option autoImplicit false

/-! # Formats

How documents look in writing is up to a library, which is a parameter of everything that writes or
reads one. -/

namespace LocalPlay.Toml

/-- A library that writes and reads documents. -/
class Format where
  /-- The text of a document with these sections, or why there is none. -/
  write : List Section → Except String String
  /-- The entries of the document that a text is, or why it is none. -/
  read : String → Except String Value.Entries
  /-- What it says of a document whose entries are not those that were asked for. -/
  misfit : String → String

end LocalPlay.Toml
