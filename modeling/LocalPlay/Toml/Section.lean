set_option autoImplicit false

/-! # Sections

What is written to a document: tables with a header, one after the other, each with its keys and
their values. -/

namespace LocalPlay.Toml

/-- Whether a character may stand in a key without quotes. -/
def isBare (c : Char) : Bool :=
  ('0' ≤ c && c ≤ '9') || ('a' ≤ c && c ≤ 'z') || ('A' ≤ c && c ≤ 'Z') || c == '-' || c == '_'

/-- A value that can be written. -/
inductive Item where
  | text (s : String)
  | number (n : Nat)
  | flag (b : Bool)
  | texts (ss : List String)
deriving DecidableEq, Repr

/-- The largest number that can be written, plus one: numbers have 64 bits, one of them for the
sign. -/
def numberLimit : Nat := 0x8000000000000000

/-- Whether a value can be written. -/
def Item.Writable : Item → Prop
  | number n => n < numberLimit
  | _ => True

instance : DecidablePred Item.Writable := fun i =>
  match i with
  | .number n => inferInstanceAs (Decidable (n < numberLimit))
  | .text _ => .isTrue trivial
  | .flag _ => .isTrue trivial
  | .texts _ => .isTrue trivial

/-- A table of a document, with a header. -/
structure Section where
  name : String
  /-- The keys and their values, in the order in which they are written. -/
  items : List (String × Item)
deriving DecidableEq, Repr

namespace Section

/-- Whether every value of a section can be written. -/
def Writable (s : Section) : Prop := ∀ i ∈ s.items, i.2.Writable

instance : DecidablePred Writable := fun s =>
  inferInstanceAs (Decidable (∀ i ∈ s.items, i.2.Writable))

end Section

end LocalPlay.Toml
