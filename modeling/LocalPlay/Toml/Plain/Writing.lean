import LocalPlay.Text.Decimal
import LocalPlay.Toml.Plain.Quoted
import LocalPlay.Toml.Section

set_option autoImplicit false

/-! # Writing documents

A document is written as sections: a header, and a line for each key. There are four ways to quote a
text, and the first that suits it is taken: double quotes, single quotes, three double quotes, three
single quotes (`quotingOf`). A text that none of them suits is written between double quotes with
escapes. Text of several lines starts on a line of its own. -/

namespace LocalPlay.Toml

/-! ## Text -/

def isControl (c : Char) : Bool := c.toNat < 0x20 || c.toNat == 0x7F

/-- Whether a character can only be written as an escape. -/
def needsEscape (c : Char) : Bool := isControl c && c != '\t' && c != '\n'

/-- The four digits of a number in base sixteen, in upper case. -/
def fourDigits (n : Nat) : List Char :=
  [n / 4096, n / 256 % 16, n / 16 % 16, n % 16].map fun d => (Text.digitChar d).toUpper

/-- A character between double quotes. A line feed stands for itself in text of several lines. -/
def escapeChar (severalLines : Bool) (c : Char) : List Char :=
  if c = '\x08' then [backslash, 'b']
  else if c = '\t' then [backslash, 't']
  else if c = '\n' then if severalLines then [c] else [backslash, 'n']
  else if c = '\x0c' then [backslash, 'f']
  else if c = '\r' then [backslash, 'r']
  else if c = quote then [backslash, quote]
  else if c = backslash then [backslash, backslash]
  else if isControl c then backslash :: 'u' :: fourDigits c.toNat
  else [c]

/-- Text between double quotes. Up to `allowed` quotes in a row stand for themselves, and the next one
is escaped; `row` is how many of them stand right before the text. -/
def escapeText (severalLines : Bool) (allowed row : Nat) : List Char → List Char
  | [] => []
  | c :: rest =>
    if c = quote ∧ row < allowed then c :: escapeText severalLines allowed (row + 1) rest
    else escapeChar severalLines c ++ escapeText severalLines allowed 0 rest

/-- The length of the longest row of a quote. -/
def longestRow (q : Char) : List Char → Nat
  | [] => 0
  | c :: rest => max ((c :: rest).takeWhile (· = q)).length (longestRow q rest)

/-- A way to quote a text. -/
inductive Quoting where
  /-- Between double quotes, with escapes. -/
  | basic
  /-- Between single quotes. -/
  | literal
  /-- Between three double quotes, with escapes. -/
  | basicLines
  /-- Between three single quotes. -/
  | literalLines
deriving DecidableEq, Repr

/-- Whether a way to quote suits a text: no backslash and no quote has to be escaped, nor any control
character but a tab. Rows of the same quote have to be shorter than the row that ends the text. -/
def Quoting.Suits (s : List Char) : Quoting → Prop
  | basic =>
    s.any needsEscape = false ∧ backslash ∉ s ∧ longestRow quote s < 1 ∧ '\n' ∉ s
  | literal => s.any needsEscape = false ∧ longestRow apostrophe s < 1 ∧ '\n' ∉ s
  | basicLines => s.any needsEscape = false ∧ backslash ∉ s ∧ longestRow quote s < 3
  | literalLines => s.any needsEscape = false ∧ longestRow apostrophe s < 3

instance (s : List Char) : DecidablePred (Quoting.Suits s) := fun q =>
  match q with
  | .basic => inferInstanceAs (Decidable (_ ∧ _ ∧ _ ∧ _))
  | .literal => inferInstanceAs (Decidable (_ ∧ _ ∧ _))
  | .basicLines => inferInstanceAs (Decidable (_ ∧ _ ∧ _))
  | .literalLines => inferInstanceAs (Decidable (_ ∧ _))

/-- The way in which a text is quoted. -/
def quotingOf (s : List Char) : Quoting :=
  match [Quoting.basic, .literal, .basicLines, .literalLines].find? (Quoting.Suits s ·) with
  | some q => q
  | none => if '\n' ∈ s then .basicLines else .basic

/-- Three of a quote. -/
def triple (q : Char) : List Char := [q, q, q]

/-- Text of several lines starts on a line of its own. -/
def lead (s : List Char) : List Char := if '\n' ∈ s then ['\n'] else []

/-- Text with the quotes around it. -/
def Quoting.enclose (s : List Char) : Quoting → List Char
  | basic => quote :: escapeText false 0 0 s ++ [quote]
  | literal => apostrophe :: s ++ [apostrophe]
  | basicLines => triple quote ++ lead s ++ escapeText true 2 0 s ++ triple quote
  | literalLines => triple apostrophe ++ lead s ++ s ++ triple apostrophe

def quotedText (s : List Char) : List Char := (quotingOf s).enclose s

/-! ## Values -/

/-- The written form of a row of texts: each on a line of its own if there is more than one. -/
def rowText : List String → List Char
  | [] => ['[', ']']
  | [s] => '[' :: quotedText s.toList ++ [']']
  | ss => '[' :: '\n' :: ss.flatMap (fun s =>
      [' ', ' ', ' ', ' '] ++ quotedText s.toList ++ [',', '\n']) ++ [']']

def Item.toChars : Item → List Char
  | text s => quotedText s.toList
  | number n => Text.digits n
  | flag b => (if b then "true" else "false").toList
  | texts ss => rowText ss

/-! ## Sections -/

namespace Section

/-- The lines of a section: its header, and a line for each key. -/
def toChars (s : Section) : List Char :=
  '[' :: s.name.toList ++ [']', '\n']
    ++ s.items.flatMap fun (key, item) =>
      key.toList ++ [' ', '=', ' '] ++ item.toChars ++ ['\n']

/-- The text of a document with the given sections, an empty line between each two. -/
def document (sections : List Section) : String :=
  String.ofList (['\n'].intercalate (sections.map toChars))

end Section

end LocalPlay.Toml
