import LocalPlay.Text.Decimal

set_option autoImplicit false

/-! # Numbers, dates and truth values

The values that are written without quotes. Each is one word, except that a date and a time may have
a space between them. Of numbers with a fraction and of dates only the form matters here, so their
value is not kept. -/

namespace LocalPlay.Toml

/-- A value that is written without quotes. -/
inductive Scalar where
  | integer (n : Int)
  /-- A number with a fraction or an exponent, infinity, or no number. -/
  | float
  | boolean (b : Bool)
  | datetime
deriving DecidableEq, Repr

/-! ## Digits -/

def isDigit (c : Char) : Bool := (Text.decimalDigit? c).isSome

def isHexDigit (c : Char) : Bool := (Text.hexDigit? c).isSome

def isOctalDigit (c : Char) : Bool := '0' ≤ c && c ≤ '7'

def isBinaryDigit (c : Char) : Bool := c == '0' || c == '1'

/-- The digits of a numeral in which single underscores may stand between digits. -/
def ungroup? (digit : Char → Bool) : List Char → Option (List Char)
  | [] => none
  | [c] => if digit c then some [c] else none
  | c :: '_' :: rest => if digit c then (ungroup? digit rest).map (c :: ·) else none
  | c :: d :: rest => if digit c then (ungroup? digit (d :: rest)).map (c :: ·) else none

/-- A word without the sign it may begin with, and whether that is a minus sign. -/
def splitSign : List Char → Bool × List Char
  | '-' :: rest => (true, rest)
  | '+' :: rest => (false, rest)
  | s => (false, s)

/-- The digits of a decimal numeral without superfluous zeros in front. -/
def decimalDigits? (s : List Char) : Option (List Char) :=
  (ungroup? isDigit s).filter fun ds => !(1 < ds.length && ds.head? == some '0')

/-! ## Whole numbers -/

def ofDigits? (base : Nat) (digits : List Char) : Option Nat :=
  Text.ofDigitsFrom? base Text.hexDigit? 0 digits

/-- The number that a word in base ten, sixteen, eight or two spells. Only base ten has a sign. -/
def wholeNumber? (word : List Char) : Option Int :=
  match word with
  | '0' :: 'x' :: rest => ((ungroup? isHexDigit rest).bind (ofDigits? 16)).map Int.ofNat
  | '0' :: 'o' :: rest => ((ungroup? isOctalDigit rest).bind (ofDigits? 8)).map Int.ofNat
  | '0' :: 'b' :: rest => ((ungroup? isBinaryDigit rest).bind (ofDigits? 2)).map Int.ofNat
  | _ =>
    let (negative, rest) := splitSign word
    ((decimalDigits? rest).bind (ofDigits? 10)).map fun n =>
      if negative then -(n : Int) else (n : Int)

/-- Whole numbers have 64 bits, one of them for the sign. -/
def InRange (n : Int) : Prop := -0x8000000000000000 ≤ n ∧ n < 0x8000000000000000

instance (n : Int) : Decidable (InRange n) := inferInstanceAs (Decidable (_ ∧ _))

/-! ## Numbers with a fraction or an exponent -/

/-- The parts of a number with a fraction or an exponent, as digits and the sign of the exponent. -/
structure FloatParts where
  whole : List Char
  fraction : List Char
  negativeExponent : Bool
  exponent : List Char

/-- What follows the digits before the point: a point and digits, an exponent, or both. -/
def fractionAndExponent? (whole rest : List Char) : Option FloatParts :=
  let isExponent (c : Char) : Bool := c == 'e' || c == 'E'
  let front := rest.takeWhile fun c => !isExponent c
  let fraction? : Option (List Char) := match front with
    | [] => some []
    | '.' :: digits => ungroup? isDigit digits
    | _ => none
  match fraction?, rest.drop front.length with
  | none, _ => none
  | some fraction, [] => if front.isEmpty then none else some ⟨whole, fraction, false, []⟩
  | some fraction, _ :: exponent =>
    let (negative, digits) := splitSign exponent
    (ungroup? isDigit digits).map fun ds => ⟨whole, fraction, negative, ds⟩

/-- The parts of a number without sign. -/
def floatParts? (s : List Char) : Option FloatParts :=
  let isWhole (c : Char) : Bool := isDigit c || c == '_'
  let front := s.takeWhile isWhole
  (decimalDigits? front).bind fun whole => fractionAndExponent? whole (s.drop front.length)

/-- The least number that is rounded up to infinity when it is stored with 53 binary digits. -/
def floatLimit : Nat := Nat.pow 2 1024 - Nat.pow 2 970

/-- Whether a number is too large to be stored with 53 binary digits and 11 bits for the
exponent. -/
def FloatParts.overflows (p : FloatParts) : Bool :=
  let digits := (p.whole ++ p.fraction).dropWhile (· == '0')
  let mantissa := (ofDigits? 10 digits).getD 0
  let size : Nat := (ofDigits? 10 p.exponent).getD 0
  let exponent : Int := (if p.negativeExponent then -(size : Int) else size) - p.fraction.length
  let magnitude : Int := digits.length + exponent
  if digits.isEmpty || magnitude < 308 then false
  else if 310 < magnitude then true
  else if 0 ≤ exponent then floatLimit ≤ mantissa * Nat.pow 10 exponent.toNat
  else floatLimit * Nat.pow 10 (-exponent).toNat ≤ mantissa

/-- Whether a word is a number with a fraction or an exponent, infinity, or no number. A positive
number that is too large is none. -/
def isFloat (word : List Char) : Bool :=
  let (negative, rest) := splitSign word
  if rest = ['i', 'n', 'f'] ∨ rest = ['n', 'a', 'n'] then true
  else match floatParts? rest with
    | none => false
    | some parts => negative || !parts.overflows

/-! ## Dates and times -/

/-- The number that two digits spell. -/
def pair? (c d : Char) : Option Nat := do
  return 10 * (← Text.decimalDigit? c) + (← Text.decimalDigit? d)

/-- How many days a month has. -/
def daysIn (year month : Nat) : Nat :=
  if month = 2 then
    if year % 4 = 0 ∧ (year % 100 ≠ 0 ∨ year % 400 = 0) then 29 else 28
  else if month = 4 ∨ month = 6 ∨ month = 9 ∨ month = 11 then 30
  else 31

/-- Takes a date: a year of four digits, a month and a day that there is. -/
def skipDate? : List Char → Option (List Char)
  | a :: b :: c :: d :: '-' :: e :: f :: '-' :: g :: h :: rest => do
    let year := 100 * (← pair? a b) + (← pair? c d)
    let month ← pair? e f
    let day ← pair? g h
    if 1 ≤ month ∧ month ≤ 12 ∧ 1 ≤ day ∧ day ≤ daysIn year month then some rest else none
  | _ => none

/-- Takes the fraction of a second, if there is one. -/
def skipFraction? : List Char → Option (List Char)
  | '.' :: rest =>
    let digits := rest.takeWhile isDigit
    if digits.isEmpty then none else some (rest.drop digits.length)
  | s => some s

/-- Takes a time of day: hours, minutes, seconds, and perhaps a fraction of a second. -/
def skipTime? : List Char → Option (List Char)
  | a :: b :: ':' :: c :: d :: ':' :: e :: f :: rest => do
    let hour ← pair? a b
    let minute ← pair? c d
    let second ← pair? e f
    if hour ≤ 23 ∧ minute ≤ 59 ∧ second ≤ 60 then skipFraction? rest else none
  | _ => none

/-- Whether a word is the offset of a time zone, or nothing. -/
def isOffset : List Char → Bool
  | [] => true
  | ['Z'] => true
  | ['z'] => true
  | [sign, a, b, ':', c, d] =>
    match pair? a b, pair? c d with
    | some hour, some minute => (sign == '+' || sign == '-') && hour ≤ 23 && minute ≤ 59
    | _, _ => false
  | _ => false

/-- Whether a word is a time of day, with or without the offset of a time zone. -/
def isZonedTime (s : List Char) : Bool := ((skipTime? s).map isOffset).getD false

def isDate (word : List Char) : Bool := skipDate? word == some []

/-- Whether a word is a date, a time of day, or both. -/
def isDatetime (word : List Char) : Bool :=
  match skipDate? word with
  | some [] => true
  | some (c :: rest) => (c == 'T' || c == 't') && isZonedTime rest
  | none => skipTime? word == some []

/-! ## Words -/

/-- Whether a character may stand in a word. -/
def isWord (c : Char) : Bool :=
  isDigit c || ('a' ≤ c && c ≤ 'z') || ('A' ≤ c && c ≤ 'Z') || c == '+' || c == '-' || c == '_'
    || c == '.' || c == ':'

def Scalar.ofWord? (word : List Char) : Option Scalar :=
  if word = "true".toList then some (.boolean true)
  else if word = "false".toList then some (.boolean false)
  else if isDatetime word then some .datetime
  else if isFloat word then some .float
  else (wholeNumber? word).bind fun n => if InRange n then some (.integer n) else none

/-- What is left after a time that follows a date and a space, if that is what there is. -/
def skipTimeAfterSpace (s : List Char) : List Char :=
  match s with
  | ' ' :: rest =>
    let time := rest.takeWhile isWord
    if isZonedTime time then rest.drop time.length else s
  | _ => s

/-- Takes a value that is written without quotes. -/
def scalar? (s : List Char) : Option (Scalar × List Char) :=
  let word := s.takeWhile isWord
  let rest := s.drop word.length
  (Scalar.ofWord? word).map fun v => (v, if isDate word then skipTimeAfterSpace rest else rest)

end LocalPlay.Toml
