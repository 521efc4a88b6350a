import LocalPlay.Bytes

set_option autoImplicit false

/-! # UTF-8

Text as bytes, and bytes as text. Encoding is exact. Decoding never fails: bytes that are not UTF-8
are replaced, one replacement character for each longest run that could still have begun a
character (the longest initial part of a well-formed sequence, or else a single byte).

Each lead byte says how many continuation bytes must follow and in which range the first of them
lies (`lead`); narrower ranges keep out overlong forms, surrogates and numbers past the last
code point. -/

namespace LocalPlay.Text

def utf8 (s : String) : Bytes := s.toList.flatMap String.utf8EncodeChar

/-- The character that stands for bytes which are not text. -/
def replacement : Char := Char.ofNat 0xFFFD

/-- What a byte begins: a character of its own, or a sequence of two to four bytes, with the bits
that the lead byte contributes and the range of the byte after it. -/
inductive Lead where
  | single (c : Char)
  | two (bits : Nat)
  /-- Two continuation bytes follow, the first between `lo` and `hi`. -/
  | three (bits : Nat) (lo hi : UInt8)
  /-- Three continuation bytes follow, the first between `lo` and `hi`. -/
  | four (bits : Nat) (lo hi : UInt8)
  /-- No character begins with this byte. -/
  | none

/-- What the byte begins. -/
def lead (b : UInt8) : Lead :=
  if b < 0x80 then .single (Char.ofNat b.toNat)
  else if 0xC2 ≤ b ∧ b ≤ 0xDF then .two (b.toNat - 0xC0)
  else if b = 0xE0 then .three 0 0xA0 0xBF
  else if b = 0xED then .three 0xD 0x80 0x9F
  else if 0xE1 ≤ b ∧ b ≤ 0xEF then .three (b.toNat - 0xE0) 0x80 0xBF
  else if b = 0xF0 then .four 0 0x90 0xBF
  else if 0xF1 ≤ b ∧ b ≤ 0xF3 then .four (b.toNat - 0xF0) 0x80 0xBF
  else if b = 0xF4 then .four 4 0x80 0x8F
  else .none

/-- Whether a byte lies in the given range. -/
def within (lo hi b : UInt8) : Bool := lo ≤ b && b ≤ hi

/-- Whether a byte can continue a character. -/
def isContinuation (b : UInt8) : Bool := within 0x80 0xBF b

/-- Adds the six bits of a continuation byte. -/
def addBits (bits : Nat) (b : UInt8) : Nat := bits * 64 + (b.toNat - 0x80)

/-- The characters of a byte string, with replacement characters for what is not UTF-8. -/
def decodeUtf8 : Bytes → List Char
  | [] => []
  | b :: rest =>
    match lead b with
    | .single c => c :: decodeUtf8 rest
    | .none => replacement :: decodeUtf8 rest
    | .two bits =>
      match rest with
      | [] => [replacement]
      | b₁ :: rest₁ =>
        if isContinuation b₁ then Char.ofNat (addBits bits b₁) :: decodeUtf8 rest₁
        else replacement :: decodeUtf8 (b₁ :: rest₁)
    | .three bits lo hi =>
      match rest with
      | [] => [replacement]
      | b₁ :: rest₁ =>
        if within lo hi b₁ then
          match rest₁ with
          | [] => [replacement]
          | b₂ :: rest₂ =>
            if isContinuation b₂ then
              Char.ofNat (addBits (addBits bits b₁) b₂) :: decodeUtf8 rest₂
            else replacement :: decodeUtf8 (b₂ :: rest₂)
        else replacement :: decodeUtf8 (b₁ :: rest₁)
    | .four bits lo hi =>
      match rest with
      | [] => [replacement]
      | b₁ :: rest₁ =>
        if within lo hi b₁ then
          match rest₁ with
          | [] => [replacement]
          | b₂ :: rest₂ =>
            if isContinuation b₂ then
              match rest₂ with
              | [] => [replacement]
              | b₃ :: rest₃ =>
                if isContinuation b₃ then
                  Char.ofNat (addBits (addBits (addBits bits b₁) b₂) b₃) :: decodeUtf8 rest₃
                else replacement :: decodeUtf8 (b₃ :: rest₃)
            else replacement :: decodeUtf8 (b₂ :: rest₂)
        else replacement :: decodeUtf8 (b₁ :: rest₁)
termination_by b => b.length

/-- The bytes before the first zero byte, as text. -/
def ofNulTerminated (b : Bytes) : String :=
  String.ofList (decodeUtf8 (b.takeWhile (· ≠ 0)))

end LocalPlay.Text
