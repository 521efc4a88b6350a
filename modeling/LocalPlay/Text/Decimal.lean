set_option autoImplicit false

/-! # Numerals

Decimal numerals as the library writes them, without sign or leading zeros, and numerals in base
ten or sixteen as it reads them. Reading what was written gives the number back
(`ofDigits?_digits`). -/

namespace LocalPlay.Text

/-! ## Digits -/

/-- The character of a digit below sixteen, in lower case. -/
def digitChar (d : Nat) : Char :=
  if d < 10 then Char.ofNat (48 + d) else Char.ofNat (87 + d)

/-- The value of a digit in base ten. -/
def decimalDigit? (c : Char) : Option Nat :=
  if '0' ≤ c ∧ c ≤ '9' then some (c.toNat - 48) else none

/-- The value of a digit in base sixteen, of either case. -/
def hexDigit? (c : Char) : Option Nat :=
  if '0' ≤ c ∧ c ≤ '9' then some (c.toNat - 48)
  else if 'a' ≤ c ∧ c ≤ 'f' then some (c.toNat - 87)
  else if 'A' ≤ c ∧ c ≤ 'F' then some (c.toNat - 55)
  else none

theorem decimalDigit?_digitChar {d : Nat} (h : d < 10) : decimalDigit? (digitChar d) = some d := by
  have : ∀ d : Fin 10, decimalDigit? (digitChar d) = some d.val := by decide
  exact this ⟨d, h⟩

theorem hexDigit?_digitChar {d : Nat} (h : d < 16) : hexDigit? (digitChar d) = some d := by
  have : ∀ d : Fin 16, hexDigit? (digitChar d) = some d.val := by decide
  exact this ⟨d, h⟩

/-! ## Writing -/

/-- The decimal digits of `n`, most significant first. -/
def digits (n : Nat) : List Char :=
  if n < 10 then [digitChar n] else digits (n / 10) ++ [digitChar (n % 10)]

/-- The decimal numeral of `n`. -/
def decimal (n : Nat) : String := String.ofList (digits n)

/-! ## Reading -/

/-- The number that a string of digits spells in the given base, going on from `acc`; `none` if
`value` refuses one of the characters. -/
def ofDigitsFrom? (base : Nat) (value : Char → Option Nat) (acc : Nat) : List Char → Option Nat
  | [] => some acc
  | c :: cs => (value c).bind fun d => ofDigitsFrom? base value (acc * base + d) cs

/-- The number that a string of at least one decimal digit spells; leading zeros are allowed. -/
def ofDigits? : List Char → Option Nat
  | [] => none
  | cs => ofDigitsFrom? 10 decimalDigit? 0 cs

/-- The number that an optional plus sign and at least one decimal digit spell. -/
def ofSignedDigits? : List Char → Option Nat
  | '+' :: cs => ofDigits? cs
  | cs => ofDigits? cs

theorem ofDigitsFrom?_append (base : Nat) (value : Char → Option Nat) (acc : Nat)
    (as bs : List Char) :
    ofDigitsFrom? base value acc (as ++ bs)
      = (ofDigitsFrom? base value acc as).bind fun n => ofDigitsFrom? base value n bs := by
  induction as generalizing acc with
  | nil => rfl
  | cons c cs ih =>
    simp only [List.cons_append, ofDigitsFrom?]
    cases value c with
    | none => rfl
    | some d => exact ih _

theorem ofDigitsFrom?_digits (n : Nat) : ofDigitsFrom? 10 decimalDigit? 0 (digits n) = some n := by
  fun_induction digits n with
  | case1 n h => simp [ofDigitsFrom?, decimalDigit?_digitChar h]
  | case2 n h ih =>
    have hd : n % 10 < 10 := Nat.mod_lt n (by decide)
    rw [ofDigitsFrom?_append, ih]
    simp only [Option.bind_some, ofDigitsFrom?, decimalDigit?_digitChar hd, Option.some.injEq]
    omega

theorem digits_ne_nil (n : Nat) : digits n ≠ [] := by
  fun_induction digits n <;> simp

/-- Every character of a written numeral is a decimal digit. -/
theorem decimalDigit?_of_mem_digits {n : Nat} {c : Char} (h : c ∈ digits n) :
    ∃ d < 10, c = digitChar d := by
  fun_induction digits n with
  | case1 n hn => exact ⟨n, hn, by simpa using h⟩
  | case2 n hn ih =>
    rcases List.mem_append.1 h with h | h
    · exact ih h
    · exact ⟨n % 10, Nat.mod_lt n (by decide), by simpa using h⟩

/-- A written numeral reads back as its number. -/
theorem ofDigits?_digits (n : Nat) : ofDigits? (digits n) = some n := by
  have h := ofDigitsFrom?_digits n
  cases hd : digits n with
  | nil => exact absurd hd (digits_ne_nil n)
  | cons c cs => rw [ofDigits?, ← hd, h]; simp

end LocalPlay.Text
