import LocalPlay.Bytes
import LocalPlay.Text.Decimal

set_option autoImplicit false

/-! # Hardware addresses

The six-byte addresses of the link layer, with their two wire-level classes (broadcast and
multicast) and their text. A hardware address is written as six pairs of lower-case digits joined
by colons. Reading is more generous: see `MacAddress.ofString?`. -/

namespace LocalPlay

/-- A hardware address: six octets, first on the wire first. -/
structure MacAddress where
  /-- The first octet; its lowest bit marks a group address. -/
  o₁ : UInt8
  o₂ : UInt8
  o₃ : UInt8
  o₄ : UInt8
  o₅ : UInt8
  o₆ : UInt8
deriving DecidableEq, Repr, Inhabited

namespace MacAddress

/-- The address every station listens to. -/
def broadcast : MacAddress := ⟨0xFF, 0xFF, 0xFF, 0xFF, 0xFF, 0xFF⟩

/-- The address with no bit set, which belongs to nobody. -/
def zero : MacAddress := ⟨0, 0, 0, 0, 0, 0⟩

def toBytes (m : MacAddress) : Bytes := [m.o₁, m.o₂, m.o₃, m.o₄, m.o₅, m.o₆]

/-- The address in the first six bytes, if there are six. -/
def ofBytes? : Bytes → Option MacAddress
  | a :: b :: c :: d :: e :: f :: _ => some ⟨a, b, c, d, e, f⟩
  | _ => none

/-- The address in the six bytes at offset `i`; bytes past the end count as zero. -/
def readAt (b : Bytes) (i : Nat) : MacAddress :=
  ⟨b.byteAt i, b.byteAt (i + 1), b.byteAt (i + 2), b.byteAt (i + 3), b.byteAt (i + 4),
    b.byteAt (i + 5)⟩

/-- Whether the address names a group of stations. -/
def IsMulticast (m : MacAddress) : Prop := m.o₁ &&& 1 ≠ 0

instance (m : MacAddress) : Decidable m.IsMulticast :=
  inferInstanceAs (Decidable (m.o₁ &&& 1 ≠ 0))

/-- The octets as one number, first octet most significant. Hardware addresses are ordered by it. -/
def toNat (m : MacAddress) : Nat := Bytes.toNatBE m.toBytes

@[simp] theorem length_toBytes (m : MacAddress) : m.toBytes.length = 6 := rfl

@[simp] theorem ofBytes?_toBytes_append (m : MacAddress) (b : Bytes) :
    ofBytes? (m.toBytes ++ b) = some m := rfl

/-- What follows a string does not matter to who reads in it. -/
theorem readAt_append {b : Bytes} {i : Nat} (inside : i + 6 ≤ b.length) (rest : Bytes) :
    readAt (b ++ rest) i = readAt b i := by
  have same {j : Nat} (hj : j < i + 6) : (b ++ rest).byteAt j = b.byteAt j :=
    Bytes.byteAt_append (Nat.lt_of_lt_of_le hj inside) rest
  simp (disch := omega) only [readAt, same]

theorem toBytes_injective {m n : MacAddress} (h : m.toBytes = n.toBytes) : m = n := by
  cases m; cases n
  simpa [toBytes] using h

theorem toNat_injective {m n : MacAddress} (h : m.toNat = n.toNat) : m = n := by
  have hm := Bytes.ofNatBE_toNatBE m.toBytes
  have hn := Bytes.ofNatBE_toNatBE n.toBytes
  rw [length_toBytes] at hm hn
  exact toBytes_injective (by rw [← hm, ← hn, ← toNat, ← toNat, h])

/-! ## Text -/

/-- The two digits of an octet. -/
def octetText (b : UInt8) : List Char :=
  [Text.digitChar (b.toNat / 16), Text.digitChar (b.toNat % 16)]

/-- Six pairs of digits, joined by colons. -/
def toChars (m : MacAddress) : List Char :=
  [':'].intercalate (m.toBytes.map octetText)

instance : ToString MacAddress where
  toString m := String.ofList m.toChars

/-- Whether a character may stand between the pairs of digits. -/
def isSeparator (c : Char) : Bool := c == ':' || c == '-'

/-- The octet that two characters spell in base sixteen: two digits, or a plus sign and a digit. -/
def octet? (c d : Char) : Option UInt8 :=
  if c = '+' then (Text.hexDigit? d).map UInt8.ofNat
  else do
    let high ← Text.hexDigit? c
    let low ← Text.hexDigit? d
    return UInt8.ofNat (16 * high + low)

/-- Reads a hardware address: twelve characters that spell six octets, with either no separator
or five. Only the number of separators counts, not where they stand, and colons and dashes may
be mixed. -/
def ofChars? (s : List Char) : Option MacAddress :=
  let digits := s.filter fun c => !isSeparator c
  let separators := (s.filter isSeparator).length
  if separators = 0 ∨ separators = 5 then
    match digits with
    | [a, b, c, d, e, f, g, h, i, j, k, l] => do
      return ⟨← octet? a b, ← octet? c d, ← octet? e f, ← octet? g h, ← octet? i j,
        ← octet? k l⟩
    | _ => none
  else none

/-- Reads a hardware address from text, as `ofChars?` does. -/
def ofString? (s : String) : Option MacAddress := ofChars? s.toList

/-- What is said of a text that is no hardware address. -/
def invalidText (s : String) : String := "invalid MAC address: " ++ s

end MacAddress

end LocalPlay
