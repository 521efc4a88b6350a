import LocalPlay.Bytes
import LocalPlay.Text.Decimal

set_option autoImplicit false

/-! # Internet addresses

Addresses of the Internet Protocol, version 4, and endpoints (an address and a port), with their
text. An address is four decimal numbers below 256 joined by dots; a leading zero is refused in
an address and allowed in a port. -/

namespace LocalPlay

structure IpAddress where
  /-- The address as a number, its first octet most significant. -/
  bits : UInt32
deriving DecidableEq, Repr, Inhabited

namespace IpAddress

def ofOctets (a b c d : UInt8) : IpAddress :=
  ⟨UInt32.ofNat (Bytes.toNatBE [a, b, c, d])⟩

/-- The address `0.0.0.0`, which stands for no host. -/
def unspecified : IpAddress := ⟨0⟩

/-- The address `255.255.255.255`, which stands for every host on the link. -/
def limitedBroadcast : IpAddress := ⟨0xFFFFFFFF⟩

/-- The four octets, most significant first. -/
def toBytes (ip : IpAddress) : Bytes := Bytes.be32 ip.bits

/-- The address in the four bytes at offset `i`, most significant first. -/
def readAt (b : Bytes) (i : Nat) : IpAddress := ⟨b.be32At i⟩

/-- The address as a number. Addresses are ordered by it. -/
def toNat (ip : IpAddress) : Nat := ip.bits.toNat

@[simp] theorem length_toBytes (ip : IpAddress) : ip.toBytes.length = 4 := Bytes.length_be32 _

/-- What follows a string does not matter to who reads in it. -/
theorem readAt_append {b : Bytes} {i : Nat} (inside : i + 4 ≤ b.length) (rest : Bytes) :
    readAt (b ++ rest) i = readAt b i := by
  rw [readAt, Bytes.be32At_append inside, readAt]

theorem toNat_injective {a b : IpAddress} (h : a.toNat = b.toNat) : a = b := by
  cases a; cases b
  simpa [toNat, UInt32.toNat_inj] using h

/-! ## Text -/

/-- Four decimal numbers joined by dots. -/
def toChars (ip : IpAddress) : List Char :=
  ['.'].intercalate (ip.toBytes.map fun b => Text.digits b.toNat)

instance : ToString IpAddress where
  toString ip := String.ofList ip.toChars

/-- The pieces of a text between occurrences of `sep`; one more than there are occurrences. -/
def pieces (sep : Char) : List Char → List (List Char)
  | [] => [[]]
  | c :: cs =>
    if c = sep then [] :: pieces sep cs
    else match pieces sep cs with
      | [] => [[c]]
      | p :: ps => (c :: p) :: ps

/-- Reads one octet: at most three digits, no leading zero, below 256. -/
def octet? (s : List Char) : Option UInt8 :=
  if s.length ≤ 3 ∧ ¬ (1 < s.length ∧ s.head? = some '0') then
    (Text.ofDigits? s).bind fun n => if n < 256 then some (UInt8.ofNat n) else none
  else none

/-- Reads an address: four octets joined by dots, and nothing else. -/
def ofChars? (s : List Char) : Option IpAddress :=
  match pieces '.' s with
  | [a, b, c, d] => do return ofOctets (← octet? a) (← octet? b) (← octet? c) (← octet? d)
  | _ => none

def ofString? (s : String) : Option IpAddress := ofChars? s.toList

end IpAddress

/-- An address and a port: one end of a conversation. -/
structure Endpoint where
  ip : IpAddress
  port : UInt16
deriving DecidableEq, Repr, Inhabited

namespace Endpoint

/-- The address, a colon and the port. -/
def toChars (p : Endpoint) : List Char := p.ip.toChars ++ ':' :: Text.digits p.port.toNat

instance : ToString Endpoint where
  toString p := String.ofList p.toChars

/-- Reads a port: any number of digits, below 65536. -/
def port? (s : List Char) : Option UInt16 :=
  (Text.ofDigits? s).bind fun n => if n < 65536 then some (UInt16.ofNat n) else none

/-- Reads an address, a colon and a port. -/
def ofChars? (s : List Char) : Option Endpoint :=
  match IpAddress.pieces ':' s with
  | [ip, port] => do return ⟨← IpAddress.ofChars? ip, ← port? port⟩
  | _ => none

def ofString? (s : String) : Option Endpoint := ofChars? s.toList

end Endpoint

end LocalPlay
