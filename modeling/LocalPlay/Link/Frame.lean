import LocalPlay.Address.Mac
import LocalPlay.Failure

set_option autoImplicit false

/-! # Ethernet frames

A frame is two hardware addresses, a number that tells what the payload is, and the payload. There
is no tag and no check sequence, so every string of at least fourteen bytes is a frame, and
`Frame.parse` and `Frame.toBytes` undo each other. -/

namespace LocalPlay.Link

inductive EtherType where
  | ipv4
  | arp
deriving DecidableEq, Repr

def EtherType.code : EtherType → UInt16
  | ipv4 => 0x0800
  | arp => 0x0806

def EtherType.ofCode? (n : UInt16) : Option EtherType :=
  if n = 0x0800 then some .ipv4 else if n = 0x0806 then some .arp else none

theorem EtherType.ofCode?_eq_some_iff {n : UInt16} {t : EtherType} :
    ofCode? n = some t ↔ n = t.code := by
  unfold ofCode?
  cases t <;> simp only [code] <;> split <;> simp_all

structure Frame where
  dst : MacAddress := .broadcast
  src : MacAddress := .zero
  /-- The number that tells what the payload is. -/
  etherType : UInt16 := 0
  payload : Bytes := []
deriving DecidableEq, Repr

namespace Frame

def headerSize : Nat := 14

/-- Reads a frame. It fails only for want of a header. -/
def parse (b : Bytes) : Except Malformed Frame :=
  if b.length < headerSize then .error .frameTooShort
  else .ok {
    dst := .readAt b 0
    src := .readAt b 6
    etherType := b.be16At 12
    payload := b.drop headerSize }

def toBytes (f : Frame) : Bytes :=
  f.dst.toBytes ++ f.src.toBytes ++ Bytes.be16 f.etherType ++ f.payload

/-- Every frame that is written can be read back. -/
theorem parse_toBytes (f : Frame) : parse f.toBytes = .ok f := by
  have length : ¬ f.toBytes.length < headerSize := by
    simp only [toBytes, List.length_append, MacAddress.length_toBytes, Bytes.length_be16, headerSize]
    omega
  have etherType : f.toBytes.be16At 12 = f.etherType := Bytes.be16At_of_field rfl
  rw [parse, if_neg length, etherType]
  rfl

end Frame

end LocalPlay.Link
