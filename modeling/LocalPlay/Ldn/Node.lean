import LocalPlay.Address.Mac
import LocalPlay.Failure
import LocalPlay.Text.Utf8

set_option autoImplicit false

/-! # Nodes

The record that describes one player of a game: 64 bytes, numbers written least significant byte
first, unused bytes zero. The name of the player is text in a field of 33 bytes, ended by a zero
byte. -/

namespace LocalPlay.Ldn

/-- The size of the field for a name. -/
def nameSize : Nat := 33

structure Node where
  ip : IpAddress := .unspecified
  mac : MacAddress := .zero
  /-- The place of the player: zero for the host, one to seven for guests. -/
  id : UInt8 := 0
  connected : Bool := false
  /-- The field that holds the player's name. -/
  userNameField : Block nameSize := default
  version : UInt16 := 0
deriving DecidableEq, Repr, Inhabited

namespace Node

def size : Nat := 64

/-- The record at offset `i`; bytes past the end count as zero. -/
def readAt (b : Bytes) (i : Nat) : Node where
  ip := ⟨b.le32At i⟩
  mac := .readAt b (i + 4)
  id := b.byteAt (i + 10)
  connected := b.byteAt (i + 11) != 0
  userNameField := .ofBytes nameSize (b.field (i + 12) nameSize)
  version := b.le16At (i + 46)

/-- Reads a record; what follows it is left alone. -/
def parse (b : Bytes) : Except Malformed Node :=
  if b.length < size then .error (.recordTooShort "NodeInfo" size b.length)
  else .ok (readAt b 0)

def toBytes (n : Node) : Bytes :=
  Bytes.le32 n.ip.bits ++ n.mac.toBytes ++ [n.id, if n.connected then 1 else 0]
    ++ n.userNameField.bytes ++ [0] ++ Bytes.le16 n.version ++ Bytes.zeros 16

@[simp] theorem length_toBytes (n : Node) : n.toBytes.length = size := by
  simp [toBytes, n.userNameField.length_bytes, nameSize, size]

/-- A buffer with the record over its first bytes, if it is long enough. -/
def writeOver? (n : Node) (buffer : Bytes) : Option Bytes :=
  if size ≤ buffer.length then some (n.toBytes ++ buffer.drop size) else none

def userName (n : Node) : String := Text.ofNulTerminated n.userNameField.bytes

/-- The node with another name: as many bytes of it as leave room for the zero byte that ends it. -/
def setUserName (n : Node) (name : String) : Node :=
  { n with userNameField := .ofBytes nameSize ((Text.utf8 name).take (nameSize - 1)) }

end Node

end LocalPlay.Ldn
