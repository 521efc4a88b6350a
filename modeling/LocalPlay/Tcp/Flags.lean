set_option autoImplicit false

/-! # Control flags

The six control flags of a segment of the Transmission Control Protocol, as one byte and as text. -/

namespace LocalPlay.Tcp

/-- The control flags of a segment. -/
structure Flags where
  /-- The sender has no more data. -/
  fin : Bool := false
  /-- Sequence numbers are to be agreed on. -/
  syn : Bool := false
  /-- The connection is broken off. -/
  rst : Bool := false
  /-- The data is to be handed on at once. -/
  psh : Bool := false
  /-- The acknowledgement number counts. -/
  ack : Bool := false
  /-- The urgent pointer counts. -/
  urg : Bool := false
deriving DecidableEq, Repr, Inhabited

namespace Flags

/-- The flags of a segment that opens a connection on our side. -/
def synAck : Flags := { syn := true, ack := true }

/-- The flags of a bare acknowledgement. -/
def ackOnly : Flags := { ack := true }

/-- The flags of a segment with data. -/
def pshAck : Flags := { psh := true, ack := true }

/-- The flags of a segment that ends our data. -/
def finAck : Flags := { fin := true, ack := true }

/-- The flags of a segment that breaks the connection off. -/
def rstAck : Flags := { rst := true, ack := true }

/-- The flags in a byte; its two high bits mean nothing here. -/
def ofByte (b : UInt8) : Flags where
  fin := b &&& 0x01 != 0
  syn := b &&& 0x02 != 0
  rst := b &&& 0x04 != 0
  psh := b &&& 0x08 != 0
  ack := b &&& 0x10 != 0
  urg := b &&& 0x20 != 0

/-- The byte of the flags. -/
def toByte (f : Flags) : UInt8 :=
  (if f.fin then 0x01 else 0) + (if f.syn then 0x02 else 0) + (if f.rst then 0x04 else 0)
    + (if f.psh then 0x08 else 0) + (if f.ack then 0x10 else 0) + (if f.urg then 0x20 else 0)

/-- Whether the segment opens a connection: it synchronises and acknowledges nothing. -/
def isBareSyn (f : Flags) : Bool := f.syn && !f.ack

/-- The names of the flags that are set, synchronisation first, joined by bars; a dash if none is. -/
def toText (f : Flags) : String :=
  let names := [(f.syn, "SYN"), (f.fin, "FIN"), (f.rst, "RST"), (f.psh, "PSH"), (f.ack, "ACK"),
    (f.urg, "URG")].filterMap fun (on, name) => if on then some name else none
  if names.isEmpty then "-" else "|".intercalate names

@[simp] theorem ofByte_toByte (f : Flags) : ofByte f.toByte = f := by
  obtain ⟨a, b, c, d, e, g⟩ := f
  cases a <;> cases b <;> cases c <;> cases d <;> cases e <;> cases g <;> decide

end Flags

end LocalPlay.Tcp
