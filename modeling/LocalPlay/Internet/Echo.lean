import LocalPlay.Failure
import LocalPlay.Internet.Checksum

set_option autoImplicit false

/-! # Echo messages

The part of the Internet Control Message Protocol that tells whether a host is there: an echo
request, and the echo reply that returns its identifier, sequence number and payload. -/

namespace LocalPlay.Internet

inductive EchoKind where
  | reply
  | request
deriving DecidableEq, Repr

def EchoKind.code : EchoKind → UInt8
  | reply => 0
  | request => 8

/-- A control message, read as an echo message; `kind` tells whether it is one. -/
structure Echo where
  kind : UInt8
  /-- The variant of the message; zero in echo messages. -/
  code : UInt8
  checksum : UInt16
  /-- Tells the requests of one host apart. -/
  identifier : UInt16
  /-- Counts the requests of one series. -/
  sequence : UInt16
  /-- What comes back unchanged. -/
  payload : Bytes
deriving DecidableEq, Repr

namespace Echo

def headerSize : Nat := 8

def parse (b : Bytes) : Except Malformed Echo :=
  if b.length < headerSize then .error .icmpTooShort
  else .ok {
    kind := b.byteAt 0
    code := b.byteAt 1
    checksum := b.be16At 2
    identifier := b.be16At 4
    sequence := b.be16At 6
    payload := b.drop headerSize }

def toBytes (m : Echo) : Bytes :=
  [m.kind, m.code] ++ Bytes.be16 m.checksum ++ Bytes.be16 m.identifier ++ Bytes.be16 m.sequence
    ++ m.payload

/-- Whether the message sums to zero with the checksum it carries. -/
def Verifies (m : Echo) : Prop := Internet.checksum m.toBytes = 0

instance (m : Echo) : Decidable m.Verifies :=
  inferInstanceAs (Decidable (Internet.checksum m.toBytes = 0))

def IsRequest (m : Echo) : Prop := m.kind = EchoKind.request.code

instance (m : Echo) : Decidable m.IsRequest := inferInstanceAs (Decidable (m.kind = _))

def IsReply (m : Echo) : Prop := m.kind = EchoKind.reply.code

instance (m : Echo) : Decidable m.IsReply := inferInstanceAs (Decidable (m.kind = _))

/-- An echo message with its checksum. -/
def message (kind : EchoKind) (identifier sequence : UInt16) (payload : Bytes) : Echo :=
  let blank : Echo := ⟨kind.code, 0, 0, identifier, sequence, payload⟩
  { blank with checksum := Internet.checksum blank.toBytes }

def answer (m : Echo) : Except Failure Echo :=
  if m.IsRequest then .ok (message .reply m.identifier m.sequence m.payload)
  else .error .notEchoRequest

end Echo

end LocalPlay.Internet
