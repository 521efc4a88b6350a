import LocalPlay.Address.Ip

set_option autoImplicit false

/-! # Failures

Every way in which an operation of this library can fail, as a cause, and the one place where
causes are put into words (`Failure.message`). -/

namespace LocalPlay

/-- Why bytes are not a message of the format they were read as. -/
inductive Malformed where
  | frameTooShort
  | arpTooShort
  | ipTooShort
  | ipVersion
  /-- The header claims to be shorter than the shortest. -/
  | ipHeaderLength
  /-- The header claims to be longer than the bytes there are. -/
  | ipTruncated
  | udpTooShort
  | tcpTooShort
  /-- The header claims to be shorter than the shortest. -/
  | tcpOffset
  /-- The header claims to be longer than the bytes there are. -/
  | tcpTruncated
  | icmpTooShort
  | ldnTooShort (available : Nat)
  /-- The first word is not the mark of an LDN frame. -/
  | ldnMagic (found : UInt32)
  /-- The declared length reaches past the bytes that follow the header. -/
  | ldnLength (declared available : Nat)
  /-- Fewer bytes than a record of the given name and size. -/
  | recordTooShort (record : String) (needed available : Nat)
deriving DecidableEq, Repr

/-- Why bytes have no compressed or expanded form. -/
inductive RunFault where
  /-- The compressed form would be longer than the given limit. -/
  | compressedTooLong (limit : Nat)
  /-- The expanded form would be longer than the given limit. -/
  | expandedTooLong (limit : Nat)
  /-- The last byte opens a run of zeros and its length is missing. -/
  | danglingMarker
deriving DecidableEq, Repr

inductive Failure where
  | malformed (why : Malformed)
  /-- Bytes have no compressed or expanded form. -/
  | runs (why : RunFault)
  | notEchoRequest
  | interfaceNotFound (name : String)
  /-- Nobody told the hardware address of that host. -/
  | unresolved (ip : IpAddress)
  | sessionClosed
  /-- The other side is gone for good. -/
  | shutDown
  | linkClosed
  /-- Nobody receives what is put on the link. -/
  | engineSideClosed
  | alreadyStarted
  /-- A file holds bytes that are not text. -/
  | notText
  /-- The host refused, for a reason that has a text and a number. -/
  | refused (reason : String) (number : Nat)
  /-- Settings could not be read or written, for the given reason. -/
  | settings (reason : String)
deriving DecidableEq, Repr

namespace Failure

/-- The operation needs rights that the process does not have. -/
def notPermitted : Failure := refused "Operation not permitted" 1

def fileNotFound : Failure := refused "No such file or directory" 2

/-- The path leads through a file as if it were a directory. -/
def notDirectory : Failure := refused "Not a directory" 20

def isDirectory : Failure := refused "Is a directory" 21

/-- The path or a name in it is longer than any that there can be. -/
def nameTooLong : Failure := refused "File name too long" 36

end Failure

/-- What is wrong with the bytes, in words. -/
def Malformed.message : Malformed → String
  | frameTooShort => "frame too short"
  | arpTooShort => "ARP packet too short"
  | ipTooShort => "IPv4 header too short"
  | ipVersion => "not an IPv4 packet"
  | ipHeaderLength => "IPv4 IHL below minimum"
  | ipTruncated => "IPv4 header truncated"
  | udpTooShort => "UDP header too short"
  | tcpTooShort => "TCP header too short"
  | tcpOffset => "TCP data offset too small"
  | tcpTruncated => "TCP header truncated"
  | icmpTooShort => "ICMP packet too short"
  | ldnTooShort available => "LDN frame too short: " ++ Text.decimal available ++ " bytes"
  | ldnMagic found =>
    "LDN magic mismatch: 0x"
      ++ String.ofList ((Bytes.be32 found).flatMap fun b =>
        [Text.digitChar (b.toNat / 16), Text.digitChar (b.toNat % 16)])
  | ldnLength declared available =>
    "LDN length " ++ Text.decimal declared ++ " exceeds " ++ Text.decimal available
      ++ " available bytes"
  | recordTooShort record needed available =>
    record ++ " needs " ++ Text.decimal needed ++ " bytes, got " ++ Text.decimal available

/-- What is wrong with the run-length form, in words. -/
def RunFault.message : RunFault → String
  | compressedTooLong limit => "compressed output exceeds " ++ Text.decimal limit ++ " bytes"
  | expandedTooLong limit => "decompressed output exceeds " ++ Text.decimal limit ++ " bytes"
  | danglingMarker => "zero marker without count"

/-- The failure in words: its kind, and what is particular to it. -/
def Failure.message : Failure → String
  | malformed why => "parse error: " ++ why.message
  | runs why => "rle error: " ++ why.message
  | notEchoRequest => "invalid packet: not an echo request"
  | interfaceNotFound name => "interface " ++ name ++ " not found"
  | unresolved ip => "no MAC address known for " ++ toString ip
  | sessionClosed => "tcp session closed"
  | shutDown => "engine is shut down"
  | linkClosed => "I/O error: link closed"
  | engineSideClosed => "I/O error: engine side closed"
  | alreadyStarted => "config error: engine already started"
  | notText => "I/O error: stream did not contain valid UTF-8"
  | refused reason number =>
    "I/O error: " ++ reason ++ " (os error " ++ Text.decimal number ++ ")"
  | settings reason => "config error: " ++ reason

/-- What comes of a test that was passed. -/
theorem eq_ok_of_guard {ε α : Type} {Bad : Prop} [Decidable Bad] {why : ε} {next : Except ε α}
    {a : α} (ok : (if Bad then .error why else next) = .ok a) : next = .ok a := by
  by_cases bad : Bad
  · rw [if_pos bad] at ok
    cases ok
  · rwa [if_neg bad] at ok

end LocalPlay
