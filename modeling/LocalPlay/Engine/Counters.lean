set_option autoImplicit false

/-! # Counters

What an engine counts while it runs. Counters are words of 64 bits and wrap around. -/

namespace LocalPlay.Engine

inductive Counter where
  | rxFrames
  | rxBytes
  | txFrames
  | txBytes
  /-- Frames that the link did not take. -/
  | txErrors
  /-- Frames that could not be read. -/
  | droppedMalformed
  /-- Packets from outside the subnet. -/
  | droppedForeignSubnet
  /-- Frames that the engine itself sent, seen again. -/
  | droppedOwnMac
  | checksumFailures
  /-- Answers given for absent hosts. -/
  | arpReplies
  /-- Questions asked for hosts. -/
  | arpRequests
  | udpDelivered
  /-- Copies sent of datagrams that are for every host. -/
  | broadcastFanout
  | tcpSegments
  | icmpEchoReplies
  /-- Datagrams dropped because their host did not answer. -/
  | unresolvedDrops
  | sessionsOpened
  | sessionsClosed
deriving DecidableEq, Repr

namespace Counter

/-- Every counter, in the order of reports. -/
def all : List Counter :=
  [rxFrames, rxBytes, txFrames, txBytes, txErrors, droppedMalformed, droppedForeignSubnet,
    droppedOwnMac, checksumFailures, arpReplies, arpRequests, udpDelivered, broadcastFanout,
    tcpSegments, icmpEchoReplies, unresolvedDrops, sessionsOpened, sessionsClosed]

/-- The place of a counter in reports. -/
def index : Counter → Fin 18
  | rxFrames => 0
  | rxBytes => 1
  | txFrames => 2
  | txBytes => 3
  | txErrors => 4
  | droppedMalformed => 5
  | droppedForeignSubnet => 6
  | droppedOwnMac => 7
  | checksumFailures => 8
  | arpReplies => 9
  | arpRequests => 10
  | udpDelivered => 11
  | broadcastFanout => 12
  | tcpSegments => 13
  | icmpEchoReplies => 14
  | unresolvedDrops => 15
  | sessionsOpened => 16
  | sessionsClosed => 17

/-- The name of a counter in reports. -/
def name : Counter → String
  | rxFrames => "rx_frames"
  | rxBytes => "rx_bytes"
  | txFrames => "tx_frames"
  | txBytes => "tx_bytes"
  | txErrors => "tx_errors"
  | droppedMalformed => "dropped_malformed"
  | droppedForeignSubnet => "dropped_foreign_subnet"
  | droppedOwnMac => "dropped_own_mac"
  | checksumFailures => "checksum_failures"
  | arpReplies => "arp_replies"
  | arpRequests => "arp_requests"
  | udpDelivered => "udp_delivered"
  | broadcastFanout => "broadcast_fanout"
  | tcpSegments => "tcp_segments"
  | icmpEchoReplies => "icmp_echo_replies"
  | unresolvedDrops => "unresolved_drops"
  | sessionsOpened => "sessions_opened"
  | sessionsClosed => "sessions_closed"

theorem index_injective {a b : Counter} (h : a.index = b.index) : a = b := by
  cases a <;> cases b <;> first | rfl | exact absurd h (by decide)

end Counter

structure Counters where
  /-- The values, in the order of reports. -/
  values : Vector UInt64 18
deriving DecidableEq, Repr

namespace Counters

def zero : Counters := ⟨.replicate 18 0⟩

def get (c : Counters) (k : Counter) : UInt64 := c.values[k.index]

def add (c : Counters) (k : Counter) (n : UInt64) : Counters :=
  ⟨c.values.set k.index (c.get k + n)⟩

/-- Counts a received frame of the given size. -/
def addReceived (c : Counters) (size : Nat) : Counters :=
  (c.add .rxFrames 1).add .rxBytes (UInt64.ofNat size)

/-- Counts a sent frame of the given size. -/
def addSent (c : Counters) (size : Nat) : Counters :=
  (c.add .txFrames 1).add .txBytes (UInt64.ofNat size)

@[simp] theorem get_zero (k : Counter) : zero.get k = 0 := by simp [zero, get]

@[simp] theorem get_add_self (c : Counters) (k : Counter) (n : UInt64) :
    (c.add k n).get k = c.get k + n := by
  simp [add, get]

theorem get_add_of_ne {j k : Counter} (h : j ≠ k) (c : Counters) (n : UInt64) :
    (c.add k n).get j = c.get j := by
  have hne : k.index.val ≠ j.index.val :=
    fun e => h (Counter.index_injective (Fin.ext e.symm))
  simp [add, get, hne]

@[simp] theorem add_zero (c : Counters) (k : Counter) : c.add k 0 = c := by
  simp [add, get]

theorem add_add (c : Counters) (k : Counter) (m n : UInt64) :
    (c.add k m).add k n = c.add k (m + n) := by
  simp [add, get, UInt64.add_assoc]

theorem add_comm (c : Counters) (j k : Counter) (m n : UInt64) :
    (c.add j m).add k n = (c.add k n).add j m := by
  by_cases same : j = k
  · rw [same, add_add, add_add, UInt64.add_comm]
  · have ne : j.index.val ≠ k.index.val := fun h => same (Counter.index_injective (Fin.ext h))
    simp [add, get, ne, ne.symm, Vector.set_comm _ _ ne]

end Counters

end LocalPlay.Engine
