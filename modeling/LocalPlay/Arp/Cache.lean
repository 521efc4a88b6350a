import LocalPlay.Address.Ip
import LocalPlay.Address.Mac

set_option autoImplicit false

/-! # The table of hosts

Who has which Internet address, as far as the link has told. An entry counts until its time is up
and is dropped when the table is swept; a full table drops the entry whose time is up first.

Time is an `Instant` on a clock that only goes forward. The operations take it as an argument. -/

namespace LocalPlay

/-- A point in time, in nanoseconds from an origin that does not matter. -/
abbrev Instant := Int

def nanosPerSecond : Nat := 1000000000

def nanosPerMilli : Nat := 1000000

namespace Arp

structure Entry where
  ip : IpAddress
  mac : MacAddress
  expires : Instant
deriving DecidableEq, Repr

def Entry.Fresh (e : Entry) (now : Instant) : Prop := now < e.expires

instance (e : Entry) (now : Instant) : Decidable (e.Fresh now) :=
  inferInstanceAs (Decidable (now < e.expires))

structure Cache where
  /-- How long an entry counts, in nanoseconds. -/
  ttl : Nat
  capacity : Nat
  /-- The entries, oldest binding first. Their order stands for the order in which the table is gone
  through, which matters only where several of them stop counting at once. -/
  entries : List Entry
deriving Repr

namespace Cache

/-- The table without entries. It has room for at least one. -/
def empty (ttl capacity : Nat) : Cache := ⟨ttl, max capacity 1, []⟩

/-- How many entries there are, with those that do not count any more. -/
def size (c : Cache) : Nat := c.entries.length

/-- The entry of a host, whether it still counts or not. -/
def held? (c : Cache) (ip : IpAddress) : Option Entry := c.entries.find? fun e => e.ip = ip

/-- The hardware address of a host, by an entry that still counts. -/
def lookup (c : Cache) (now : Instant) (ip : IpAddress) : Option MacAddress :=
  ((c.held? ip).filter fun e => e.Fresh now).map Entry.mac

/-- Entries without that of a host. -/
def without (ip : IpAddress) (entries : List Entry) : List Entry :=
  entries.filter fun e => e.ip ≠ ip

/-- The entry whose time is up first; of several, the one that comes first in the list. -/
def soonest? : List Entry → Option Entry
  | [] => none
  | e :: es =>
    match soonest? es with
    | none => some e
    | some e' => if e.expires ≤ e'.expires then some e else some e'

/-- The entries that stay when one for `ip` is about to be added: room is made when there is none
and the host has no entry to be replaced. -/
def makeRoom (c : Cache) (ip : IpAddress) : List Entry :=
  if (c.held? ip).isSome ∨ c.size < c.capacity then c.entries
  else match soonest? c.entries with
    | none => c.entries
    | some e => without e.ip c.entries

/-- Notes who has an address. Nobody has the unspecified address. -/
def insert (c : Cache) (now : Instant) (mac : MacAddress) (ip : IpAddress) : Cache :=
  if ip = .unspecified then c
  else { c with entries := without ip (c.makeRoom ip) ++ [⟨ip, mac, now + c.ttl⟩] }

def remove (c : Cache) (ip : IpAddress) : Cache := { c with entries := without ip c.entries }

def clear (c : Cache) : Cache := { c with entries := [] }

/-- Drops the entries that do not count any more. -/
def sweep (c : Cache) (now : Instant) : Cache :=
  { c with entries := c.entries.filter fun e => e.Fresh now }

/-- How many entries a sweep drops. -/
def expiredCount (c : Cache) (now : Instant) : Nat := c.size - (c.sweep now).size

/-- The hosts whose entries still count, ordered by Internet address. -/
def bindings (c : Cache) (now : Instant) : List (IpAddress × MacAddress) :=
  ((c.sweep now).entries.map fun e => (e.ip, e.mac)).mergeSort fun a b =>
    a.1.toNat ≤ b.1.toNat

/-! ## What a clock can show -/

/-- The first instant past the range of a clock whose seconds are signed 64-bit numbers. -/
def clockEnd : Instant := 0x8000000000000000 * nanosPerSecond

/-- Whether a clock of that range can show when each entry stops counting. -/
def Representable (c : Cache) : Prop := ∀ e ∈ c.entries, e.expires < clockEnd

instance (c : Cache) : Decidable c.Representable :=
  inferInstanceAs (Decidable (∀ e ∈ c.entries, e.expires < clockEnd))

end Cache

end Arp

end LocalPlay
