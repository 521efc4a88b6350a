import LocalPlay.Address.Ip
import LocalPlay.Ldn.Kind

set_option autoImplicit false

/-! # Messages of a room

A room joins players who are far apart. Its messages are those of the consoles, in kinds of its own:
each kind of frame between consoles has its counterpart, and one more tells that a game is over,
which consoles find out for themselves. -/

namespace LocalPlay.Room

inductive Kind where
  | scan
  /-- The sender hosts the game that is described. -/
  | scanResponse
  /-- The described player wants to join. -/
  | connect
  /-- The description of the game has changed. -/
  | syncNetwork
  | disconnect
  | destroyNetwork
deriving DecidableEq, Repr

namespace Kind

def all : List Kind := [scan, scanResponse, connect, syncNetwork, disconnect, destroyNetwork]

def ofCode? (n : UInt8) : Option Kind := all[n.toNat]?

def ofConsole : Ldn.Kind → Kind
  | .scan => .scan
  | .scanResponse => .scanResponse
  | .connect => .connect
  | .syncNetwork => .syncNetwork
  | .disconnect => .disconnect

/-- The counterpart between consoles, if there is one. -/
def toConsole? : Kind → Option Ldn.Kind
  | scan => some .scan
  | scanResponse => some .scanResponse
  | connect => some .connect
  | syncNetwork => some .syncNetwork
  | disconnect => some .disconnect
  | destroyNetwork => none

theorem toConsole?_eq_some_iff {k : Kind} {c : Ldn.Kind} :
    k.toConsole? = some c ↔ k = ofConsole c := by
  cases k <;> cases c <;> simp [toConsole?, ofConsole]

end Kind

structure Message where
  kind : Kind
  /-- The console of the player who says it. -/
  localIp : IpAddress
  /-- The console it is for. -/
  remoteIp : IpAddress
  /-- Whether it is for every console. -/
  broadcast : Bool
  payload : Bytes
deriving DecidableEq, Repr

end LocalPlay.Room
