set_option autoImplicit false

/-! # Kinds of LDN frames

What a console says to other consoles near it: five kinds of messages, numbered from zero. -/

namespace LocalPlay.Ldn

inductive Kind where
  | scan
  /-- The sender hosts the game that is described. -/
  | scanResponse
  /-- The described player wants to join. -/
  | connect
  /-- The description of the game has changed. -/
  | syncNetwork
  | disconnect
deriving DecidableEq, Repr

namespace Kind

def all : List Kind := [scan, scanResponse, connect, syncNetwork, disconnect]

def code : Kind → UInt8
  | scan => 0
  | scanResponse => 1
  | connect => 2
  | syncNetwork => 3
  | disconnect => 4

def ofCode? (n : UInt8) : Option Kind := all[n.toNat]?

@[simp] theorem ofCode?_code (k : Kind) : ofCode? k.code = some k := by cases k <;> rfl

end Kind

end LocalPlay.Ldn
