import LocalPlay.Failure
import LocalPlay.Room.Message

set_option autoImplicit false

/-! # Mailboxes

Where messages for a room wait to be fetched. A mailbox has a limited number of places, at least
one, and nothing can be put into it once nobody fetches any more. -/

namespace LocalPlay.Room

structure Mailbox where
  /-- How many messages may wait. -/
  capacity : Nat
  /-- The messages that wait, oldest first. -/
  waiting : List Message := []
  /-- Whether somebody fetches the messages. -/
  attended : Bool := true

/-- What putting a message into a mailbox can come to. -/
inductive Posted where
  | accepted
  | full
deriving DecidableEq, Repr

namespace Mailbox

def ofCapacity (capacity : Nat) : Mailbox := { capacity := max capacity 1 }

def post (m : Mailbox) (message : Message) : Except Failure (Mailbox × Posted) :=
  if !m.attended then .error .shutDown
  else if m.waiting.length < m.capacity then
    .ok ({ m with waiting := m.waiting ++ [message] }, .accepted)
  else .ok (m, .full)

def fetch (m : Mailbox) : Mailbox × Option Message :=
  match m.waiting with
  | [] => (m, none)
  | message :: rest => ({ m with waiting := rest }, some message)

/-- Nobody fetches messages any more. -/
def abandon (m : Mailbox) : Mailbox := { m with attended := false, waiting := [] }

end Mailbox

end LocalPlay.Room
