import LocalPlay.Failure
import LocalPlay.Tcp.Flags

set_option autoImplicit false

/-! # Sessions

The server's side of one connection that a console opens. A session is a state machine: a message
comes in, and out go at most one message to the console and the data that the console's message
carried, to be forwarded. Nothing is sent again of its own accord and nothing is put back into
order: data that does not continue the stream is refused, and the acknowledgement tells the
console to send it again.

`Session.act` gathers the four things that can happen to a session, so that what holds of a whole
run can be said in one place. -/

namespace LocalPlay.Tcp

/-- The two ends of a connection. -/
structure Flow where
  /-- The end that opened the connection. -/
  client : Endpoint
  /-- The end that was asked for. -/
  server : Endpoint
deriving DecidableEq, Repr, Inhabited

instance : ToString Flow where
  toString f := toString f.client ++ " -> " ++ toString f.server

/-- What one end says to the other: a segment without the ports. -/
structure Message where
  flags : Flags
  seq : UInt32
  ack : UInt32 := 0
  payload : Bytes := []
deriving DecidableEq, Repr

/-- How far a connection has come. -/
inductive State where
  /-- Nothing has happened. -/
  | listen
  /-- The console has asked and was answered. -/
  | synReceived
  /-- Both ends may send. -/
  | established
  /-- We have ended our data; the console may still send. -/
  | closeWait
  /-- Both ends have ended their data; our end is not acknowledged yet. -/
  | lastAck
  /-- It is over. -/
  | closed
deriving DecidableEq, Repr

/-- The server's side of a connection. -/
structure Session where
  flow : Flow
  state : State
  /-- The sequence number that we began with. -/
  initialSeq : UInt32
  serverSeq : UInt32
  clientAck : UInt32
  clientIsn : UInt32
deriving DecidableEq, Repr

/-- What comes of a message. -/
structure Outcome where
  reply : Option Message := none
  forwarded : Option Bytes := none
deriving DecidableEq, Repr

namespace Session

/-- A session to which nothing has happened yet. -/
def new (flow : Flow) (initialSeq : UInt32) : Session where
  flow := flow
  state := .listen
  initialSeq := initialSeq
  serverSeq := initialSeq
  clientAck := 0
  clientIsn := 0

/-- Whether the connection is over. -/
def isClosed (s : Session) : Bool := s.state == .closed

/-- A message at the point that the session has reached. -/
def message (s : Session) (flags : Flags) (payload : Bytes) : Message where
  flags := flags
  seq := s.serverSeq
  ack := s.clientAck
  payload := payload

/-- The answer to the message that opened the connection. -/
def synAck (s : Session) : Message where
  flags := .synAck
  seq := s.initialSeq
  ack := s.clientIsn + 1

/-! ## Messages from the console -/

/-- Whether a message continues the stream where we expect it to. -/
def InOrder (s : Session) (m : Message) : Prop := m.seq = s.clientAck

instance (s : Session) (m : Message) : Decidable (s.InOrder m) :=
  inferInstanceAs (Decidable (m.seq = s.clientAck))

/-- The session after data that continues the stream. -/
def advance (s : Session) (m : Message) : Session :=
  { s with clientAck := s.clientAck + UInt32.ofNat m.payload.length }

/-- The session after the end of the console's data. The end counts wherever it stands in the
stream. -/
def advancePastFin (s : Session) (m : Message) : Session :=
  { s with clientAck := m.seq + UInt32.ofNat m.payload.length + 1 }

/-- The data of a last message that is to be forwarded: what continues the stream. -/
def lastData (s : Session) (m : Message) : Option Bytes :=
  if s.InOrder m ∧ m.payload ≠ [] then some m.payload else none

/-- A message with data and no end of data. -/
def receiveData (s : Session) (m : Message) : Session × Outcome :=
  if m.payload = [] then (s, {})
  else if s.InOrder m then
    let s' := s.advance m
    (s', { reply := some (s'.message .ackOnly []), forwarded := some m.payload })
  else (s, { reply := some (s.message .ackOnly []) })

/-- A message while both ends may send. -/
def receiveEstablished (s : Session) (m : Message) : Session × Outcome :=
  if m.flags.fin then
    let s' := s.advancePastFin m
    ({ s' with serverSeq := s'.serverSeq + 1, state := .lastAck },
      { reply := some (s'.message .finAck []), forwarded := s.lastData m })
  else s.receiveData m

/-- A message after we have ended our data. -/
def receiveCloseWait (s : Session) (m : Message) : Session × Outcome :=
  if m.flags.fin then
    let s' := s.advancePastFin m
    ({ s' with state := .closed },
      { reply := some (s'.message .ackOnly []), forwarded := s.lastData m })
  else s.receiveData m

/-- A message to a session to which nothing has happened yet. -/
def receiveListen (s : Session) (m : Message) : Session × Outcome :=
  if m.flags.isBareSyn then
    let s' := { s with
      clientIsn := m.seq
      clientAck := m.seq + 1
      serverSeq := s.initialSeq + 1
      state := .synReceived }
    (s', { reply := some s'.synAck })
  else (s, {})

/-- A message before the console has confirmed that the connection is open. -/
def receiveSynReceived (s : Session) (m : Message) : Session × Outcome :=
  if m.flags.isBareSyn then
    (s, { reply := if m.seq = s.clientIsn then some s.synAck else none })
  else if m.flags.ack then { s with state := .established }.receiveEstablished m
  else (s, {})

/-- A message after both ends have ended their data. An end that comes again means that ours was
lost, so ours is said again. -/
def receiveLastAck (s : Session) (m : Message) : Session × Outcome :=
  if m.flags.fin then
    (s, { reply := some { s.message .finAck [] with seq := s.serverSeq - 1 } })
  else if m.flags.ack then ({ s with state := .closed }, {})
  else (s, {})

def receive (s : Session) (m : Message) : Session × Outcome :=
  if s.state = .closed then (s, {})
  else if m.flags.rst then ({ s with state := .closed }, {})
  else match s.state with
    | .listen => s.receiveListen m
    | .synReceived => s.receiveSynReceived m
    | .established => s.receiveEstablished m
    | .closeWait => s.receiveCloseWait m
    | .lastAck => s.receiveLastAck m
    | .closed => (s, {})

/-! ## The other side -/

/-- Hands data of the forward target to the console, which only an open connection takes. -/
def send (s : Session) (payload : Bytes) : Except Failure (Session × Message) :=
  if s.state = .established then
    .ok ({ s with serverSeq := s.serverSeq + UInt32.ofNat payload.length },
      s.message .pshAck payload)
  else .error .sessionClosed

def abort (s : Session) : Session × Option Message :=
  let reply := if s.state = .listen ∨ s.state = .closed then none else some (s.message .rstAck [])
  ({ s with state := .closed }, reply)

/-- Ends our data. Before the connection is open, it is broken off instead. -/
def closeFromTarget (s : Session) : Session × Option Message :=
  match s.state with
  | .established =>
    ({ s with serverSeq := s.serverSeq + 1, state := .closeWait }, some (s.message .finAck []))
  | .synReceived => s.abort
  | _ => (s, none)

/-! ## Runs -/

inductive Action where
  | receive (m : Message)
  /-- The forward target has data for the console. -/
  | send (payload : Bytes)
  /-- The forward target has no more data. -/
  | closeFromTarget
  | abort
deriving DecidableEq, Repr

/-- What an action does. Data that the session does not take is lost without a trace. -/
def act (s : Session) : Action → Session × Outcome
  | .receive m => s.receive m
  | .send payload =>
    match s.send payload with
    | .ok (s', m) => (s', { reply := some m })
    | .error _ => (s, {})
  | .closeFromTarget => let (s', reply) := s.closeFromTarget; (s', { reply := reply })
  | .abort => let (s', reply) := s.abort; (s', { reply := reply })

/-- The session after a row of actions, and what came of each. -/
def run (s : Session) : List Action → Session × List Outcome
  | [] => (s, [])
  | a :: as =>
    let (s', outcome) := s.act a
    let (s'', outcomes) := s'.run as
    (s'', outcome :: outcomes)

end Session

end LocalPlay.Tcp
