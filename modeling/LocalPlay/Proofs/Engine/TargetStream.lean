import LocalPlay.Engine.ForwardTarget
import LocalPlay.Engine.Receive
import LocalPlay.Proofs.Tcp.SequenceSpace

set_option autoImplicit false

/-! # The stream from the forward target to the console

The forward target and the console reach a relayed connection each in their own time, so what the
target sends can meet the session in any state. An open session passes it on; any other session
drops it. What counts is that a session never goes back: it is opening, then talking, then ended. So
the dropped data lies before and after what is passed on, and never in between. -/

namespace LocalPlay.Engine

open Tcp (Session Message State sentData)

/-! ## What a relayed connection meets -/

/-- What a relayed connection meets. -/
inductive RelayInput where
  | console (m : Message)
  | target (event : TargetEvent)
deriving DecidableEq, Repr

def TargetEvent.bytes : TargetEvent → Bytes
  | .data bytes => bytes
  | .ended | .failed => []

def TargetEvent.action : TargetEvent → Session.Action
  | .data bytes => .send bytes
  | .ended => .closeFromTarget
  | .failed => .abort

namespace RelayInput

/-- What an input does to the session, and what there is to say to the console. -/
def apply (s : Session) : RelayInput → Session × Option Message
  | .console m => ((s.receive m).1, (s.receive m).2.reply)
  | .target event => event.apply s

/-- The data that an input brings from the forward target. -/
def bytes : RelayInput → Bytes
  | .console _ => []
  | .target event => event.bytes

def action : RelayInput → Session.Action
  | .console m => .receive m
  | .target event => event.action

theorem apply_eq_act (s : Session) (input : RelayInput) :
    input.apply s = ((s.act input.action).1, (s.act input.action).2.reply) := by
  cases input with
  | console m => rfl
  | target event =>
    cases event with
    | data bytes =>
      simp only [apply, action, TargetEvent.apply, TargetEvent.action, Session.act]
      cases s.send bytes <;> rfl
    | ended | failed => rfl

theorem step (s : Session) (input : RelayInput) :
    s.Step input.action (input.apply s).1 (s.act input.action).2 := by
  rw [apply_eq_act]
  exact Session.step_act s input.action

end RelayInput

/-- A message of the console meets its connection in this way. -/
theorem hand_eq (e : Engine) (now : Instant) (c : Connection) (m : Message) :
    e.hand now c m =
      (e.sayIfAny now c ((RelayInput.console m).apply c.session).2).settle
        { c with
          session := ((RelayInput.console m).apply c.session).1
          relay := match (c.session.receive m).2.forwarded with
            | none => c.relay
            | some data => c.relay.enqueue data } :=
  rfl

/-- An event of the forward target meets its connection in this way. -/
theorem hearTarget_eq {e : Engine} {id : Nat} {c : Connection} (now : Instant)
    (event : TargetEvent) (known : e.connection? id = some c) (alive : c.relay.stage ≠ .ended) :
    e.hearTarget now id event =
      (e.sayIfAny now c ((RelayInput.target event).apply c.session).2).settle
        { c with
          session := ((RelayInput.target event).apply c.session).1
          relay := event.relay c.relay } := by
  simp only [hearTarget, known, if_neg alive]
  rfl

/-! ## Sessions never go back -/

/-- How far a session has come. -/
inductive Phase where
  /-- The console has not confirmed yet that the connection is open. -/
  | opening
  /-- Both ends may send. -/
  | talking
  /-- Our data has ended. -/
  | ended
deriving DecidableEq, Repr

/-- How far a session in the given state has come. -/
def phaseOf : State → Phase
  | .listen | .synReceived => .opening
  | .established => .talking
  | .closeWait | .lastAck | .closed => .ended

theorem phaseOf_eq_talking (state : State) : phaseOf state = .talking ↔ state = .established := by
  cases state <;> decide

section Step

variable {s s' : Session} {a : Session.Action} {o : Tcp.Outcome}

theorem phaseOf_opened (state : State) :
    phaseOf state.opened = phaseOf state ∨ phaseOf state = .opening := by
  cases state <;> decide

/-- No step leads back. -/
theorem phaseOf_of_step (step : s.Step a s' o) :
    phaseOf s'.state = phaseOf s.state ∨ phaseOf s.state = .opening ∨
      phaseOf s'.state = .ended := by
  cases step with
  | ignores | opensAgain | endsAgain | sends => exact Or.inl rfl
  | opens state => exact Or.inl (by rw [state]; rfl)
  | acknowledges | takes | refuses => exact (phaseOf_opened s.state).imp_right Or.inl
  | reset | endsFirst | endsLast | finishes | closes | breaksOff | givesUp =>
    exact Or.inr (Or.inr rfl)

theorem phaseOf_ne_opening (step : s.Step a s' o) (h : phaseOf s.state ≠ .opening) :
    phaseOf s'.state ≠ .opening := by
  rcases phaseOf_of_step step with same | opening | ended
  · rwa [same]
  · exact absurd opening h
  · rw [ended]
    decide

theorem phaseOf_eq_ended (step : s.Step a s' o) (h : phaseOf s.state = .ended) :
    phaseOf s'.state = .ended := by
  rcases phaseOf_of_step step with same | opening | ended
  · rwa [same]
  · rw [opening] at h
    exact absurd h (by decide)
  · exact ended

end Step

/-! ## What is passed on and what is dropped -/

/-- What the console hears of a row of inputs. -/
def converse (s : Session) : List RelayInput → List Message
  | [] => []
  | input :: inputs => (input.apply s).2.toList ++ converse (input.apply s).1 inputs

/-- The data that the session passes on to the console. -/
def relayed (s : Session) (inputs : List RelayInput) : Bytes := sentData (converse s inputs)

/-- The data that the forward target sends. -/
def targetData (inputs : List RelayInput) : Bytes := inputs.flatMap RelayInput.bytes

@[simp] theorem targetData_cons (input : RelayInput) (inputs : List RelayInput) :
    targetData (input :: inputs) = input.bytes ++ targetData inputs :=
  List.flatMap_cons

/-- The data of the forward target that meets the session in the given phase. -/
def metIn (phase : Phase) (s : Session) : List RelayInput → Bytes
  | [] => []
  | input :: inputs =>
    (if phaseOf s.state = phase then input.bytes else [])
      ++ metIn phase (input.apply s).1 inputs

section Step

variable {s s' : Session} {a : Session.Action} {o : Tcp.Outcome}

/-- The data that an action has for the console. -/
def dataOf : Session.Action → Bytes
  | .send payload => payload
  | .receive _ | .closeFromTarget | .abort => []

theorem dataOf_action (input : RelayInput) : dataOf input.action = input.bytes := by
  rcases input with _ | _ | _ | _ <;> rfl

/-- Only data of the forward target is said as data. -/
theorem isSend_of_pshAck {m : Message} (step : s.Step a s' o) (reply : o.reply = some m)
    (flags : m.flags = .pshAck) : ∃ payload, a = .send payload := by
  cases step with
  | ignores | reset | acknowledges | finishes | givesUp => cases reply
  | sends => exact ⟨_, rfl⟩
  | opens | opensAgain | takes | refuses | endsFirst | endsLast | endsAgain | closes | breaksOff =>
    cases reply
    cases flags

/-- An open session says all the data that it meets, and any other session says none. -/
theorem sentData_act (s : Session) (a : Session.Action) :
    sentData (s.act a).2.reply.toList = if phaseOf s.state = .talking then dataOf a else [] := by
  by_cases isSend : ∃ payload, a = .send payload
  · obtain ⟨payload, rfl⟩ := isSend
    have phase := phaseOf_eq_talking s.state
    by_cases state : s.state = .established
    · rw [if_pos (phase.2 state)]
      simp only [Session.act, Session.send_of_established state]
      exact Tcp.sentData_of_pshAck rfl
    · rw [if_neg (mt phase.1 state)]
      simp only [Session.act, Session.send_of_not_established state]
      rfl
  · have noData : dataOf a = [] := by
      cases a with
      | send payload => exact absurd ⟨payload, rfl⟩ isSend
      | receive | closeFromTarget | abort => rfl
    rw [noData, ite_self]
    apply Tcp.sentData_eq_nil
    intro m hm flags
    exact isSend (isSend_of_pshAck (Session.step_act s a) (Option.mem_toList.1 hm) flags)

end Step

/-- Data that meets a session which is not opening any more does not meet it opening. -/
theorem metIn_opening (s : Session) (inputs : List RelayInput) (h : phaseOf s.state ≠ .opening) :
    metIn .opening s inputs = [] := by
  induction inputs generalizing s with
  | nil => rfl
  | cons input inputs ih =>
    rw [metIn, if_neg h, ih _ (phaseOf_ne_opening (input.step s) h), List.nil_append]

/-- All the data that meets a session that has ended meets it ended. -/
theorem metIn_of_ended (s : Session) (inputs : List RelayInput) (h : phaseOf s.state = .ended) :
    metIn .talking s inputs = [] ∧ metIn .ended s inputs = targetData inputs := by
  induction inputs generalizing s with
  | nil => exact ⟨rfl, rfl⟩
  | cons input inputs ih =>
    obtain ⟨quiet, late⟩ := ih _ (phaseOf_eq_ended (input.step s) h)
    constructor
    · rw [metIn, h, quiet]
      rfl
    · rw [metIn, h, late]
      rfl

/-- The session passes on what it meets open. -/
theorem relayed_eq (s : Session) (inputs : List RelayInput) :
    relayed s inputs = metIn .talking s inputs := by
  induction inputs generalizing s with
  | nil => rfl
  | cons input inputs ih =>
    have said : sentData (input.apply s).2.toList =
        if phaseOf s.state = .talking then input.bytes else [] := by
      rw [input.apply_eq_act, sentData_act, dataOf_action]
    rw [relayed, converse, Tcp.sentData_append, said, metIn, ← ih]
    rfl

/-- What the forward target sends meets the session opening, then talking, then ended. -/
theorem targetData_eq (s : Session) (inputs : List RelayInput) :
    targetData inputs
      = metIn .opening s inputs ++ metIn .talking s inputs ++ metIn .ended s inputs := by
  induction inputs generalizing s with
  | nil => rfl
  | cons input inputs ih =>
    have next := ih (input.apply s).1
    have step := input.step s
    cases phase : phaseOf s.state with
    | opening => simp [metIn, phase, next]
    | talking =>
      -- nothing meets the session opening from now on, so the data stands in front of the rest
      have early := metIn_opening _ inputs
        (phaseOf_ne_opening step (by rw [phase]; decide))
      rw [early] at next
      simp [metIn, phase, early, next]
    | ended =>
      -- everything meets the session ended from now on
      have early := metIn_opening _ inputs
        (phaseOf_ne_opening step (by rw [phase]; decide))
      obtain ⟨quiet, late⟩ := metIn_of_ended _ inputs (phaseOf_eq_ended step phase)
      simp [metIn, phase, early, quiet, late]

/-- **The stream to the console is the forward target's, from the handshake on.** However what the
    console says and what the target does meet, the data that the target sends before the console
    has confirmed the connection is dropped, and what is passed on is the beginning of the rest:
    all that meets the session while both ends may send. -/
theorem relayed_isPrefix_of_heard (s : Session) (inputs : List RelayInput) :
    ∃ heard, targetData inputs = metIn .opening s inputs ++ heard ∧
      relayed s inputs <+: heard ∧ relayed s inputs = metIn .talking s inputs := by
  refine ⟨metIn .talking s inputs ++ metIn .ended s inputs, ?_, ?_, relayed_eq s inputs⟩
  · rw [targetData_eq s inputs, List.append_assoc]
  · rw [relayed_eq]
    exact List.prefix_append ..

/-- The target is faster than the console: its first data comes before the console has confirmed
    the connection, and is missing in front of the second. -/
theorem not_forall_relayed_isPrefix :
    ¬ ∀ (flow : Tcp.Flow) (isn : UInt32) (syn : Message) (inputs : List RelayInput),
      syn.flags.isBareSyn → ¬ syn.flags.rst →
        relayed (Session.new flow isn) (.console syn :: inputs) <+: targetData inputs := by
  intro h
  -- the session drops the first byte, takes the confirmation and passes on the second byte
  have relayed_isPrefix := h default 5000 { flags := { syn := true }, seq := 100 }
    [.target (.data [0x61]), .console { flags := .ackOnly, seq := 101, ack := 5001 },
      .target (.data [0x62])] rfl (by decide)
  exact absurd relayed_isPrefix (by decide)

end LocalPlay.Engine
