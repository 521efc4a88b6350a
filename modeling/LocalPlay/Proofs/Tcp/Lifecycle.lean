import LocalPlay.Proofs.Tcp.ConsoleStream

set_option autoImplicit false

/-! # The life of a connection

A connection only ever gets older. `State.successors` lists what can follow each state, and every
step goes to one of these or stays where it is (`state_of_step`). The age of a state grows with each
change, so there are four changes at most, and nothing follows the end: a session that is over says
nothing, hands nothing on and stays as it is. -/

namespace LocalPlay.Tcp

/-! ## The order of the states -/

namespace State

/-- The states that can follow a state. -/
def successors : State → List State
  | listen => [synReceived, closed]
  | synReceived => [established, lastAck, closed]
  | established => [closeWait, lastAck, closed]
  | closeWait => [closed]
  | lastAck => [closed]
  | closed => []

/-- How many changes of state may have led here. -/
def age : State → Nat
  | listen => 0
  | synReceived => 1
  | established => 2
  | closeWait => 3
  | lastAck => 3
  | closed => 4

variable {state next : State}

theorem age_lt_of_mem_successors (later : next ∈ state.successors) : state.age < next.age := by
  cases state <;> cases next <;> revert later <;> decide

theorem age_le (state : State) : state.age ≤ 4 := by
  cases state <;> decide

theorem closed_mem_successors (h : state ≠ .closed) : closed ∈ state.successors := by
  cases state with
  | closed => exact absurd rfl h
  | listen | synReceived | established | closeWait | lastAck => decide

theorem opened_eq_or_mem_successors (state : State) :
    state.opened = state ∨ state.opened ∈ state.successors := by
  cases state <;> decide

end State

/-! ## Steps -/

namespace Session

variable {s s' : Session} {a : Action} {o : Outcome}

/-- A step stays in its state or goes to one that can follow it. -/
theorem state_of_step (step : s.Step a s' o) :
    s'.state = s.state ∨ s'.state ∈ s.state.successors := by
  cases step with
  | ignores | opensAgain | endsAgain | sends => exact Or.inl rfl
  | reset state => exact Or.inr (State.closed_mem_successors state)
  | acknowledges | takes | refuses => exact State.opened_eq_or_mem_successors s.state
  | endsFirst reads notHalf =>
    rcases reads.of_ne_closeWait notHalf with state | state <;>
      exact Or.inr (by simp [state, State.successors])
  | opens state | endsLast state | finishes state | closes state | givesUp state =>
    exact Or.inr (by simp [state, State.successors])
  | breaksOff breaks => exact Or.inr (State.closed_mem_successors breaks.ne_closed)

/-- Only a bare request makes a session wait for the console's confirmation. -/
theorem isBareSyn_of_step (step : s.Step a s' o) (entered : s'.state = .synReceived)
    (before : s.state ≠ .synReceived) : ∃ m, a = .receive m ∧ m.flags.isBareSyn := by
  cases step with
  | opens state rst syn => exact ⟨_, rfl, syn⟩
  | ignores | opensAgain | endsAgain | sends => exact absurd entered before
  | acknowledges | takes | refuses => exact absurd entered State.opened_ne_synReceived
  | reset | endsFirst | endsLast | finishes | closes | breaksOff | givesUp => cases entered

/-- Data is handed on only while there can be more of it. -/
theorem isReading_of_step (step : s.Step a s' o) (data : o.forwarded ≠ none) :
    s.state.IsReading := by
  cases step with
  | takes reads => exact reads.isReading
  | endsFirst reads => exact reads.isReading
  | endsLast state => exact Or.inr (Or.inr state)
  | ignores | reset | opens | opensAgain | acknowledges | refuses | endsAgain | finishes | sends
  | closes | breaksOff | givesUp => exact absurd rfl data

/-- A reset ends the session, and that is all it does. -/
theorem eq_closed_of_step_reset {m : Message} (step : s.Step (.receive m) s' o)
    (rst : m.flags.rst) : s' = { s with state := .closed } ∧ o = {} := by
  cases step with
  | ignores ignored =>
    rcases ignored with closed | ⟨notRst, -⟩
    · exact ⟨by rw [← closed], rfl⟩
    · exact absurd rst notRst
  | reset => exact ⟨rfl, rfl⟩
  | breaksOff breaks => exact breaks.elim
  | opens _ notRst | opensAgain _ notRst | acknowledges _ notRst | takes _ notRst
  | refuses _ notRst | endsFirst _ _ notRst | endsLast _ notRst | endsAgain _ notRst
  | finishes _ notRst => exact absurd rst notRst

/-- Whatever is done to a session that is over comes to nothing. -/
theorem eq_self_of_step_closed (step : s.Step a s' o) (ended : s.state = .closed) :
    s' = s ∧ o = {} := by
  cases step with
  | ignores => exact ⟨rfl, rfl⟩
  | reset state => exact absurd ended state
  | acknowledges reads | takes reads | refuses reads | endsFirst reads =>
    exact absurd ended reads.ne_closed
  | breaksOff breaks => exact absurd ended breaks.ne_closed
  | opens state | opensAgain state | endsLast state | endsAgain state | finishes state
  | sends state | closes state | givesUp state =>
    rw [state] at ended
    cases ended

/-- A message that gets no reply and changes no state changes nothing. -/
theorem eq_self_of_step_silent {m : Message} (step : s.Step (.receive m) s' o)
    (silent : o.reply = none) (same : s'.state = s.state) : s' = s := by
  cases step with
  | ignores => rfl
  | reset state => exact absurd same.symm state
  | acknowledges =>
    have stays : s.state.opened = s.state := same
    rw [stays]
  | finishes state =>
    rw [state] at same
    cases same
  | opens | opensAgain | takes | refuses | endsFirst | endsLast | endsAgain | breaksOff =>
    cases silent

end Session

/-! ## Runs -/

/-- How often the state has changed. -/
def History.changes (past : History) : Nat := past.countP fun x => x.after.state ≠ x.before.state

theorem History.changes_append_le {past : History} {x : Moment}
    (young : past.changes ≤ x.before.state.age) :
    History.changes (past ++ [x]) ≤ x.after.state.age := by
  rw [changes, List.countP_append, List.countP_singleton, ← changes]
  rcases Session.state_of_step x.step with same | later
  · simpa [same] using young
  · have older := State.age_lt_of_mem_successors later
    split <;> omega

namespace Session

/-- A session has seen no more changes of state than its age allows. -/
theorem changes_trace_le_age (flow : Flow) (isn : UInt32) (actions : List Action) :
    ((Session.new flow isn).trace actions).changes
      ≤ ((Session.new flow isn).run actions).1.state.age :=
  (invariant_trace (I := fun past s => past.changes ≤ s.state.age) (P := fun _ => True)
    (fun _ s a _ young => History.changes_append_le (x := ⟨s, a⟩) young)
    (fun a (_ : a ∈ actions) => trivial) (Nat.zero_le _)).1

/-- **A connection lives once.** In every run the state changes four times at most, each time to one
    that can follow, and only a bare request makes the session wait for the console's confirmation.
    Data is handed on only before the end of the console's data. A reset ends the session without a
    word; after the end every action comes to nothing. A message that gets no reply and changes no
    state changes nothing else either. -/
theorem states_inOrder_and_closed_inert (flow : Flow) (isn : UInt32) (actions : List Action) :
    ((Session.new flow isn).trace actions).changes ≤ 4 ∧
    ∀ x ∈ (Session.new flow isn).trace actions,
      (x.after.state = x.before.state ∨ x.after.state ∈ x.before.state.successors) ∧
      (x.after.state = .synReceived → x.before.state ≠ .synReceived →
        ∃ m, x.action = .receive m ∧ m.flags.isBareSyn) ∧
      (x.outcome.forwarded ≠ none → x.before.state = .synReceived ∨
        x.before.state = .established ∨ x.before.state = .closeWait) ∧
      (∀ m, x.action = .receive m → m.flags.rst →
        x.after = { x.before with state := .closed } ∧ x.outcome = {}) ∧
      (x.before.state = .closed → x.after = x.before ∧ x.outcome = {}) ∧
      (∀ m, x.action = .receive m → x.outcome.reply = none →
        x.after.state = x.before.state → x.after = x.before) := by
  refine ⟨Nat.le_trans (changes_trace_le_age flow isn actions) (State.age_le _), fun x _ => ?_⟩
  have step := x.step
  refine ⟨state_of_step step, isBareSyn_of_step step, isReading_of_step step, ?_,
    eq_self_of_step_closed step, ?_⟩
  · intro m received rst
    rw [received] at step
    exact eq_closed_of_step_reset step rst
  · intro m received silent same
    rw [received] at step
    exact eq_self_of_step_silent step silent same

/-- The longest life: the connection is opened, the forward target ends its data, and then the
    console does. What comes after that is not heard any more. -/
def longestRun : List Action :=
  [.receive { flags := { syn := true }, seq := 100 },
    .receive { flags := .ackOnly, seq := 101 },
    .closeFromTarget,
    .receive { flags := .finAck, seq := 101, payload := [7] },
    .receive { flags := { syn := true }, seq := 500 }]

theorem states_inOrder_longestRun :
    let history := (Session.new default 5000).trace longestRun
    history.changes = 4 ∧
      (∃ x ∈ history, x.outcome.forwarded = some [7] ∧ x.before.state = .closeWait ∧
        x.after.state ∈ x.before.state.successors) ∧
      ∃ x ∈ history, x.action = longestRun[4] ∧ x.before.state = .closed ∧
        x.after = x.before ∧ x.outcome = {} := by
  intro history
  obtain ⟨-, each⟩ := states_inOrder_and_closed_inert default 5000 longestRun
  let moment (k : Fin 5) : Moment :=
    ⟨((Session.new default 5000).run (longestRun.take k)).1, longestRun[k]⟩
  have mem : ∀ k, moment k ∈ history := by decide
  obtain ⟨later, -, reading, -⟩ := each (moment 3) (mem 3)
  obtain ⟨-, -, -, -, inert, -⟩ := each (moment 4) (mem 4)
  refine ⟨by decide, ⟨moment 3, mem 3, by decide, ?_, ?_⟩, moment 4, mem 4, rfl, by decide,
    inert (by decide)⟩
  · exact ((reading (by decide)).resolve_left (by decide)).resolve_left (by decide)
  · exact later.resolve_left (by decide)

end Session

end LocalPlay.Tcp
