import LocalPlay.Proofs.Engine.Happenings
import LocalPlay.Proofs.Tcp.Transitions

set_option autoImplicit false

/-! # From the console to the forward target

Three parties work on a relayed connection: the console sends messages, of which the session accepts
some data; the forward target's events move the session on; and the relay writes what is queued.
When the session is over, the relay is let go. That can happen much later, so it is a turn of its
own here, and the turns come in any order. Through all of them nothing that was accepted gets lost:
it is written or still queued, in the order in which it was accepted. -/

namespace LocalPlay.Engine

/-- What a relay writes to the target if it writes now. -/
def Relay.next (r : Relay) : Bytes :=
  match r.stage, r.queue with
  | .connected, data :: _ => data
  | _, _ => []

/-- What a relay writes to the target in a step of its own. -/
def RelayMove.written (r : Relay) : RelayMove → Bytes
  | .write => r.next
  | .accept | .hangUp => []

/-- A relay that takes a step gets through to the target, writes what it has queued longest, or
    hangs up; or the step comes to nothing. -/
theorem RelayMove.apply_cases (move : RelayMove) (r : Relay) :
    (move.apply r = r ∧ move.written r = []) ∨
    (move.apply r = { r with stage := .connected } ∧ move.written r = []) ∨
    (∃ data rest, r.stage = .connected ∧ r.queue = data :: rest ∧
      move.apply r = { r with queue := rest, written := r.written ++ data } ∧
      move.written r = data) ∨
    (r.released ∧ r.queue = [] ∧ move.apply r = { r with stage := .ended } ∧
      move.written r = []) := by
  cases move with
  | accept =>
    by_cases connecting : r.stage = .connecting
    · exact Or.inr (Or.inl ⟨if_pos connecting, rfl⟩)
    · exact Or.inl ⟨if_neg connecting, rfl⟩
  | write =>
    obtain ⟨stage, queue, released, output⟩ := r
    cases stage with
    | connecting | ended => exact Or.inl ⟨rfl, rfl⟩
    | connected =>
      cases queue with
      | nil => exact Or.inl ⟨rfl, rfl⟩
      | cons data rest => exact Or.inr (Or.inr (Or.inl ⟨data, rest, rfl, rfl, rfl, rfl⟩))
  | hangUp =>
    by_cases done : r.stage = .connected ∧ r.released ∧ r.queue = []
    · exact Or.inr (Or.inr (Or.inr ⟨done.2.1, done.2.2, if_pos done, rfl⟩))
    · exact Or.inl ⟨if_neg done, rfl⟩

namespace Connection

/-- The data of a message that the session accepts for the forward target. -/
def accepts (c : Connection) (m : Tcp.Message) : Bytes :=
  (c.session.receive m).2.forwarded.getD []

/-- The connection after a message of the console. What the session accepts is queued. -/
def hear (c : Connection) (m : Tcp.Message) : Connection :=
  { c with
    session := (c.session.receive m).1
    relay := match (c.session.receive m).2.forwarded with
      | none => c.relay
      | some data => c.relay.enqueue data }

/-- The connection after an event of the forward target. -/
def meet (c : Connection) (event : TargetEvent) : Connection :=
  { c with session := (event.apply c.session).1, relay := event.relay c.relay }

/-- The connection when nothing more will be queued. -/
def letGo (c : Connection) : Connection := { c with relay := c.relay.release }

/-- The connection after its relay took a step. -/
def work (c : Connection) (move : RelayMove) : Connection := { c with relay := move.apply c.relay }

/-- `c.Turn accepted written c'`: one turn makes `c'` of the connection `c`, where the session
    accepts data from the console and the relay writes data to the forward target. -/
inductive Turn (c : Connection) : Bytes → Bytes → Connection → Prop where
  | hears (m : Tcp.Message) : c.Turn (c.accepts m) [] (c.hear m)
  | meets (event : TargetEvent) (intact : event ≠ .failed) : c.Turn [] [] (c.meet event)
  | letsGo (closed : c.session.state = .closed) : c.Turn [] [] c.letGo
  | works (move : RelayMove) : c.Turn [] (move.written c.relay) (c.work move)

/-- Turn after turn. -/
inductive Turns (c : Connection) : Bytes → Bytes → Connection → Prop where
  | refl : c.Turns [] [] c
  | step {accepted written data output : Bytes} {c' c'' : Connection}
      (before : c.Turns accepted written c') (turn : c'.Turn data output c'') :
      c.Turns (accepted ++ data) (written ++ output) c''

theorem Turn.turns {c c' : Connection} {data output : Bytes} (turn : c.Turn data output c') :
    c.Turns data output c' :=
  .step .refl turn

/-! ## Sessions that are over -/

section Closed

variable {s : Tcp.Session} (closed : s.state = .closed)
include closed

theorem receive_of_closed (m : Tcp.Message) : s.receive m = (s, {}) :=
  Tcp.Session.receive_of_ignores (Or.inl closed)

theorem apply_of_closed (event : TargetEvent) : event.apply s = (s, none) := by
  cases event with
  | data bytes =>
    have past : s.state ≠ .established := by simp [closed]
    simp only [TargetEvent.apply, Tcp.Session.send_of_not_established past]
  | ended => simp only [TargetEvent.apply, Tcp.Session.closeFromTarget, closed]
  | failed => exact Tcp.Session.abort_of_closed closed

end Closed

variable {c c' : Connection} {accepted written data output : Bytes}

/-- A session that is over accepts nothing and stays over. -/
theorem Turn.of_closed (turn : c.Turn data output c') (closed : c.session.state = .closed) :
    data = [] ∧ c'.session.state = .closed := by
  cases turn with
  | hears m =>
    simp only [accepts, hear, receive_of_closed closed, Option.getD_none, closed, and_self]
  | meets event intact =>
    simp only [meet, apply_of_closed closed, closed, and_self]
  | letsGo | works => exact ⟨rfl, closed⟩

theorem Turns.of_closed (turns : c.Turns accepted written c') (closed : c.session.state = .closed) :
    accepted = [] ∧ c'.session.state = .closed := by
  induction turns with
  | refl => exact ⟨rfl, closed⟩
  | step _ turn ih =>
    obtain ⟨rfl, closed'⟩ := ih
    obtain ⟨rfl, closed''⟩ := turn.of_closed closed'
    exact ⟨rfl, closed''⟩

/-! ## The account of a relay -/

/-- The relay has written what it has written, owes what it has queued, is let go only by a session
    that is over, and hangs up only when it owes nothing. -/
structure Faithful (accepted written : Bytes) (c : Connection) : Prop where
  written_eq : c.relay.written = written
  accepted_eq : accepted = written ++ c.relay.queue.flatten
  closed : c.relay.released → c.session.state = .closed
  paid : c.relay.stage = .ended → c.relay.released ∧ c.relay.queue = []

theorem Faithful.hears (inv : Faithful accepted written c) (m : Tcp.Message) :
    Faithful (accepted ++ c.accepts m) written (c.hear m) := by
  by_cases closed : c.session.state = .closed
  · have same : c.hear m = c := by simp only [hear, receive_of_closed closed]
    have nothing : c.accepts m = [] := by
      simp only [accepts, receive_of_closed closed, Option.getD_none]
    rwa [same, nothing, List.append_nil]
  -- the queue is still open
  have unreleased : ¬ c.relay.released := mt inv.closed closed
  have running : c.relay.stage ≠ .ended := fun ended => unreleased (inv.paid ended).1
  unfold accepts hear
  cases (c.session.receive m).2.forwarded with
  | none =>
    rw [Option.getD_none, List.append_nil]
    exact ⟨inv.written_eq, inv.accepted_eq, fun h => absurd h unreleased, inv.paid⟩
  | some data =>
    have queued : c.relay.enqueue data = { c.relay with queue := c.relay.queue ++ [data] } :=
      if_neg (not_or.2 ⟨unreleased, running⟩)
    simp only [queued, Option.getD_some]
    refine ⟨inv.written_eq, ?_, fun h => absurd h unreleased, fun h => absurd h running⟩
    rw [List.flatten_concat, ← List.append_assoc, ← inv.accepted_eq]

theorem Faithful.works (inv : Faithful accepted written c) (move : RelayMove) :
    Faithful accepted (written ++ move.written c.relay) (c.work move) := by
  unfold work
  rcases move.apply_cases c.relay with ⟨same, output⟩ | ⟨through, output⟩ |
      ⟨data, rest, stage, queue, writes, output⟩ | ⟨released, queue, ended, output⟩
  · rwa [same, output, List.append_nil]
  · rw [through, output, List.append_nil]
    exact ⟨inv.written_eq, inv.accepted_eq, inv.closed, fun ended => absurd ended (by simp)⟩
  · rw [writes, output]
    refine ⟨congrArg (· ++ data) inv.written_eq, ?_, inv.closed, fun ended => ?_⟩
    · rw [inv.accepted_eq, queue, List.flatten_cons, List.append_assoc]
    · exact absurd (stage.symm.trans ended) (by simp)
  · rw [ended, output, List.append_nil]
    exact ⟨inv.written_eq, inv.accepted_eq, inv.closed, fun _ => ⟨released, queue⟩⟩

theorem Faithful.turn (inv : Faithful accepted written c) (turn : c.Turn data output c') :
    Faithful (accepted ++ data) (written ++ output) c' := by
  cases turn with
  | hears m =>
    rw [List.append_nil]
    exact inv.hears m
  | meets event intact =>
    have same : event.relay c.relay = c.relay := by
      cases event with
      | data | ended => rfl
      | failed => exact absurd rfl intact
    rw [List.append_nil, List.append_nil, meet, same]
    refine ⟨inv.written_eq, inv.accepted_eq, fun released => ?_, inv.paid⟩
    simp only [apply_of_closed (inv.closed released), inv.closed released]
  | letsGo closed =>
    rw [List.append_nil, List.append_nil]
    exact ⟨inv.written_eq, inv.accepted_eq, fun _ => closed, fun ended => ⟨rfl, (inv.paid ended).2⟩⟩
  | works move =>
    rw [List.append_nil]
    exact inv.works move

theorem Faithful.turns {accepted' written' : Bytes} (inv : Faithful accepted written c)
    (turns : c.Turns accepted' written' c') :
    Faithful (accepted ++ accepted') (written ++ written') c' := by
  induction turns with
  | refl => rwa [List.append_nil, List.append_nil]
  | step _ turn ih =>
    rw [← List.append_assoc, ← List.append_assoc]
    exact ih.turn turn

/-- A relay that has not begun owes nothing. -/
theorem faithful_of_new (new : c.relay = {}) : Faithful [] [] c := by
  refine ⟨?_, ?_, ?_, ?_⟩ <;> rw [new] <;> simp

end Connection

end LocalPlay.Engine
