import LocalPlay.Proofs.Tcp.Transitions

set_option autoImplicit false

/-! # Histories of a session

`Session.run` keeps what came of each action. What holds of a whole run often depends on the session
that an action met as well, so `Session.trace` keeps that too: a history is a row of moments, the
oldest first. `Session.invariant_trace` is the one induction over runs: an invariant of the history
and the session that every step keeps holds at each moment of a run. -/

namespace LocalPlay.Tcp

/-- An action, with the session that it met. -/
structure Moment where
  before : Session
  action : Session.Action
deriving DecidableEq, Repr

namespace Moment

/-- The session that the action left behind. -/
def after (x : Moment) : Session := (x.before.act x.action).1

/-- What came of the action. -/
def outcome (x : Moment) : Outcome := (x.before.act x.action).2

theorem step (x : Moment) : x.before.Step x.action x.after x.outcome :=
  Session.step_act x.before x.action

end Moment

/-- What has happened to a session, oldest first. -/
abbrev History := List Moment

namespace History

/-- The data that was forwarded, in order. -/
def forwarded (past : History) : Bytes := past.flatMap fun x => x.outcome.forwarded.getD []

/-- What was said to the console, in order. -/
def said (past : History) : List Message := past.filterMap fun x => x.outcome.reply

@[simp] theorem forwarded_nil : forwarded [] = [] := rfl

@[simp] theorem forwarded_append (past later : History) :
    forwarded (past ++ later) = forwarded past ++ forwarded later := List.flatMap_append

@[simp] theorem forwarded_singleton (x : Moment) : forwarded [x] = x.outcome.forwarded.getD [] :=
  List.flatMap_singleton ..

@[simp] theorem said_nil : said [] = [] := rfl

@[simp] theorem said_append (past later : History) :
    said (past ++ later) = said past ++ said later := List.filterMap_append

@[simp] theorem said_singleton (x : Moment) : said [x] = x.outcome.reply.toList := by
  cases h : x.outcome.reply <;> simp [said, h]

end History

namespace Session

/-- The moments of a run. -/
def trace (s : Session) : List Action → History
  | [] => []
  | a :: as => ⟨s, a⟩ :: (s.act a).1.trace as

@[simp] theorem trace_nil (s : Session) : s.trace [] = [] := rfl

@[simp] theorem trace_cons (s : Session) (a : Action) (as : List Action) :
    s.trace (a :: as) = ⟨s, a⟩ :: (s.act a).1.trace as := rfl

@[simp] theorem run_nil (s : Session) : s.run [] = (s, []) := rfl

@[simp] theorem run_cons (s : Session) (a : Action) (as : List Action) :
    s.run (a :: as) = (((s.act a).1.run as).1, (s.act a).2 :: ((s.act a).1.run as).2) := rfl

theorem map_action_trace (s : Session) (as : List Action) :
    (s.trace as).map Moment.action = as := by
  induction as generalizing s with
  | nil => rfl
  | cons a as ih => rw [trace_cons, List.map_cons, ih]

/-! ## The induction over runs -/

section Invariant

variable {P : Action → Prop} {I : History → Session → Prop}

theorem invariant_trace_from
    (keep : ∀ past s a, P a → I past s → I (past ++ [⟨s, a⟩]) (s.act a).1)
    {s : Session} {as : List Action} (allowed : ∀ a ∈ as, P a) {past : History}
    (start : I past s) :
    I (past ++ s.trace as) (s.run as).1 ∧
      ∀ before x after, s.trace as = before ++ x :: after → I (past ++ before) x.before := by
  induction as generalizing s past with
  | nil =>
    refine ⟨by simpa using start, ?_⟩
    intro before x after h
    simp at h
  | cons a as ih =>
    have next := keep past s a (allowed a List.mem_cons_self) start
    obtain ⟨atEnd, between⟩ := ih (fun b hb => allowed b (List.mem_cons_of_mem a hb)) next
    refine ⟨by simpa using atEnd, ?_⟩
    intro before x after h
    cases before with
    | nil =>
      -- the first moment of the run
      obtain ⟨rfl, -⟩ := List.cons.inj h
      simpa using start
    | cons y before =>
      obtain ⟨head, tail⟩ := List.cons.inj h
      rw [← head]
      simpa using between before x after tail

/-- An invariant of history and session that every allowed action keeps holds at the end of a run
    and at each moment of it. -/
theorem invariant_trace
    (keep : ∀ past s a, P a → I past s → I (past ++ [⟨s, a⟩]) (s.act a).1)
    {s : Session} {as : List Action} (allowed : ∀ a ∈ as, P a) (start : I [] s) :
    I (s.trace as) (s.run as).1 ∧
      ∀ before x after, s.trace as = before ++ x :: after → I before x.before ∧ P x.action := by
  obtain ⟨atEnd, between⟩ := invariant_trace_from keep allowed start
  refine ⟨atEnd, ?_⟩
  intro before x after h
  refine ⟨between before x after h, ?_⟩
  have mem : x.action ∈ (s.trace as).map Moment.action := by simp [h]
  rw [map_action_trace] at mem
  exact allowed x.action mem

end Invariant

end Session

end LocalPlay.Tcp
