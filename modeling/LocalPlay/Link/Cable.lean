import LocalPlay.Failure

set_option autoImplicit false

/-! # Links in memory

A link between an engine and the console, held in memory: one queue of frames for each direction, and
two ends that can each be taken away. What was put on the link before an end went away can still
be taken from the other end. -/

namespace LocalPlay.Link

structure Cable where
  /-- Frames on their way to the engine, oldest first. -/
  toEngine : List Bytes := []
  /-- Frames on their way to the console, oldest first. -/
  toConsole : List Bytes := []
  /-- Whether the engine still holds its end. -/
  engineHolds : Bool := true
  /-- Whether the console still holds its end. -/
  consoleHolds : Bool := true

/-- What taking a frame can come to. -/
inductive Taken where
  | frame (b : Bytes)
  | pending
  /-- There never will be one. -/
  | ended
deriving DecidableEq, Repr

namespace Cable

def inject (c : Cable) (frame : Bytes) : Except Failure Cable :=
  if c.engineHolds then .ok { c with toEngine := c.toEngine ++ [frame] }
  else .error .engineSideClosed

/-- The engine takes a frame from the link, cut to `size` bytes. -/
def receive (c : Cable) (size : Nat) : Cable × Taken :=
  match c.toEngine with
  | frame :: rest => ({ c with toEngine := rest }, .frame (frame.take size))
  | [] => (c, if c.consoleHolds then .pending else .ended)

def send (c : Cable) (frame : Bytes) : Except Failure Cable :=
  if c.consoleHolds then .ok { c with toConsole := c.toConsole ++ [frame] }
  else .error .linkClosed

def next (c : Cable) : Cable × Taken :=
  match c.toConsole with
  | frame :: rest => ({ c with toConsole := rest }, .frame frame)
  | [] => (c, if c.engineHolds then .pending else .ended)

/-- The console takes every frame there is. -/
def drain (c : Cable) : Cable × List Bytes := ({ c with toConsole := [] }, c.toConsole)

/-- The console's end goes away, with what was on its way to it. -/
def dropConsole (c : Cable) : Cable := { c with consoleHolds := false, toConsole := [] }

/-- The engine's end goes away, with what was on its way to it. -/
def dropEngine (c : Cable) : Cable := { c with engineHolds := false, toEngine := [] }

end Cable

end LocalPlay.Link
