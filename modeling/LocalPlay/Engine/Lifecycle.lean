import LocalPlay.Engine.Basic

set_option autoImplicit false

/-! # Starting, stopping and sweeping

An engine answers frames whether it has been started or not. Being started means that the frames on
its link are fetched and that stale state is dropped from time to time; stopping also gives up
every connection. -/

namespace LocalPlay.Engine

/-- Starts the engine, unless it has been started already. -/
def start (e : Engine) : Except Failure Engine :=
  if e.running then .error .alreadyStarted else .ok { e with running := true }

/-- Gives up every connection without telling the consoles. -/
def dropConnections (e : Engine) : Engine :=
  { e with
    connections := []
    draining := []
    counters := e.counters.add .sessionsClosed (UInt64.ofNat e.connections.length) }

/-- Stops the engine, if it has been started. -/
def stop (e : Engine) : Engine :=
  if e.running then { e.dropConnections with running := false } else e

/-- Drops connections that are over, and hosts that have not been heard for long. -/
def sweep (e : Engine) (now : Instant) : Engine :=
  let closed := e.connections.filter fun c => c.session.isClosed
  let e' := closed.foldl retire e
  { e' with arp := e'.arp.sweep now }

/-- From now on the link takes these frames. -/
def changeLink (e : Engine) (takes : Link.Frame → Bool) : Engine := { e with takes := takes }

end LocalPlay.Engine
