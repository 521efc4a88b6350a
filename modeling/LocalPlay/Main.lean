import LocalPlay.Command.Execution

set_option autoImplicit false

/-! # The program

Carries out the order of the command line on the host that the program runs on. -/

namespace LocalPlay.Command

/-- The reason for which the host refused. -/
def reasonOf (e : IO.Error) : Failure :=
  match e with
  | .noFileOrDirectory _ number reason => .refused reason number.toNat
  | .inappropriateType _ number reason => .refused reason number.toNat
  | .permissionDenied _ number reason => .refused reason number.toNat
  | .invalidArgument _ number reason => .refused reason number.toNat
  | e => .refused (toString e) 5

def readText (path : String) : IO (Except Failure String) := do
  try
    match String.fromUTF8? (← IO.FS.readBinFile path) with
    | some text => return .ok text
    | none => return .error .notText
  catch e => return .error (reasonOf e)

/-- The hardware address of an interface. There is no way from here to open one, so one that exists
refuses. -/
def bindInterface (name : String) : IO (Except Failure MacAddress) := do
  match ← readText ("/sys/class/net/" ++ name ++ "/address") with
  | .ok _ => return .error .notPermitted
  | .error _ => return .error (.interfaceNotFound name)

/-- The host that the program runs on. -/
def realHost : Host IO where
  read := readText
  bind := bindInterface

/-- Waits until the program is interrupted. Nothing arrives on a link that has only one end. -/
partial def waitForever : IO Unit := do
  IO.sleep 60000
  waitForever

/-- Carries out the order that arguments give, and tells the status to end with. -/
def perform (arguments : List String) : IO UInt32 := do
  match Order.ofArguments? arguments with
  | none =>
    IO.eprintln ("Usage: " ++ Topic.program.page.usage)
    return UInt32.ofNat misuseStatus
  | some order =>
    let outcome ← order.execute realHost
    IO.print outcome.said
    IO.eprint outcome.complaint
    if let .serving _ := outcome.ending then waitForever
    return UInt32.ofNat outcome.status

end LocalPlay.Command

def main (arguments : List String) : IO UInt32 := LocalPlay.Command.perform arguments
