import LocalPlay.Command.Help
import LocalPlay.Logging.Directive
import LocalPlay.Settings.Diagnosis
import LocalPlay.Settings.Document
import LocalPlay.Toml.Plain

set_option autoImplicit false

/-! # Execution

What comes of an order (`Order.execute`): what the program says, and how it ends. What it writes to
its log is not part of it. The host answers in a monad, so that the same definition runs on a real
host and can be reasoned about on one that is a pure value. The libraries for documents and for the
log are parameters too, and the program runs with those that are imported here. -/

namespace LocalPlay.Command

/-- The host that the program runs on. -/
structure Host (m : Type → Type) where
  read : String → m (Except Failure String)
  /-- Opens the interface of a name, and tells its hardware address. -/
  bind : String → m (Except Failure MacAddress)

/-- Why an order was not carried out. -/
inductive Complaint where
  | unreadable (why : Failure)
  | invalid
  | unwritable (why : Failure)
  | unbound (interface : String) (why : Failure)
deriving DecidableEq, Repr

/-- A complaint in words. -/
def Complaint.message : Complaint → String
  | unreadable why => "Failed to load config: " ++ why.message
  | invalid => "Validation failed"
  | unwritable why => "Failed to render config: " ++ why.message
  | unbound interface why =>
    "Failed to bind to " ++ interface ++ ": " ++ why.message ++ ". Run with root privileges."

/-- What the bridge runs with. -/
structure Plan where
  settings : Settings
  localMac : MacAddress
deriving DecidableEq, Repr

/-- How an order ends. -/
inductive Ending where
  | finished
  | failed (why : Complaint)
  /-- The bridge is up, and runs until it is interrupted. -/
  | serving (plan : Plan)
deriving DecidableEq, Repr

/-- What comes of an order. -/
structure Outcome where
  said : String
  ending : Ending
deriving DecidableEq, Repr

namespace Outcome

/-- What the program complains about. -/
def complaint (o : Outcome) : String :=
  match o.ending with
  | .failed why => "[ERROR] " ++ why.message ++ "\n"
  | _ => ""

/-- The status with which the program ends: one if an order was not carried out. -/
def status (o : Outcome) : Nat :=
  match o.ending with
  | .failed _ => 1
  | _ => 0

end Outcome

/-- The status of a program whose arguments give no order. -/
def misuseStatus : Nat := 2

/-- A line of a kind. -/
def line (kind text : String) : String := "[" ++ kind ++ "] " ++ text ++ "\n"

/-- The findings about settings, one a line: first the remarks, then the mistakes. -/
def findings [Logging.Grammar] (s : Settings) : String :=
  String.join (s.remarks.map (fun r => line "WARN" r.message)
    ++ s.mistakes.map (fun m => line "ERROR" m.message))

/-- The settings that a text holds, which could be read or not. -/
def settingsIn [Toml.Format] (text : Except Failure String) : Except Complaint Settings :=
  match text >>= Settings.parse with
  | .ok s => .ok s
  | .error why => .error (.unreadable why)

/-- What printing settings comes to. -/
def display [Toml.Format] (loaded : Except Complaint Settings) : Outcome :=
  match loaded with
  | .error why => ⟨"", .failed why⟩
  | .ok s =>
    match s.render with
    | .ok text => ⟨text, .finished⟩
    | .error why => ⟨"", .failed (.unwritable why)⟩

/-- The hardware address of this side of a link in memory, unless the settings have one. -/
def dryMac : MacAddress := ⟨2, 0, 0, 0, 0, 1⟩

namespace Host

variable {m : Type → Type} [Monad m]

/-- Goes on with the settings that are loaded, after something was said. The findings about them are
told, and mistakes are a reason to stop. -/
def withSettings [Logging.Grammar] (said : String) (loaded : Except Complaint Settings)
    (next : String → Settings → m Outcome) : m Outcome :=
  match loaded with
  | .error why => pure ⟨said, .failed why⟩
  | .ok s =>
    let told := said ++ findings s
    if s.mistakes = [] then next told s else pure ⟨told, .failed .invalid⟩

/-- The hardware address of this side of the link, once it is open. The settings may have one that is
to be used instead of that of the interface. -/
def openLink (host : Host m) (s : Settings) (isDry : Bool) : m (Except Complaint MacAddress) :=
  if isDry then pure (.ok (s.capture.mac.getD dryMac))
  else do
    match ← host.bind s.capture.interface with
    | .ok mac => return .ok (s.capture.mac.getD mac)
    | .error why => return .error (.unbound s.capture.interface why)

end Host

def Order.execute [Logging.Grammar] [Toml.Format] {m : Type → Type} [Monad m] (host : Host m) :
    Order → m Outcome
  | validate path => do
    let said := line "INFO" ("Validating " ++ path ++ "...")
    Host.withSettings said (settingsIn (← host.read path)) fun told _ =>
      pure ⟨told ++ line "INFO" "Configuration is valid", .finished⟩
  | display path => do return Command.display (settingsIn (← host.read path))
  | run path isDry => do
    Host.withSettings "" (settingsIn (← host.read path)) fun told s => do
      match ← host.openLink s isDry with
      | .ok mac => return ⟨told, .serving ⟨s, mac⟩⟩
      | .error why => return ⟨told, .failed why⟩
  | help topic => pure ⟨topic.page.toText, .finished⟩

end LocalPlay.Command
