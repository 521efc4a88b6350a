import LocalPlay.Failure
import LocalPlay.Settings.Basic
import LocalPlay.Toml.Format

set_option autoImplicit false

/-! # Settings as a document

Settings are written with every section and every setting that has a value, and read from a document
that may leave out any of them. Names that mean nothing are passed over. A section may also be a row
of its settings in their order, or a date, which sets nothing. -/

namespace LocalPlay.Settings

/-! ## Writing -/

/-- A setting that is only written if it has a value. -/
def optional {α : Type} (key : String) (write : α → Toml.Item) :
    Option α → List (String × Toml.Item)
  | none => []
  | some a => [(key, write a)]

/-- A number as it is written. -/
def number (n : UInt64) : Toml.Item := .number n.toNat

/-- The sections of a document with these settings. -/
def toSections (s : Settings) : List Toml.Section :=
  [⟨"capture", ("interface", .text s.capture.interface)
      :: optional "mac" (fun m => .text (toString m)) s.capture.mac⟩,
    ⟨"subnet", [
      ("network", .text (toString s.subnet.network)),
      ("prefix_len", .number s.subnet.prefixLength.toNat),
      ("gateway", .text (toString s.subnet.gateway))]⟩,
    ⟨"arp", [
      ("ttl_secs", number s.arp.ttlSeconds),
      ("capacity", number s.arp.capacity),
      ("resolve_timeout_ms", number s.arp.resolveTimeoutMillis)]⟩,
    ⟨"tcp", optional "forward_target" (fun t => .text (toString t)) s.tcp.forwardTarget
      ++ [("connect_timeout_ms", number s.tcp.connectTimeoutMillis)]⟩,
    ⟨"engine", [
      ("gc_interval_secs", number s.engine.sweepIntervalSeconds),
      ("event_capacity", number s.engine.eventCapacity)]
      ++ optional "rng_seed" number s.engine.seed
      ++ [("verify_checksums", .flag s.engine.verifyChecksums)]⟩,
    ⟨"ldn", [("port", .number s.ldn.port.toNat)]⟩,
    ⟨"logging", [
      ("level", .text s.logging.level),
      ("format", .text s.logging.format),
      ("directives", .texts s.logging.directives)]⟩]

/-- The document with these settings, if the library can write it. -/
def render [Toml.Format] (s : Settings) : Except Failure String :=
  (Toml.Format.write s.toSections).mapError .settings

/-! ## Reading values -/

/-- A text. -/
def asText : Toml.Value → Option String
  | .text s => some s
  | _ => none

/-- A number below a limit. -/
def asNumber (limit : Nat) : Toml.Value → Option Nat
  | .integer n => if 0 ≤ n ∧ n.toNat < limit then some n.toNat else none
  | _ => none

/-- A number of 64 bits. -/
def asUInt64 (v : Toml.Value) : Option UInt64 := (asNumber UInt64.size v).map UInt64.ofNat

/-- A number of 16 bits. -/
def asUInt16 (v : Toml.Value) : Option UInt16 := (asNumber UInt16.size v).map UInt16.ofNat

/-- A number of 8 bits. -/
def asUInt8 (v : Toml.Value) : Option UInt8 := (asNumber UInt8.size v).map UInt8.ofNat

/-- Yes or no. -/
def asFlag : Toml.Value → Option Bool
  | .boolean b => some b
  | _ => none

/-- A hardware address. -/
def asMac (v : Toml.Value) : Option MacAddress := (asText v).bind MacAddress.ofString?

/-- An Internet address. -/
def asIp (v : Toml.Value) : Option IpAddress := (asText v).bind IpAddress.ofString?

/-- An endpoint. -/
def asEndpoint (v : Toml.Value) : Option Endpoint := (asText v).bind Endpoint.ofString?

/-- A row of texts. -/
def asTexts : Toml.Value → Option (List String)
  | .array vs => vs.mapM asText
  | _ => none

/-! ## Reading sections -/

/-- The values of a section: by name in a table, by place in a row. -/
abbrev Fields := Nat → String → Option Toml.Value

/-- The values of a section, if it is one. A date has parts, like a table, but none of them is a
setting. -/
def fields? : Toml.Value → Option Fields
  | .table _ entries => some fun _ name => entries.lookup name
  | .datetime => some fun _ _ => none
  | .array vs => some fun place _ => vs[place]?
  | .tables items => some fun place _ => items[place]?.map (.table .given)
  | _ => none

/-- A setting: the value that is given, or else the one to begin with. -/
def setting {α : Type} (given : Option Toml.Value) (read : Toml.Value → Option α) (other : α) :
    Option α :=
  match given with
  | none => some other
  | some v => read v

/-- A setting that may have no value. -/
def optionalSetting {α : Type} (given : Option Toml.Value) (read : Toml.Value → Option α) :
    Option (Option α) :=
  setting given (fun v => (read v).map some) none

/-- The link that the console is on. -/
def readCapture (f : Fields) : Option CaptureSection := do
  let d : CaptureSection := {}
  return {
    interface := ← setting (f 0 "interface") asText d.interface
    mac := ← optionalSetting (f 1 "mac") asMac }

/-- The subnet that is made up. -/
def readSubnet (f : Fields) : Option SubnetSection := do
  let d : SubnetSection := {}
  return {
    network := ← setting (f 0 "network") asIp d.network
    prefixLength := ← setting (f 1 "prefix_len") asUInt8 d.prefixLength
    gateway := ← setting (f 2 "gateway") asIp d.gateway }

def readArp (f : Fields) : Option ArpSection := do
  let d : ArpSection := {}
  return {
    ttlSeconds := ← setting (f 0 "ttl_secs") asUInt64 d.ttlSeconds
    capacity := ← setting (f 1 "capacity") asUInt64 d.capacity
    resolveTimeoutMillis := ←
      setting (f 2 "resolve_timeout_ms") asUInt64 d.resolveTimeoutMillis }

def readTcp (f : Fields) : Option TcpSection := do
  let d : TcpSection := {}
  return {
    forwardTarget := ← optionalSetting (f 0 "forward_target") asEndpoint
    connectTimeoutMillis := ←
      setting (f 1 "connect_timeout_ms") asUInt64 d.connectTimeoutMillis }

def readEngine (f : Fields) : Option EngineSection := do
  let d : EngineSection := {}
  return {
    sweepIntervalSeconds := ← setting (f 0 "gc_interval_secs") asUInt64 d.sweepIntervalSeconds
    eventCapacity := ← setting (f 1 "event_capacity") asUInt64 d.eventCapacity
    seed := ← optionalSetting (f 2 "rng_seed") asUInt64
    verifyChecksums := ← setting (f 3 "verify_checksums") asFlag d.verifyChecksums }

def readLdn (f : Fields) : Option LdnSection := do
  let d : LdnSection := {}
  return { port := ← setting (f 0 "port") asUInt16 d.port }

def readLogging (f : Fields) : Option LoggingSection := do
  let d : LoggingSection := {}
  return {
    level := ← setting (f 0 "level") asText d.level
    format := ← setting (f 1 "format") asText d.format
    directives := ← setting (f 2 "directives") asTexts d.directives }

/-- A section of a document: what is given, or else the settings to begin with. -/
def readSection {α : Type} (entries : Toml.Value.Entries) (name : String)
    (read : Fields → Option α) (other : α) : Option α :=
  setting (entries.lookup name) (fun v => (fields? v).bind read) other

/-- The settings in the entries of a document. -/
def ofEntries? (entries : Toml.Value.Entries) : Option Settings := do
  let d : Settings := {}
  return {
    capture := ← readSection entries "capture" readCapture d.capture
    subnet := ← readSection entries "subnet" readSubnet d.subnet
    arp := ← readSection entries "arp" readArp d.arp
    tcp := ← readSection entries "tcp" readTcp d.tcp
    engine := ← readSection entries "engine" readEngine d.engine
    ldn := ← readSection entries "ldn" readLdn d.ldn
    logging := ← readSection entries "logging" readLogging d.logging }

/-- The settings in a document. -/
def parse [Toml.Format] (text : String) : Except Failure Settings :=
  match Toml.Format.read text with
  | .error why => .error (.settings why)
  | .ok entries =>
    match ofEntries? entries with
    | none => .error (.settings (Toml.Format.misfit text))
    | some s => .ok s

end LocalPlay.Settings
