import LocalPlay.Settings.Basic

set_option autoImplicit false

/-! # Diagnosis

What is wrong with settings. Mistakes forbid to run; remarks do not. Each is a cause, and its wording
is in one place. -/

namespace LocalPlay.Settings

inductive Mistake where
  | noInterface
  /-- The hardware address is not that of one station. -/
  | notUnicast (mac : MacAddress)
  /-- The subnet is too large or too small. -/
  | prefixOutside (length : UInt8)
  | gatewayOutside (gateway : IpAddress) (subnet : Subnet)
  /-- The gateway's address does not stand for one host. -/
  | gatewayNoHost (gateway : IpAddress) (subnet : Subnet)
  | noArpCapacity
  | noArpTtl
  /-- The forward target is in the subnet that is made up. -/
  | targetInside (target : Endpoint) (subnet : Subnet)
  | noTargetPort
  | noConnectTimeout
  /-- Stale state would be dropped all the time. -/
  | noSweepInterval
  | noEventCapacity
  | noLdnPort
deriving DecidableEq, Repr

def Mistake.message : Mistake → String
  | noInterface => "capture.interface: must not be empty"
  | notUnicast mac => "capture.mac: " ++ toString mac ++ " is not a unicast address"
  | prefixOutside length =>
    "subnet.prefix_len: " ++ Text.decimal length.toNat ++ " is outside 8..=30"
  | gatewayOutside gateway subnet =>
    "subnet.gateway: " ++ toString gateway ++ " is outside " ++ toString subnet
  | gatewayNoHost gateway subnet =>
    "subnet.gateway: " ++ toString gateway ++ " is the network or broadcast address of "
      ++ toString subnet
  | noArpCapacity => "arp.capacity: must be at least 1"
  | noArpTtl => "arp.ttl_secs: must be at least 1"
  | targetInside target subnet =>
    "tcp.forward_target: " ++ toString target ++ " is inside the emulated subnet "
      ++ toString subnet
  | noTargetPort => "tcp.forward_target: port must not be 0"
  | noConnectTimeout => "tcp.connect_timeout_ms: must be at least 1"
  | noSweepInterval => "engine.gc_interval_secs: must be at least 1"
  | noEventCapacity => "engine.event_capacity: must be at least 1"
  | noLdnPort => "ldn.port: must not be 0"

/-- Something in settings that may not be meant. -/
inductive Remark where
  /-- The address of the subnet is not its lowest one. -/
  | hostBits (given used : IpAddress)
  /-- A host has no time to answer. -/
  | noResolveTimeout
  /-- Hosts stop counting long before they are dropped. -/
  | lingering (ttl interval : UInt64)
  | noTarget
  | unknownLevel (level : String)
  | unknownFormat (format : String)
  | ignoredDirective (directive : String)
deriving DecidableEq, Repr

def Remark.message : Remark → String
  | hostBits given used =>
    "subnet.network: " ++ toString given ++ " has host bits set, using " ++ toString used
  | noResolveTimeout => "arp.resolve_timeout_ms: 0 retries the lookup immediately"
  | lingering ttl interval =>
    "arp.ttl_secs: " ++ Text.decimal ttl.toNat ++ " is shorter than engine.gc_interval_secs ("
      ++ Text.decimal interval.toNat ++ "), expired entries linger until the next sweep"
  | noTarget => "tcp.forward_target: not set, TCP relay disabled"
  | unknownLevel level => "logging.level: unknown level '" ++ level ++ "', using info"
  | unknownFormat format => "logging.format: unknown format '" ++ format ++ "', using pretty"
  | ignoredDirective directive => "logging.directives: ignoring '" ++ directive ++ "'"

/-- A finding, if there is reason for it. -/
def finding {α : Type} (reason : Prop) [Decidable reason] (a : α) : List α :=
  if reason then [a] else []

/-! ## Mistakes -/

/-- Whether the subnet has a size that works. -/
def PrefixInRange (s : Settings) : Prop :=
  8 ≤ s.subnet.prefixLength ∧ s.subnet.prefixLength ≤ 30

instance (s : Settings) : Decidable s.PrefixInRange := inferInstanceAs (Decidable (_ ∧ _))

/-- Mistakes about the link. -/
def captureMistakes (s : Settings) : List Mistake :=
  finding (s.capture.interface = "") .noInterface
    ++ match s.capture.mac with
      | none => []
      | some mac => finding (mac.IsMulticast ∨ mac = .zero) (.notUnicast mac)

/-- Mistakes about the subnet. The gateway is not looked at when the subnet makes no sense. -/
def subnetMistakes (s : Settings) : List Mistake :=
  let subnet := s.chosenSubnet
  let gateway := s.subnet.gateway
  if ¬ s.PrefixInRange then [.prefixOutside s.subnet.prefixLength]
  else if gateway ∉ subnet then [.gatewayOutside gateway subnet]
  else finding (gateway = subnet.network ∨ gateway = subnet.broadcast)
    (.gatewayNoHost gateway subnet)

/-- Mistakes about the table of hosts. -/
def arpMistakes (s : Settings) : List Mistake :=
  finding (s.arp.capacity = 0) .noArpCapacity ++ finding (s.arp.ttlSeconds = 0) .noArpTtl

/-- Mistakes about relayed connections. The target is not compared with a subnet that makes no
sense. -/
def tcpMistakes (s : Settings) : List Mistake :=
  (match s.tcp.forwardTarget with
    | none => []
    | some target =>
      finding (s.PrefixInRange ∧ target.ip ∈ s.chosenSubnet)
          (.targetInside target s.chosenSubnet)
        ++ finding (target.port = 0) .noTargetPort)
    ++ finding (s.tcp.connectTimeoutMillis = 0) .noConnectTimeout

/-- Mistakes about the engine and local play. -/
def engineMistakes (s : Settings) : List Mistake :=
  finding (s.engine.sweepIntervalSeconds = 0) .noSweepInterval
    ++ finding (s.engine.eventCapacity = 0) .noEventCapacity
    ++ finding (s.ldn.port = 0) .noLdnPort

/-- Every mistake, in the order in which they are told. -/
def mistakes (s : Settings) : List Mistake :=
  s.captureMistakes ++ s.subnetMistakes ++ s.arpMistakes ++ s.tcpMistakes ++ s.engineMistakes

/-! ## Remarks -/

/-- Remarks about the subnet. -/
def subnetRemarks (s : Settings) : List Remark :=
  finding (s.PrefixInRange ∧ s.chosenSubnet.network ≠ s.subnet.network)
    (.hostBits s.subnet.network s.chosenSubnet.network)

/-- Remarks about the table of hosts. -/
def arpRemarks (s : Settings) : List Remark :=
  finding (s.arp.resolveTimeoutMillis = 0) .noResolveTimeout
    ++ finding (0 < s.arp.ttlSeconds ∧ s.arp.ttlSeconds < s.engine.sweepIntervalSeconds)
      (.lingering s.arp.ttlSeconds s.engine.sweepIntervalSeconds)

/-- Remarks about the log. -/
def loggingRemarks [Logging.Grammar] (s : Settings) : List Remark :=
  finding ((Logging.Level.ofText? s.logging.level).isNone) (.unknownLevel s.logging.level)
    ++ finding (Logging.isFormat s.logging.format = false) (.unknownFormat s.logging.format)
    ++ (s.logging.directives.filter fun d => !Logging.isDirective d).map .ignoredDirective

/-- Every remark, in the order in which they are told. -/
def remarks [Logging.Grammar] (s : Settings) : List Remark :=
  s.subnetRemarks ++ s.arpRemarks ++ finding (s.tcp.forwardTarget = none) .noTarget
    ++ s.loggingRemarks

end LocalPlay.Settings
