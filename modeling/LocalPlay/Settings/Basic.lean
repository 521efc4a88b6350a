import LocalPlay.Engine.Setup
import LocalPlay.Address.Mac
import LocalPlay.Logging.Grammar
import LocalPlay.Room.Bridge

set_option autoImplicit false

/-! # Settings

Everything that can be set, in sections. Every setting has a value to begin with, so a user sets only
what is to be different. -/

namespace LocalPlay

namespace Settings

/-- The link that the console is on. -/
structure CaptureSection where
  interface : String := "eth0"
  /-- The hardware address to use instead of that of the interface. -/
  mac : Option MacAddress := none
deriving DecidableEq, Repr

/-- The subnet that is made up. -/
structure SubnetSection where
  network : IpAddress := .ofOctets 10 13 0 0
  prefixLength : UInt8 := 16
  gateway : IpAddress := .ofOctets 10 13 37 1
deriving DecidableEq, Repr

structure ArpSection where
  /-- How long a host counts as present, in seconds. -/
  ttlSeconds : UInt64 := 30
  capacity : UInt64 := 100
  /-- How long to wait for a host to answer, in milliseconds. -/
  resolveTimeoutMillis : UInt64 := 100
deriving DecidableEq, Repr

structure TcpSection where
  forwardTarget : Option Endpoint := none
  /-- How long to wait for the forward target, in milliseconds. -/
  connectTimeoutMillis : UInt64 := 3000
deriving DecidableEq, Repr

structure EngineSection where
  /-- How often stale state is dropped, in seconds. -/
  sweepIntervalSeconds : UInt64 := 30
  eventCapacity : UInt64 := 256
  seed : Option UInt64 := none
  verifyChecksums : Bool := false
deriving DecidableEq, Repr

structure LdnSection where
  /-- The port that consoles talk on. -/
  port : UInt16 := Room.defaultPort
deriving DecidableEq, Repr

structure LoggingSection where
  level : String := "info"
  format : String := "pretty"
  directives : List String := []
deriving DecidableEq, Repr

end Settings

structure Settings where
  capture : Settings.CaptureSection := {}
  subnet : Settings.SubnetSection := {}
  arp : Settings.ArpSection := {}
  tcp : Settings.TcpSection := {}
  engine : Settings.EngineSection := {}
  ldn : Settings.LdnSection := {}
  logging : Settings.LoggingSection := {}
deriving DecidableEq, Repr

namespace Settings

def chosenSubnet (s : Settings) : Subnet :=
  .ofAddress s.subnet.network s.subnet.prefixLength.toNat

def toSetup (s : Settings) : Engine.Setup where
  subnet := s.chosenSubnet
  gateway := s.subnet.gateway
  arpTtl := s.arp.ttlSeconds.toNat * 1000
  arpCapacity := s.arp.capacity.toNat
  resolveTimeout := s.arp.resolveTimeoutMillis.toNat
  forwardTarget := s.tcp.forwardTarget
  connectTimeout := s.tcp.connectTimeoutMillis.toNat
  sweepInterval := s.engine.sweepIntervalSeconds.toNat * 1000
  eventCapacity := s.engine.eventCapacity.toNat
  seed := s.engine.seed
  verifyChecksums := s.engine.verifyChecksums

def toBridge (s : Settings) : Room.Bridge :=
  ⟨s.subnet.gateway, s.chosenSubnet.broadcast, s.ldn.port⟩

/-- The filter of the log: the level, then each directive that is one. A level that is none counts as
the middle one. -/
def LoggingSection.filter [Logging.Grammar] (l : LoggingSection) : String :=
  let level := (Logging.Level.ofText? l.level).getD .info
  let directives := l.directives.filter Logging.isDirective
  directives.foldl (fun text d => text ++ "," ++ String.ofList (Text.trim d.toList)) level.name

end Settings

end LocalPlay
