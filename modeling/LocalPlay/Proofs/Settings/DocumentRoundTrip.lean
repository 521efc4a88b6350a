import LocalPlay.Proofs.Address.IpText
import LocalPlay.Proofs.Address.MacText
import LocalPlay.Proofs.Toml.Omission
import LocalPlay.Proofs.Toml.Plain.Sections
import LocalPlay.Settings.Document

set_option autoImplicit false

/-! # Settings are read back from their document

Settings become sections that can be written without quoting a name (`sound_toSections`), and each
value is found again in the entries of the sections that are left (`ofEntries?_remaining`). So
settings are read back by every format that keeps to the standard. What is left out of a document
counts as not set: instead of it there is the value to begin with (`Settings.without`). -/

namespace LocalPlay

namespace Settings

/-! ## Settings without some of them -/

/-- A value, or another one if it is left out. -/
def kept {α : Type} (gone : Bool) (a other : α) : α := if gone then other else a

section Without

variable (gone : String → Bool)

/-- The section with the value to begin with for each setting that is gone. -/
def CaptureSection.without (c : CaptureSection) : CaptureSection :=
  let d : CaptureSection := {}
  { interface := kept (gone "interface") c.interface d.interface
    mac := kept (gone "mac") c.mac d.mac }

def SubnetSection.without (c : SubnetSection) : SubnetSection :=
  let d : SubnetSection := {}
  { network := kept (gone "network") c.network d.network
    prefixLength := kept (gone "prefix_len") c.prefixLength d.prefixLength
    gateway := kept (gone "gateway") c.gateway d.gateway }

def ArpSection.without (c : ArpSection) : ArpSection :=
  let d : ArpSection := {}
  { ttlSeconds := kept (gone "ttl_secs") c.ttlSeconds d.ttlSeconds
    capacity := kept (gone "capacity") c.capacity d.capacity
    resolveTimeoutMillis :=
      kept (gone "resolve_timeout_ms") c.resolveTimeoutMillis d.resolveTimeoutMillis }

def TcpSection.without (c : TcpSection) : TcpSection :=
  let d : TcpSection := {}
  { forwardTarget := kept (gone "forward_target") c.forwardTarget d.forwardTarget
    connectTimeoutMillis :=
      kept (gone "connect_timeout_ms") c.connectTimeoutMillis d.connectTimeoutMillis }

def EngineSection.without (c : EngineSection) : EngineSection :=
  let d : EngineSection := {}
  { sweepIntervalSeconds :=
      kept (gone "gc_interval_secs") c.sweepIntervalSeconds d.sweepIntervalSeconds
    eventCapacity := kept (gone "event_capacity") c.eventCapacity d.eventCapacity
    seed := kept (gone "rng_seed") c.seed d.seed
    verifyChecksums := kept (gone "verify_checksums") c.verifyChecksums d.verifyChecksums }

def LdnSection.without (c : LdnSection) : LdnSection :=
  let d : LdnSection := {}
  { port := kept (gone "port") c.port d.port }

def LoggingSection.without (c : LoggingSection) : LoggingSection :=
  let d : LoggingSection := {}
  { level := kept (gone "level") c.level d.level
    format := kept (gone "format") c.format d.format
    directives := kept (gone "directives") c.directives d.directives }

end Without

/-- The settings with the value to begin with for each one that is left out. -/
def without (s : Settings) (o : Toml.Omission) : Settings where
  capture := s.capture.without (o.omits "capture")
  subnet := s.subnet.without (o.omits "subnet")
  arp := s.arp.without (o.omits "arp")
  tcp := s.tcp.without (o.omits "tcp")
  engine := s.engine.without (o.omits "engine")
  ldn := s.ldn.without (o.omits "ldn")
  logging := s.logging.without (o.omits "logging")

theorem without_nothing (s : Settings) : s.without .nothing = s := rfl

/-! ## Values -/

section Values

theorem asNumber_natCast {limit n : Nat} (small : n < limit) :
    asNumber limit (.integer n) = some n := by
  have inRange : (0 : Int) ≤ n ∧ (n : Int).toNat < limit := ⟨Int.natCast_nonneg n, small⟩
  rw [asNumber, if_pos inRange, Int.toNat_natCast]

theorem asText_text (s : String) : asText (.text s) = some s := rfl

theorem asFlag_boolean (b : Bool) : asFlag (.boolean b) = some b := rfl

theorem asUInt64_number (n : UInt64) : asUInt64 (number n).value = some n := by
  show (asNumber _ (.integer n.toNat)).map _ = _
  rw [asNumber_natCast n.toNat_lt, Option.map_some, UInt64.ofNat_toNat]

theorem asUInt16_number (n : UInt16) : asUInt16 (.integer n.toNat) = some n := by
  rw [asUInt16, asNumber_natCast n.toNat_lt, Option.map_some, UInt16.ofNat_toNat]

theorem asUInt8_number (n : UInt8) : asUInt8 (.integer n.toNat) = some n := by
  rw [asUInt8, asNumber_natCast n.toNat_lt, Option.map_some, UInt8.ofNat_toNat]

theorem asMac_text (m : MacAddress) : asMac (.text (toString m)) = some m := by
  have printed : (toString m).toList = m.toChars := String.toList_ofList
  have read := MacAddress.ofChars?_of_accepts (MacAddress.spells_toChars m).accepts
  rw [asMac, asText_text, Option.bind_some, MacAddress.ofString?, printed, read]

theorem asIp_text (ip : IpAddress) : asIp (.text (toString ip)) = some ip := by
  rw [asIp, asText_text, Option.bind_some, IpAddress.ofString?_toString]

theorem asEndpoint_text (p : Endpoint) : asEndpoint (.text (toString p)) = some p := by
  rw [asEndpoint, asText_text, Option.bind_some, Endpoint.ofString?_toString]

theorem asTexts_array (ss : List String) : asTexts (.array (ss.map .text)) = some ss := by
  rw [asTexts]
  induction ss with
  | nil => rfl
  | cons s ss ih =>
    rw [List.map_cons, List.mapM_cons, ih]
    rfl

end Values

/-! ## Settings that are given -/

/-- What a section gives that has these items, if some keys are gone. -/
def given (items : List (String × Toml.Item)) (gone : String → Bool) : Fields := fun _ key =>
  if gone key then none else (Toml.values items).lookup key

theorem lookup_values_append (items others : List (String × Toml.Item)) (key : String) :
    (Toml.values (items ++ others)).lookup key
      = ((Toml.values items).lookup key).or ((Toml.values others).lookup key) := by
  rw [Toml.values, List.map_append, List.lookup_append]
  rfl

theorem lookup_optional {α : Type} (key : String) (write : α → Toml.Item) (a : Option α)
    (other : String) :
    (Toml.values (optional key write a)).lookup other
      = if other = key then a.map fun a => (write a).value else none := by
  cases a with
  | none => simp [Toml.values, optional]
  | some a =>
    by_cases same : other = key
    · simp [Toml.values, optional, same]
    · simp [Toml.values, optional, same, List.lookup_cons, beq_false_of_ne same]

section Given

variable {α : Type} {items : List (String × Toml.Item)} {key : String} {gone : String → Bool}
variable {read : Toml.Value → Option α} {place : Nat}

theorem setting_given {v : Toml.Value} {a : α} (found : (Toml.values items).lookup key = some v)
    (reads : read v = some a) (other : α) :
    setting (given items gone place key) read other = some (kept (gone key) a other) := by
  rw [given, found]
  cases gone key with
  | true => rfl
  | false => exact reads

theorem optionalSetting_given {write : α → Toml.Value} {a : Option α}
    (found : (Toml.values items).lookup key = a.map write) (reads : ∀ a, read (write a) = some a) :
    optionalSetting (given items gone place key) read = some (kept (gone key) a none) := by
  rw [given, found]
  cases gone key with
  | true => rfl
  | false =>
    cases a with
    | none => rfl
    | some a =>
      show (read (write a)).map some = _
      rw [reads]
      rfl

end Given

/-! ## Sections -/

section Sections

/-- The items of the section as they are written. -/
def CaptureSection.items (c : CaptureSection) : List (String × Toml.Item) :=
  ("interface", .text c.interface) :: optional "mac" (fun m => .text (toString m)) c.mac

def SubnetSection.items (c : SubnetSection) : List (String × Toml.Item) :=
  [("network", .text (toString c.network)), ("prefix_len", .number c.prefixLength.toNat),
    ("gateway", .text (toString c.gateway))]

def ArpSection.items (c : ArpSection) : List (String × Toml.Item) :=
  [("ttl_secs", number c.ttlSeconds), ("capacity", number c.capacity),
    ("resolve_timeout_ms", number c.resolveTimeoutMillis)]

def TcpSection.items (c : TcpSection) : List (String × Toml.Item) :=
  optional "forward_target" (fun t => .text (toString t)) c.forwardTarget
    ++ [("connect_timeout_ms", number c.connectTimeoutMillis)]

def EngineSection.items (c : EngineSection) : List (String × Toml.Item) :=
  [("gc_interval_secs", number c.sweepIntervalSeconds), ("event_capacity", number c.eventCapacity)]
    ++ optional "rng_seed" number c.seed ++ [("verify_checksums", .flag c.verifyChecksums)]

def LdnSection.items (c : LdnSection) : List (String × Toml.Item) :=
  [("port", .number c.port.toNat)]

def LoggingSection.items (c : LoggingSection) : List (String × Toml.Item) :=
  [("level", .text c.level), ("format", .text c.format), ("directives", .texts c.directives)]

theorem toSections_eq (s : Settings) : s.toSections =
    [⟨"capture", s.capture.items⟩, ⟨"subnet", s.subnet.items⟩, ⟨"arp", s.arp.items⟩,
      ⟨"tcp", s.tcp.items⟩, ⟨"engine", s.engine.items⟩, ⟨"ldn", s.ldn.items⟩,
      ⟨"logging", s.logging.items⟩] := rfl

variable (gone : String → Bool)

theorem readCapture_given (c : CaptureSection) :
    readCapture (given c.items gone) = some (c.without gone) := by
  have interface : setting (given c.items gone 0 "interface") asText _ = _ :=
    setting_given rfl (asText_text c.interface) ({} : CaptureSection).interface
  have found : (Toml.values c.items).lookup "mac" = c.mac.map fun m => .text (toString m) :=
    lookup_optional "mac" (fun m => .text (toString m)) c.mac "mac"
  have mac : optionalSetting (given c.items gone 1 "mac") asMac = _ :=
    optionalSetting_given found asMac_text
  rw [readCapture, interface, mac]
  rfl

theorem readSubnet_given (c : SubnetSection) :
    readSubnet (given c.items gone) = some (c.without gone) := by
  have network : setting (given c.items gone 0 "network") asIp _ = _ :=
    setting_given rfl (asIp_text c.network) ({} : SubnetSection).network
  have prefixLength : setting (given c.items gone 1 "prefix_len") asUInt8 _ = _ :=
    setting_given rfl (asUInt8_number c.prefixLength) ({} : SubnetSection).prefixLength
  have gateway : setting (given c.items gone 2 "gateway") asIp _ = _ :=
    setting_given rfl (asIp_text c.gateway) ({} : SubnetSection).gateway
  rw [readSubnet, network, prefixLength, gateway]
  rfl

theorem readArp_given (c : ArpSection) :
    readArp (given c.items gone) = some (c.without gone) := by
  have ttl : setting (given c.items gone 0 "ttl_secs") asUInt64 _ = _ :=
    setting_given rfl (asUInt64_number c.ttlSeconds) ({} : ArpSection).ttlSeconds
  have capacity : setting (given c.items gone 1 "capacity") asUInt64 _ = _ :=
    setting_given rfl (asUInt64_number c.capacity) ({} : ArpSection).capacity
  have timeout : setting (given c.items gone 2 "resolve_timeout_ms") asUInt64 _ = _ :=
    setting_given rfl (asUInt64_number c.resolveTimeoutMillis)
      ({} : ArpSection).resolveTimeoutMillis
  rw [readArp, ttl, capacity, timeout]
  rfl

theorem readTcp_given (c : TcpSection) :
    readTcp (given c.items gone) = some (c.without gone) := by
  have first : (Toml.values c.items).lookup "forward_target"
      = c.forwardTarget.map fun t => Toml.Value.text (toString t) := by
    rw [TcpSection.items, lookup_values_append, lookup_optional, if_pos rfl]
    exact Option.or_none
  have second : (Toml.values c.items).lookup "connect_timeout_ms"
      = some (number c.connectTimeoutMillis).value := by
    rw [TcpSection.items, lookup_values_append, lookup_optional, if_neg (by decide)]
    rfl
  have target : optionalSetting (given c.items gone 0 "forward_target") asEndpoint = _ :=
    optionalSetting_given first asEndpoint_text
  have timeout : setting (given c.items gone 1 "connect_timeout_ms") asUInt64 _ = _ :=
    setting_given second (asUInt64_number c.connectTimeoutMillis)
      ({} : TcpSection).connectTimeoutMillis
  rw [readTcp, target, timeout]
  rfl

theorem readEngine_given (c : EngineSection) :
    readEngine (given c.items gone) = some (c.without gone) := by
  have third : (Toml.values c.items).lookup "rng_seed" = c.seed.map fun n => (number n).value := by
    rw [EngineSection.items, lookup_values_append, lookup_values_append, lookup_optional, if_pos rfl]
    exact Option.or_none
  have last : (Toml.values c.items).lookup "verify_checksums" = some (.boolean c.verifyChecksums) := by
    rw [EngineSection.items, lookup_values_append, lookup_values_append, lookup_optional,
      if_neg (by decide)]
    rfl
  have interval : setting (given c.items gone 0 "gc_interval_secs") asUInt64 _ = _ :=
    setting_given rfl (asUInt64_number c.sweepIntervalSeconds)
      ({} : EngineSection).sweepIntervalSeconds
  have capacity : setting (given c.items gone 1 "event_capacity") asUInt64 _ = _ :=
    setting_given rfl (asUInt64_number c.eventCapacity) ({} : EngineSection).eventCapacity
  have seed : optionalSetting (given c.items gone 2 "rng_seed") asUInt64 = _ :=
    optionalSetting_given third asUInt64_number
  have verify : setting (given c.items gone 3 "verify_checksums") asFlag _ = _ :=
    setting_given last (asFlag_boolean c.verifyChecksums) ({} : EngineSection).verifyChecksums
  rw [readEngine, interval, capacity, seed, verify]
  rfl

theorem readLdn_given (c : LdnSection) :
    readLdn (given c.items gone) = some (c.without gone) := by
  have port : setting (given c.items gone 0 "port") asUInt16 _ = _ :=
    setting_given rfl (asUInt16_number c.port) ({} : LdnSection).port
  rw [readLdn, port]
  rfl

theorem readLogging_given (c : LoggingSection) :
    readLogging (given c.items gone) = some (c.without gone) := by
  have level : setting (given c.items gone 0 "level") asText _ = _ :=
    setting_given rfl (asText_text c.level) ({} : LoggingSection).level
  have format : setting (given c.items gone 1 "format") asText _ = _ :=
    setting_given rfl (asText_text c.format) ({} : LoggingSection).format
  have directives : setting (given c.items gone 2 "directives") asTexts _ = _ :=
    setting_given rfl (asTexts_array c.directives) ({} : LoggingSection).directives
  rw [readLogging, level, format, directives]
  rfl

end Sections

/-! ## Documents -/

/-- A section of what is left of a document is read without the keys that are left out. If it is left
    out as a whole, so are all of its keys. -/
theorem readSection_remaining {α : Type} {read : Fields → Option α} {sections : List Toml.Section}
    {name : String} {items : List (String × Toml.Item)} (o : Toml.Omission)
    (without : (String → Bool) → α)
    (found : (sections.map fun s => (o.kept s).entry).lookup name
      = some (o.kept ⟨name, items⟩).entry.2)
    (reads : ∀ gone, read (given items gone) = some (without gone)) :
    readSection ((o.remaining sections).map Toml.Section.entry) name read (without fun _ => true)
      = some (without (o.omits name)) := by
  rw [readSection, o.lookup_remaining]
  cases whole : o.sections name with
  | true =>
    have all : o.omits name = fun _ => true := by
      funext key
      rw [Toml.Omission.omits, whole, Bool.true_or]
    rw [all]
    rfl
  | false =>
    have same : o.omits name = o.keys name := by
      funext key
      rw [Toml.Omission.omits, whole, Bool.false_or]
    have fields : fields? (o.kept ⟨name, items⟩).entry.2 = some (given items (o.keys name)) := by
      refine congrArg some ?_
      funext _ key
      exact o.lookup_kept ⟨name, items⟩ key
    rw [found, same, if_neg Bool.false_ne_true]
    simp only [setting, fields, Option.bind_some, reads]

theorem ofEntries?_remaining (s : Settings) (o : Toml.Omission) :
    ofEntries? ((o.remaining s.toSections).map Toml.Section.entry) = some (s.without o) := by
  let left := (o.remaining s.toSections).map Toml.Section.entry
  have capture : readSection left "capture" readCapture {} = _ :=
    readSection_remaining o s.capture.without rfl (readCapture_given · s.capture)
  have subnet : readSection left "subnet" readSubnet {} = _ :=
    readSection_remaining o s.subnet.without rfl (readSubnet_given · s.subnet)
  have arp : readSection left "arp" readArp {} = _ :=
    readSection_remaining o s.arp.without rfl (readArp_given · s.arp)
  have tcp : readSection left "tcp" readTcp {} = _ :=
    readSection_remaining o s.tcp.without rfl (readTcp_given · s.tcp)
  have engine : readSection left "engine" readEngine {} = _ :=
    readSection_remaining o s.engine.without rfl (readEngine_given · s.engine)
  have ldn : readSection left "ldn" readLdn {} = _ :=
    readSection_remaining o s.ldn.without rfl (readLdn_given · s.ldn)
  have logging : readSection left "logging" readLogging {} = _ :=
    readSection_remaining o s.logging.without rfl (readLogging_given · s.logging)
  rw [ofEntries?, capture, subnet, arp, tcp, engine, ldn, logging]
  rfl

/-- The keys that there are, section by section. -/
def schema : List (String × List String) :=
  [("capture", ["interface", "mac"]), ("subnet", ["network", "prefix_len", "gateway"]),
    ("arp", ["ttl_secs", "capacity", "resolve_timeout_ms"]),
    ("tcp", ["forward_target", "connect_timeout_ms"]),
    ("engine", ["gc_interval_secs", "event_capacity", "rng_seed", "verify_checksums"]),
    ("ldn", ["port"]), ("logging", ["level", "format", "directives"])]

theorem keys_optional {α : Type} (key : String) (write : α → Toml.Item) (a : Option α) :
    ((optional key write a).map Prod.fst).Sublist [key] := by
  cases a with
  | none => exact List.nil_sublist _
  | some a => exact List.Sublist.refl _

theorem keys_toSections (s : Settings) : ∀ part ∈ s.toSections, ∃ entry ∈ schema,
    part.name = entry.1 ∧ (part.items.map Prod.fst).Sublist entry.2 := by
  have tcp : (s.tcp.items.map Prod.fst).Sublist ["forward_target", "connect_timeout_ms"] := by
    rw [TcpSection.items, List.map_append]
    exact (keys_optional _ _ _).append (List.Sublist.refl _)
  have engine : (s.engine.items.map Prod.fst).Sublist
      ["gc_interval_secs", "event_capacity", "rng_seed", "verify_checksums"] := by
    rw [EngineSection.items, List.map_append, List.map_append]
    exact ((List.Sublist.refl _).append (keys_optional _ _ _)).append (List.Sublist.refl _)
  rw [toSections_eq]
  simp only [List.forall_mem_cons]
  refine ⟨⟨("capture", _), by simp [schema], rfl, (keys_optional _ _ _).cons_cons _⟩,
    ⟨("subnet", _), by simp [schema], rfl, List.Sublist.refl _⟩,
    ⟨("arp", _), by simp [schema], rfl, List.Sublist.refl _⟩,
    ⟨("tcp", _), by simp [schema], rfl, tcp⟩, ⟨("engine", _), by simp [schema], rfl, engine⟩,
    ⟨("ldn", _), by simp [schema], rfl, List.Sublist.refl _⟩,
    ⟨("logging", _), by simp [schema], rfl, List.Sublist.refl _⟩, by simp⟩

theorem bare_schema : ∀ entry ∈ schema,
    Toml.Bare entry.1 ∧ entry.2.Nodup ∧ ∀ key ∈ entry.2, Toml.Bare key := by
  decide +kernel

theorem sound_toSections (s : Settings) (writable : ∀ part ∈ s.toSections, part.Writable) :
    Toml.Section.Sound s.toSections := by
  constructor
  case names =>
    have names : s.toSections.map Toml.Section.name = schema.map Prod.fst := rfl
    rw [names]
    decide
  case keys =>
    intro part mem
    obtain ⟨entry, known, -, keys⟩ := s.keys_toSections part mem
    exact (bare_schema entry known).2.1.sublist keys
  case bareNames =>
    intro part mem
    obtain ⟨entry, known, name, -⟩ := s.keys_toSections part mem
    exact name ▸ (bare_schema entry known).1
  case bareKeys =>
    intro part mem i inItems
    obtain ⟨entry, known, -, keys⟩ := s.keys_toSections part mem
    exact (bare_schema entry known).2.2 i.1 (keys.subset (List.mem_map_of_mem inItems))
  case writable => exact writable

/-- The numbers that may be too large for a document. -/
def numbers (s : Settings) : List UInt64 :=
  [s.arp.ttlSeconds, s.arp.capacity, s.arp.resolveTimeoutMillis, s.tcp.connectTimeoutMillis,
    s.engine.sweepIntervalSeconds, s.engine.eventCapacity] ++ s.engine.seed.toList

theorem forall_mem_optional {α : Type} {key : String} {write : α → Toml.Item} {a : Option α}
    {P : String × Toml.Item → Prop} :
    (∀ i ∈ optional key write a, P i) ↔ ∀ x ∈ a, P (key, write x) := by
  cases a with
  | none => simp [optional]
  | some a => simp [optional]

theorem writable_toSections_iff (s : Settings) :
    (∀ part ∈ s.toSections, part.Writable) ↔
      ∀ n ∈ s.numbers, n.toNat < Toml.numberLimit := by
  have small8 (n : UInt8) : n.toNat < Toml.numberLimit := Nat.lt_trans n.toNat_lt (by decide)
  have small16 (n : UInt16) : n.toNat < Toml.numberLimit := Nat.lt_trans n.toNat_lt (by decide)
  simp only [toSections_eq, Toml.Section.Writable, CaptureSection.items, SubnetSection.items,
    ArpSection.items, TcpSection.items, EngineSection.items, LdnSection.items, LoggingSection.items,
    List.forall_mem_cons, List.forall_mem_append, forall_mem_optional, numbers]
  simp [Toml.Item.Writable, number, small8, small16, and_assoc]

section Documents

variable [Toml.Format] {written : Toml.Line → List Char} (standard : Toml.Format.Standard written)
include standard

theorem render_of_small {s : Settings} (small : ∀ n ∈ s.numbers, n.toNat < Toml.numberLimit) :
    ∃ lines, Toml.Line.spoken lines = s.toSections.flatMap Toml.Section.lines ∧
      s.render = .ok (Toml.Line.text written lines) := by
  have sound := s.sound_toSections (s.writable_toSections_iff.2 small)
  obtain ⟨lines, shape, writes⟩ := standard.writes s.toSections sound
  refine ⟨lines, shape, ?_⟩
  rw [render, writes]
  rfl

theorem render_of_large {s : Settings} (large : ∃ n ∈ s.numbers, Toml.numberLimit ≤ n.toNat) :
    ∃ why, s.render = .error (.settings why) := by
  have unwritable : ¬ ∀ part ∈ s.toSections, part.Writable := by
    rw [writable_toSections_iff]
    intro small
    obtain ⟨n, mem, tooLarge⟩ := large
    exact absurd (small n mem) (Nat.not_lt.2 tooLarge)
  obtain ⟨why, refuses⟩ := standard.refuses s.toSections unwritable
  refine ⟨why, ?_⟩
  rw [render, refuses]
  rfl

/-- What is left of the lines of settings is read as the settings without those that are left
    out. -/
theorem parse_left {s : Settings} (small : ∀ n ∈ s.numbers, n.toNat < Toml.numberLimit)
    (o : Toml.Omission) {lines left : List Toml.Line}
    (whole : Toml.Line.spoken lines = s.toSections.flatMap Toml.Section.lines)
    (shape : Toml.Line.spoken left = Toml.Line.spoken (o.cut "" lines)) :
    parse (Toml.Line.text written left) = .ok (s.without o) := by
  have sound := s.sound_toSections (s.writable_toSections_iff.2 small)
  rw [o.spoken_cut_lines "" whole] at shape
  rw [parse, standard.reads _ (o.sound_remaining sound) left shape]
  simp only [ofEntries?_remaining]

end Documents

/-- **Settings are read back from their document**, whatever they are, by every format that keeps to
    the standard, unless a number is too large to be written. If lines are taken out of the document,
    those of whole sections or of single keys, then the settings are read with the value to begin
    with for each setting whose line is gone, and with all others unchanged. Empty lines may come and
    go. -/
theorem parse_render [Toml.Format] {written : Toml.Line → List Char}
    (standard : Toml.Format.Standard written) (s : Settings) :
    ((∃ n ∈ s.numbers, Toml.numberLimit ≤ n.toNat) → ∃ why, s.render = .error (.settings why)) ∧
    ((∀ n ∈ s.numbers, n.toNat < Toml.numberLimit) → ∃ lines : List Toml.Line,
      Toml.Line.spoken lines = s.toSections.flatMap Toml.Section.lines ∧
      s.render = .ok (Toml.Line.text written lines) ∧
      parse (Toml.Line.text written lines) = .ok s ∧
      ∀ (o : Toml.Omission) (left : List Toml.Line),
        Toml.Line.spoken left = Toml.Line.spoken (o.cut "" lines) →
          parse (Toml.Line.text written left) = .ok (s.without o)) := by
  refine ⟨render_of_large standard, fun small => ?_⟩
  obtain ⟨lines, shape, rendered⟩ := render_of_small standard small
  have whole : parse (Toml.Line.text written lines) = .ok (s.without .nothing) :=
    parse_left standard small .nothing shape (by rw [Toml.Omission.cut_nothing])
  rw [without_nothing] at whole
  exact ⟨lines, shape, rendered, whole, fun o left => parse_left standard small o shape⟩

/-- Settings with texts that have to be quoted with care. -/
def awkward : Settings where
  capture := ⟨"eth0\x22\x22\x22\n\\", some .broadcast⟩
  tcp := ⟨some ⟨.limitedBroadcast, 0⟩, 0x7FFFFFFFFFFFFFFF⟩
  logging := ⟨"", "\x27\x27\x27", ["", "a\r\nb"]⟩

/-- The section of the console's link is left out, and one more key. -/
def trimmed : Toml.Omission := ⟨(· = "capture"), fun _ key => key = "format"⟩

/-- The plain format writes them and reads them back, whole and trimmed. -/
theorem parse_render_awkward :
    Toml.Format.Standard Toml.Line.toChars ∧
      (∀ n ∈ awkward.numbers, n.toNat < Toml.numberLimit) ∧
      ∃ lines, awkward.render = .ok (Toml.Line.text Toml.Line.toChars lines) ∧
        parse (Toml.Line.text Toml.Line.toChars lines) = .ok awkward ∧
        parse (Toml.Line.text Toml.Line.toChars (trimmed.cut "" lines))
          = .ok { awkward with
              capture := {}, logging := { awkward.logging with format := "pretty" } } := by
  have each : awkward.numbers.all (·.toNat < Toml.numberLimit) = true := by decide
  have small : ∀ n ∈ awkward.numbers, n.toNat < Toml.numberLimit := by
    intro n mem
    exact of_decide_eq_true (List.all_eq_true.1 each n mem)
  obtain ⟨lines, -, rendered, whole, left⟩ := (parse_render Toml.plain_standard awkward).2 small
  exact ⟨Toml.plain_standard, small, lines, rendered, whole, left trimmed _ rfl⟩

end Settings

end LocalPlay
