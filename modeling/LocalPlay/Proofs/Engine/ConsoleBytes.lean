import LocalPlay.Proofs.Engine.ConnectionTable
import LocalPlay.Proofs.Engine.Effects
import LocalPlay.Proofs.Engine.Register

set_option autoImplicit false

/-! # What the console has said reaches the forward target

The turns of a connection are spread over everything that happens to an engine: a frame finds its
connection in the table, or opens one, and one that is over leaves the table with data in its queue.
Whatever happens, the account of every relay is kept, as long as its socket works, its place is not
taken by a new connection with the same ends, and the engine is not stopped. -/

namespace LocalPlay.Engine

variable {e e' : Engine} {c d : Connection} {id : Nat}

/-! ## Runs that spare a relay -/

/-- The data that the session of a connection accepts from the console when something happens. -/
def accepted (e : Engine) (id : Nat) : Happening → Bytes
  | .frame _ data =>
    match e.message? (e.read data) with
    | none => []
    | some (srcMac, flow, m) =>
      match (e.connectionFor flow srcMac m.flags).2 with
      | none => []
      | some c => if c.id = id then c.accepts m else []
  | _ => []

/-- The data that the relay of a connection writes to the forward target when something happens. -/
def written (e : Engine) (id : Nat) : Happening → Bytes
  | .relay number move =>
    if number = id then
      match e.connection? id with
      | none => []
      | some c => move.written c.relay
    else []
  | _ => []

/-- Whether a message asks for a new connection with the ends of the given one, which then has to
    make way. -/
def Replaces (e : Engine) (id : Nat) (flow : Tcp.Flow) (flags : Tcp.Flags) : Prop :=
  flags.isBareSyn ∧ ∃ c ∈ e.connections, c.flow = flow ∧ c.id = id ∧ c.session.state ≠ .synReceived

instance (e : Engine) (id : Nat) (flow : Tcp.Flow) (flags : Tcp.Flags) :
    Decidable (e.Replaces id flow flags) :=
  inferInstanceAs (Decidable (_ ∧ ∃ c ∈ e.connections, _))

/-- Whether the relay of a connection can go on with its work: its place is not taken, its socket
    does not fail, and the engine is not stopped while the relay is at work. A late relay holds the
    connection that the engine keeps, if it keeps it. -/
def Happening.Spares (e : Engine) (id : Nat) : Happening → Prop
  | .frame _ data => ∀ said ∈ e.message? (e.read data), ¬ e.Replaces id said.2.1 said.2.2.flags
  | .target _ number event => number = id → event ≠ .failed
  | .late _ c event => c.id = id → event ≠ .failed ∧ ∀ d ∈ e.connection? id, d = c
  | .stop => e.running → ∀ c ∈ e.connection? id, c.relay.stage = .ended
  | _ => True

instance (e : Engine) (id : Nat) : (happening : Happening) → Decidable (happening.Spares e id)
  | .frame _ data => inferInstanceAs (Decidable (∀ said ∈ e.message? (e.read data), ¬ _))
  | .target _ number event => inferInstanceAs (Decidable (number = id → event ≠ .failed))
  | .late _ c event =>
    inferInstanceAs (Decidable (c.id = id → event ≠ .failed ∧ ∀ d ∈ e.connection? id, d = c))
  | .stop =>
    inferInstanceAs (Decidable (e.running = true → ∀ c ∈ e.connection? id, c.relay.stage = .ended))
  | .relay .. | .beginSend .. | .finishSend .. | .arp _ | .sweep _ | .start | .link _ =>
    inferInstanceAs (Decidable True)

/-- `e.LeadsSparing id e' accepted written`: one engine can become another, happening after
    happening, while the relay of a connection can go on with its work; meanwhile the session
    accepts data and the relay writes data. -/
inductive LeadsSparing (id : Nat) (e : Engine) : Engine → Bytes → Bytes → Prop where
  | refl : LeadsSparing id e e [] []
  | step {e' : Engine} {accepted written : Bytes} (before : LeadsSparing id e e' accepted written)
      (happening : Happening) (possible : happening.CanHappen e')
      (spares : happening.Spares e' id) :
      LeadsSparing id e (e'.happen happening) (accepted ++ e'.accepted id happening)
        (written ++ e'.written id happening)

/-! ## The account of a number -/

/-- Retiring a connection does not change what the next one will be. -/
theorem openConnection_retire_snd (e : Engine) (c : Connection) (flow : Tcp.Flow)
    (clientMac : MacAddress) :
    ((e.retire c).openConnection flow clientMac).2 = (e.openConnection flow clientMac).2 := by
  simp only [openConnection, retire]
  split <;> rfl

theorem connectionFor_snd_congr (connections : e'.connections = e.connections)
    (opened : e'.opened = e.opened) (words : e'.words = e.words) (drawn : e'.drawn = e.drawn)
    (flow : Tcp.Flow) (srcMac : MacAddress) (flags : Tcp.Flags) :
    (e'.connectionFor flow srcMac flags).2 = (e.connectionFor flow srcMac flags).2 := by
  have opens : (e'.openConnection flow srcMac).2 = (e.openConnection flow srcMac).2 := by
    simp only [openConnection, opened, words, drawn]
  unfold connectionFor
  simp only [connectionOf?, connections]
  split
  · split
    · exact congrArg some opens
    · rfl
  · split
    · simp only [openConnection_retire_snd, opens]
    · rfl

theorem Utters.kept (uttered : e.Utters e') : e'.kept = e.kept := by
  rw [Engine.kept, uttered.connections, uttered.draining]
  rfl

theorem Utters.connection? (uttered : e.Utters e') (id : Nat) :
    e'.connection? id = e.connection? id := by
  rw [Engine.connection?, uttered.connections, uttered.draining]
  rfl

/-- The account of the connection with a number. If it is forgotten, everything is written; if the
    number was not given out yet, there is nothing to write. If the account is `final`, nothing
    more is accepted. -/
structure Account (id : Nat) (final : Option Bytes) (accepted written : Bytes) (e : Engine) :
    Prop where
  registered : e.Registered
  kept : ∀ c, e.connection? id = some c → c.Faithful accepted written
  forgotten : e.connection? id = none → accepted = written
  unused : e.opened ≤ id → accepted = []
  final : ∀ total, final = some total → accepted = total ∧ id < e.opened ∧
    ∀ c, e.connection? id = some c → c.session.state = .closed

section Account

variable {final : Option Bytes} {done output data more : Bytes}

namespace Account

/-! ### What moves an account -/

/-- While others are dealt with, the account stands. -/
theorem of_fades (account : Account id final done output e) (registered : e'.Registered)
    (opened : e.opened ≤ e'.opened) (fades : Fades (e.connection? id) (e'.connection? id)) :
    Account id final done output e' := by
  refine ⟨registered, fun c known' => ?_, fun forgotten => ?_,
    fun new => account.unused (Nat.le_trans opened new), fun total sealed => ?_⟩
  · rcases fades with same | ⟨none, -⟩
    · exact account.kept c (same.symm.trans known')
    · rw [none] at known'
      cases known'
  · cases known : e.connection? id with
    | none => exact account.forgotten known
    | some c =>
      -- the connection has just been forgotten, so its relay had ended and owed nothing
      rcases fades with same | ⟨-, ended⟩
      · rw [same, known] at forgotten
        cases forgotten
      · have faithful := account.kept c known
        have paid := (faithful.paid (ended c known)).2
        rw [faithful.accepted_eq, paid, List.flatten_nil, List.append_nil]
  · obtain ⟨total_eq, given, shut⟩ := account.final total sealed
    refine ⟨total_eq, Nat.lt_of_lt_of_le given opened, fun c known' => ?_⟩
    rcases fades with same | ⟨none, -⟩
    · exact shut c (same.symm.trans known')
    · rw [none] at known'
      cases known'

/-- Turns of the connection are put to its account. -/
theorem of_turns {c' : Connection} (account : Account id final done output e)
    (registered : e'.Registered) (opened : e.opened ≤ e'.opened)
    (known : e.connection? id = some c) (turns : c.Turns data more c')
    (known' : e'.connection? id = some c') :
    Account id final (done ++ data) (output ++ more) e' := by
  have given : ¬ e.opened ≤ id := by
    intro new
    rw [account.registered.connection?_eq_none new] at known
    cases known
  refine ⟨registered, fun d hd => ?_, fun forgotten => ?_,
    fun new => absurd (Nat.le_trans opened new) given, fun total sealed => ?_⟩
  · obtain rfl := Option.some.inj (known'.symm.trans hd)
    exact (account.kept c known).turns turns
  · rw [known'] at forgotten
    cases forgotten
  · obtain ⟨total_eq, -, shut⟩ := account.final total sealed
    obtain ⟨rfl, closed⟩ := turns.of_closed (shut c known)
    refine ⟨(List.append_nil _).trans total_eq,
      Nat.lt_of_lt_of_le (Nat.not_le.1 given) opened, fun d hd => ?_⟩
    obtain rfl := Option.some.inj (known'.symm.trans hd)
    exact closed

theorem of_same (account : Account id final done output e) (kept : e'.kept = e.kept)
    (opened : e'.opened = e.opened) : Account id final done output e' := by
  have same : e'.connection? id = e.connection? id := congrArg (List.find? _) kept
  have registered : e'.Registered := by
    constructor <;> rw [kept]
    · exact account.registered.ids_nodup
    · rw [opened]
      exact account.registered.given
  exact account.of_fades registered (Nat.le_of_eq opened.symm) (Or.inl same)

theorem utters (account : Account id final done output e) (uttered : e.Utters e') :
    Account id final done output e' :=
  account.of_same uttered.kept uttered.opened

/-- A new connection has an empty account. -/
theorem openConnection (account : Account id final done output e) (flow : Tcp.Flow)
    (clientMac : MacAddress) :
    Account id final done output (e.openConnection flow clientMac).1 := by
  have registered := account.registered.openConnection flow clientMac
  by_cases new : id = e.opened
  · subst new
    have unknown := account.registered.connection?_eq_none (Nat.le_refl e.opened)
    have known := connection?_openConnection_self account.registered flow clientMac
    have nothing : done = [] := account.unused (Nat.le_refl _)
    have unpaid : output = [] := (account.forgotten unknown).symm.trans nothing
    refine ⟨registered, fun c hc => ?_, fun forgotten => ?_,
      fun new => absurd new (Nat.not_succ_le_self _), fun total sealed => ?_⟩
    · obtain rfl := Option.some.inj (known.symm.trans hc)
      rw [nothing, unpaid]
      exact Connection.faithful_of_new rfl
    · rw [known] at forgotten
      cases forgotten
    · exact absurd (account.final total sealed).2.1 (Nat.lt_irrefl _)
  · exact account.of_fades registered (Nat.le_succ _)
      (fades_openConnection account.registered flow clientMac new)

/-- What has become of the connection is settled. -/
theorem settle_self {c' : Connection} (account : Account id final done output e)
    (known : e.connection? id = some c) (turns : c.Turns data more c') (own : c'.id = id) :
    Account id final (done ++ data) (output ++ more) (e.settle c') := by
  subst own
  exact account.of_turns (account.registered.settle c') (Nat.le_of_eq (opened_settle e c').symm)
    known turns.settled (connection?_settle_self account.registered known)

theorem settle_other (account : Account id final done output e) (other : id ≠ c.id) :
    Account id final done output (e.settle c) :=
  account.of_fades (account.registered.settle c) (Nat.le_of_eq (opened_settle e c).symm)
    (fades_settle account.registered other)

/-! ### Frames -/

theorem hand (account : Account id final done output e) (known : e.connection? c.id = some c)
    (now : Instant) (m : Tcp.Message) :
    Account id final (done ++ if c.id = id then c.accepts m else []) output (e.hand now c m) := by
  have uttered := utters_sayIfAny e now c (c.session.receive m).2.reply
  have account := account.utters uttered
  split
  · next own =>
    subst own
    have known := (uttered.connection? c.id).trans known
    have settled := account.settle_self known (Connection.Turn.hears m).turns rfl
    rwa [List.append_nil] at settled
  · next other =>
    rw [List.append_nil]
    exact account.settle_other (c := c.hear m) (Ne.symm other)

theorem connectionFor {flow : Tcp.Flow} {srcMac : MacAddress} {flags : Tcp.Flags}
    (account : Account id final done output e) (spared : ¬ e.Replaces id flow flags)
    (found : e.connectionFor flow srcMac flags = (e', some c)) :
    Account id final done output e' ∧ e'.connection? c.id = some c := by
  have opens {e₀ : Engine} (account : Account id final done output e₀)
      (opened : e₀.openConnection flow srcMac = (e', c)) :
      Account id final done output e' ∧ e'.connection? c.id = some c := by
    have known := connection?_openConnection_self account.registered flow srcMac
    have account := account.openConnection flow srcMac
    have number : c.id = e₀.opened := congrArg (fun r => r.2.id) opened.symm
    rw [opened] at known account
    exact ⟨account, number ▸ known⟩
  rcases connectionFor_cases found with ⟨rfl, known⟩ | ⟨syn, e₀, opened, room⟩
  · obtain ⟨mem, rfl⟩ := KeyedList.mem_of_find? known
    exact ⟨account, account.registered.connection?_eq_some_iff.2
      ⟨List.mem_append_left _ mem, rfl⟩⟩
  refine opens ?_ opened
  rcases room with ⟨rfl, -⟩ | ⟨d, known, confirmed, rfl⟩
  · exact account
  · obtain ⟨mem, rfl⟩ := KeyedList.mem_of_find? known
    have other : id ≠ d.id := by
      rintro rfl
      exact spared ⟨syn, d, mem, rfl, rfl, confirmed⟩
    refine account.of_fades (account.registered.retire _) ?_ (fades_retire account.registered other)
    exact Nat.le_of_eq (opened_retire ..).symm

theorem direct {flow : Tcp.Flow} {m : Tcp.Message} (account : Account id final done output e)
    (spared : ¬ e.Replaces id flow m.flags) (now : Instant) (srcMac : MacAddress) :
    Account id final (done ++ match (e.connectionFor flow srcMac m.flags).2 with
      | none => []
      | some c => if c.id = id then c.accepts m else []) output (e.direct now srcMac flow m) := by
  rcases found : e.connectionFor flow srcMac m.flags with ⟨e', _ | c⟩
  · have unchanged : e.direct now srcMac flow m = e := by
      rw [Engine.direct, found]
      exact eq_of_connectionFor_eq_none found
    rw [unchanged, List.append_nil]
    exact account
  · obtain ⟨account, known⟩ := account.connectionFor spared found
    have handed : e.direct now srcMac flow m = e'.hand now c m := by
      rw [Engine.direct, found]
    rw [handed]
    exact account.hand known now m

theorem frame (account : Account id final done output e) (now : Instant) {frame : Bytes}
    (spares : Happening.Spares e id (.frame now frame)) :
    Account id final (done ++ e.accepted id (.frame now frame)) output
      (e.handleFrame now frame) := by
  let informed := (e.received frame).informed (e.read frame).events ((e.read frame).lessons now)
  have account : Account id final done output informed := account.of_same rfl rfl
  rw [handleFrame_eq]
  unfold Engine.accepted
  rcases heed_cases (e.received frame) now (e.read frame) with ⟨silent, uttered⟩ |
      ⟨srcMac, flow, m, e', message, uttered, directed⟩
  · have silent : e.message? (e.read frame) = none := silent
    simp only [silent, List.append_nil]
    exact account.utters uttered
  · have message : e.message? (e.read frame) = some (srcMac, flow, m) := message
    have same : (e'.connectionFor flow srcMac m.flags).2
        = (e.connectionFor flow srcMac m.flags).2 :=
      connectionFor_snd_congr (e := e) uttered.connections uttered.opened uttered.words
        uttered.drawn ..
    have spared : ¬ e'.Replaces id flow m.flags := by
      rw [Replaces, uttered.connections]
      exact spares (srcMac, flow, m) message
    simp only [message, ← same]
    rw [directed]
    exact (account.utters uttered).direct spared now srcMac

/-! ### Everything else -/

theorem meet (account : Account id final done output e) {event : TargetEvent} (now : Instant)
    (sound : c.id = id → event ≠ .failed ∧ ∀ d ∈ e.connection? id, d = c) :
    Account id final done output (e.meet now c event) := by
  have uttered := utters_sayIfAny e now c (event.apply c.session).2
  have account := account.utters uttered
  by_cases own : c.id = id
  · subst own
    obtain ⟨intact, same⟩ := sound rfl
    rw [← uttered.connection?] at same
    cases known : (e.sayIfAny now c (event.apply c.session).2).connection? c.id with
    | none =>
      have kept := kept_settle_of_unknown (c := c.meet event) known
      exact account.of_same kept (opened_settle ..)
    | some d =>
      obtain rfl := same d known
      have settled := account.settle_self known (Connection.Turn.meets event intact).turns rfl
      rwa [List.append_nil, List.append_nil] at settled
  · exact account.settle_other (c := c.meet event) (Ne.symm own)

theorem hearTarget (account : Account id final done output e) {number : Nat}
    {event : TargetEvent} (now : Instant) (sound : number = id → event ≠ .failed) :
    Account id final done output (e.hearTarget now number event) := by
  cases known : e.connection? number with
  | none => rwa [Engine.hearTarget, known]
  | some c =>
    rw [hearTarget_of_connection? now event known]
    split
    · exact account
    · obtain ⟨-, same⟩ := account.registered.connection?_eq_some_iff.1 known
      refine account.meet now fun own => ⟨sound (same.symm.trans own), fun d hd => ?_⟩
      rw [← own, same, known] at hd
      exact (Option.some.inj hd).symm

theorem changeRelay (account : Account id final done output e) (number : Nat)
    (move : RelayMove) :
    Account id final done (output ++ e.written id (.relay number move))
      (e.changeRelay number move.apply) := by
  unfold Engine.changeRelay
  cases known : e.connection? number with
  | none =>
    have nothing : e.written id (.relay number move) = [] := by
      by_cases own : number = id
      · subst own
        simp only [Engine.written, if_true, known]
      · exact if_neg own
    rwa [nothing, List.append_nil]
  | some c =>
    obtain ⟨-, rfl⟩ := account.registered.connection?_eq_some_iff.1 known
    have registered := account.registered.update (c.work move)
    by_cases own : c.id = id
    · subst own
      have paid : e.written c.id (.relay c.id move) = move.written c.relay := by
        simp only [Engine.written, if_true, known]
      rw [paid, ← List.append_nil done]
      exact account.of_turns registered (Nat.le_refl _) known (Connection.Turn.works move).turns
        (connection?_update_self (c := c.work move) account.registered known)
    · have nothing : e.written id (.relay c.id move) = [] := if_neg own
      rw [nothing, List.append_nil]
      exact account.of_fades registered (Nat.le_refl _)
        (fades_update (c := c.work move) account.registered (Ne.symm own))

theorem stop (account : Account id final done output e)
    (spares : Happening.Spares e id .stop) : Account id final done output e.stop := by
  unfold Engine.stop
  split
  · next running =>
    refine account.of_fades ⟨List.nodup_nil, fun c hc => absurd hc List.not_mem_nil⟩
      (Nat.le_refl _) (Or.inr ⟨rfl, spares running⟩)
  · exact account

theorem happen {gone : Nat → Prop} (account : Account id final done output e)
    (orderly : e.book.Orderly gone) {happening : Happening} (spares : happening.Spares e id) :
    Account id final (done ++ e.accepted id happening) (output ++ e.written id happening)
      (e.happen happening) := by
  cases happening with
  | frame now data =>
    have account := account.frame now spares
    rwa [← List.append_nil output] at account
  | relay number move =>
    have account := account.changeRelay number move
    rwa [← List.append_nil done] at account
  | target now number event =>
    simp only [Engine.accepted, Engine.written, List.append_nil]
    exact account.hearTarget now spares
  | late now c event =>
    simp only [Engine.accepted, Engine.written, List.append_nil]
    exact account.meet now spares
  | beginSend now parcel =>
    simp only [Engine.accepted, Engine.written, List.append_nil]
    exact account.utters (utters_beginSend e now parcel)
  | finishSend now dst packet =>
    simp only [Engine.accepted, Engine.written, List.append_nil]
    exact account.utters (utters_finishSend e now dst packet)
  | sweep now =>
    simp only [Engine.accepted, Engine.written, List.append_nil]
    rw [Engine.happen, orderly.sweep_eq]
    exact account.of_same rfl rfl
  | stop =>
    simp only [Engine.accepted, Engine.written, List.append_nil]
    exact account.stop spares
  | start =>
    simp only [Engine.accepted, Engine.written, List.append_nil]
    rw [Engine.happen, Engine.start]
    split
    · exact account
    · exact account.of_same rfl rfl
  | arp | link =>
    simp only [Engine.accepted, Engine.written, List.append_nil]
    exact account.of_same rfl rfl

theorem leads {gone : Nat → Prop} (account : Account id final done output e)
    (orderly : e.book.Orderly gone) (run : e.LeadsSparing id e' data more) :
    Account id final (done ++ data) (output ++ more) e' ∧ e'.book.Orderly gone := by
  induction run with
  | refl =>
    rw [List.append_nil, List.append_nil]
    exact ⟨account, orderly⟩
  | step _ happening possible spares ih =>
    obtain ⟨account, orderly⟩ := ih
    rw [← List.append_assoc, ← List.append_assoc]
    exact ⟨account.happen orderly spares, orderly.happen possible⟩

/-- The account of a session that is over can be closed. -/
theorem conclude (account : Account id none done output e) (known : e.connection? id = some c)
    (closed : c.session.state = .closed) : Account id (some done) done output e := by
  refine { account with final := fun total sealed => ⟨Option.some.inj sealed, ?_, fun d hd => ?_⟩ }
  · by_contra new
    rw [account.registered.connection?_eq_none (Nat.not_lt.1 new)] at known
    cases known
  · obtain rfl := Option.some.inj (known.symm.trans hd)
    exact closed

end Account

end Account

theorem account_new (setup : Setup) (localMac : MacAddress) (words : Nat → UInt32) (id : Nat) :
    Account id none [] [] (Engine.new setup localMac words) where
  registered := ⟨List.nodup_nil, fun _ hc => absurd hc List.not_mem_nil⟩
  kept := fun _ known => nomatch known
  forgotten := fun _ => rfl
  unused := fun _ => rfl
  final := fun _ sealed => nomatch sealed

/-- **What the session accepts, its relay writes or owes.** Whatever happens, as long as the relay
    of a connection can go on: while the engine keeps the connection, what the session has accepted
    is what the relay has written and what it has queued; the relay is let go only after the last
    accepted data was queued, and it ends only after it has been let go and has written all of it;
    and when the engine keeps the connection no longer, all has been written. -/
theorem accepted_eq_written_append_queued {setup : Setup} {localMac : MacAddress}
    {words : Nat → UInt32} {id : Nat} {e : Engine} {accepted written : Bytes}
    (run : (Engine.new setup localMac words).LeadsSparing id e accepted written) :
    (e.connection? id = none → accepted = written) ∧
    ∀ c, e.connection? id = some c →
      (accepted = c.relay.written ++ c.relay.queue.flatten ∧ c.relay.written = written) ∧
      (c.relay.released → c.session.state = .closed ∧
        ∀ e' more output, e.LeadsSparing id e' more output → more = []) ∧
      (c.relay.stage = .ended → c.relay.released ∧ c.relay.queue = []) := by
  obtain ⟨account, orderly⟩ := (account_new setup localMac words id).leads (orderly_new ..) run
  refine ⟨account.forgotten, fun c known => ?_⟩
  have faithful := account.kept c known
  refine ⟨⟨?_, faithful.written_eq⟩, fun released => ?_, faithful.paid⟩
  · rw [faithful.written_eq]
    exact faithful.accepted_eq
  · have closed := faithful.closed released
    refine ⟨closed, fun e' more output later => ?_⟩
    obtain ⟨account', -⟩ := (account.conclude known closed).leads orderly later
    exact List.append_right_eq_self.1 (account'.final _ rfl).1

/-! The forward target has ended its data, and the console says its last data and ends as well. The
same message closes the session and takes the connection out of the table; the relay writes the data
afterwards. -/

/-- A frame in which the console says something. -/
def saidByConsole (flags : Tcp.Flags) (seq : UInt32) (payload : Bytes) : Bytes :=
  let segment : Tcp.Draft :=
    { srcPort := 49152, dstPort := 80, seq := seq, flags := flags, payload := payload }
  let packet : Internet.Draft := {
    protocol := Internet.Protocol.tcp.code
    src := ⟨0x0A0D0002⟩
    dst := ⟨0x0A0D2501⟩
    payload := segment.toBytes ⟨0x0A0D0002⟩ ⟨0x0A0D2501⟩ }
  let frame : Link.Frame := {
    src := station 2
    etherType := Link.EtherType.ipv4.code
    payload := packet.toBytes }
  frame.toBytes

/-- The engine when the console has said its last data. -/
def overheard : Engine :=
  [.frame 0 (saidByConsole { syn := true } 100 []), .frame 1 (saidByConsole .ackOnly 101 []),
    .target 2 0 .ended, .frame 3 (saidByConsole .finAck 101 [1, 2, 3])].foldl happen
    (.new .home .zero UInt32.ofNat)

/-- The engine after the relay has got through to the target, written and hung up. -/
def drained : Engine :=
  [.relay 0 .accept, .relay 0 .write, .relay 0 .hangUp].foldl happen overheard

theorem accepted_eq_written_append_queued_drained :
    overheard.connections = [] ∧
    (∃ c, overheard.connection? 0 = some c ∧
      [1, 2, 3] = c.relay.written ++ c.relay.queue.flatten ∧
      ∀ e' more output, overheard.LeadsSparing 0 e' more output → more = []) ∧
    ∃ c, drained.connection? 0 = some c ∧ [1, 2, 3] = c.relay.written := by
  have start : (Engine.new .home .zero UInt32.ofNat).LeadsSparing 0 _ [] [] := .refl
  have opened := start.step (.frame 0 (saidByConsole { syn := true } 100 [])) trivial
    (by decide +kernel)
  have confirmed := opened.step (.frame 1 (saidByConsole .ackOnly 101 [])) trivial
    (by decide +kernel)
  have ended := confirmed.step (.target 2 0 .ended) trivial (by decide +kernel)
  have said := ended.step (.frame 3 (saidByConsole .finAck 101 [1, 2, 3])) trivial
    (by decide +kernel)
  have through := said.step (.relay 0 .accept) trivial trivial
  have wrote := through.step (.relay 0 .write) trivial trivial
  have hungUp := wrote.step (.relay 0 .hangUp) trivial trivial
  refine ⟨by decide +kernel, ?_, ?_⟩
  · obtain ⟨c, known⟩ : ∃ c, overheard.connection? 0 = some c :=
      Option.isSome_iff_exists.1 (by decide +kernel)
    have released : (overheard.connection? 0).map (·.relay.released) = some true := by
      decide +kernel
    rw [known] at released
    obtain ⟨⟨account, -⟩, closed, -⟩ := (accepted_eq_written_append_queued said).2 c known
    refine ⟨c, known, ?_, (closed (Option.some.inj released)).2⟩
    rw [← account]
    decide +kernel
  · obtain ⟨c, known⟩ : ∃ c, drained.connection? 0 = some c :=
      Option.isSome_iff_exists.1 (by decide +kernel)
    have stage : (drained.connection? 0).map (·.relay.stage) = some .ended := by decide +kernel
    rw [known] at stage
    obtain ⟨⟨account, -⟩, -, paid⟩ := (accepted_eq_written_append_queued hungUp).2 c known
    refine ⟨c, known, ?_⟩
    rw [(paid (Option.some.inj stage)).2, List.flatten_nil, List.append_nil] at account
    rw [← account]
    decide +kernel

end LocalPlay.Engine
