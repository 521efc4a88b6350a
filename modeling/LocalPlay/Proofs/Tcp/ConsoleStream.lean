import LocalPlay.Proofs.Tcp.Runs

set_option autoImplicit false

/-! # The stream from the console to the forward target

A console that sends the bytes `stream` after the sequence number `iss` cuts them into pieces, and
the link loses pieces, doubles them and brings them in any order. What the session forwards is the
beginning of the stream all the same, and what it acknowledges is how much of the stream that is.
The invariant is `Follows`: while data can still be taken, `clientAck` stands right behind what was
forwarded. -/

namespace LocalPlay.Tcp

open Session

/-! ## What the console says -/

/-- `FromConsole iss stream m`: the message `m` can come from a console that began with the sequence
    number `iss` and sends the bytes `stream`. -/
inductive FromConsole (iss : UInt32) (stream : Bytes) (m : Message) : Prop where
  /-- The request that opens the connection. -/
  | request (syn : m.flags.isBareSyn) (seq : m.seq = iss) (payload : m.payload = [])
  /-- Any other message, with a piece of the stream where it belongs. -/
  | piece (syn : ¬ m.flags.isBareSyn) (offset count : Nat) (bound : offset + count ≤ stream.length)
      (seq : m.seq = iss + 1 + UInt32.ofNat offset)
      (payload : m.payload = stream.field offset count)

/-- The sequence number that is due after the first `count` bytes of the stream. -/
def dueAfter (iss : UInt32) (count : Nat) : UInt32 := iss + 1 + UInt32.ofNat count

@[simp] theorem dueAfter_zero (iss : UInt32) : dueAfter iss 0 = iss + 1 := by
  simp [dueAfter]

theorem dueAfter_add (iss : UInt32) (count more : Nat) :
    dueAfter iss (count + more) = dueAfter iss count + UInt32.ofNat more := by
  rw [dueAfter, dueAfter, UInt32.ofNat_add, UInt32.add_assoc (iss + 1)]

theorem dueAfter_injective {iss : UInt32} {a b : Nat} (ha : a < UInt32.size) (hb : b < UInt32.size)
    (h : dueAfter iss a = dueAfter iss b) : a = b := by
  have words : UInt32.ofNat a = UInt32.ofNat b := (UInt32.add_right_inj (iss + 1)).mp h
  have nats := congrArg UInt32.toNat words
  rwa [UInt32.toNat_ofNat_of_lt' ha, UInt32.toNat_ofNat_of_lt' hb] at nats

theorem FromConsole.seq_of_bareSyn {iss : UInt32} {stream : Bytes} {m : Message}
    (console : FromConsole iss stream m) (syn : m.flags.isBareSyn) : m.seq = iss := by
  cases console with
  | request _ seq _ => exact seq
  | piece notSyn => exact absurd syn notSyn

/-- A piece of the stream that stands where the bytes so far end continues them. -/
theorem FromConsole.append_isPrefix {iss : UInt32} {stream done : Bytes} {m : Message}
    (size : stream.length < UInt32.size) (console : FromConsole iss stream m)
    (nonempty : m.payload ≠ []) (seq : m.seq = dueAfter iss done.length)
    (isPrefix : done <+: stream) : done ++ m.payload <+: stream := by
  cases console with
  | request _ _ payload => exact absurd payload nonempty
  | piece _ offset count bound seq' payload =>
    have length := isPrefix.length_le
    have here : offset = done.length :=
      dueAfter_injective (by omega) (by omega) (seq'.symm.trans seq)
    have split : done ++ m.payload = stream.take (done.length + count) := by
      rw [payload, here, Bytes.field, List.take_add, ← List.prefix_iff_eq_take.1 isPrefix]
    rw [split]
    exact List.take_prefix _ stream

/-! ## When data is awaited -/

/-- Whether the session takes the console's request. -/
def Moment.TakesSyn (x : Moment) : Prop :=
  match x.action with
  | .receive m => x.before.state = .listen ∧ ¬ m.flags.rst ∧ m.flags.isBareSyn
  | _ => False

/-- Whether the session takes the end of the console's data. -/
def Moment.TakesFin (x : Moment) : Prop :=
  match x.action with
  | .receive m => x.before.Reads m ∧ ¬ m.flags.rst ∧ m.flags.fin
  | _ => False

instance : DecidablePred Moment.TakesSyn
  | ⟨_, .receive _⟩ => inferInstanceAs (Decidable (_ ∧ _ ∧ _))
  | ⟨_, .send _⟩ | ⟨_, .closeFromTarget⟩ | ⟨_, .abort⟩ => .isFalse id

instance : DecidablePred Moment.TakesFin
  | ⟨_, .receive _⟩ => inferInstanceAs (Decidable (_ ∧ _ ∧ _))
  | ⟨_, .send _⟩ | ⟨_, .closeFromTarget⟩ | ⟨_, .abort⟩ => .isFalse id

/-- Whether the console's request was taken, and the end of its data was not. -/
def History.Awaits (past : History) : Prop :=
  (∃ x ∈ past, x.TakesSyn) ∧ ∀ x ∈ past, ¬ x.TakesFin

instance (past : History) : Decidable past.Awaits := inferInstanceAs (Decidable (_ ∧ _))

theorem History.Awaits.of_append {past : History} {x : Moment} (h : Awaits (past ++ [x])) :
    (past.Awaits ∨ x.TakesSyn) ∧ ¬ x.TakesFin := by
  obtain ⟨⟨y, hy, syn⟩, fin⟩ := h
  refine ⟨?_, fin x (by simp)⟩
  rcases List.mem_append.1 hy with hy | hy
  · left
    refine ⟨⟨y, hy, syn⟩, ?_⟩
    intro z hz
    exact fin z (List.mem_append_left _ hz)
  · right
    rw [List.mem_singleton] at hy
    rwa [← hy]

/-- The states in which data can still be taken. -/
def State.IsReading (state : State) : Prop :=
  state = .synReceived ∨ state = .established ∨ state = .closeWait

theorem State.IsReading.closed {p : Prop} (h : State.closed.IsReading) : p := by
  simp [State.IsReading] at h

theorem State.IsReading.of_opened {state : State} (h : state.opened.IsReading) :
    state.IsReading := by
  cases state <;> simp_all [State.opened, State.IsReading]

theorem Session.Reads.isReading {s : Session} {m : Message} (h : s.Reads m) :
    s.state.IsReading := by
  rcases h with h | h | h
  · exact Or.inr (Or.inl h)
  · exact Or.inr (Or.inr h)
  · exact Or.inl h.1

theorem Moment.TakesSyn.listening {s : Session} {a : Action} (h : Moment.TakesSyn ⟨s, a⟩) :
    s.state = .listen := by
  cases a with
  | receive m => exact h.1
  | send | closeFromTarget | abort => exact h.elim

theorem Moment.TakesSyn.not_ignores {s : Session} {a : Action} (h : Moment.TakesSyn ⟨s, a⟩) :
    ¬ s.Ignores a := by
  cases a with
  | receive m =>
    rintro (closed | ⟨-, ignored⟩)
    · exact absurd (closed.symm.trans h.1) (by decide)
    · rw [h.1] at ignored
      exact ignored h.2.2
  | send | closeFromTarget | abort => exact h.elim

/-! ## The invariant -/

/-- The bytes `done` of the stream were forwarded, and while data is awaited or can be taken the
    session expects the byte after them. -/
structure Follows (iss : UInt32) (stream done : Bytes) (awaits : Prop) (s : Session) : Prop where
  isPrefix : done <+: stream
  listening : s.state = .listen → done = []
  requested : s.state = .synReceived → s.clientAck = s.clientIsn + 1
  clientAck : awaits ∨ s.state.IsReading → s.clientAck = dueAfter iss done.length

section Step

variable {iss : UInt32} {stream done : Bytes} {awaits awaits' : Prop} {s s' : Session}

/-- A step that takes nothing from the console keeps the invariant. -/
theorem Follows.of_same (inv : Follows iss stream done awaits s) (still : awaits' → awaits)
    (clientAck : s'.clientAck = s.clientAck) (clientIsn : s'.clientIsn = s.clientIsn)
    (listening : s'.state = .listen → s.state = .listen)
    (requested : s'.state = .synReceived → s.state = .synReceived)
    (reading : s'.state.IsReading → s.state.IsReading) :
    Follows iss stream (done ++ []) awaits' s' := by
  rw [List.append_nil]
  constructor
  · exact inv.isPrefix
  · intro h
    exact inv.listening (listening h)
  · intro h
    rw [clientAck, clientIsn, inv.requested (requested h)]
  · intro h
    rw [clientAck, inv.clientAck (h.imp still reading)]

/-- So does a step that only breaks the connection off. -/
theorem Follows.of_closed (inv : Follows iss stream done awaits s) (still : awaits' → awaits) :
    Follows iss stream (done ++ []) awaits' { s with state := .closed } :=
  inv.of_same still rfl rfl (by simp) (by simp) State.IsReading.closed

/-- What a message of the console says to be forwarded continues the stream. -/
theorem Follows.append_isPrefix {m : Message} (inv : Follows iss stream done awaits s)
    (size : stream.length < UInt32.size) (console : FromConsole iss stream m) (reads : s.Reads m)
    (inOrder : s.InOrder m) (nonempty : m.payload ≠ []) : done ++ m.payload <+: stream :=
  console.append_isPrefix size nonempty
    (inOrder.trans (inv.clientAck (Or.inr reads.isReading))) inv.isPrefix

/-- The end of the console's data, wherever it stands, may bring the last piece of the stream;
    after it nothing is awaited any more. -/
theorem Follows.of_fin {m : Message} (inv : Follows iss stream done awaits s)
    (size : stream.length < UInt32.size) (console : FromConsole iss stream m) (reads : s.Reads m)
    (noMore : ¬ awaits') (state : s'.state = .lastAck ∨ s'.state = .closed) :
    Follows iss stream (done ++ (s.lastData m).getD []) awaits' s' where
  isPrefix := by
    unfold lastData
    split
    · rename_i continues
      exact inv.append_isPrefix size console reads continues.1 continues.2
    · simpa using inv.isPrefix
  listening h := by simp [h] at state
  requested h := by simp [h] at state
  clientAck h := by
    rcases h with later | reading
    · exact absurd later noMore
    · rcases state with state | state <;> simp [state, State.IsReading] at reading

theorem Follows.step {a : Action} {o : Outcome} (step : Step s a s' o)
    (size : stream.length < UInt32.size) (console : ∀ m, a = .receive m → FromConsole iss stream m)
    (next : awaits' → (awaits ∨ Moment.TakesSyn ⟨s, a⟩) ∧ ¬ Moment.TakesFin ⟨s, a⟩)
    (inv : Follows iss stream done awaits s) :
    Follows iss stream (done ++ o.forwarded.getD []) awaits' s' := by
  -- Only the row `opens` begins to await data. In every other row data is awaited after the step
  -- only if it was awaited before.
  have still (h : ¬ Moment.TakesSyn ⟨s, a⟩) (later : awaits') : awaits :=
    (next later).1.resolve_right h
  have stillOpen (h : s.state ≠ .listen) : awaits' → awaits := still fun syn => h syn.listening
  cases step with
  | ignores ignored => exact inv.of_same (still fun syn => syn.not_ignores ignored) rfl rfl id id id
  | reset state rst =>
    exact inv.of_closed (still fun syn => syn.2.1 rst)
  | opens state rst syn =>
    have seq := (console _ rfl).seq_of_bareSyn syn
    constructor
    · simpa using inv.isPrefix
    · simp
    · intro _
      rfl
    · intro _
      simp [inv.listening state, seq]
  | opensAgain state rst syn seq =>
    exact inv.of_same (stillOpen (by simp [state])) rfl rfl id id id
  | acknowledges reads rst fin payload =>
    exact inv.of_same (stillOpen reads.ne_listen) rfl rfl State.listen_of_opened
      (fun h => absurd h State.opened_ne_synReceived) State.IsReading.of_opened
  | takes reads rst fin payload inOrder =>
    have here := inv.clientAck (Or.inr reads.isReading)
    constructor
    · exact inv.append_isPrefix size (console _ rfl) reads inOrder payload
    · intro h
      exact absurd (State.listen_of_opened h) reads.ne_listen
    · intro h
      exact absurd h State.opened_ne_synReceived
    · -- what was forwarded and what is due grow by the same piece
      intro _
      simp [advance, dueAfter_add, here]
  | refuses reads rst fin payload outOfOrder =>
    exact inv.of_same (stillOpen reads.ne_listen) rfl rfl State.listen_of_opened
      (fun h => absurd h State.opened_ne_synReceived) State.IsReading.of_opened
  | endsFirst reads state rst fin =>
    exact inv.of_fin size (console _ rfl) reads (fun later => (next later).2 ⟨reads, rst, fin⟩)
      (Or.inl rfl)
  | endsLast state rst fin =>
    have reads m : s.Reads m := Reads.of_closeWait state
    exact inv.of_fin size (console _ rfl) (reads _)
      (fun later => (next later).2 ⟨reads _, rst, fin⟩) (Or.inr rfl)
  | endsAgain state rst fin => exact inv.of_same (stillOpen (by simp [state])) rfl rfl id id id
  | finishes state rst fin ack =>
    exact inv.of_closed (stillOpen (by simp [state]))
  | sends state => exact inv.of_same (still id) rfl rfl id id id
  | closes state =>
    exact inv.of_same (still id) rfl rfl (by simp) (by simp) (fun _ => Or.inr (Or.inl state))
  | breaksOff breaks =>
    exact inv.of_closed (stillOpen breaks.ne_listen)
  | givesUp state => exact inv.of_closed (still id)

/-- Whatever is said to the console acknowledges all that was taken from it. -/
theorem Follows.ack_of_reply {a : Action} {o : Outcome} {m : Message} (step : Step s a s' o)
    (inv : Follows iss stream done awaits s) (reply : o.reply = some m) :
    m.ack = s'.clientAck := by
  cases step <;> simp only [Option.some.injEq, reduceCtorEq] at reply <;> subst reply
  -- the answer that opens the connection is made from the console's first sequence number
  case opensAgain state _ _ _ => exact (inv.requested state).symm
  all_goals rfl

end Step

/-! ## Whole runs -/

section Run

variable {iss : UInt32} {stream : Bytes}

theorem Follows.append {past : History} {x : Moment} (size : stream.length < UInt32.size)
    (console : ∀ m, x.action = .receive m → FromConsole iss stream m)
    (inv : Follows iss stream past.forwarded past.Awaits x.before) :
    Follows iss stream (past ++ [x]).forwarded (past ++ [x]).Awaits x.after := by
  rw [History.forwarded_append, History.forwarded_singleton]
  exact Follows.step x.step size console History.Awaits.of_append inv

theorem Follows.new (flow : Flow) (isn : UInt32) :
    Follows iss stream (History.forwarded []) (History.Awaits []) (Session.new flow isn) where
  isPrefix := List.nil_prefix
  listening _ := rfl
  requested := by simp [Session.new]
  clientAck h := by simp [History.Awaits, State.IsReading, Session.new] at h

/-- **The stream to the forward target is the console's.** However the pieces of the stream arrive,
    what is forwarded is the beginning of the stream. From the console's request until the end of
    its data, what the session expects and acknowledges is the byte after what was forwarded. -/
theorem forwarded_isPrefix_and_acknowledged (flow : Flow) (isn iss : UInt32) (stream : Bytes)
    (size : stream.length < UInt32.size) (actions : List Action)
    (console : ∀ m, .receive m ∈ actions → FromConsole iss stream m) :
    ((Session.new flow isn).trace actions).forwarded <+: stream ∧
      ∀ before x after, (Session.new flow isn).trace actions = before ++ x :: after →
        History.Awaits (before ++ [x]) →
          let due := iss + 1 + UInt32.ofNat (History.forwarded (before ++ [x])).length
          x.after.clientAck = due ∧ ∀ m, x.outcome.reply = some m → m.ack = due := by
  obtain ⟨atEnd, between⟩ := invariant_trace
    (I := fun past s => Follows iss stream past.forwarded past.Awaits s)
    (P := fun a => ∀ m, a = .receive m → FromConsole iss stream m)
    (fun past s a console inv => Follows.append size console inv)
    (fun a ha m h => console m (h ▸ ha)) (Follows.new flow isn)
  refine ⟨atEnd.isPrefix, ?_⟩
  intro before x after split awaits
  obtain ⟨inv, console⟩ := between before x after split
  have clientAck := (inv.append size console).clientAck (Or.inl awaits)
  refine ⟨clientAck, ?_⟩
  intro m reply
  exact (inv.ack_of_reply x.step reply).trans clientAck

end Run

/-- A run over a bad link. The second piece of the stream comes first, the first comes twice, and
    the second comes again with the end of the data; sequence numbers wrap around on the way. -/
def lossyRun : List Action :=
  [.receive { flags := { syn := true }, seq := 0xFFFFFFFE },
    .receive { flags := .pshAck, seq := 1, payload := [3, 4] },
    .send [9],
    .receive { flags := .pshAck, seq := 0xFFFFFFFF, payload := [1, 2] },
    .receive { flags := .pshAck, seq := 0xFFFFFFFF, payload := [1, 2] },
    .receive { flags := .finAck, seq := 1, payload := [3, 4] }]

theorem fromConsole_of_mem_lossyRun (m : Message) (h : .receive m ∈ lossyRun) :
    FromConsole 0xFFFFFFFE [1, 2, 3, 4] m := by
  simp only [lossyRun, List.mem_cons, List.not_mem_nil, or_false, Action.receive.injEq,
    reduceCtorEq, false_or] at h
  rcases h with rfl | rfl | rfl | rfl | rfl
  · exact .request rfl rfl rfl
  · exact .piece (by decide) 2 2 (by decide) (by decide) rfl
  · exact .piece (by decide) 0 2 (by decide) (by decide) rfl
  · exact .piece (by decide) 0 2 (by decide) (by decide) rfl
  · exact .piece (by decide) 2 2 (by decide) (by decide) rfl

theorem forwarded_isPrefix_lossyRun :
    let history := (Session.new default 7).trace lossyRun
    history.forwarded <+: [1, 2, 3, 4] ∧ ∃ before x after, history = before ++ x :: after ∧
      History.Awaits (before ++ [x]) ∧ x.after.clientAck = 1 ∧
        ∀ m, x.outcome.reply = some m → m.ack = 1 := by
  obtain ⟨isPrefix, acknowledged⟩ := forwarded_isPrefix_and_acknowledged default 7 0xFFFFFFFE
    [1, 2, 3, 4] (by decide) lossyRun fromConsole_of_mem_lossyRun
  have split : (Session.new default 7).trace lossyRun
      = ((Session.new default 7).trace lossyRun).take 3
        ++ ⟨((Session.new default 7).run (lossyRun.take 3)).1, lossyRun[3]⟩
          :: ((Session.new default 7).trace lossyRun).drop 4 := by decide
  exact ⟨isPrefix, _, _, _, split, by decide, acknowledged _ _ _ split (by decide)⟩

end LocalPlay.Tcp
