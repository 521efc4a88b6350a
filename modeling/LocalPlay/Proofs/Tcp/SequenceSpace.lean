import LocalPlay.Proofs.Tcp.Runs

set_option autoImplicit false

/-! # The sequence numbers of the server's side

Everything that a session says carries a sequence number, and several functions advance that number
or read it, some before they make the message and some after. `InSequence` says which number a
message must have, given what was said before it; `Numbered` is the invariant that ties `serverSeq`
to what was said. -/

namespace LocalPlay.Tcp

open Session

/-! ## What was said so far -/

/-- The data among what was said. -/
def sentData (said : List Message) : Bytes :=
  (said.filter fun m => m.flags = .pshAck).flatMap Message.payload

/-- Whether the end of our data is among what was said. -/
def HasEnded (said : List Message) : Prop := ∃ m ∈ said, m.flags = .finAck

instance (said : List Message) : Decidable (HasEnded said) :=
  inferInstanceAs (Decidable (∃ m ∈ said, _))

@[simp] theorem sentData_nil : sentData [] = [] := rfl

@[simp] theorem sentData_append (said later : List Message) :
    sentData (said ++ later) = sentData said ++ sentData later := by
  simp [sentData]

theorem sentData_of_pshAck {m : Message} (h : m.flags = .pshAck) : sentData [m] = m.payload := by
  simp [sentData, h]

theorem sentData_eq_nil {said : List Message} (h : ∀ m ∈ said, m.flags ≠ .pshAck) :
    sentData said = [] := by
  rw [sentData, List.filter_eq_nil_iff.2 (by simpa using h), List.flatMap_nil]

theorem sentData_of_ne {m : Message} (h : m.flags ≠ .pshAck) : sentData [m] = [] :=
  sentData_eq_nil (List.forall_mem_singleton.2 h)

@[simp] theorem not_hasEnded_nil : ¬ HasEnded [] := by simp [HasEnded]

@[simp] theorem hasEnded_append (said later : List Message) :
    HasEnded (said ++ later) ↔ HasEnded said ∨ HasEnded later := by
  simp [HasEnded, or_and_right, exists_or]

@[simp] theorem hasEnded_singleton (m : Message) : HasEnded [m] ↔ m.flags = .finAck := by
  simp [HasEnded]

/-- The sequence number after the data that was said. -/
def nextSeq (isn : UInt32) (said : List Message) : UInt32 :=
  isn + 1 + UInt32.ofNat (sentData said).length

/-- The sequence number after all that was said: the end of our data takes one, too. -/
def pointSeq (isn : UInt32) (said : List Message) : UInt32 :=
  nextSeq isn said + if HasEnded said then 1 else 0

theorem pointSeq_of_hasEnded {isn : UInt32} {said : List Message} (h : HasEnded said) :
    pointSeq isn said = nextSeq isn said + 1 := by
  rw [pointSeq, if_pos h]

theorem pointSeq_of_not_hasEnded {isn : UInt32} {said : List Message} (h : ¬ HasEnded said) :
    pointSeq isn said = nextSeq isn said := by
  rw [pointSeq, if_neg h, UInt32.add_zero]

theorem nextSeq_append (isn : UInt32) (said later : List Message) :
    nextSeq isn (said ++ later) = nextSeq isn said + UInt32.ofNat (sentData later).length := by
  simp only [nextSeq, sentData_append, List.length_append, UInt32.ofNat_add]
  exact (UInt32.add_assoc ..).symm

/-- What is neither data nor the end of data for the first time takes no sequence number. -/
theorem pointSeq_append_of_quiet {isn : UInt32} {said later : List Message}
    (data : ∀ m ∈ later, m.flags ≠ .pshAck) (fin : HasEnded later → HasEnded said) :
    pointSeq isn (said ++ later) = pointSeq isn said := by
  have ended : HasEnded (said ++ later) ↔ HasEnded said := by
    rw [hasEnded_append, or_iff_left_of_imp fin]
  simp [pointSeq, nextSeq_append, sentData_eq_nil data, ended]

/-- The message `m` has the sequence number that it must have after what was said `earlier`. -/
structure InSequence (isn : UInt32) (earlier : List Message) (m : Message) : Prop where
  /-- There are five kinds of messages. -/
  kind : m.flags ∈ [.synAck, .pshAck, .finAck, .ackOnly, .rstAck]
  /-- The answer that opens the connection is always the same. -/
  synAck : m.flags = .synAck → m.seq = isn ∧ ∀ m' ∈ earlier, m'.flags = .synAck → m' = m
  /-- Data follows the data before it, and nothing follows the end of data. -/
  data : m.flags = .pshAck → m.seq = nextSeq isn earlier ∧ ¬ HasEnded earlier
  /-- The end of data follows all data, and is the same each time it is said. -/
  fin : m.flags = .finAck →
    m.seq = nextSeq isn earlier ∧ ∀ m' ∈ earlier, m'.flags = .finAck → m' = m
  /-- Anything else stands after all that was said. -/
  other : m.flags = .ackOnly ∨ m.flags = .rstAck → m.seq = pointSeq isn earlier

section InSequence

variable {isn : UInt32} {earlier : List Message} {m : Message}

theorem InSequence.of_synAck (flags : m.flags = .synAck) (seq : m.seq = isn)
    (same : ∀ m' ∈ earlier, m'.flags = .synAck → m' = m) : InSequence isn earlier m where
  kind := by rw [flags]; decide
  synAck _ := ⟨seq, same⟩
  data h := absurd (flags.symm.trans h) (by decide)
  fin h := absurd (flags.symm.trans h) (by decide)
  other h := absurd h (by rw [flags]; decide)

theorem InSequence.of_pshAck (flags : m.flags = .pshAck) (seq : m.seq = nextSeq isn earlier)
    (notEnded : ¬ HasEnded earlier) : InSequence isn earlier m where
  kind := by rw [flags]; decide
  synAck h := absurd (flags.symm.trans h) (by decide)
  data _ := ⟨seq, notEnded⟩
  fin h := absurd (flags.symm.trans h) (by decide)
  other h := absurd h (by rw [flags]; decide)

theorem InSequence.of_finAck (flags : m.flags = .finAck) (seq : m.seq = nextSeq isn earlier)
    (same : ∀ m' ∈ earlier, m'.flags = .finAck → m' = m) : InSequence isn earlier m where
  kind := by rw [flags]; decide
  synAck h := absurd (flags.symm.trans h) (by decide)
  data h := absurd (flags.symm.trans h) (by decide)
  fin _ := ⟨seq, same⟩
  other h := absurd h (by rw [flags]; decide)

theorem InSequence.of_other (flags : m.flags = .ackOnly ∨ m.flags = .rstAck)
    (seq : m.seq = pointSeq isn earlier) : InSequence isn earlier m where
  kind := by rcases flags with flags | flags <;> rw [flags] <;> decide
  synAck h := absurd flags (by rw [h]; decide)
  data h := absurd flags (by rw [h]; decide)
  fin h := absurd flags (by rw [h]; decide)
  other _ := seq

end InSequence

/-! ## The invariant -/

/-- What `serverSeq` has to do with what was said. -/
structure Numbered (isn : UInt32) (said : List Message) (s : Session) : Prop where
  initialSeq : s.initialSeq = isn
  silent : s.state = .listen → said = []
  serverSeq : s.state ≠ .listen → s.state ≠ .closed → s.serverSeq = pointSeq isn said
  hasEnded : s.state = .closeWait ∨ s.state = .lastAck → HasEnded said
  notEnded : s.state = .synReceived ∨ s.state = .established → ¬ HasEnded said
  synAck : ∀ m ∈ said, m.flags = .synAck → m = s.synAck
  fin : s.state = .lastAck → ∀ m ∈ said, m.flags = .finAck →
    m = { s.message .finAck [] with seq := s.serverSeq - 1 }

section Step

variable {isn : UInt32} {said : List Message} {s s' : Session} {a : Action} {o : Outcome}

theorem Numbered.serverSeq_of_reads {m : Message} (inv : Numbered isn said s)
    (reads : s.Reads m) : s.serverSeq = pointSeq isn said :=
  inv.serverSeq reads.ne_listen reads.ne_closed

theorem Numbered.serverSeq_of_talking (inv : Numbered isn said s)
    (state : s.state = .synReceived ∨ s.state = .established) :
    s.serverSeq = pointSeq isn said := by
  rcases state with state | state
  · exact inv.serverSeq (by simp [state]) (by simp [state])
  · exact inv.serverSeq (by simp [state]) (by simp [state])

/-- The end of our data, when it is said for the first time. -/
theorem Numbered.inSequence_fin {m : Message} (inv : Numbered isn said s)
    (state : s.state = .synReceived ∨ s.state = .established) (flags : m.flags = .finAck)
    (seq : m.seq = s.serverSeq) : InSequence isn said m := by
  have notEnded := inv.notEnded state
  refine .of_finAck flags ?_ ?_
  · rw [seq, inv.serverSeq_of_talking state, pointSeq_of_not_hasEnded notEnded]
  · intro m' hm' flags'
    exact absurd ⟨m', hm', flags'⟩ notEnded

/-- Every message of a step has the sequence number that it must have. -/
theorem Numbered.inSequence (step : Step s a s' o) (inv : Numbered isn said s) {m : Message}
    (reply : o.reply = some m) : InSequence isn said m := by
  cases step with
  | ignores | reset | acknowledges | finishes | givesUp => cases reply
  | opens state =>
    cases reply
    refine .of_synAck rfl inv.initialSeq ?_
    intro m' hm'
    simp [inv.silent state] at hm'
  | opensAgain state =>
    cases reply
    exact .of_synAck rfl inv.initialSeq inv.synAck
  | takes reads | refuses reads =>
    cases reply
    exact .of_other (Or.inl rfl) (inv.serverSeq_of_reads reads)
  | endsFirst reads state =>
    cases reply
    exact inv.inSequence_fin (reads.of_ne_closeWait state) rfl rfl
  | endsLast state =>
    cases reply
    exact .of_other (Or.inl rfl) (inv.serverSeq (by simp [state]) (by simp [state]))
  | endsAgain state =>
    cases reply
    -- `serverSeq` has moved past the end of our data, which is said again where it was
    have seq := inv.serverSeq (by simp [state]) (by simp [state])
    rw [pointSeq_of_hasEnded (inv.hasEnded (Or.inr state))] at seq
    exact .of_finAck rfl (by simp [seq]) (inv.fin state)
  | sends state =>
    cases reply
    have notEnded := inv.notEnded (Or.inr state)
    have seq := inv.serverSeq (by simp [state]) (by simp [state])
    exact .of_pshAck rfl (seq.trans (pointSeq_of_not_hasEnded notEnded)) notEnded
  | closes state =>
    cases reply
    exact inv.inSequence_fin (Or.inr state) rfl rfl
  | breaksOff breaks =>
    cases reply
    exact .of_other (Or.inr rfl) (inv.serverSeq breaks.ne_listen breaks.ne_closed)

/-- A session that is over has nothing more to say. -/
theorem Numbered.of_closed (inv : Numbered isn said s) {later : List Message}
    (state : s'.state = .closed) (synAck : s'.synAck = s.synAck)
    (seq : s'.initialSeq = s.initialSeq) (plain : ∀ m ∈ later, m.flags ≠ .synAck) :
    Numbered isn (said ++ later) s' where
  initialSeq := seq.trans inv.initialSeq
  silent h := by simp [state] at h
  serverSeq _ h := absurd state h
  hasEnded h := by simp [state] at h
  notEnded h := by simp [state] at h
  synAck := List.forall_mem_append.2
    ⟨synAck ▸ inv.synAck, fun m hm flags => absurd flags (plain m hm)⟩
  fin h := by simp [state] at h

/-- A message that was read opens the connection at most, and is at most acknowledged. -/
theorem Numbered.of_reads {m : Message} (inv : Numbered isn said s) {later : List Message}
    (reads : s.Reads m) (state : s'.state = s.state.opened) (serverSeq : s'.serverSeq = s.serverSeq)
    (synAck : s'.synAck = s.synAck) (seq : s'.initialSeq = s.initialSeq)
    (plain : ∀ m ∈ later, m.flags = .ackOnly) : Numbered isn (said ++ later) s' := by
  have data : ∀ m ∈ later, m.flags ≠ .pshAck := by
    intro m hm
    rw [plain m hm]
    decide
  have noFin : ¬ HasEnded later := by
    rintro ⟨m, hm, fin⟩
    exact absurd ((plain m hm).symm.trans fin) (by decide)
  have ended : HasEnded (said ++ later) ↔ HasEnded said := by
    rw [hasEnded_append, or_iff_left noFin]
  constructor
  · exact seq.trans inv.initialSeq
  · intro h
    exact absurd (State.listen_of_opened (state.symm.trans h)) reads.ne_listen
  · intro _ _
    rw [serverSeq, inv.serverSeq_of_reads reads, pointSeq_append_of_quiet data (absurd · noFin)]
  · intro h
    rw [ended]
    rcases reads.opened with ⟨opened, -⟩ | ⟨-, before⟩
    · simp [state, opened] at h
    · exact inv.hasEnded (Or.inl before)
  · intro h
    rw [ended]
    rcases reads.opened with ⟨-, before⟩ | ⟨opened, -⟩
    · exact inv.notEnded before
    · simp [state, opened] at h
  · refine List.forall_mem_append.2 ⟨synAck ▸ inv.synAck, ?_⟩
    intro m hm flags
    exact absurd ((plain m hm).symm.trans flags) (by decide)
  · intro h
    rcases reads.opened with ⟨opened, -⟩ | ⟨opened, -⟩ <;> simp [state, opened] at h

/-- Saying once more what was said before takes no sequence number. -/
theorem Numbered.of_again {m : Message} (inv : Numbered isn said s) (state : s.state ≠ .listen)
    (data : m.flags ≠ .pshAck) (synAck : m.flags = .synAck → m = s.synAck)
    (fin : m.flags = .finAck →
      HasEnded said ∧ m = { s.message .finAck [] with seq := s.serverSeq - 1 }) :
    Numbered isn (said ++ [m]) s := by
  have ended : HasEnded (said ++ [m]) ↔ HasEnded said := by
    rw [hasEnded_append, hasEnded_singleton]
    exact or_iff_left_of_imp fun flags => (fin flags).1
  have quiet : pointSeq isn (said ++ [m]) = pointSeq isn said := by
    refine pointSeq_append_of_quiet (List.forall_mem_singleton.2 data) ?_
    rw [hasEnded_singleton]
    exact fun flags => (fin flags).1
  constructor
  · exact inv.initialSeq
  · exact fun h => absurd h state
  · rw [quiet]
    exact inv.serverSeq
  · rw [ended]
    exact inv.hasEnded
  · rw [ended]
    exact inv.notEnded
  · exact List.forall_mem_append.2 ⟨inv.synAck, List.forall_mem_singleton.2 synAck⟩
  · intro h
    refine List.forall_mem_append.2 ⟨inv.fin h, List.forall_mem_singleton.2 ?_⟩
    exact fun flags => (fin flags).2

/-- The end of our data takes one sequence number. -/
theorem Numbered.of_fin {m : Message} (inv : Numbered isn said s)
    (before : s.state = .synReceived ∨ s.state = .established)
    (after : s'.state = .closeWait ∨ s'.state = .lastAck)
    (serverSeq : s'.serverSeq = s.serverSeq + 1) (synAck : s'.synAck = s.synAck)
    (seq : s'.initialSeq = s.initialSeq)
    (fin : m = { s'.message .finAck [] with seq := s.serverSeq }) :
    Numbered isn (said ++ [m]) s' := by
  have flags : m.flags = .finAck := by rw [fin]; rfl
  have noData : sentData [m] = [] := sentData_of_ne (by rw [flags]; decide)
  have notEnded := inv.notEnded before
  have ended : HasEnded (said ++ [m]) := by simp [flags]
  constructor
  · exact seq.trans inv.initialSeq
  · intro h
    simp [h] at after
  · intro _ _
    rw [serverSeq, inv.serverSeq_of_talking before, pointSeq_of_not_hasEnded notEnded,
      pointSeq_of_hasEnded ended, nextSeq_append, noData]
    simp
  · exact fun _ => ended
  · intro h
    rcases after with after | after <;> simp [after] at h
  · refine List.forall_mem_append.2 ⟨synAck ▸ inv.synAck, List.forall_mem_singleton.2 ?_⟩
    exact fun flags' => absurd (flags.symm.trans flags') (by decide)
  · intro _
    refine List.forall_mem_append.2 ⟨?_, List.forall_mem_singleton.2 ?_⟩
    · intro m' hm' flags'
      exact absurd ⟨m', hm', flags'⟩ notEnded
    · intro _
      simp [fin, serverSeq]

/-- Data takes a sequence number for each of its bytes. -/
theorem Numbered.of_data {m : Message} (inv : Numbered isn said s)
    (state : s.state = .established) (flags : m.flags = .pshAck) :
    Numbered isn (said ++ [m])
      { s with serverSeq := s.serverSeq + UInt32.ofNat m.payload.length } := by
  have notEnded := inv.notEnded (Or.inr state)
  have stillNot : ¬ HasEnded (said ++ [m]) := by
    rw [hasEnded_append, hasEnded_singleton, flags, not_or]
    exact ⟨notEnded, by decide⟩
  constructor
  · exact inv.initialSeq
  · intro h
    simp [state] at h
  · intro listen closed
    have here := (inv.serverSeq listen closed).trans (pointSeq_of_not_hasEnded notEnded)
    rw [pointSeq_of_not_hasEnded stillNot, nextSeq_append, sentData_of_pshAck flags, ← here]
  · intro h
    simp [state] at h
  · exact fun _ => stillNot
  · refine List.forall_mem_append.2 ⟨inv.synAck, List.forall_mem_singleton.2 ?_⟩
    exact fun flags' => absurd (flags.symm.trans flags') (by decide)
  · intro h
    simp [state] at h

/-- The answer that opens the connection takes one sequence number. -/
theorem Numbered.of_opens {m : Message} (inv : Numbered isn said s) (listen : s.state = .listen)
    (state : s'.state = .synReceived) (serverSeq : s'.serverSeq = s.initialSeq + 1)
    (seq : s'.initialSeq = s.initialSeq) (reply : m = s'.synAck) :
    Numbered isn (said ++ [m]) s' := by
  have flags : m.flags = .synAck := by rw [reply]; rfl
  have notEnded : ¬ HasEnded [m] := by rw [hasEnded_singleton, flags]; decide
  have noData : sentData [m] = [] := sentData_of_ne (by rw [flags]; decide)
  -- nothing was said before the console asked for a connection
  rw [inv.silent listen, List.nil_append]
  constructor
  · exact seq.trans inv.initialSeq
  · intro h
    simp [state] at h
  · intro _ _
    simp [serverSeq, inv.initialSeq, pointSeq_of_not_hasEnded notEnded, nextSeq, noData]
  · intro h
    simp [state] at h
  · exact fun _ => notEnded
  · exact List.forall_mem_singleton.2 fun _ => reply
  · intro h
    simp [state] at h

theorem Numbered.step (step : Step s a s' o) (inv : Numbered isn said s) :
    Numbered isn (said ++ o.reply.toList) s' := by
  cases step with
  | ignores => simpa using inv
  | reset => exact inv.of_closed rfl rfl rfl (by simp)
  | opens state => exact inv.of_opens state rfl rfl rfl rfl
  | opensAgain state =>
    have noData : Flags.synAck ≠ .pshAck := by decide
    have noFin : Flags.synAck ≠ .finAck := by decide
    exact inv.of_again (by simp [state]) noData (fun _ => rfl) (absurd · noFin)
  | acknowledges reads => exact inv.of_reads reads rfl rfl rfl rfl (by simp)
  | takes reads => exact inv.of_reads reads rfl rfl rfl rfl (by simp [message])
  | refuses reads => exact inv.of_reads reads rfl rfl rfl rfl (by simp [message])
  | endsFirst reads state =>
    exact inv.of_fin (reads.of_ne_closeWait state) (Or.inr rfl) rfl rfl rfl rfl
  | endsLast => exact inv.of_closed rfl rfl rfl (by simp [message, Flags.ackOnly, Flags.synAck])
  | endsAgain state =>
    have noData : Flags.finAck ≠ .pshAck := by decide
    have notSynAck : Flags.finAck ≠ .synAck := by decide
    have ended := inv.hasEnded (Or.inr state)
    exact inv.of_again (by simp [state]) noData (absurd · notSynAck) (fun _ => ⟨ended, rfl⟩)
  | finishes => exact inv.of_closed rfl rfl rfl (by simp)
  | sends state => exact inv.of_data state rfl
  | closes state => exact inv.of_fin (Or.inr state) (Or.inl rfl) rfl rfl rfl rfl
  | breaksOff => exact inv.of_closed rfl rfl rfl (by simp [message, Flags.rstAck, Flags.synAck])
  | givesUp => exact inv.of_closed rfl rfl rfl (by simp)

end Step

/-! ## Whole runs -/

theorem Numbered.new (flow : Flow) (isn : UInt32) :
    Numbered isn (History.said []) (Session.new flow isn) where
  initialSeq := rfl
  silent _ := rfl
  serverSeq h := absurd rfl h
  hasEnded h := by simp [Session.new] at h
  notEnded _ := not_hasEnded_nil
  synAck := by simp
  fin := by simp

theorem Numbered.append {isn : UInt32} {past : History} {x : Moment}
    (inv : Numbered isn past.said x.before) :
    Numbered isn (History.said (past ++ [x])) x.after := by
  rw [History.said_append, History.said_singleton]
  exact inv.step x.step

/-- **Sequence numbers run through.** In every run, each message has the sequence number that the
    messages before it leave to it, and data that cannot be sent changes nothing. -/
theorem said_inSequence_and_refused_send (flow : Flow) (isn : UInt32) (actions : List Action) :
    ∀ before x after, (Session.new flow isn).trace actions = before ++ x :: after →
      (∀ m, x.outcome.reply = some m → InSequence isn (History.said before) m) ∧
        ∀ payload why, x.before.send payload = .error why →
          x.before.act (.send payload) = (x.before, { reply := none }) := by
  intro before x after split
  obtain ⟨-, between⟩ := invariant_trace (I := fun past s => Numbered isn past.said s)
    (P := fun _ => True) (fun past s a _ inv => inv.append (x := ⟨s, a⟩))
    (fun a (_ : a ∈ actions) => trivial) (Numbered.new flow isn)
  obtain ⟨inv, -⟩ := between before x after split
  constructor
  · intro m reply
    exact inv.inSequence x.step reply
  · intro payload why refused
    rw [act, refused]

/-- A run in which the console ends its data twice; sequence numbers wrap around on the way. -/
def endedTwiceRun : List Action :=
  [.receive { flags := { syn := true }, seq := 100 },
    .receive { flags := .ackOnly, seq := 101 },
    .send [1, 2],
    .receive { flags := .finAck, seq := 101 },
    .receive { flags := .finAck, seq := 101 }]

theorem said_inSequence_endedTwiceRun :
    let history := (Session.new default 0xFFFFFFFE).trace endedTwiceRun
    ∃ before x after m, history = before ++ x :: after ∧
      x.outcome.reply = some m ∧ m.flags = .finAck ∧ HasEnded (History.said before) ∧ m.seq = 1 ∧
        InSequence 0xFFFFFFFE (History.said before) m ∧
          x.before.send [3] = .error .sessionClosed ∧
            x.before.act (.send [3]) = (x.before, { reply := none }) := by
  have split : (Session.new default 0xFFFFFFFE).trace endedTwiceRun
      = ((Session.new default 0xFFFFFFFE).trace endedTwiceRun).take 4
        ++ ⟨((Session.new default 0xFFFFFFFE).run (endedTwiceRun.take 4)).1, endedTwiceRun[4]⟩
          :: [] := by decide
  obtain ⟨inSequence, refused⟩ :=
    said_inSequence_and_refused_send default 0xFFFFFFFE endedTwiceRun _ _ _ split
  have closed := send_of_not_established
    (s := ((Session.new default 0xFFFFFFFE).run (endedTwiceRun.take 4)).1)
    (by decide) [3]
  exact ⟨_, _, _, { flags := .finAck, seq := 1, ack := 102 }, split, by decide, rfl, by decide, rfl,
    inSequence _ (by decide), closed, refused _ _ closed⟩

end LocalPlay.Tcp
