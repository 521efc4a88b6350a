import LocalPlay.Tcp.Session

set_option autoImplicit false

/-! # What one action does to a session

`Session.act` is spread over a function for each state. `Session.Step` says the same as one table of
transitions: a row for each thing that an action can come to, with the condition under which it
does. `Session.step_act` proves that the table leaves nothing out and `Session.act_eq_of_step` that
its rows exclude each other, so what holds of every row holds of every action. -/

namespace LocalPlay.Tcp

namespace State

/-- The state after a message from which data was read: the handshake is over. -/
def opened : State → State
  | synReceived => established
  | state => state

theorem opened_ne_synReceived {state : State} : state.opened ≠ .synReceived := by
  cases state <;> decide

theorem listen_of_opened {state : State} (h : state.opened = .listen) : state = .listen := by
  cases state <;> first | rfl | exact absurd h (by decide)

end State

namespace Session

variable {s : Session}

/-! ## The table -/

/-- Whether the session reads the data of a message: the connection is open, or the message is
    what completes the handshake. -/
def Reads (s : Session) (m : Message) : Prop :=
  s.state = .established ∨ s.state = .closeWait ∨ s.state = .synReceived ∧ m.flags.ack

instance (s : Session) (m : Message) : Decidable (s.Reads m) :=
  inferInstanceAs (Decidable (_ ∨ _ ∨ _ ∧ _))

/-- Whether an action comes to nothing: the session stays as it is and nobody hears of it. -/
def Ignores (s : Session) : Action → Prop
  | .receive m => s.state = .closed ∨ ¬ m.flags.rst ∧ match s.state with
    | .listen => ¬ m.flags.isBareSyn
    | .synReceived => if m.flags.isBareSyn then m.seq ≠ s.clientIsn else ¬ m.flags.ack
    | .lastAck => ¬ m.flags.fin ∧ ¬ m.flags.ack
    | _ => False
  | .send _ => s.state ≠ .established
  | .closeFromTarget => s.state ≠ .established ∧ s.state ≠ .synReceived
  | .abort => s.state = .closed

/-- Whether an action breaks off a connection that the console believes in. -/
def BreaksOff (s : Session) : Action → Prop
  | .abort => s.state ≠ .listen ∧ s.state ≠ .closed
  | .closeFromTarget => s.state = .synReceived
  | _ => False

theorem Reads.of_closeWait {m : Message} (state : s.state = .closeWait) : s.Reads m :=
  Or.inr (Or.inl state)

theorem Reads.ne_listen {m : Message} (reads : s.Reads m) : s.state ≠ .listen := by
  rcases reads with h | h | ⟨h, -⟩ <;> rw [h] <;> decide

theorem Reads.ne_closed {m : Message} (reads : s.Reads m) : s.state ≠ .closed := by
  rcases reads with h | h | ⟨h, -⟩ <;> rw [h] <;> decide

theorem Reads.of_ne_closeWait {m : Message} (reads : s.Reads m) (h : s.state ≠ .closeWait) :
    s.state = .synReceived ∨ s.state = .established := by
  rcases reads with h' | h' | ⟨h', -⟩
  · exact Or.inr h'
  · exact absurd h' h
  · exact Or.inl h'

/-- A message that is read leaves the connection open, or half closed if it was. -/
theorem Reads.opened {m : Message} (reads : s.Reads m) :
    s.state.opened = .established ∧ (s.state = .synReceived ∨ s.state = .established) ∨
      s.state.opened = .closeWait ∧ s.state = .closeWait := by
  rcases reads with state | state | ⟨state, -⟩
  · exact Or.inl ⟨by rw [state]; rfl, Or.inr state⟩
  · exact Or.inr ⟨by rw [state]; rfl, state⟩
  · exact Or.inl ⟨by rw [state]; rfl, Or.inl state⟩

theorem BreaksOff.ne_listen {a : Action} (breaks : s.BreaksOff a) : s.state ≠ .listen := by
  cases a with
  | receive m => exact breaks.elim
  | send payload => exact breaks.elim
  | closeFromTarget => rw [show s.state = .synReceived from breaks]; decide
  | abort => exact breaks.1

theorem BreaksOff.ne_closed {a : Action} (breaks : s.BreaksOff a) : s.state ≠ .closed := by
  cases a with
  | receive m => exact breaks.elim
  | send payload => exact breaks.elim
  | closeFromTarget => rw [show s.state = .synReceived from breaks]; decide
  | abort => exact breaks.2

/-- `s.Step a s' o`: the action `a` takes the session `s` to `s'`, and `o` comes of it. -/
inductive Step (s : Session) : Action → Session → Outcome → Prop where
  /-- Nothing happens. -/
  | ignores {a : Action} (ignored : s.Ignores a) : Step s a s {}
  /-- The console breaks the connection off. -/
  | reset {m : Message} (state : s.state ≠ .closed) (rst : m.flags.rst) :
      Step s (.receive m) { s with state := .closed } {}
  /-- The console asks for a connection. -/
  | opens {m : Message} (state : s.state = .listen) (rst : ¬ m.flags.rst)
      (syn : m.flags.isBareSyn) :
      Step s (.receive m)
        { s with
          clientIsn := m.seq
          clientAck := m.seq + 1
          serverSeq := s.initialSeq + 1
          state := .synReceived }
        { reply := some { s.synAck with ack := m.seq + 1 } }
  /-- The console asks once more. -/
  | opensAgain {m : Message} (state : s.state = .synReceived) (rst : ¬ m.flags.rst)
      (syn : m.flags.isBareSyn) (seq : m.seq = s.clientIsn) :
      Step s (.receive m) s { reply := some s.synAck }
  /-- The console acknowledges and says nothing. -/
  | acknowledges {m : Message} (reads : s.Reads m) (rst : ¬ m.flags.rst) (fin : ¬ m.flags.fin)
      (payload : m.payload = []) : Step s (.receive m) { s with state := s.state.opened } {}
  /-- Data continues the stream. -/
  | takes {m : Message} (reads : s.Reads m) (rst : ¬ m.flags.rst) (fin : ¬ m.flags.fin)
      (payload : m.payload ≠ []) (inOrder : s.InOrder m) :
      Step s (.receive m) { s.advance m with state := s.state.opened }
        { reply := some ((s.advance m).message .ackOnly []), forwarded := some m.payload }
  /-- Data does not continue the stream. -/
  | refuses {m : Message} (reads : s.Reads m) (rst : ¬ m.flags.rst) (fin : ¬ m.flags.fin)
      (payload : m.payload ≠ []) (outOfOrder : ¬ s.InOrder m) :
      Step s (.receive m) { s with state := s.state.opened }
        { reply := some (s.message .ackOnly []) }
  /-- The console ends its data before we end ours. -/
  | endsFirst {m : Message} (reads : s.Reads m) (state : s.state ≠ .closeWait)
      (rst : ¬ m.flags.rst) (fin : m.flags.fin) :
      Step s (.receive m)
        { s.advancePastFin m with serverSeq := s.serverSeq + 1, state := .lastAck }
        { reply := some ((s.advancePastFin m).message .finAck []), forwarded := s.lastData m }
  /-- The console ends its data after we have ended ours. -/
  | endsLast {m : Message} (state : s.state = .closeWait) (rst : ¬ m.flags.rst)
      (fin : m.flags.fin) :
      Step s (.receive m) { s.advancePastFin m with state := .closed }
        { reply := some ((s.advancePastFin m).message .ackOnly []), forwarded := s.lastData m }
  /-- The console says again that its data has ended. -/
  | endsAgain {m : Message} (state : s.state = .lastAck) (rst : ¬ m.flags.rst)
      (fin : m.flags.fin) :
      Step s (.receive m) s
        { reply := some { s.message .finAck [] with seq := s.serverSeq - 1 } }
  /-- The console acknowledges that our data has ended. -/
  | finishes {m : Message} (state : s.state = .lastAck) (rst : ¬ m.flags.rst)
      (fin : ¬ m.flags.fin) (ack : m.flags.ack) :
      Step s (.receive m) { s with state := .closed } {}
  /-- We send data. -/
  | sends {payload : Bytes} (state : s.state = .established) :
      Step s (.send payload) { s with serverSeq := s.serverSeq + UInt32.ofNat payload.length }
        { reply := some (s.message .pshAck payload) }
  /-- We end our data. -/
  | closes (state : s.state = .established) :
      Step s .closeFromTarget { s with serverSeq := s.serverSeq + 1, state := .closeWait }
        { reply := some (s.message .finAck []) }
  /-- We break the connection off. -/
  | breaksOff {a : Action} (breaks : s.BreaksOff a) :
      Step s a { s with state := .closed } { reply := some (s.message .rstAck []) }
  /-- We give up before the console has asked for anything. -/
  | givesUp (state : s.state = .listen) : Step s .abort { s with state := .closed } {}

/-- A session has no data of its own to say, only what it is given to send. -/
theorem payload_of_step {s' : Session} {a : Action} {o : Outcome} {m : Message}
    (step : s.Step a s' o) (reply : o.reply = some m) :
    m.payload = [] ∨ a = .send m.payload := by
  cases step with
  | ignores | reset | acknowledges | finishes | givesUp => cases reply
  | sends =>
    cases reply
    exact Or.inr rfl
  | opens | opensAgain | takes | refuses | endsFirst | endsLast | endsAgain | closes | breaksOff =>
    cases reply
    exact Or.inl rfl

/-! ## The table is what `act` does -/

theorem opened_eq_self (h : s.state ≠ .synReceived) : { s with state := s.state.opened } = s := by
  obtain ⟨flow, state, _, _, _, _⟩ := s
  cases state with
  | synReceived => exact absurd rfl h
  | listen | established | closeWait | lastAck | closed => rfl

theorem step_receiveData {m : Message} (reads : s.Reads m) (rst : ¬ m.flags.rst)
    (fin : ¬ m.flags.fin) :
    Step s (.receive m) (receiveData { s with state := s.state.opened } m).1
      (receiveData { s with state := s.state.opened } m).2 := by
  unfold receiveData
  split
  · next payload => exact .acknowledges reads rst fin payload
  · next payload =>
    split
    · next inOrder => exact .takes reads rst fin payload inOrder
    · next outOfOrder => exact .refuses reads rst fin payload outOfOrder

theorem step_receiveEstablished {m : Message} (reads : s.Reads m) (state : s.state ≠ .closeWait)
    (rst : ¬ m.flags.rst) :
    Step s (.receive m) (receiveEstablished { s with state := s.state.opened } m).1
      (receiveEstablished { s with state := s.state.opened } m).2 := by
  unfold receiveEstablished
  split
  · next fin => exact .endsFirst reads state rst fin
  · next fin => exact step_receiveData reads rst fin

theorem step_receiveListen {m : Message} (state : s.state = .listen) (rst : ¬ m.flags.rst) :
    Step s (.receive m) (s.receiveListen m).1 (s.receiveListen m).2 := by
  unfold receiveListen
  split
  · next syn => exact .opens state rst syn
  · next syn => exact .ignores (Or.inr ⟨rst, by rw [state]; exact syn⟩)

theorem step_receiveSynReceived {m : Message} (state : s.state = .synReceived)
    (rst : ¬ m.flags.rst) :
    Step s (.receive m) (s.receiveSynReceived m).1 (s.receiveSynReceived m).2 := by
  unfold receiveSynReceived
  split
  · next syn =>
    by_cases seq : m.seq = s.clientIsn
    · rw [if_pos seq]
      exact .opensAgain state rst syn seq
    · rw [if_neg seq]
      exact .ignores (Or.inr ⟨rst, by rw [state]; simp only [syn, if_true]; exact seq⟩)
  · next syn =>
    split
    · next ack =>
      have h := step_receiveEstablished (Or.inr (Or.inr ⟨state, ack⟩)) (by rw [state]; decide) rst
      rwa [state] at h
    · next ack =>
      exact .ignores (Or.inr ⟨rst, by rw [state]; simp only [syn]; exact ack⟩)

theorem step_receiveCloseWait {m : Message} (state : s.state = .closeWait) (rst : ¬ m.flags.rst) :
    Step s (.receive m) (s.receiveCloseWait m).1 (s.receiveCloseWait m).2 := by
  unfold receiveCloseWait
  split
  · next fin => exact .endsLast state rst fin
  · next fin =>
    have h := step_receiveData (Or.inr (Or.inl state)) rst fin
    rwa [opened_eq_self (by rw [state]; decide)] at h

theorem step_receiveLastAck {m : Message} (state : s.state = .lastAck) (rst : ¬ m.flags.rst) :
    Step s (.receive m) (s.receiveLastAck m).1 (s.receiveLastAck m).2 := by
  unfold receiveLastAck
  split
  · next fin => exact .endsAgain state rst fin
  · next fin =>
    split
    · next ack => exact .finishes state rst fin ack
    · next ack => exact .ignores (Or.inr ⟨rst, by rw [state]; exact ⟨fin, ack⟩⟩)

theorem step_receive (s : Session) (m : Message) :
    Step s (.receive m) (s.receive m).1 (s.receive m).2 := by
  unfold receive
  split
  · next closed => exact .ignores (Or.inl closed)
  · next closed =>
    split
    · next rst => exact .reset closed rst
    · next rst =>
      cases state : s.state with
      | listen => exact step_receiveListen state rst
      | synReceived => exact step_receiveSynReceived state rst
      | established =>
        have h := step_receiveEstablished (Or.inl state) (by rw [state]; decide) rst
        rwa [opened_eq_self (by rw [state]; decide)] at h
      | closeWait => exact step_receiveCloseWait state rst
      | lastAck => exact step_receiveLastAck state rst
      | closed => exact absurd state closed

theorem abort_of_closed (closed : s.state = .closed) : s.abort = (s, none) := by
  unfold abort
  rw [if_pos (Or.inr closed), ← closed]

theorem step_abort (s : Session) : Step s .abort s.abort.1 { reply := s.abort.2 } := by
  by_cases closed : s.state = .closed
  · rw [abort_of_closed closed]
    exact .ignores closed
  unfold abort
  by_cases listen : s.state = .listen
  · rw [if_pos (Or.inl listen)]
    exact .givesUp listen
  · rw [if_neg (not_or.2 ⟨listen, closed⟩)]
    exact .breaksOff ⟨listen, closed⟩

theorem step_closeFromTarget (s : Session) :
    Step s .closeFromTarget s.closeFromTarget.1 { reply := s.closeFromTarget.2 } := by
  unfold closeFromTarget
  split
  · next state => exact .closes state
  · next state =>
    unfold abort
    rw [if_neg (by rw [state]; decide)]
    exact .breaksOff state
  · next established synReceived => exact .ignores ⟨established, synReceived⟩

theorem send_of_established (state : s.state = .established) (payload : Bytes) :
    s.send payload = .ok ({ s with serverSeq := s.serverSeq + UInt32.ofNat payload.length },
      s.message .pshAck payload) :=
  if_pos state

theorem send_of_not_established (state : s.state ≠ .established) (payload : Bytes) :
    s.send payload = .error .sessionClosed :=
  if_neg state

theorem step_send (s : Session) (payload : Bytes) :
    Step s (.send payload) (s.act (.send payload)).1 (s.act (.send payload)).2 := by
  by_cases state : s.state = .established
  · simp only [act, send_of_established state]
    exact .sends state
  · simp only [act, send_of_not_established state]
    exact .ignores state

/-- The table leaves nothing out: whatever an action does stands in it. -/
theorem step_act (s : Session) (a : Action) : Step s a (s.act a).1 (s.act a).2 := by
  cases a with
  | receive m => exact step_receive s m
  | send payload => exact step_send s payload
  | closeFromTarget => exact step_closeFromTarget s
  | abort => exact step_abort s

theorem receive_of_ignores {m : Message} (ignored : s.Ignores (.receive m)) :
    s.receive m = (s, {}) := by
  unfold receive
  rcases ignored with closed | ⟨rst, ignored⟩
  · rw [if_pos closed]
  by_cases closed : s.state = .closed
  · rw [if_pos closed]
  rw [if_neg closed, if_neg rst]
  cases state : s.state with
  | listen =>
    rw [state] at ignored
    exact if_neg ignored
  | synReceived =>
    rw [state] at ignored
    unfold receiveSynReceived
    by_cases syn : m.flags.isBareSyn
    · simp only [syn, if_true] at ignored ⊢
      rw [if_neg ignored]
    · simp only [syn, Bool.false_eq_true, if_false] at ignored ⊢
      exact if_neg ignored
  | established => simp [state] at ignored
  | closeWait => simp [state] at ignored
  | lastAck =>
    rw [state] at ignored
    unfold receiveLastAck
    rw [if_neg ignored.1, if_neg ignored.2]
  | closed => exact absurd state closed

/-- A message whose data is read is handled as on an open connection. -/
theorem receive_of_reads {m : Message} (reads : s.Reads m) (rst : ¬ m.flags.rst) :
    s.receive m = if s.state = .closeWait then s.receiveCloseWait m
      else receiveEstablished { s with state := s.state.opened } m := by
  unfold receive
  rcases reads with state | state | ⟨state, ack⟩
  · rw [opened_eq_self (by rw [state]; decide)]
    simp [state, rst]
  · simp [state, rst]
  · have syn : m.flags.isBareSyn = false := by simp [Flags.isBareSyn, ack]
    simp [receiveSynReceived, State.opened, state, rst, syn, ack]

theorem receive_of_reads_noFin {m : Message} (reads : s.Reads m) (rst : ¬ m.flags.rst)
    (fin : ¬ m.flags.fin) : s.receive m = receiveData { s with state := s.state.opened } m := by
  rw [receive_of_reads reads rst]
  split
  · next state =>
    rw [opened_eq_self (by rw [state]; decide)]
    exact if_neg fin
  · exact if_neg fin

/-- The rows of the table exclude each other: an action does what a row says of it. -/
theorem act_eq_of_step {a : Action} {s' : Session} {o : Outcome} (h : Step s a s' o) :
    s.act a = (s', o) := by
  cases h with
  | ignores ignored =>
    cases a with
    | receive m => exact receive_of_ignores ignored
    | send payload => simp [act, send_of_not_established ignored]
    | closeFromTarget =>
      unfold act closeFromTarget
      split <;> simp_all [Ignores]
    | abort => simp [act, abort_of_closed ignored]
  | reset state rst => simp [act, receive, state, rst]
  | opens state rst syn => simp [act, receive, receiveListen, state, rst, syn, synAck]
  | opensAgain state rst syn seq =>
    simp [act, receive, receiveSynReceived, state, rst, syn, seq]
  | acknowledges reads rst fin payload =>
    simp [act, receive_of_reads_noFin reads rst fin, receiveData, payload]
  | takes reads rst fin payload inOrder =>
    have inOrder' : InOrder { s with state := s.state.opened } _ := inOrder
    simp [act, receive_of_reads_noFin reads rst fin, receiveData, payload, inOrder', advance,
      message]
  | refuses reads rst fin payload outOfOrder =>
    have outOfOrder' : ¬ InOrder { s with state := s.state.opened } _ := outOfOrder
    simp [act, receive_of_reads_noFin reads rst fin, receiveData, payload, outOfOrder', message]
  | endsFirst reads state rst fin =>
    rw [act, receive_of_reads reads rst, if_neg state, receiveEstablished, if_pos fin]
    rfl
  | endsLast state rst fin =>
    simp [act, receive, receiveCloseWait, state, rst, fin, advancePastFin, message]
  | endsAgain state rst fin => simp [act, receive, receiveLastAck, state, rst, fin]
  | finishes state rst fin ack => simp [act, receive, receiveLastAck, state, rst, fin, ack]
  | sends state => simp [act, send_of_established state]
  | closes state => simp [act, closeFromTarget, state]
  | breaksOff breaks =>
    cases a with
    | receive m => exact breaks.elim
    | send payload => exact breaks.elim
    | closeFromTarget => simp [act, closeFromTarget, abort, show s.state = .synReceived from breaks]
    | abort => simp [act, abort, breaks.1, breaks.2]
  | givesUp state => simp [act, abort, state]

end Session

end LocalPlay.Tcp
