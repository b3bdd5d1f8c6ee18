import RadioStack.Proofs.Tcp.Transition

/-!
What a call at one instant is made of, with its log and the timer: changes that leave the ends of a
connection and the timer alone, records, transmissions, and acknowledgments, which start the timer
anew. A call that opens a connection binds its ends before anything else. Main statement:
`perform_conduct`.
-/

namespace RadioStack.Tcp

def Emission.IsNote (emission : Emission) : Prop :=
  ∃ record, emission = .record record ∧ ∀ port flags, record ≠ .unbound port flags

theorem Turn.mem_segments {turn : Turn} {sent : Segment} :
    sent ∈ turn.segments ↔ .segment sent ∈ turn.emitted := by
  rw [Turn.segments, List.mem_filterMap]
  constructor
  · rintro ⟨emission, member, carried⟩
    cases emission with
    | segment segment =>
        cases carried
        exact member
    | record => cases carried
  · exact fun member => ⟨_, member, rfl⟩

namespace Endpoint

/-- What only the timer and the opening of a connection change. -/
def bearings (endpoint : Endpoint) :
    (Option Address × Option Address × Option UInt16) × UInt16 × Instant :=
  (endpoint.ends, endpoint.localPort, endpoint.lastSend)

inductive Stroke (now : Instant) : Endpoint → List Emission → Endpoint → Prop
  | change {before after : Endpoint} (kept : after.bearings = before.bearings) :
    Stroke now before [] after
  | note {endpoint : Endpoint} {emission : Emission} (note : emission.IsNote) :
    Stroke now endpoint [emission] endpoint
  | transmit {endpoint : Endpoint} (sequence : UInt32) (flags : Flags) (length : Nat) :
    Stroke now endpoint (endpoint.transmit now sequence flags length).emitted
      (endpoint.transmit now sequence flags length).endpoint
  | acknowledge {endpoint : Endpoint} : Stroke now endpoint [] { endpoint with lastSend := now }

inductive Strokes (now : Instant) : Endpoint → List Emission → Endpoint → Prop
  | done {endpoint : Endpoint} : Strokes now endpoint [] endpoint
  | step {before middle after : Endpoint} {emitted rest : List Emission}
    (stroke : Stroke now before emitted middle) (strokes : Strokes now middle rest after) :
    Strokes now before (emitted ++ rest) after

def Strikes (now : Instant) (endpoint : Endpoint) (turn : Turn) : Prop :=
  Strokes now endpoint turn.emitted turn.endpoint

structure Joins (endpoint : Endpoint) (here there : Socket) : Prop where
  localAddress : endpoint.localAddress = some here.address
  localPort : endpoint.localPort = here.port
  remoteAddress : endpoint.remoteAddress = some there.address
  remotePort : endpoint.remotePort = some there.port

structure Waits (before : Endpoint) (turn : Turn) : Prop where
  timer : turn.endpoint.lastSend = before.lastSend
  notes : ∀ emission ∈ turn.emitted, emission.IsNote

/-- How an endpoint conducts itself during a call: a connection goes on, or one begins, which has
its ends bound first, or nothing is sent. -/
inductive Conduct (now : Instant) (before : Endpoint) (turn : Turn) : Prop
  | continues (running : before.state ≠ .closed ∧ before.state ≠ .listen)
    (strikes : before.Strikes now turn)
  | connects (unopened : before.state = .closed ∨ before.state = .listen) {bound : Endpoint}
    {here there : Socket} (joins : bound.Joins here there)
    (timer : bound.lastSend = before.lastSend) (strikes : bound.Strikes now turn)
  | waits (unopened : before.state = .closed ∨ before.state = .listen)
    (waits : before.Waits turn)

variable {now : Instant} {endpoint changed before middle after : Endpoint} {turn : Turn}
  {emitted rest : List Emission}

theorem Strokes.single (stroke : Stroke now before emitted after) :
    Strokes now before emitted after := by
  have strokes := Strokes.step stroke .done
  rwa [List.append_nil] at strokes

theorem Strokes.trans (first : Strokes now before emitted middle)
    (second : Strokes now middle rest after) : Strokes now before (emitted ++ rest) after := by
  induction first with
  | done => exact second
  | step stroke _ ih =>
      rw [List.append_assoc]
      exact .step stroke (ih second)

theorem strikes_idle : endpoint.Strikes now endpoint.idle := .done

theorem strikes_note {record : Log.Record} (bound : ∀ port flags, record ≠ .unbound port flags) :
    endpoint.Strikes now (endpoint.note record) := .single (.note ⟨record, rfl, bound⟩)

theorem Strikes.andThen {next : Endpoint → Turn} (first : endpoint.Strikes now turn)
    (second : turn.endpoint.Strikes now (next turn.endpoint)) :
    endpoint.Strikes now (turn.andThen next) := Strokes.trans first second

theorem Strikes.thenReceive {next : Endpoint → Reception} (first : endpoint.Strikes now turn)
    (second : turn.endpoint.Strikes now (next turn.endpoint).toTurn) :
    endpoint.Strikes now (turn.thenReceive next).toTurn := Strokes.trans first second

theorem Strikes.ofChange (strikes : changed.Strikes now turn)
    (kept : changed.bearings = endpoint.bearings) : endpoint.Strikes now turn :=
  .step (.change kept) strikes

theorem Strikes.ofAcknowledge (strikes : Strikes now { endpoint with lastSend := now } turn) :
    endpoint.Strikes now turn := .step .acknowledge strikes

theorem strikes_enter (state : State) : endpoint.Strikes now (endpoint.enter state) := by
  unfold enter
  split
  · exact strikes_idle
  · exact .step (.note ⟨_, rfl, by rintro _ _ ⟨⟩⟩) (.single (.change rfl))

theorem strikes_abort : endpoint.Strikes now endpoint.abort :=
  .andThen (strikes_enter _) (Strokes.single (.change rfl))

theorem strikes_transmit (sequence : UInt32) (flags : Flags) (length : Nat) :
    endpoint.Strikes now (endpoint.transmit now sequence flags length) :=
  .single (.transmit sequence flags length)

theorem strikes_sendAck : endpoint.Strikes now (endpoint.sendAck now) := strikes_transmit ..

theorem strikes_sendControl (flags : Flags) :
    endpoint.Strikes now (endpoint.sendControl now flags) := by
  rw [sendControl_eq]
  exact .ofChange (strikes_transmit ..) rfl

theorem strikes_sendFinIfDrained : endpoint.Strikes now (endpoint.sendFinIfDrained now) := by
  unfold sendFinIfDrained
  split
  · split
    · exact strikes_idle
    · exact .andThen (strikes_enter _) (.ofChange (strikes_transmit ..) rfl)
  · exact strikes_idle

theorem strikes_retransmit : endpoint.Strikes now (endpoint.retransmit now) := by
  unfold retransmit
  split
  · exact strikes_transmit ..
  · exact strikes_transmit ..
  · exact strikes_transmit ..
  · exact strikes_transmit ..
  · exact strikes_transmit ..
  · dsimp only
    split
    · exact strikes_idle
    · exact strikes_transmit ..

theorem strikes_enterTimeWait : endpoint.Strikes now (endpoint.enterTimeWait now) :=
  .ofChange (strikes_enter _) rfl

theorem strikes_send {data : Octets} (sent : endpoint.send now data = .ok turn) :
    endpoint.Strikes now turn := by
  unfold send at sent
  split at sent
  · cases sent
  · split at sent
    · cases sent
      exact strikes_idle
    · split at sent
      · cases sent
      · cases sent
        exact .ofChange (strikes_transmit ..) rfl

theorem strikes_close : endpoint.Strikes now (endpoint.close now) := by
  unfold close
  split
  · exact strikes_abort
  · exact strikes_abort
  · exact .ofChange strikes_sendFinIfDrained rfl
  · exact .ofChange strikes_sendFinIfDrained rfl
  · exact .ofChange strikes_sendFinIfDrained rfl
  · exact strikes_idle

theorem strikes_reset : endpoint.Strikes now (endpoint.reset now) := by
  unfold reset
  split
  · exact strikes_abort
  · exact strikes_abort
  · exact .andThen (strikes_transmit ..) strikes_abort

theorem strikes_tick : endpoint.Strikes now (endpoint.tick now) := by
  unfold tick
  split
  · exact strikes_idle
  · exact strikes_idle
  · split
    · exact strikes_abort
    · exact strikes_idle
  · split
    · exact .andThen (strikes_note nofun) strikes_retransmit
    · exact strikes_idle

section Receive

variable {ip : Ip.Header} {header : Header} {payload : Octets}

theorem strikes_finAcknowledged : endpoint.Strikes now (endpoint.finAcknowledged now) := by
  unfold finAcknowledged
  split
  · exact strikes_enter _
  · exact strikes_enterTimeWait
  · exact strikes_abort
  · exact strikes_idle

theorem strikes_advance (acknowledgment : UInt32) :
    Strikes now { endpoint with lastSend := now } (endpoint.advance now acknowledgment) := by
  dsimp only [advance]
  refine .andThen ?_ strikes_sendFinIfDrained
  split
  · exact .ofChange strikes_finAcknowledged rfl
  · exact .ofChange strikes_idle rfl

theorem strikes_receiveDuplicateAck :
    endpoint.Strikes now (endpoint.receiveDuplicateAck now header payload) := by
  unfold receiveDuplicateAck
  split
  · exact .andThen (strikes_note nofun) strikes_retransmit
  · exact strikes_idle

theorem strikes_receiveAckOfSyn :
    endpoint.Strikes now (endpoint.receiveAckOfSyn now header).toTurn := by
  unfold receiveAckOfSyn
  split
  · exact .andThen (.ofChange (strikes_enter _) rfl) strikes_sendFinIfDrained
  · exact strikes_note nofun

theorem strikes_receiveAck :
    endpoint.Strikes now (endpoint.receiveAck now header payload).toTurn := by
  dsimp only [receiveAck]
  split
  · exact .ofChange strikes_receiveAckOfSyn rfl
  · split
    · exact .ofChange (strikes_note nofun) rfl
    · split
      · exact .ofChange strikes_receiveDuplicateAck rfl
      · exact .ofChange (.ofAcknowledge (strikes_advance _)) rfl

theorem strikes_receiveFin : endpoint.Strikes now (endpoint.receiveFin now) := by
  unfold receiveFin
  split
  · exact strikes_enter _
  · exact strikes_enter _
  · exact strikes_enterTimeWait
  · exact strikes_idle

theorem strikes_receiveText :
    endpoint.Strikes now (endpoint.receiveText now header payload).toTurn := by
  dsimp only [receiveText]
  split
  · exact strikes_idle
  · split
    · exact .andThen (strikes_note nofun) strikes_sendAck
    · split
      · exact strikes_idle
      · split
        · exact strikes_sendAck
        · refine .andThen ?_ strikes_sendAck
          split
          · exact .ofChange strikes_receiveFin rfl
          · exact .ofChange strikes_idle rfl

theorem strikes_receiveRst : endpoint.Strikes now (endpoint.receiveRst header) := by
  unfold receiveRst
  split
  · exact .andThen (strikes_note nofun) strikes_abort
  · exact strikes_idle

theorem strikes_receiveRepeatedSyn :
    endpoint.Strikes now (endpoint.receiveRepeatedSyn now) := by
  unfold receiveRepeatedSyn
  split
  · exact strikes_transmit ..
  · exact strikes_sendAck

theorem strikes_receiveSynchronized :
    endpoint.Strikes now (endpoint.receiveSynchronized now header payload).toTurn := by
  unfold receiveSynchronized
  split
  · exact strikes_receiveRst
  · split
    · exact strikes_receiveRepeatedSyn
    · refine .thenReceive ?_ strikes_receiveText
      split
      · exact strikes_receiveAck
      · exact strikes_idle

theorem strikes_receiveSyn : endpoint.Strikes now (endpoint.receiveSyn now header) := by
  dsimp only [receiveSyn]
  split
  · exact .andThen (.ofChange (strikes_enter _) rfl) strikes_sendAck
  · exact .andThen (.ofChange (strikes_enter _) rfl) (strikes_transmit ..)

theorem strikes_receiveInSynSent :
    endpoint.Strikes now (endpoint.receiveInSynSent now header).toTurn := by
  dsimp only [receiveInSynSent]
  split
  · exact strikes_note nofun
  · split
    · split
      · exact .andThen (strikes_note nofun) strikes_abort
      · exact strikes_idle
    · split
      · exact strikes_receiveSyn
      · exact strikes_idle

end Receive

theorem waits_idle : endpoint.Waits endpoint.idle := ⟨rfl, nofun⟩

theorem waits_enter (state : State) : endpoint.Waits (endpoint.enter state) := by
  refine ⟨by rw [endpoint_enter], ?_⟩
  unfold enter
  split
  · exact nofun
  · exact List.forall_mem_singleton.mpr ⟨_, rfl, nofun⟩

theorem waits_abort : endpoint.Waits endpoint.abort := by
  refine ⟨by rw [endpoint_abort], ?_⟩
  change ∀ emission ∈ _ ++ [], _
  rw [List.append_nil]
  exact (waits_enter _).notes

theorem Conduct.ofCases (strikes : endpoint.Strikes now turn)
    (waits : endpoint.state = .closed ∨ endpoint.state = .listen → endpoint.Waits turn) :
    endpoint.Conduct now turn := by
  by_cases running : endpoint.state ≠ .closed ∧ endpoint.state ≠ .listen
  · exact .continues running strikes
  · have unopened := Decidable.or_iff_not_not_and_not.mpr running
    exact .waits unopened (waits unopened)

theorem conduct_idle : endpoint.Conduct now endpoint.idle :=
  .ofCases strikes_idle fun _ => waits_idle

theorem strikes_begin {state : State} {flags : Flags} :
    endpoint.Strikes now ((endpoint.enter state).andThen (sendControl now flags)) :=
  .andThen (strikes_enter _) (strikes_sendControl _)

theorem conduct_connect {address : Address} {port : UInt16}
    (connected : endpoint.connect now address port = .ok turn) : endpoint.Conduct now turn := by
  unfold connect at connected
  split at connected
  · cases connected
  · rename_i closed
    split at connected
    · cases connected
    · rename_i addressed
      cases connected
      obtain ⟨here, bound⟩ :=
        Option.ne_none_iff_exists'.mp (mt Option.isNone_iff_eq_none.mpr addressed)
      have joins : Joins (restart { endpoint with
          localAddress := endpoint.boundAddress
          remoteAddress := some address
          remotePort := some port }) ⟨here, endpoint.localPort⟩ ⟨address, port⟩ :=
        ⟨bound, rfl, rfl, rfl⟩
      exact .connects (.inl (Decidable.not_not.mp closed)) joins rfl strikes_begin

theorem conduct_listen (listened : endpoint.listen = .ok turn) : endpoint.Conduct now turn := by
  unfold listen at listened
  split at listened
  · cases listened
  · rename_i closed
    cases listened
    refine .waits (.inl (Decidable.not_not.mp closed)) ⟨?_, (waits_enter _).notes⟩
    exact (waits_enter _).timer

theorem conduct_send {data : Octets} (sent : endpoint.send now data = .ok turn) :
    endpoint.Conduct now turn := by
  refine .ofCases (strikes_send sent) ?_
  intro unopened
  have ready : endpoint.refusal? = none := by
    unfold send at sent
    split at sent
    · cases sent
    · assumption
  have carries := carriesData_of_refusal?_eq_none ready
  rcases unopened with state | state <;> rw [state] at carries <;> cases carries

theorem conduct_close : endpoint.Conduct now (endpoint.close now) := by
  refine .ofCases strikes_close ?_
  unfold close
  rintro (closed | listening)
  · rw [closed]
    exact waits_idle
  · rw [listening]
    exact waits_abort

theorem conduct_reset : endpoint.Conduct now (endpoint.reset now) := by
  refine .ofCases strikes_reset ?_
  unfold reset
  rintro (closed | listening)
  · rw [closed]
    exact waits_abort
  · rw [listening]
    exact waits_abort

theorem conduct_tick : endpoint.Conduct now (endpoint.tick now) := by
  refine .ofCases strikes_tick ?_
  unfold tick
  rintro (closed | listening)
  · rw [closed]
    exact waits_idle
  · rw [listening]
    exact waits_idle

section Receive

variable {ip : Ip.Header} {header : Header} {payload : Octets}

theorem conduct_receiveInListen (listening : endpoint.state = .listen) :
    endpoint.Conduct now (endpoint.receiveInListen now ip header) := by
  unfold receiveInListen
  split
  · have joins : Joins { endpoint with
        localAddress := endpoint.localAddress.or (some ip.destination)
        remoteAddress := some ip.source
        remotePort := some header.sourcePort
        receiveNext := header.sequence + 1
        sendWindow := header.window }
        ⟨endpoint.localAddress.getD ip.destination, endpoint.localPort⟩
        ⟨ip.source, header.sourcePort⟩ := ⟨Option.or_some, rfl, rfl, rfl⟩
    exact .connects (.inr listening) joins rfl strikes_begin
  · exact .waits (.inr listening) waits_idle

theorem Conduct.noted {record : Log.Record} {next : Endpoint → Reception}
    (bound : ∀ port flags, record ≠ .unbound port flags)
    (conduct : endpoint.Conduct now (next endpoint).toTurn) :
    endpoint.Conduct now ((endpoint.note record).thenReceive next).toTurn := by
  have note : Emission.IsNote (.record record) := ⟨record, rfl, bound⟩
  cases conduct with
  | continues running strikes => exact .continues running (Strokes.step (.note note) strikes)
  | connects unopened joins timer strikes =>
      exact .connects unopened joins timer (Strokes.step (.note note) strikes)
  | waits unopened waits =>
      exact .waits unopened ⟨waits.timer, List.forall_mem_cons.mpr ⟨note, waits.notes⟩⟩

theorem conduct_receive :
    endpoint.Conduct now (endpoint.receive now ip header payload).toTurn := by
  refine .noted nofun ?_
  split
  · rename_i closed
    exact .waits (.inl closed) waits_idle
  · rename_i listening
    exact conduct_receiveInListen listening
  · rename_i opening
    exact .continues (by rw [opening]; exact ⟨nofun, nofun⟩) strikes_receiveInSynSent
  · rename_i closed listening _
    exact .continues ⟨closed, listening⟩ strikes_receiveSynchronized

end Receive

theorem perform_conduct (endpoint : Endpoint) (call : Call) (otherwise : Instant) :
    endpoint.Conduct (call.time?.getD otherwise) (endpoint.perform call).toTurn := by
  cases call with
  | connect now address port =>
      rw [perform]
      cases connected : endpoint.connect now address port with
      | ok turn => exact conduct_connect connected
      | error failure => exact conduct_idle
  | listen =>
      rw [perform]
      cases listened : endpoint.listen with
      | ok turn => exact conduct_listen listened
      | error failure => exact conduct_idle
  | send now data =>
      rw [perform]
      cases sent : endpoint.send now data with
      | ok turn => exact conduct_send sent
      | error failure => exact conduct_idle
  | close => exact conduct_close
  | reset => exact conduct_reset
  | tick => exact conduct_tick
  | receive => exact conduct_receive

end Endpoint

end RadioStack.Tcp
