import RadioStack.Proofs.Tcp.Transition

/-!
The log tells every change of state. The states that a call enters, in the order of their records,
lead from the state before the call to the state after it, and a connection that ends before it is
synchronized is not synchronized on the way. Main statements: `perform_trails`, `perform_enters`.
-/

namespace RadioStack.Tcp

def Emission.entered? : Emission → Option State
  | .record (.stateChanged _ _ state) => some state
  | _ => none

def Turn.entered (turn : Turn) : List State := turn.emitted.filterMap Emission.entered?

namespace State

/-- States that are entered one after the other, each of them from another one. -/
inductive Trail : State → List State → State → Prop
  | still {state : State} : Trail state [] state
  | enter {before next after : State} {rest : List State} (steps : before.StepsTo next)
    (leaves : before ≠ next) (onward : Trail next rest after) : Trail before (next :: rest) after

structure Enters (before : State) (entered : List State) (after : State) : Prop where
  stays : before = .closed → entered = [] ∧ after = .closed
  ends : before ≠ .closed → (.closed ∈ entered ↔ after = .closed)
  begins : before.isSynchronized = false →
    ((∃ state ∈ entered, state.isSynchronized) ↔ after.isSynchronized)
  keeps : before.isSynchronized → after.isSynchronized ∨ after = .closed

namespace Trail

variable {before middle after : State} {entered further : List State}

theorem append (trail : Trail before entered middle) (onward : Trail middle further after) :
    Trail before (entered ++ further) after := by
  induction trail with
  | still => exact onward
  | enter steps leaves _ ih => exact .enter steps leaves (ih onward)

theorem of_closed (trail : Trail .closed entered after) : entered = [] ∧ after = .closed := by
  cases trail with
  | still => exact ⟨rfl, rfl⟩
  | enter steps leaves =>
      cases steps with
      | still | stop => exact absurd rfl leaves
      | take accepting => cases accepting

theorem ends (trail : Trail before entered after) (running : before ≠ .closed) :
    .closed ∈ entered ↔ after = .closed := by
  induction trail with
  | still => simp [running]
  | @enter before next after rest steps leaves onward ih =>
      by_cases closed : next = .closed
      · subst closed
        simp [onward.of_closed]
      · rw [List.mem_cons, ih closed, or_iff_right (Ne.symm closed)]

theorem synchronized (trail : Trail before entered after)
    (visited : before.isSynchronized ∨ ∃ state ∈ entered, state.isSynchronized) :
    after.isSynchronized ∨ after = .closed := by
  induction trail with
  | still => exact .inl (by simpa using visited)
  | @enter before next after rest steps leaves onward ih =>
      by_cases closed : next = .closed
      · subst closed
        exact .inr onward.of_closed.2
      · apply ih
        rcases visited with already | ⟨state, member, later⟩
        · exact .inl ((steps.synchronized (.inl already)).resolve_right closed)
        · rcases List.mem_cons.mp member with rfl | member
          · exact .inl later
          · exact .inr ⟨state, member, later⟩

theorem visits (trail : Trail before entered after) (opening : before.isSynchronized = false)
    (synchronized : after.isSynchronized) : ∃ state ∈ entered, state.isSynchronized := by
  induction trail with
  | still =>
      rw [opening] at synchronized
      cases synchronized
  | @enter before next after rest _ _ _ ih =>
      cases already : next.isSynchronized with
      | true => exact ⟨next, List.mem_cons_self, already⟩
      | false =>
          obtain ⟨state, member, later⟩ := ih already synchronized
          exact ⟨state, List.mem_cons_of_mem _ member, later⟩

/-- A trail tells what there is to tell, if a connection that ends early ends at once. -/
theorem enters (trail : Trail before entered after)
    (direct : before ≠ .closed → before.isSynchronized = false → after = .closed →
      entered = [.closed]) : before.Enters entered after where
  stays := by
    rintro rfl
    exact trail.of_closed
  ends := trail.ends
  begins := by
    intro opening
    refine ⟨?_, trail.visits opening⟩
    rintro ⟨state, member, later⟩
    rcases trail.synchronized (.inr ⟨state, member, later⟩) with synchronized | closed
    · exact synchronized
    · -- Nothing is entered from a closed connection, and a running one ends at once.
      by_cases running : before = .closed
      · subst running
        rw [trail.of_closed.1] at member
        cases member
      · rw [direct running opening closed, List.mem_singleton] at member
        rw [member] at later
        cases later
  keeps already := trail.synchronized (.inl already)

end Trail

end State

namespace Turn

@[simp] theorem entered_andThen (turn : Turn) (next : Endpoint → Turn) :
    (turn.andThen next).entered = turn.entered ++ (next turn.endpoint).entered := by
  simp [entered, andThen]

@[simp] theorem entered_thenReceive (turn : Turn) (next : Endpoint → Reception) :
    (turn.thenReceive next).entered = turn.entered ++ (next turn.endpoint).entered := by
  simp [entered, thenReceive]

end Turn

namespace Endpoint

variable {endpoint : Endpoint} {turn : Turn} {call : Call} {now : Instant} {ip : Ip.Header}
  {header : Header} {payload data : Octets}

theorem entered_enter (endpoint : Endpoint) (state : State) :
    (endpoint.enter state).entered = if endpoint.state = state then [] else [state] := by
  unfold enter
  split <;> rfl

theorem entered_transmit (endpoint : Endpoint) (now : Instant) (sequence : UInt32) (flags : Flags)
    (length : Nat) : (endpoint.transmit now sequence flags length).entered = [] := by
  unfold transmit
  split <;> rfl

theorem entered_retransmit (endpoint : Endpoint) (now : Instant) :
    (endpoint.retransmit now).entered = [] := by
  unfold retransmit
  split
  all_goals try exact entered_transmit ..
  dsimp only
  split
  · rfl
  · exact entered_transmit ..

theorem entered_abort (running : endpoint.state ≠ .closed) :
    endpoint.abort.entered = [.closed] := by
  rw [abort, Turn.entered_andThen, entered_enter, if_neg running]
  rfl

theorem entered_send (sent : endpoint.send now data = .ok turn) : turn.entered = [] := by
  unfold send at sent
  split at sent
  · cases sent
  · split at sent
    · cases sent
      rfl
    · split at sent
      · cases sent
      · cases sent
        exact entered_transmit ..

theorem entered_connect {address : Address} {port : UInt16}
    (connected : endpoint.connect now address port = .ok turn) :
    endpoint.state = .closed ∧ turn.entered = [.synSent] := by
  unfold connect at connected
  split at connected
  · cases connected
  · rename_i closed
    rw [ne_eq, Decidable.not_not] at closed
    split at connected
    · cases connected
    · cases connected
      rw [Turn.entered_andThen, entered_enter, sendControl_eq, entered_transmit, List.append_nil,
        if_neg]
      · exact ⟨closed, rfl⟩
      · change endpoint.state ≠ _
        rw [closed]
        decide

theorem entered_listen (listened : endpoint.listen = .ok turn) :
    endpoint.state = .closed ∧ turn.entered = [.listen] := by
  unfold listen at listened
  split at listened
  · cases listened
  · rename_i closed
    rw [ne_eq, Decidable.not_not] at closed
    cases listened
    rw [entered_enter, if_neg]
    · exact ⟨closed, rfl⟩
    · change endpoint.state ≠ _
      rw [closed]
      decide

def Trails (endpoint : Endpoint) (turn : Turn) : Prop :=
  State.Trail endpoint.state turn.entered turn.endpoint.state

theorem trails_of_silent (silent : turn.entered = [])
    (same : turn.endpoint.state = endpoint.state) : endpoint.Trails turn := by
  rw [Trails, silent, same]
  exact .still

theorem trails_idle (endpoint : Endpoint) : endpoint.Trails endpoint.idle := .still

theorem Trails.andThen {next : Endpoint → Turn} (first : endpoint.Trails turn)
    (onward : turn.endpoint.Trails (next turn.endpoint)) : endpoint.Trails (turn.andThen next) := by
  rw [Trails, Turn.entered_andThen]
  exact first.append onward

theorem Trails.thenReceive {next : Endpoint → Reception} (first : endpoint.Trails turn)
    (onward : turn.endpoint.Trails (next turn.endpoint).toTurn) :
    endpoint.Trails (turn.thenReceive next).toTurn := by
  rw [Trails, Turn.entered_thenReceive]
  exact first.append onward

theorem trails_enter {state : State} (steps : endpoint.state.StepsTo state) :
    endpoint.Trails (endpoint.enter state) := by
  rw [Trails, entered_enter, endpoint_enter]
  split
  · rename_i same
    rw [same]
    exact .still
  · rename_i leaves
    exact .enter steps leaves .still

theorem trails_abort (endpoint : Endpoint) : endpoint.Trails endpoint.abort :=
  .andThen (trails_enter .stop) (trails_of_silent rfl rfl)

theorem trails_transmit {sender : Endpoint} (same : sender.state = endpoint.state) (now : Instant)
    (sequence : UInt32) (flags : Flags) (length : Nat) :
    endpoint.Trails (sender.transmit now sequence flags length) :=
  trails_of_silent (entered_transmit ..)
    ((transmit_keeps _ state (fun _ _ => rfl) _ _ _ _).trans same)

theorem trails_retransmit (endpoint : Endpoint) (now : Instant) :
    endpoint.Trails (endpoint.retransmit now) :=
  trails_of_silent (entered_retransmit ..) (retransmit_keeps _ state (fun _ _ => rfl) _)

theorem trails_sendAck (endpoint : Endpoint) (now : Instant) :
    endpoint.Trails (endpoint.sendAck now) :=
  trails_transmit rfl ..

theorem trails_sendFinIfDrained (endpoint : Endpoint) (now : Instant) :
    endpoint.Trails (endpoint.sendFinIfDrained now) := by
  unfold sendFinIfDrained
  split
  · split
    · exact endpoint.trails_idle
    · rename_i state next
      have steps : endpoint.state.StepsTo state := by
        rcases finState?_eq_some next with ⟨ready, rfl⟩ | ⟨ready, rfl⟩ <;> rw [ready]
        · exact .sendFin
        · exact .sendLastFin
      refine .andThen (trails_enter steps) ?_
      apply trails_transmit
      rfl
  · exact endpoint.trails_idle

theorem trails_finAcknowledged (endpoint : Endpoint) (now : Instant) :
    endpoint.Trails (endpoint.finAcknowledged now) := by
  unfold finAcknowledged
  split
  · rename_i state
    exact trails_enter (by rw [state]; exact .finish)
  · rename_i state
    exact @trails_enter { endpoint with timeWaitSince := now } _ (by rw [state]; exact .finishBoth)
  · exact endpoint.trails_abort
  · exact endpoint.trails_idle

theorem trails_receiveFin (accepting : endpoint.state.acceptsText) :
    endpoint.Trails (endpoint.receiveFin now) := by
  have take : endpoint.state.StepsTo endpoint.state.afterPeerFin := .take accepting
  unfold receiveFin
  split
  · rename_i state
    exact trails_enter (by rwa [state] at take ⊢)
  · rename_i state
    exact trails_enter (by rwa [state] at take ⊢)
  · rename_i state
    exact @trails_enter { endpoint with timeWaitSince := now } _ (by rwa [state] at take ⊢)
  · exact endpoint.trails_idle

theorem trails_advance (endpoint : Endpoint) (now : Instant) (acknowledgment : UInt32) :
    endpoint.Trails (endpoint.advance now acknowledgment) := by
  let advanced := { endpoint with
    ring := endpoint.ring.release (endpoint.released acknowledgment)
    unacknowledged := acknowledgment
    lastSend := now }
  dsimp only [advance]
  refine .andThen ?_ (trails_sendFinIfDrained ..)
  split
  · exact advanced.trails_finAcknowledged now
  · exact advanced.trails_idle

theorem trails_receiveDuplicateAck :
    endpoint.Trails (endpoint.receiveDuplicateAck now header payload) := by
  unfold receiveDuplicateAck
  split
  · exact .andThen (trails_of_silent rfl rfl) (trails_retransmit ..)
  · exact endpoint.trails_idle

theorem trails_receiveAckOfSyn (answered : endpoint.state = .synReceived) :
    endpoint.Trails (endpoint.receiveAckOfSyn now header).toTurn := by
  unfold receiveAckOfSyn
  split
  · refine .andThen (@trails_enter { endpoint with unacknowledged := header.acknowledgment } _ ?_)
      (trails_sendFinIfDrained ..)
    rw [answered]
    exact .confirm
  · exact trails_of_silent rfl rfl

theorem trails_receiveAck : endpoint.Trails (endpoint.receiveAck now header payload).toTurn := by
  dsimp only [receiveAck]
  split
  · rename_i answered
    exact @trails_receiveAckOfSyn { endpoint with sendWindow := header.window } now header answered
  · split
    · exact trails_of_silent rfl rfl
    · split
      · exact @trails_receiveDuplicateAck { endpoint with sendWindow := header.window } now header
          payload
      · exact trails_advance { endpoint with sendWindow := header.window } now _

theorem trails_receiveText : endpoint.Trails (endpoint.receiveText now header payload).toTurn := by
  dsimp only [receiveText]
  split
  · exact endpoint.trails_idle
  · split
    · exact .andThen (trails_of_silent rfl rfl) (trails_sendAck ..)
    · split
      · exact endpoint.trails_idle
      · split
        · exact endpoint.trails_sendAck now
        · rename_i accepting
          rw [Bool.not_eq_true, Bool.not_eq_false'] at accepting
          let taken := { endpoint with
            receiveNext := endpoint.receiveNext + header.span payload.length }
          refine .andThen ?_ (trails_sendAck ..)
          split
          · exact @trails_receiveFin taken now accepting
          · exact taken.trails_idle

theorem trails_receiveInListen (listening : endpoint.state = .listen) :
    endpoint.Trails (endpoint.receiveInListen now ip header) := by
  unfold receiveInListen
  split
  · refine .andThen (@trails_enter { endpoint with
      localAddress := endpoint.localAddress.or (some ip.destination)
      remoteAddress := some ip.source
      remotePort := some header.sourcePort
      receiveNext := header.sequence + 1
      sendWindow := header.window } _ ?_) ?_
    · rw [listening]
      exact .welcome
    · rw [sendControl_eq]
      apply trails_transmit
      rfl
  · exact endpoint.trails_idle

theorem trails_receiveSyn (opening : endpoint.state = .synSent) :
    endpoint.Trails (endpoint.receiveSyn now header) := by
  dsimp only [receiveSyn]
  split
  · refine .andThen (@trails_enter { endpoint with
      receiveNext := header.sequence + 1
      sendWindow := header.window
      unacknowledged := header.acknowledgment } _ ?_) (trails_sendAck ..)
    rw [opening]
    exact .establish
  · refine .andThen (@trails_enter { endpoint with
      receiveNext := header.sequence + 1
      sendWindow := header.window } _ ?_) (trails_transmit rfl ..)
    rw [opening]
    exact .cross

theorem trails_receiveInSynSent (opening : endpoint.state = .synSent) :
    endpoint.Trails (endpoint.receiveInSynSent now header).toTurn := by
  dsimp only [receiveInSynSent]
  split
  · exact trails_of_silent rfl rfl
  · split
    · split
      · exact .andThen (trails_of_silent rfl rfl) (trails_abort _)
      · exact endpoint.trails_idle
    · split
      · exact trails_receiveSyn opening
      · exact endpoint.trails_idle

theorem trails_receiveSynchronized :
    endpoint.Trails (endpoint.receiveSynchronized now header payload).toTurn := by
  unfold receiveSynchronized
  split
  · unfold receiveRst
    split
    · exact .andThen (trails_of_silent rfl rfl) (trails_abort _)
    · exact endpoint.trails_idle
  · split
    · unfold receiveRepeatedSyn
      split
      · exact trails_transmit rfl ..
      · exact endpoint.trails_sendAck now
    · refine .thenReceive ?_ trails_receiveText
      split
      · exact trails_receiveAck
      · exact endpoint.trails_idle

theorem trails_receive : endpoint.Trails (endpoint.receive now ip header payload).toTurn := by
  unfold receive
  refine .thenReceive (trails_of_silent rfl rfl) ?_
  rw [endpoint_note]
  split
  · exact endpoint.trails_idle
  · rename_i listening
    exact trails_receiveInListen listening
  · rename_i opening
    exact trails_receiveInSynSent opening
  · exact trails_receiveSynchronized

theorem trails_close : endpoint.Trails (endpoint.close now) := by
  unfold close
  split
  · exact endpoint.trails_abort
  · exact endpoint.trails_abort
  all_goals try exact trails_sendFinIfDrained { endpoint with closing := true } now
  exact endpoint.trails_idle

theorem trails_reset : endpoint.Trails (endpoint.reset now) := by
  unfold reset
  split
  · exact endpoint.trails_abort
  · exact endpoint.trails_abort
  · exact .andThen (trails_transmit rfl ..) (trails_abort _)

theorem trails_tick : endpoint.Trails (endpoint.tick now) := by
  unfold tick
  split
  · exact endpoint.trails_idle
  · exact endpoint.trails_idle
  · split
    · exact endpoint.trails_abort
    · exact endpoint.trails_idle
  · split
    · exact .andThen (trails_of_silent rfl rfl) (trails_retransmit ..)
    · exact endpoint.trails_idle

theorem perform_trails (continues : call.opens = false) :
    endpoint.Trails (endpoint.perform call).toTurn := by
  cases call with
  | connect | listen => cases continues
  | send now data =>
      rw [perform]
      cases sent : endpoint.send now data with
      | ok turn => exact trails_of_silent (entered_send sent) (state_send sent).1
      | error failure => exact endpoint.trails_idle
  | close => exact trails_close
  | reset => exact trails_reset
  | tick => exact trails_tick
  | receive => exact trails_receive

theorem entered_reset (running : endpoint.state ≠ .closed) :
    (endpoint.reset now).entered = [.closed] := by
  unfold reset
  split
  · exact entered_abort running
  · exact entered_abort running
  · rw [Turn.entered_andThen, entered_transmit, List.nil_append]
    apply entered_abort
    rwa [transmit_keeps _ state fun _ _ => rfl]

theorem entered_refused (opening : endpoint.state = .synSent) (rst : header.flags.contains .rst)
    (ack : header.flags.contains .ack) (matching : header.acknowledgment = endpoint.sendNext) :
    (endpoint.receive now ip header payload).entered = [.closed] := by
  rw [receive, Turn.entered_thenReceive, endpoint_note, opening]
  dsimp only [receiveInSynSent]
  rw [if_neg (by simp [matching]), if_pos rst, if_pos ack, Turn.toTurn_quiet, Turn.entered_andThen,
    endpoint_note, entered_abort (by simp [opening])]
  rfl

theorem entered_resetByPeer (answered : endpoint.state = .synReceived)
    (rst : header.flags.contains .rst) (matching : header.sequence = endpoint.receiveNext) :
    (endpoint.receive now ip header payload).entered = [.closed] := by
  rw [receive, Turn.entered_thenReceive, endpoint_note, answered]
  dsimp only [receiveSynchronized]
  rw [if_pos rst, Turn.toTurn_quiet, receiveRst, if_pos matching, Turn.entered_andThen,
    endpoint_note, entered_abort (by simp [answered])]
  rfl

/-- A connection that ends before it is synchronized ends at once. -/
theorem Stops.entered {since : Option Instant} (stops : endpoint.Stops since call)
    (running : endpoint.state ≠ .closed) (opening : endpoint.state.isSynchronized = false) :
    (endpoint.perform call).entered = [.closed] := by
  cases stops with
  | reset called =>
      rw [called]
      exact entered_reset running
  | close called early =>
      rw [called]
      change (endpoint.close _).entered = _
      rcases early with state | state <;> rw [Endpoint.close, state] <;>
        exact entered_abort running
  | expire _ state | acknowledge _ state =>
      rw [state] at opening
      cases opening
  | refuse called state rst ack matching =>
      rw [called]
      exact entered_refused state rst ack matching
  | resetByPeer called known rst matching =>
      rw [called]
      rcases known with answered | synchronized
      · exact entered_resetByPeer answered rst matching
      · rw [opening] at synchronized
        cases synchronized

theorem perform_enters (continues : call.opens = false) :
    endpoint.state.Enters (endpoint.perform call).entered (endpoint.perform call).endpoint.state :=
  (perform_trails continues).enters fun running opening closed =>
    (perform_stops (fun _ => rfl) running closed).entered running opening

end Endpoint

end RadioStack.Tcp
