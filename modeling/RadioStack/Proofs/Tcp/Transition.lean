import Mathlib.Logic.Relation
import RadioStack.Proofs.Tcp.Agreement
import RadioStack.Proofs.Tcp.Opening

/-!
How the state of an endpoint changes. A call goes along the edges of the connection diagram, several
of them if one segment says several things, or it ends the connection, which needs a reason: a reset
of ours, a timer, the acknowledgment of the last FIN, or a RST that knows the numbers of the
connection. Main statement: `reachable_follows_diagram`.
-/

namespace RadioStack.Tcp

namespace Call

def drives : Call → Bool
  | .send _ _ | .close _ | .tick _ | .receive _ _ _ _ => true
  | _ => false

def time? : Call → Option Instant
  | .connect now _ _ | .send now _ | .close now | .reset now | .tick now | .receive now _ _ _ =>
    some now
  | .listen => none

theorem opens_of_drives {call : Call} (drives : call.drives) : call.opens = false := by
  cases call <;> first | rfl | cases drives

end Call

namespace State

/-- The edges of the connection diagram, but for those that end a connection, and the calls that go
along them. -/
inductive Edge (call : Call) : State → State → Prop
  | connect {now : Instant} {address : Address} {port : UInt16}
    (called : call = .connect now address port) : Edge call .closed .synSent
  | listen (called : call = .listen) : Edge call .closed .listen
  | welcome (drives : call.drives) : Edge call .listen .synReceived
  | cross (drives : call.drives) : Edge call .synSent .synReceived
  | establish (drives : call.drives) : Edge call .synSent .established
  | confirm (drives : call.drives) : Edge call .synReceived .established
  | sendFin (drives : call.drives) : Edge call .established .finWait1
  | takeFin (drives : call.drives) : Edge call .established .closeWait
  | sendLastFin (drives : call.drives) : Edge call .closeWait .lastAck
  | finish (drives : call.drives) : Edge call .finWait1 .finWait2
  | takeFinUnfinished (drives : call.drives) : Edge call .finWait1 .closing
  | takeLastFin (drives : call.drives) : Edge call .finWait2 .timeWait
  | finishBoth (drives : call.drives) : Edge call .closing .timeWait

abbrev Path (call : Call) : State → State → Prop := Relation.ReflTransGen (Edge call)

variable {call : Call} {before after : State}

theorem path_afterPeerFin (drives : call.drives) (state : State) :
    Path call state state.afterPeerFin := by
  cases state with
  | established => exact .single (.takeFin drives)
  | finWait1 => exact .single (.takeFinUnfinished drives)
  | finWait2 => exact .single (.takeLastFin drives)
  | closed | listen | synSent | synReceived | closeWait | lastAck | closing | timeWait =>
      exact .refl

theorem eq_closed_of_path (path : Path call before .closed) : before = .closed := by
  rcases path.cases_tail with same | ⟨_, _, edge⟩
  · exact same.symm
  · cases edge

theorem StepsTo.path (steps : before.StepsTo after) (drives : call.drives) :
    Path call before after ∨ after = .closed := by
  cases steps with
  | still => exact .inl .refl
  | welcome => exact .inl (.single (.welcome drives))
  | cross => exact .inl (.single (.cross drives))
  | establish => exact .inl (.single (.establish drives))
  | confirm => exact .inl (.single (.confirm drives))
  | sendFin => exact .inl (.single (.sendFin drives))
  | sendLastFin => exact .inl (.single (.sendLastFin drives))
  | finish => exact .inl (.single (.finish drives))
  | finishBoth => exact .inl (.single (.finishBoth drives))
  | take => exact .inl (path_afterPeerFin drives before)
  | stop => exact .inr rfl

end State

namespace Endpoint

/-- Why a call ends a connection. `entered` is when the endpoint has begun to linger, if it does. -/
inductive Stops (entered : Option Instant) (call : Call) (endpoint : Endpoint) : Prop
  | reset {now : Instant} (called : call = .reset now)
  | close {now : Instant} (called : call = .close now)
    (early : endpoint.state = .listen ∨ endpoint.state = .synSent)
  | expire {now since : Instant} (called : call = .tick now) (state : endpoint.state = .timeWait)
    (lingering : entered = some since) (expired : endpoint.config.timeWait ≤ now.since since)
  | acknowledge {now : Instant} {ip : Ip.Header} {header : Header} {payload : Octets}
    (called : call = .receive now ip header payload) (state : endpoint.state = .lastAck)
    (ack : header.flags.contains .ack) (noSyn : header.flags.contains .syn = false)
    (noRst : header.flags.contains .rst = false)
    (matching : header.acknowledgment = endpoint.sendNext)
  | refuse {now : Instant} {ip : Ip.Header} {header : Header} {payload : Octets}
    (called : call = .receive now ip header payload) (state : endpoint.state = .synSent)
    (rst : header.flags.contains .rst) (ack : header.flags.contains .ack)
    (matching : header.acknowledgment = endpoint.sendNext)
  | resetByPeer {now : Instant} {ip : Ip.Header} {header : Header} {payload : Octets}
    (called : call = .receive now ip header payload)
    (known : endpoint.state = .synReceived ∨ endpoint.state.isSynchronized)
    (rst : header.flags.contains .rst) (matching : header.sequence = endpoint.receiveNext)

variable {call : Call} {before after endpoint : Endpoint} {output : Output} {now : Instant}
  {turn : Turn} {entered : Option Instant}

theorem Moves.path (moves : Moves call before output after) (drives : call.drives) :
    State.Path call before.state after.state ∨ after.state = .closed := by
  have continues := Call.opens_of_drives drives
  induction moves with
  | done => exact .inl .refl
  | step move moves ih =>
      rcases (move.stepsTo continues).path drives with first | closed
      · exact ih.imp_left first.trans
      · exact .inr (moves.ended continues closed)

theorem path_connect {address : Address} {port : UInt16}
    (connected : endpoint.connect now address port = .ok turn) :
    State.Path (.connect now address port) endpoint.state turn.endpoint.state := by
  rw [(connect_opens connected).1]
  unfold connect at connected
  split at connected
  · cases connected
  · rename_i closed
    rw [Decidable.not_not.mp closed]
    exact .single (.connect rfl)

theorem path_listen (listened : endpoint.listen = .ok turn) :
    State.Path .listen endpoint.state turn.endpoint.state := by
  rw [(listen_opens listened).1]
  unfold listen at listened
  split at listened
  · cases listened
  · rename_i closed
    rw [Decidable.not_not.mp closed]
    exact .single (.listen rfl)

theorem state_reset : (endpoint.reset now).endpoint.state = .closed := by
  unfold reset
  split
  · rw [endpoint_abort]
  · rw [endpoint_abort]
  · rw [Turn.endpoint_andThen, endpoint_abort]

theorem perform_path (endpoint : Endpoint) (call : Call) :
    State.Path call endpoint.state (endpoint.perform call).endpoint.state ∨
      (endpoint.perform call).endpoint.state = .closed := by
  cases call with
  | connect now address port =>
      left
      rw [perform]
      cases connected : endpoint.connect now address port with
      | ok turn => exact path_connect connected
      | error failure => exact .refl
  | listen =>
      left
      rw [perform]
      cases listened : endpoint.listen with
      | ok turn => exact path_listen listened
      | error failure => exact .refl
  | reset now => exact .inr state_reset
  | send | close | tick | receive => exact (perform_moves endpoint _).path rfl

theorem state_send {data : Octets} (sent : endpoint.send now data = .ok turn) :
    turn.endpoint.state = endpoint.state ∧
      turn.endpoint.timeWaitSince = endpoint.timeWaitSince := by
  unfold send at sent
  split at sent
  · cases sent
  · split at sent
    · cases sent
      exact ⟨rfl, rfl⟩
    · split at sent
      · cases sent
      · cases sent
        exact ⟨transmit_keeps _ Endpoint.state (fun _ _ => rfl) _ _ _ _,
          transmit_keeps _ timeWaitSince (fun _ _ => rfl) _ _ _ _⟩

theorem state_of_sendFinIfDrained {state : State} (other : state ≠ .finWait1 ∧ state ≠ .lastAck)
    (after : (endpoint.sendFinIfDrained now).endpoint.state = state) : endpoint.state = state := by
  unfold sendFinIfDrained at after
  split at after
  · split at after
    · exact after
    · rename_i next
      rw [Turn.endpoint_andThen, endpoint_enter, transmit_keeps _ Endpoint.state fun _ _ => rfl]
        at after
      rcases finState?_eq_some next with ⟨_, rfl⟩ | ⟨_, rfl⟩
      · exact absurd after.symm other.1
      · exact absurd after.symm other.2
  · exact after

section Receive

variable {ip : Ip.Header} {header : Header} {payload : Octets}

theorem receiveAck_stops (known : endpoint.state = .synReceived ∨ endpoint.state.isSynchronized)
    (closed : (endpoint.receiveAck now header payload).endpoint.state = .closed) :
    endpoint.state = .lastAck ∧ header.acknowledgment = endpoint.sendNext := by
  apply Decidable.byContradiction
  intro other
  have alive : endpoint.state = .lastAck → endpoint.coversFin header.acknowledgment = false := by
    intro last
    rw [coversFin, beq_eq_false_iff_ne.mpr fun matching => other ⟨last, matching⟩, Bool.and_false]
  by_cases ready : endpoint.state = .synReceived → header.acknowledgment = endpoint.sendNext
  · have lives : Lives endpoint.state (endpoint.receiveAck now header payload).endpoint.state :=
      receiveAck_lives known ready alive
    rw [closed] at lives
    cases lives.synchronized
  · obtain ⟨answered, wrong⟩ := Classical.not_imp.mp ready
    dsimp only [receiveAck, receiveAckOfSyn] at closed
    rw [if_pos answered, if_neg wrong] at closed
    change endpoint.state = _ at closed
    rw [answered] at closed
    cases closed

theorem state_receiveInListen (now : Instant) (ip : Ip.Header) (header : Header)
    (listening : endpoint.state = .listen) :
    (endpoint.receiveInListen now ip header).endpoint.state = .listen ∨
      (endpoint.receiveInListen now ip header).endpoint.state = .synReceived := by
  unfold receiveInListen
  split
  · right
    rw [Turn.endpoint_andThen, endpoint_enter, sendControl_eq,
      transmit_keeps _ Endpoint.state fun _ _ => rfl]
  · exact .inl listening

theorem state_receiveSyn (now : Instant) (header : Header) (endpoint : Endpoint) :
    (endpoint.receiveSyn now header).endpoint.state = .established ∨
      (endpoint.receiveSyn now header).endpoint.state = .synReceived := by
  dsimp only [receiveSyn]
  split
  · left
    rw [Turn.endpoint_andThen, endpoint_enter, sendAck,
      transmit_keeps _ Endpoint.state fun _ _ => rfl]
  · right
    rw [Turn.endpoint_andThen, endpoint_enter, transmit_keeps _ Endpoint.state fun _ _ => rfl]

theorem receiveInSynSent_stops (opening : endpoint.state = .synSent)
    (closed : (endpoint.receiveInSynSent now header).endpoint.state = .closed) :
    endpoint.Stops entered (.receive now ip header payload) := by
  dsimp only [receiveInSynSent] at closed
  split at closed
  · change endpoint.state = _ at closed
    rw [opening] at closed
    cases closed
  · rename_i expected
    split at closed
    · rename_i rst
      split at closed
      · rename_i ack
        exact .refuse rfl opening rst ack (by simpa [ack] using expected)
      · change endpoint.state = _ at closed
        rw [opening] at closed
        cases closed
    · split at closed
      · rw [Turn.toTurn_quiet] at closed
        rcases state_receiveSyn now header endpoint with state | state <;>
          rw [state] at closed <;> cases closed
      · change endpoint.state = _ at closed
        rw [opening] at closed
        cases closed

theorem receiveSynchronized_stops
    (known : endpoint.state = .synReceived ∨ endpoint.state.isSynchronized)
    (closed : (endpoint.receiveSynchronized now header payload).endpoint.state = .closed) :
    endpoint.Stops entered (.receive now ip header payload) := by
  have running := (State.running_of_known known).1
  unfold receiveSynchronized at closed
  split at closed
  · rename_i rst
    rw [Turn.toTurn_quiet] at closed
    unfold receiveRst at closed
    split at closed
    · rename_i matching
      exact .resetByPeer rfl known rst matching
    · exact absurd closed running
  · rename_i noRst
    rw [Bool.not_eq_true] at noRst
    split at closed
    · rw [Turn.toTurn_quiet, receiveRepeatedSyn] at closed
      split at closed
      · rw [transmit_keeps _ Endpoint.state fun _ _ => rfl] at closed
        exact absurd closed running
      · rw [sendAck, transmit_keeps _ Endpoint.state fun _ _ => rfl] at closed
        exact absurd closed running
    · rename_i noSyn
      rw [Bool.not_eq_true] at noSyn
      dsimp only at closed
      rw [Turn.endpoint_thenReceive] at closed
      -- The text of a segment ends nothing.
      have before {middle : Endpoint}
          (text : (middle.receiveText now header payload).endpoint.state = .closed) :
          middle.state = .closed := by
        rcases state_receiveText now header payload middle with same | finished
        · rwa [← same]
        · rw [finished] at text
          cases state : middle.state <;> rw [state] at text <;> first | rfl | cases text
      have acknowledged := before closed
      split at acknowledged
      · rename_i ack
        obtain ⟨last, matching⟩ := receiveAck_stops known acknowledged
        exact .acknowledge rfl last ack noSyn noRst matching
      · exact absurd acknowledged running

theorem receive_stops (running : endpoint.state ≠ .closed)
    (closed : (endpoint.receive now ip header payload).endpoint.state = .closed) :
    endpoint.Stops entered (.receive now ip header payload) := by
  rcases endpoint.state.opening_or_known with (state | listening | opening) | known
  · exact absurd state running
  · rw [(receive_of_listen listening).1] at closed
    rcases state_receiveInListen now ip header listening with state | state <;>
      rw [state] at closed <;> cases closed
  · rw [(receive_of_synSent opening).1] at closed
    exact receiveInSynSent_stops opening closed
  · rw [(receive_of_known known).1] at closed
    exact receiveSynchronized_stops known closed

structure Ignores (endpoint : Endpoint) (reception : Reception) : Prop where
  same : reception.endpoint = endpoint
  silent : reception.segments = []
  nothing : reception.data = none

theorem ignores_receive {reception : Reception}
    (arrived : reception = match endpoint.state with
      | .closed => endpoint.idle.quiet
      | .listen => (endpoint.receiveInListen now ip header).quiet
      | .synSent => endpoint.receiveInSynSent now header
      | _ => endpoint.receiveSynchronized now header payload)
    (ignores : endpoint.Ignores reception) :
    endpoint.Ignores (endpoint.receive now ip header payload) := by
  subst arrived
  refine ⟨ignores.same, ?_, ignores.nothing⟩
  rw [receive, Turn.segments_thenReceive]
  exact ignores.silent

theorem receiveInSynSent_rst (opening : endpoint.state = .synSent)
    (rst : header.flags.contains .rst) :
    endpoint.Stops entered (.receive now ip header payload) ∨
      endpoint.Ignores (endpoint.receiveInSynSent now header) := by
  dsimp only [receiveInSynSent]
  split
  · exact .inr ⟨rfl, rfl, rfl⟩
  · rename_i expected
    cases ack : header.flags.contains .ack with
    | false =>
        rw [if_neg (by decide)]
        exact .inr ⟨rfl, rfl, rfl⟩
    | true => exact .inl (.refuse rfl opening rst ack (by simpa [ack] using expected))

theorem receiveSynchronized_rst
    (known : endpoint.state = .synReceived ∨ endpoint.state.isSynchronized)
    (rst : header.flags.contains .rst) :
    endpoint.Stops entered (.receive now ip header payload) ∨
      endpoint.Ignores (endpoint.receiveSynchronized now header payload) := by
  rw [receiveSynchronized, if_pos rst, receiveRst]
  split
  · rename_i matching
    exact .inl (.resetByPeer rfl known rst matching)
  · exact .inr ⟨rfl, rfl, rfl⟩

theorem receive_rst (rst : header.flags.contains .rst) :
    endpoint.Stops entered (.receive now ip header payload) ∨
      endpoint.Ignores (endpoint.receive now ip header payload) := by
  rcases endpoint.state.opening_or_known with (state | state | state) | known
  · exact .inr (ignores_receive (by rw [state]) ⟨rfl, rfl, rfl⟩)
  · refine .inr (ignores_receive (by rw [state]) ?_)
    rw [receiveInListen, rst, Bool.not_true, Bool.and_false]
    exact ⟨rfl, rfl, rfl⟩
  · exact (receiveInSynSent_rst state rst).imp_right (ignores_receive (by rw [state]))
  · refine (receiveSynchronized_rst known rst).imp_right (ignores_receive ?_)
    cases state : endpoint.state <;> rw [state] at known <;>
      first | rfl | (rcases known with known | known <;> cases known)

end Receive

theorem close_stops (running : endpoint.state ≠ .closed)
    (closed : (endpoint.close now).endpoint.state = .closed) :
    endpoint.Stops entered (.close now) := by
  have intended (finished : (sendFinIfDrained now
      { endpoint with closing := true }).endpoint.state = .closed) : False := by
    have same := state_of_sendFinIfDrained ⟨by decide, by decide⟩ finished
    exact running same
  unfold close at closed
  split at closed
  · rename_i state
    exact .close rfl (.inl state)
  · rename_i state
    exact .close rfl (.inr state)
  · exact (intended closed).elim
  · exact (intended closed).elim
  · exact (intended closed).elim
  · exact absurd closed running

theorem tick_stops (lingering : endpoint.state = .timeWait → entered = some endpoint.timeWaitSince)
    (running : endpoint.state ≠ .closed) (closed : (endpoint.tick now).endpoint.state = .closed) :
    endpoint.Stops entered (.tick now) := by
  unfold tick at closed
  split at closed
  · exact absurd closed running
  · exact absurd closed running
  · rename_i state
    split at closed
    · rename_i expired
      exact .expire rfl state (lingering state) expired
    · exact absurd closed running
  · split at closed
    · rw [Turn.endpoint_andThen, endpoint_note,
        retransmit_keeps _ Endpoint.state fun _ _ => rfl] at closed
      exact absurd closed running
    · exact absurd closed running

theorem opens_fresh (opens : call.opens) :
    (endpoint.perform call).endpoint = endpoint ∨
      ((endpoint.perform call).endpoint.state ≠ .closed ∧
        (endpoint.perform call).endpoint.state ≠ .timeWait) := by
  cases opened : (endpoint.perform call).result.isOk with
  | true => rcases state_of_opened opens opened with state | state <;> simp [state]
  | false => exact .inl (idle_of_unopened opens opened).1

theorem perform_send (endpoint : Endpoint) (now : Instant) (data : Octets) :
    (endpoint.perform (.send now data)).endpoint.state = endpoint.state ∧
      (endpoint.perform (.send now data)).endpoint.timeWaitSince = endpoint.timeWaitSince := by
  rw [perform]
  cases sent : endpoint.send now data with
  | ok turn => exact state_send sent
  | error failure => exact ⟨rfl, rfl⟩

theorem perform_stops
    (lingering : endpoint.state = .timeWait → entered = some endpoint.timeWaitSince)
    (running : endpoint.state ≠ .closed)
    (closed : (endpoint.perform call).endpoint.state = .closed) : endpoint.Stops entered call := by
  have opened (opens : call.opens) : False := by
    rcases endpoint.opens_fresh opens with same | ⟨fresh, _⟩
    · rw [same] at closed
      exact running closed
    · exact fresh closed
  cases call with
  | connect | listen => exact (opened rfl).elim
  | send now data =>
      rw [(endpoint.perform_send now data).1] at closed
      exact absurd closed running
  | close now => exact close_stops running closed
  | reset now => exact .reset rfl
  | tick now => exact tick_stops lingering running closed
  | receive now ip header payload => exact receive_stops running closed

def lingering (endpoint : Endpoint) (call : Call) (entered : Option Instant) : Option Instant :=
  if (endpoint.perform call).endpoint.state = .timeWait then
    if endpoint.state = .timeWait then entered else call.time?
  else none

/-- During a call at `now`, an endpoint that lingers has begun to at `since`; one that does not yet
would begin now. -/
def Dated (now since : Instant) (endpoint : Endpoint) : Prop :=
  if endpoint.state = .timeWait then endpoint.timeWaitSince = since else since = now

section Dated

variable {since : Instant} {header : Header} {payload : Octets}

theorem Dated.now_of_ne (dated : endpoint.Dated now since) (other : endpoint.state ≠ .timeWait) :
    since = now := by
  rwa [Dated, if_neg other] at dated

theorem Dated.congr (dated : before.Dated now since) (state : after.state = before.state)
    (same : after.timeWaitSince = before.timeWaitSince) : after.Dated now since := by
  rwa [Dated, state, same]

theorem Dated.pass (dated : before.Dated now since) (first : before.state ≠ .timeWait)
    (second : after.state ≠ .timeWait) : after.Dated now since := by
  rw [Dated, if_neg second]
  exact dated.now_of_ne first

theorem Dated.transmit {sequence : UInt32} {flags : Flags} {length : Nat}
    (dated : endpoint.Dated now since) :
    (endpoint.transmit now sequence flags length).endpoint.Dated now since :=
  dated.congr (transmit_keeps _ Endpoint.state (fun _ _ => rfl) _ _ _ _)
    (transmit_keeps _ timeWaitSince (fun _ _ => rfl) _ _ _ _)

theorem Dated.enterTimeWait (dated : endpoint.Dated now since)
    (other : endpoint.state ≠ .timeWait) :
    (endpoint.enterTimeWait now).endpoint.Dated now since := by
  rw [endpoint_enterTimeWait, Dated, if_pos rfl]
  exact (dated.now_of_ne other).symm

theorem Dated.sendFinIfDrained (dated : endpoint.Dated now since) :
    (endpoint.sendFinIfDrained now).endpoint.Dated now since := by
  unfold Endpoint.sendFinIfDrained
  split
  · split
    · exact dated
    · rename_i next
      rw [Turn.endpoint_andThen, endpoint_enter]
      rcases finState?_eq_some next with ⟨state, rfl⟩ | ⟨state, rfl⟩
      · exact (dated.pass (by simp [state]) (by simp)).transmit
      · exact (dated.pass (by simp [state]) (by simp)).transmit
  · exact dated

theorem Dated.finAcknowledged (dated : endpoint.Dated now since) :
    (endpoint.finAcknowledged now).endpoint.Dated now since := by
  unfold Endpoint.finAcknowledged
  split
  · rename_i state
    rw [endpoint_enter]
    exact dated.pass (by simp [state]) (by simp)
  · rename_i state
    exact dated.enterTimeWait (by simp [state])
  · rename_i state
    rw [endpoint_abort]
    exact dated.pass (by simp [state]) (by simp)
  · exact dated

theorem Dated.receiveAck (dated : endpoint.Dated now since) :
    (endpoint.receiveAck now header payload).endpoint.Dated now since := by
  have shown : Dated now since { endpoint with sendWindow := header.window } := dated.congr rfl rfl
  dsimp only [Endpoint.receiveAck, receiveAckOfSyn]
  split
  · rename_i answered
    split
    · rw [Turn.toTurn_quiet, Turn.endpoint_andThen, endpoint_enter]
      exact (shown.pass (by simp [answered]) (by simp)).sendFinIfDrained
    · exact shown
  · split
    · exact shown
    · split
      · exact shown.congr (receiveDuplicateAck_keeps Endpoint.state (fun _ _ => rfl) _)
          (receiveDuplicateAck_keeps timeWaitSince (fun _ _ => rfl) _)
      · dsimp only [advance]
        rw [Turn.toTurn_quiet, Turn.endpoint_andThen]
        apply sendFinIfDrained
        split
        · apply finAcknowledged
          exact shown.congr rfl rfl
        · exact shown.congr rfl rfl

theorem Dated.receiveFin (dated : endpoint.Dated now since) :
    (endpoint.receiveFin now).endpoint.Dated now since := by
  unfold Endpoint.receiveFin
  split
  · rename_i state
    rw [endpoint_enter]
    exact dated.pass (by simp [state]) (by simp)
  · rename_i state
    rw [endpoint_enter]
    exact dated.pass (by simp [state]) (by simp)
  · rename_i state
    exact dated.enterTimeWait (by simp [state])
  · exact dated

theorem Dated.receiveText (dated : endpoint.Dated now since) :
    (endpoint.receiveText now header payload).endpoint.Dated now since := by
  dsimp only [Endpoint.receiveText]
  split
  · exact dated
  · split
    · exact dated.transmit
    · split
      · exact dated
      · split
        · exact dated.transmit
        · rw [Turn.endpoint_andThen]
          apply transmit
          split
          · apply receiveFin
            exact dated.congr rfl rfl
          · exact dated.congr rfl rfl

theorem Dated.receiveSynchronized (dated : endpoint.Dated now since) :
    (endpoint.receiveSynchronized now header payload).endpoint.state = .closed ∨
      (endpoint.receiveSynchronized now header payload).endpoint.Dated now since := by
  unfold Endpoint.receiveSynchronized
  split
  · rw [Turn.toTurn_quiet, receiveRst]
    split
    · rw [Turn.endpoint_andThen, endpoint_abort]
      exact .inl rfl
    · exact .inr dated
  · right
    split
    · rw [Turn.toTurn_quiet, receiveRepeatedSyn]
      split
      · exact dated.transmit
      · exact dated.transmit
    · dsimp only
      rw [Turn.endpoint_thenReceive]
      apply receiveText
      split
      · exact dated.receiveAck
      · exact dated

theorem receiveInSynSent_ne_timeWait (opening : endpoint.state = .synSent) :
    (endpoint.receiveInSynSent now header).endpoint.state ≠ .timeWait := by
  have waiting : endpoint.state ≠ .timeWait := by simp [opening]
  dsimp only [receiveInSynSent]
  split
  · exact waiting
  · split
    · split
      · rw [Turn.toTurn_quiet, Turn.endpoint_andThen, endpoint_abort]
        exact nofun
      · exact waiting
    · split
      · rw [Turn.toTurn_quiet]
        rcases state_receiveSyn now header endpoint with state | state <;> simp [state]
      · exact waiting

theorem Dated.receive {ip : Ip.Header} (dated : endpoint.Dated now since) :
    (endpoint.receive now ip header payload).endpoint.state = .closed ∨
      (endpoint.receive now ip header payload).endpoint.Dated now since := by
  rcases endpoint.state.opening_or_known with (closed | listening | opening) | known
  · rw [(receive_of_closed closed).1]
    exact .inl closed
  · rw [(receive_of_listen listening).1]
    refine .inr (dated.pass (by simp [listening]) ?_)
    rcases state_receiveInListen now ip header listening with state | state <;>
      simp [state]
  · rw [(receive_of_synSent opening).1]
    exact .inr (dated.pass (by simp [opening]) (receiveInSynSent_ne_timeWait opening))
  · rw [(receive_of_known known).1]
    exact dated.receiveSynchronized

theorem Dated.close (dated : endpoint.Dated now since) :
    (endpoint.close now).endpoint.state = .closed ∨
      (endpoint.close now).endpoint.Dated now since := by
  have intended : Dated now since { endpoint with closing := true } := dated.congr rfl rfl
  unfold Endpoint.close
  split
  · rw [endpoint_abort]
    exact .inl rfl
  · rw [endpoint_abort]
    exact .inl rfl
  · exact .inr intended.sendFinIfDrained
  · exact .inr intended.sendFinIfDrained
  · exact .inr intended.sendFinIfDrained
  · exact .inr dated

theorem Dated.tick (dated : endpoint.Dated now since) :
    (endpoint.tick now).endpoint.state = .closed ∨
      (endpoint.tick now).endpoint.Dated now since := by
  unfold Endpoint.tick
  split
  · exact .inr dated
  · exact .inr dated
  · split
    · rw [endpoint_abort]
      exact .inl rfl
    · exact .inr dated
  · split
    · rw [Turn.endpoint_andThen, endpoint_note]
      exact .inr (dated.congr (retransmit_keeps endpoint Endpoint.state (fun _ _ => rfl) now)
        (retransmit_keeps endpoint timeWaitSince (fun _ _ => rfl) now))
    · exact .inr dated

end Dated

/-- A call that leaves an endpoint lingering has found it so, or is the one at which it begins. -/
theorem perform_timeWaitSince (lingers : (endpoint.perform call).endpoint.state = .timeWait) :
    some (endpoint.perform call).endpoint.timeWaitSince =
      if endpoint.state = .timeWait then some endpoint.timeWaitSince else call.time? := by
  have opened (opens : call.opens) : some (endpoint.perform call).endpoint.timeWaitSince =
      if endpoint.state = .timeWait then some endpoint.timeWaitSince else call.time? := by
    rcases endpoint.opens_fresh opens with same | ⟨_, fresh⟩
    · rw [same] at lingers
      rw [same, if_pos lingers]
    · exact absurd lingers fresh
  have before (now : Instant) : endpoint.Dated now
      (if endpoint.state = .timeWait then endpoint.timeWaitSince else now) := by
    unfold Dated
    split <;> rfl
  have timed {now : Instant} (time : call.time? = some now)
      (dated : (endpoint.perform call).endpoint.state = .closed ∨
        (endpoint.perform call).endpoint.Dated now
          (if endpoint.state = .timeWait then endpoint.timeWaitSince else now)) :
      some (endpoint.perform call).endpoint.timeWaitSince =
        if endpoint.state = .timeWait then some endpoint.timeWaitSince else call.time? := by
    have since := dated.resolve_left (by simp [lingers])
    rw [Dated, if_pos lingers] at since
    rw [since, time]
    split <;> rfl
  cases call with
  | connect | listen => exact opened rfl
  | send now data =>
      obtain ⟨state, same⟩ := endpoint.perform_send now data
      exact timed rfl (.inr ((before now).congr state same))
  | close now => exact timed rfl (before now).close
  | reset now => exact timed rfl (.inl state_reset)
  | tick now => exact timed rfl (before now).tick
  | receive now ip header payload => exact timed rfl (before now).receive

section Runs

variable {address : Option Address} {port : UInt16} {config : Config}
  {allowed : Endpoint → Call → Prop}

theorem Records.lingers
    (recorded : (create address port config).Records allowed lingering none endpoint entered)
    (lingers : endpoint.state = .timeWait) : entered = some endpoint.timeWaitSince := by
  induction recorded with
  | blank => cases lingers
  | call _ _ ih =>
      rw [lingering, if_pos lingers, perform_timeWaitSince lingers]
      split
      · exact ih ‹_›
      · rfl

/-- Whatever has been called before, a call takes an endpoint along the edges of the diagram, or
ends the connection for one of few reasons. A RST that is none of them is ignored. -/
theorem reachable_follows_diagram
    (recorded : (create address port config).Records (fun _ _ => True) lingering none endpoint
      entered) (call : Call) :
    let after := endpoint.perform call
    (State.Path call endpoint.state after.endpoint.state ∨
      (after.endpoint.state = .closed ∧ endpoint.Stops entered call)) ∧
    ∀ now ip header payload, call = .receive now ip header payload →
      header.flags.contains .rst → ¬ endpoint.Stops entered call →
        endpoint.Ignores after.toReception := by
  refine ⟨?_, ?_⟩
  · rcases endpoint.perform_path call with path | closed
    · exact .inl path
    · by_cases running : endpoint.state = .closed
      · left
        rw [running, closed]
      · exact .inr ⟨closed, perform_stops recorded.lingers running closed⟩
  · rintro now ip header payload rfl rst unfounded
    exact (receive_rst rst).resolve_left unfounded

end Runs

def farewell : Call :=
  .receive 7 { nextHeader := .tcp, source := .allRouters, destination := .allNodes }
    { sourcePort := 2, destinationPort := 1, sequence := 8, acknowledgment := 2
      flags := .fin ||| .ack, window := 128 } []

def stray : Call :=
  .receive 8 { nextHeader := .tcp, source := .allRouters, destination := .allNodes }
    { sourcePort := 2, destinationPort := 1, sequence := 8, acknowledgment := 0
      flags := .rst, window := 0 } []

def departing : Endpoint := (waiting.perform (.close 5)).endpoint

def departed : Endpoint := (departing.perform farewell).endpoint

theorem records_departing :
    (create (some .allNodes) 1 {}).Records (fun _ _ => True) lingering none departing none := by
  have opened : (create (some .allNodes) 1 {}).Records (fun _ _ => True) lingering none waiting
      none := .call (.call .blank trivial) trivial
  exact .call opened trivial

theorem records_departed :
    (create (some .allNodes) 1 {}).Records (fun _ _ => True) lingering none departed (some 7) :=
  .call records_departing trivial

/-- One segment leads over `finWait2` to `timeWait`, where a stray RST is ignored and the timer ends
the connection. -/
theorem departed_follows_diagram :
    State.Path farewell .finWait1 .timeWait ∧
      departed.Ignores (departed.perform stray).toReception ∧
      (departed.perform (.tick 1007)).endpoint.state = .closed ∧
      departed.Stops (some 7) (.tick 1007) := by
  have closed : (departed.perform (.tick 1007)).endpoint.state = .closed := by decide
  obtain ⟨arrives, _⟩ := reachable_follows_diagram records_departing farewell
  obtain ⟨_, ignores⟩ := reachable_follows_diagram records_departed stray
  obtain ⟨ends, _⟩ := reachable_follows_diagram records_departed (.tick 1007)
  refine ⟨?_, ?_, closed, ?_⟩
  · rcases arrives with path | ⟨other, _⟩
    · exact path
    · exact absurd other (by decide)
  · refine ignores _ _ _ _ rfl (by decide) ?_
    intro stops
    cases stops with
    | reset called | close called | expire called => cases called
    | acknowledge _ state | refuse _ state => exact absurd state (by decide)
    | resetByPeer called _ _ matching =>
        cases called
        exact absurd matching (by decide)
  · rcases ends with path | ⟨_, stops⟩
    · rw [closed] at path
      exact absurd (State.eq_closed_of_path path) (by decide)
    · exact stops

end Endpoint

end RadioStack.Tcp
