import RadioStack.Proofs.Tcp.CallMoves
import RadioStack.Proofs.Tcp.Ledger

/-!
What any sequence of calls leaves of the sending side: in each state the ring and the two counters
agree, and a closing endpoint has something left to wait for. Main statement:
`reachable_accounted`.
-/

namespace RadioStack.Tcp

namespace Endpoint

/-- What calls lead to, each of them allowed at the endpoint on which it is made. -/
inductive Reaches (allowed : Endpoint → Call → Prop) (start : Endpoint) : Endpoint → Prop
  | refl : Reaches allowed start start
  | call {endpoint : Endpoint} (reached : Reaches allowed start endpoint) {call : Call}
    (admitted : allowed endpoint call) : Reaches allowed start (endpoint.perform call).endpoint

/-- How the ring and the counters agree in each state. -/
def Accounted (endpoint : Endpoint) : Prop :=
  let start := endpoint.config.initialSequence
  let inFlight := endpoint.sendNext - endpoint.unacknowledged
  match endpoint.state with
  | .closed => endpoint.ring.count = 0 ∧ endpoint.closing = false
  | .listen =>
    endpoint.ring.count = 0 ∧ endpoint.unacknowledged = start ∧ endpoint.sendNext = start
  | .synSent | .synReceived =>
    endpoint.ring.count = 0 ∧ endpoint.unacknowledged = start ∧ endpoint.sendNext = start + 1
  | .established | .closeWait =>
    inFlight.toNat = endpoint.ring.count ∧ endpoint.ring.count ≤ SendRing.capacity ∧
      (endpoint.closing → endpoint.ring.count ≠ 0)
  | .finWait1 | .closing | .lastAck => endpoint.ring.count = 0 ∧ inFlight = 1
  | .finWait2 | .timeWait =>
    endpoint.ring.count = 0 ∧ endpoint.unacknowledged = endpoint.sendNext

/-- A closing endpoint is past its opening, and what keeps its FIN back is in the ring. -/
def Settled (endpoint : Endpoint) : Prop :=
  endpoint.closing →
    (endpoint.state ≠ .listen ∧ endpoint.state ≠ .synSent) ∧
      (endpoint.state.carriesData → endpoint.ring.toList ≠ [])

variable {endpoint : Endpoint} {stream : Octets} {now : Instant}

theorem balanced_create (address : Option Address) (port : UInt16) (config : Config) :
    (create address port config).Balanced [] :=
  .closed rfl rfl rfl

theorem balanced_perform {call : Call} (balanced : endpoint.Balanced stream)
    (genuine : endpoint.Genuine call) :
    ∃ rest, (endpoint.perform call).endpoint.Balanced rest := by
  obtain ⟨rest, balancedRest, _⟩ := (perform_moves endpoint call).balanced genuine balanced
  exact ⟨rest, balancedRest⟩

theorem Settled.of_open (continuing : endpoint.closing = false) : endpoint.Settled := by
  intro closing
  rw [continuing] at closing
  cases closing

theorem Settled.continuing (settled : endpoint.Settled)
    (opening : endpoint.state = .listen ∨ endpoint.state = .synSent) :
    endpoint.closing = false := by
  rw [← Bool.not_eq_true]
  intro closing
  rcases opening with state | state
  · exact (settled closing).1.1 state
  · exact (settled closing).1.2 state

theorem settled_abort : endpoint.abort.endpoint.Settled := by
  rw [endpoint_abort]
  exact .of_open rfl

theorem Settled.transmit (settled : endpoint.Settled) (sequence : UInt32) (flags : Flags)
    (length : Nat) : (endpoint.transmit now sequence flags length).endpoint.Settled := by
  rwa [transmit_keeps endpoint Settled fun _ _ => rfl]

theorem Settled.retransmit (settled : endpoint.Settled) :
    (endpoint.retransmit now).endpoint.Settled := by
  rwa [retransmit_keeps endpoint Settled fun _ _ => rfl]

theorem Settled.sendAck (settled : endpoint.Settled) : (endpoint.sendAck now).endpoint.Settled :=
  settled.transmit _ _ _

theorem settled_sendControl (continuing : endpoint.closing = false) (flags : Flags) :
    (endpoint.sendControl now flags).endpoint.Settled := by
  rw [sendControl_eq]
  apply Settled.transmit
  exact .of_open continuing

theorem settled_sendFinIfDrained (past : endpoint.state ≠ .listen ∧ endpoint.state ≠ .synSent) :
    (endpoint.sendFinIfDrained now).endpoint.Settled := by
  unfold sendFinIfDrained
  split
  · split
    · rename_i elsewhere
      intro _
      refine ⟨past, ?_⟩
      intro carries
      change endpoint.state.carriesData at carries
      cases state : endpoint.state <;> simp_all [finState?, State.carriesData]
    · rename_i state next
      rw [Turn.endpoint_andThen, endpoint_enter]
      apply Settled.transmit
      intro _
      rcases finState?_eq_some next with ⟨_, rfl⟩ | ⟨_, rfl⟩ <;> simp [State.carriesData]
  · -- The guard fails for a closing endpoint only while the ring holds something.
    rename_i waiting
    intro closing
    refine ⟨past, ?_⟩
    intro _ empty
    apply waiting
    rw [Bool.and_eq_true]
    exact ⟨closing, (SendRing.isEmpty_iff _).mpr empty⟩

theorem settled_connect {address : Address} {port : UInt16} {turn : Turn}
    (connected : endpoint.connect now address port = .ok turn) : turn.endpoint.Settled := by
  unfold connect at connected
  split at connected
  · cases connected
  · split at connected
    · cases connected
    · cases connected
      apply settled_sendControl
      rw [endpoint_enter]
      rfl

theorem settled_listen {turn : Turn} (listened : endpoint.listen = .ok turn) :
    turn.endpoint.Settled := by
  unfold listen at listened
  split at listened
  · cases listened
  · cases listened
    rw [endpoint_enter]
    exact .of_open rfl

theorem Settled.send {data : Octets} {turn : Turn} (settled : endpoint.Settled)
    (sent : endpoint.send now data = .ok turn) : turn.endpoint.Settled := by
  unfold Endpoint.send at sent
  split at sent
  · cases sent
  · rename_i ready
    have continuing : endpoint.closing = false := by
      unfold refusal? at ready
      split at ready
      · cases ready
      · rename_i continuing
        exact Bool.not_eq_true _ ▸ continuing
    split at sent
    · cases sent
      exact settled
    · split at sent
      · cases sent
      · cases sent
        apply Settled.transmit
        exact .of_open continuing

theorem Settled.close (settled : endpoint.Settled) : (endpoint.close now).endpoint.Settled := by
  unfold Endpoint.close
  split
  · exact settled_abort
  · exact settled_abort
  · rename_i state
    exact settled_sendFinIfDrained (by simp [state])
  · rename_i state
    exact settled_sendFinIfDrained (by simp [state])
  · rename_i state
    exact settled_sendFinIfDrained (by simp [state])
  · exact settled

theorem settled_reset : (endpoint.reset now).endpoint.Settled := by
  unfold reset
  split <;> exact settled_abort

theorem Settled.tick (settled : endpoint.Settled) : (endpoint.tick now).endpoint.Settled := by
  unfold Endpoint.tick
  split
  · exact settled
  · exact settled
  · split
    · exact settled_abort
    · exact settled
  · split
    · exact settled.retransmit
    · exact settled

section Receive

variable {ip : Ip.Header} {header : Header} {payload : Octets}

theorem Settled.receiveInListen (settled : endpoint.Settled)
    (listening : endpoint.state = .listen) :
    (endpoint.receiveInListen now ip header).endpoint.Settled := by
  unfold Endpoint.receiveInListen
  split
  · apply settled_sendControl
    rw [endpoint_enter]
    exact settled.continuing (.inl listening)
  · exact settled

theorem Settled.receiveInSynSent (settled : endpoint.Settled)
    (opening : endpoint.state = .synSent) :
    (endpoint.receiveInSynSent now header).endpoint.Settled := by
  have continuing := settled.continuing (.inr opening)
  dsimp only [Endpoint.receiveInSynSent]
  split
  · exact settled
  · split
    · split
      · exact settled_abort
      · exact settled
    · split
      · dsimp only [receiveSyn]
        split
        · apply Settled.sendAck
          rw [endpoint_enter]
          exact .of_open continuing
        · apply Settled.transmit
          rw [endpoint_enter]
          exact .of_open continuing
      · exact settled

theorem Settled.receiveAck (settled : endpoint.Settled)
    (past : endpoint.state ≠ .listen ∧ endpoint.state ≠ .synSent) :
    (endpoint.receiveAck now header payload).endpoint.Settled := by
  dsimp only [Endpoint.receiveAck, receiveAckOfSyn]
  split
  · split
    · apply settled_sendFinIfDrained
      rw [endpoint_enter]
      exact ⟨nofun, nofun⟩
    · exact settled
  · split
    · exact settled
    · split
      · change (Endpoint.receiveDuplicateAck _ _ _ _).endpoint.Settled
        unfold receiveDuplicateAck
        split
        · exact Settled.retransmit settled
        · exact settled
      · apply settled_sendFinIfDrained
        split
        · unfold finAcknowledged
          split
          · rw [endpoint_enter]
            exact ⟨nofun, nofun⟩
          · rw [endpoint_enterTimeWait]
            exact ⟨nofun, nofun⟩
          · rw [endpoint_abort]
            exact ⟨nofun, nofun⟩
          · exact past
        · exact past

theorem Settled.receiveFin (settled : endpoint.Settled) :
    (endpoint.receiveFin now).endpoint.Settled := by
  unfold Endpoint.receiveFin
  split
  · rename_i state
    rw [endpoint_enter]
    exact fun closing => ⟨⟨nofun, nofun⟩, fun _ => (settled closing).2 (by rw [state]; rfl)⟩
  · rw [endpoint_enter]
    exact fun _ => ⟨⟨nofun, nofun⟩, nofun⟩
  · rw [endpoint_enterTimeWait]
    exact fun _ => ⟨⟨nofun, nofun⟩, nofun⟩
  · exact settled

theorem Settled.receiveText (settled : endpoint.Settled) :
    (endpoint.receiveText now header payload).endpoint.Settled := by
  dsimp only [Endpoint.receiveText]
  split
  · exact settled
  · split
    · exact settled.sendAck
    · split
      · exact settled
      · split
        · exact settled.sendAck
        · apply Settled.sendAck
          split
          · apply Settled.receiveFin
            exact settled
          · exact settled

theorem Settled.receive (settled : endpoint.Settled) :
    (endpoint.receive now ip header payload).endpoint.Settled := by
  unfold Endpoint.receive
  rw [Turn.endpoint_thenReceive]
  split
  · exact settled
  · rename_i listening
    exact settled.receiveInListen listening
  · rename_i opening
    exact settled.receiveInSynSent opening
  · rename_i notListen notSynSent
    unfold receiveSynchronized
    split
    · change (Endpoint.receiveRst _ _).endpoint.Settled
      unfold receiveRst
      split
      · exact settled_abort
      · exact settled
    · split
      · change (Endpoint.receiveRepeatedSyn _ _).endpoint.Settled
        unfold receiveRepeatedSyn
        split
        · exact settled.transmit _ _ _
        · exact settled.sendAck
      · apply Settled.receiveText
        split
        · exact settled.receiveAck ⟨notListen, notSynSent⟩
        · exact settled

end Receive

theorem Settled.perform (settled : endpoint.Settled) (call : Call) :
    (endpoint.perform call).endpoint.Settled := by
  cases call with
  | connect now address port =>
      rw [Endpoint.perform]
      cases connected : endpoint.connect now address port with
      | ok turn => exact settled_connect connected
      | error failure => exact settled
  | listen =>
      rw [Endpoint.perform]
      cases listened : endpoint.listen with
      | ok turn => exact settled_listen listened
      | error failure => exact settled
  | send now data =>
      rw [Endpoint.perform]
      cases sent : endpoint.send now data with
      | ok turn => exact settled.send sent
      | error failure => exact settled
  | close now => exact settled.close
  | reset now => exact settled_reset
  | tick now => exact settled.tick
  | receive now ip header payload => exact settled.receive

theorem Ledger.accounted {dropped : Octets} (ledger : endpoint.Ledger dropped)
    (settled : endpoint.Settled) : endpoint.Accounted := by
  have width := ledger.width
  have drained := ledger.drained
  have opening := ledger.unsynchronized
  have held := endpoint.ring.count_le
  have waits : endpoint.closing → endpoint.state.carriesData → endpoint.ring.toList ≠ [] :=
    fun closing => (settled closing).2
  simp only [SendRing.length_toList, SendRing.toList_eq_nil_iff, ne_eq]
    at width drained opening waits
  dsimp only [Accounted]
  cases state : endpoint.state <;> rw [state] at width drained opening waits
  case closed => exact absurd state ledger.running
  case listen =>
    obtain ⟨_, empty, oldest, next⟩ := opening rfl
    exact ⟨empty, oldest, next.trans (ahead_zero _)⟩
  case synSent | synReceived =>
    obtain ⟨_, empty, oldest, next⟩ := opening rfl
    exact ⟨empty, oldest, next⟩
  case established | closeWait =>
    exact ⟨width.trans (Nat.zero_add _), held, fun closing => waits closing rfl⟩
  case finWait1 | closing | lastAck =>
    have empty := drained rfl
    rw [empty] at width
    exact ⟨empty, UInt32.toNat_inj.mp width⟩
  case finWait2 | timeWait =>
    have empty := drained rfl
    rw [empty] at width
    have reached := ahead_toNat_sub endpoint.unacknowledged endpoint.sendNext
    rw [width] at reached
    exact ⟨empty, (ahead_zero _).symm.trans reached⟩

theorem Balanced.accounted (balanced : endpoint.Balanced stream) (settled : endpoint.Settled) :
    endpoint.Accounted := by
  cases balanced with
  | closed state drained idle =>
      unfold Accounted
      rw [state]
      exact ⟨(SendRing.toList_eq_nil_iff _).mp drained, idle⟩
  | running ledger => exact ledger.accounted settled

theorem Reaches.balanced {start : Endpoint} (reached : start.Reaches Genuine endpoint)
    (balanced : start.Balanced stream) : ∃ rest, endpoint.Balanced rest := by
  induction reached with
  | refl => exact ⟨stream, balanced⟩
  | call _ genuine ih =>
      obtain ⟨rest, balancedRest⟩ := ih
      exact balanced_perform balancedRest genuine

theorem Reaches.settled {allowed : Endpoint → Call → Prop} {start : Endpoint}
    (reached : start.Reaches allowed endpoint) (settled : start.Settled) : endpoint.Settled := by
  induction reached with
  | refl => exact settled
  | call _ _ ih => exact ih.perform _

/-- After any calls that bring no misleading segment the ring and the counters agree, and no
acknowledgment that is taken releases more than the ring holds or lacks the number of our FIN. -/
theorem reachable_accounted {address : Option Address} {port : UInt16} {config : Config}
    (reached : (create address port config).Reaches Genuine endpoint) :
    endpoint.Accounted ∧
      ∀ header, endpoint.state.isSynchronized → endpoint.Acknowledges header →
        ¬ endpoint.Misleads header →
          (endpoint.coversFin header.acknowledgment).toNat ≤
              (header.acknowledgment - endpoint.unacknowledged).toNat ∧
            endpoint.released header.acknowledgment ≤ endpoint.ring.count := by
  obtain ⟨stream, balanced⟩ := reached.balanced (balanced_create address port config)
  refine ⟨balanced.accounted (reached.settled (.of_open rfl)), ?_⟩
  intro header synchronized covers genuine
  obtain ⟨dropped, ledger, _⟩ := balanced.ledger (State.IsSynchronized.ne synchronized).1
  obtain ⟨distance, held⟩ := ledger.released_le covers genuine synchronized
  rw [SendRing.length_toList] at held
  exact ⟨by omega, held⟩

def waiting : Endpoint :=
  let opened := ((create (some .allNodes) 1 {}).perform (.connect 0 .allRouters 2)).endpoint
  (opened.perform (.receive 0
    { nextHeader := .tcp, source := .allRouters, destination := .allNodes }
    { sourcePort := 2, destinationPort := 1, sequence := 7, acknowledgment := 1,
      flags := .syn ||| .ack, window := 128 } [])).endpoint

def sending : Endpoint := (waiting.perform (.send 0 [1, 2, 3])).endpoint

theorem reaches_waiting : (create (some .allNodes) 1 {}).Reaches Genuine waiting := by
  refine .call (.call .refl ?_) ?_
  · exact fun _ _ _ _ other => nomatch other
  · intro _ _ _ _ _ misled
    cases misled.synchronized

theorem reaches_sending : (create (some .allNodes) 1 {}).Reaches Genuine sending :=
  .call reaches_waiting fun _ _ _ _ other => nomatch other

theorem sending_accounted :
    sending.state = .established ∧ sending.ring.count = 3 ∧ sending.Accounted ∧
      sending.released 3 ≤ sending.ring.count := by
  obtain ⟨accounted, releases⟩ := reachable_accounted reaches_sending
  let header : Header := {
    sourcePort := 2, destinationPort := 1, sequence := 8, acknowledgment := 3
    flags := .ack, window := 128 }
  have covers : sending.Acknowledges header :=
    ⟨by decide, by decide, by decide, by decide, by decide⟩
  have genuine : ¬ sending.Misleads header := fun misled => by cases misled.quiet
  exact ⟨by decide, by decide, accounted, (releases header (by decide) covers genuine).2⟩

end Endpoint

end RadioStack.Tcp
