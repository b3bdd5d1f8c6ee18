import RadioStack.Proofs.Tcp.Agreement
import RadioStack.Proofs.Tcp.Binding
import RadioStack.Proofs.Tcp.Repetition

/-!
How a reset reaches the other side. Its RST has the number that comes next, and the other side goes
by it only if that is the number which it expects: if it has taken everything that there has been
to take. Main statement: `reachable_reset_closes_iff`.
-/

namespace RadioStack.Tcp

namespace State

theorem flagsSent_eq_finished {state : State} (synchronized : state.isSynchronized) :
    state.flagsSent = 1 + state.finished.toNat := by
  cases state <;> first | rfl | cases synchronized

end State

/-- A party that is synchronized, and what the other has taken of its stream. The number that comes
next is the one that the other expects if nothing is missing there, neither data nor a FIN. -/
theorem Delivers.next_eq_expected_iff {sender receiver : Party}
    (delivers : Delivers sender receiver) (synchronized : sender.endpoint.state.isSynchronized)
    (known : receiver.endpoint.state.knowsPeer)
    (bounded : sender.past.accepted.length + 2 < 0x80000000) :
    sender.endpoint.sendNext = receiver.endpoint.receiveNext ↔
      receiver.past.reported = sender.past.accepted ∧
        (sender.endpoint.state.finished → receiver.endpoint.state.peerFinished) := by
  obtain ⟨dropped, ledger, whole⟩ :=
    delivers.balanced.ledger (State.IsSynchronized.ne synchronized).1
  have next : sender.endpoint.sendNext = ahead sender.endpoint.config.initialSequence
      (1 + sender.past.accepted.length + sender.endpoint.state.finished.toNat) := by
    rw [ledger.next, State.flagsSent_eq_finished synchronized, whole, List.length_append]
    congr 1
    omega
  have held := delivers.held.length_le
  have ended := sender.endpoint.state.finished.toNat_le
  have taken := receiver.endpoint.state.peerFinished.toNat_le
  rw [next, delivers.expected known]
  constructor
  · intro same
    have count := ahead_injective _ (by omega) (by omega) same
    cases taken : receiver.endpoint.state.peerFinished with
    | true => exact ⟨(delivers.whole taken).2, fun _ => rfl⟩
    | false =>
        rw [taken, Bool.toNat_false] at count
        have continuing : sender.endpoint.state.finished = false :=
          Bool.toNat_eq_zero.mp (by omega)
        refine ⟨delivers.held.eq_of_length (by omega), ?_⟩
        rw [continuing]
        exact fun ended => absurd ended Bool.false_ne_true
  · rintro ⟨all, finished⟩
    have same : sender.endpoint.state.finished = receiver.endpoint.state.peerFinished :=
      Bool.eq_iff_iff.mpr ⟨finished, fun taken => (delivers.whole taken).1⟩
    rw [all, same]

theorem Speaks.joins {here there : Socket} {party other : Party}
    (speaks : Speaks here there party other) (bound : party.endpoint.Bound)
    (running : party.endpoint.state ≠ .closed ∧ party.endpoint.state ≠ .listen) :
    party.endpoint.Joins here there := by
  obtain ⟨source, destination, joins⟩ := bound.joins running
  have same : source = here := Socket.ext (speaks.localAddress _ joins.localAddress)
    (joins.localPort.symm.trans speaks.port)
  have other : destination = there := Socket.ext (speaks.remoteAddress _ joins.remoteAddress)
    (speaks.remotePort _ joins.remotePort)
  rwa [same, other] at joins

namespace Endpoint

variable {endpoint : Endpoint} {here there : Socket} {now : Instant} {ip : Ip.Header}
  {header : Header} {payload : Octets}

theorem Joins.reset (joins : endpoint.Joins here there)
    (running : endpoint.state ≠ .closed ∧ endpoint.state ≠ .listen) (now : Instant) :
    ∃ rst, (endpoint.reset now).segments = [rst] ∧ rst.header.flags = .rst ∧
      rst.header.sequence = endpoint.sendNext ∧ rst.source = here ∧ rst.destination = there := by
  have spoken : (endpoint.reset now).segments =
      (endpoint.transmit now endpoint.sendNext .rst 0).segments := by
    unfold Endpoint.reset
    split
    · exact absurd ‹_› running.1
    · exact absurd ‹_› running.2
    · rw [Turn.segments_andThen, segments_abort, List.append_nil]
  rw [spoken]
  unfold Endpoint.transmit
  rw [joins.localAddress, joins.remoteAddress, joins.remotePort]
  exact ⟨_, rfl, rfl, rfl, Socket.ext rfl joins.localPort, rfl⟩

/-- A RST ends a connection if it has the number that comes next, and is ignored otherwise. -/
theorem receive_rst_iff (known : endpoint.state = .synReceived ∨ endpoint.state.isSynchronized)
    (rst : header.flags.contains .rst) :
    ((endpoint.receive now ip header payload).endpoint.state = .closed ↔
      header.sequence = endpoint.receiveNext) ∧
    (header.sequence ≠ endpoint.receiveNext →
      endpoint.Ignores (endpoint.receive now ip header payload)) := by
  refine ⟨?_, ?_⟩
  · rw [(receive_of_known known).1, receiveSynchronized, if_pos rst, Turn.toTurn_quiet, receiveRst]
    constructor
    · intro closed
      apply Decidable.byContradiction
      intro other
      rw [if_neg other] at closed
      exact (State.running_of_known known).1 closed
    · intro matching
      rw [if_pos matching, Turn.endpoint_andThen, endpoint_abort]
  · intro other
    have nothing : endpoint.receiveSynchronized now header payload = endpoint.idle.quiet := by
      rw [receiveSynchronized, if_pos rst, receiveRst, if_neg other]
    rw [receive_eq_of_known known]
    refine ⟨?_, ?_, ?_⟩
    · rw [Turn.endpoint_thenReceive, endpoint_note, nothing]
      rfl
    · rw [Turn.segments_thenReceive, endpoint_note, nothing]
      rfl
    · change (endpoint.receiveSynchronized now header payload).data = none
      rw [nothing]
      rfl

end Endpoint

namespace Pair

variable {sockets : Side → Socket} {pair : Pair}

/-- Whatever is lost, repeated, delayed or reordered on the way: when both sides are synchronized
and one of them is reset, the other side accepts its RST, and is closed by it exactly if it misses
nothing that the resetting side has sent, neither data nor a FIN; whether it has acknowledged it
does not matter. Otherwise nothing comes of the RST. -/
theorem reachable_reset_closes_iff {now : Instant} {bound : Option Address}
    {configs : Side → Config} (apart : sockets .opener ≠ sockets .listener)
    (free : bound = none ∨ bound = some (sockets .listener).address)
    (reached : Reaches sockets (start now sockets bound configs) pair)
    (bounded : ∀ side, (pair side).past.accepted.length + 2 < 0x80000000) (side : Side)
    (synchronized : ∀ side, (pair side).endpoint.state.isSynchronized) (time later : Instant) :
    ∃ rst, ((pair side).endpoint.reset time).segments = [rst] ∧ rst.source = sockets side ∧
      rst.destination = sockets side.other ∧
      (pair side.other).endpoint.accepts rst.ip rst.header ∧
      let after := (pair side.other).endpoint.receive later rst.ip rst.header rst.payload
      (after.endpoint.state = .closed ↔
        (pair side.other).past.reported = (pair side).past.accepted ∧
          ((pair side).endpoint.state.finished →
            (pair side.other).endpoint.state.peerFinished)) ∧
      (after.endpoint.state ≠ .closed → (pair side.other).endpoint.Ignores after) := by
  have distinct : ∀ side, sockets side ≠ sockets side.other := Side.ne_other apart
  have safe := reached.allSafe (allSafe_start free) distinct bounded
  have agree := reached.agree (allSafe_start free) distinct bounded allAgree_start
  have running (side : Side) := State.running_of_known (.inr (synchronized side))
  have joins (side : Side) : (pair side).endpoint.Joins (sockets side) (sockets side.other) :=
    (safe side).speaks.joins (agree side).bound (running side)
  obtain ⟨rst, alone, flags, sequence, source, destination⟩ :=
    (joins side).reset (running side) time
  have accepted : (pair side.other).endpoint.accepts rst.ip rst.header := by
    rw [(joins side.other).accepts_iff, other_other]
    exact ⟨destination, source⟩
  obtain ⟨closes, ignores⟩ := @Endpoint.receive_rst_iff (pair side.other).endpoint later rst.ip
    rst.header rst.payload (.inr (synchronized side.other)) (by rw [flags]; rfl)
  refine ⟨rst, alone, source, destination, accepted, ?_, ?_⟩
  · rw [closes, sequence, (safe side).sends.next_eq_expected_iff (synchronized side)
      (State.knowsPeer_of_isSynchronized (synchronized side.other)) (bounded side)]
  · intro stays
    exact ignores (mt closes.mpr stays)

def untold : Pair := (opened.arrive .listener 1).act .opener (.send 0 [1, 2, 3])

def told : Pair := untold.arrive .listener 2

theorem reaches_untold : Reaches twoSockets begun untold := by
  refine .step (.arrive reaches_opened _ _ ?_) (.send 0 [1, 2, 3])
  decide

theorem reaches_told : Reaches twoSockets begun told := by
  refine .arrive reaches_untold _ _ ?_
  decide

/-- What has arrived need not be acknowledged for the reset to count. -/
theorem told_reset_closes :
    (told .opener).endpoint.ring.toList = [1, 2, 3] ∧
      ∃ rst, ((told .opener).endpoint.reset 5).segments = [rst] ∧
        ((told .listener).endpoint.receive 6 rst.ip rst.header rst.payload).endpoint.state =
          .closed := by
  have bounded : ∀ side, (told side).past.accepted.length + 2 < 0x80000000 := by
    intro side
    cases side <;> decide
  have synchronized : ∀ side, (told side).endpoint.state.isSynchronized := by
    intro side
    cases side <;> decide
  obtain ⟨rst, alone, _, _, _, closes, _⟩ := reachable_reset_closes_iff (by decide) (.inl rfl)
    reaches_told bounded .opener synchronized 5 6
  exact ⟨by decide, rst, alone, closes.mpr ⟨by decide, by decide⟩⟩

/-- Three octets that have not arrived keep a reset from the other side, which stays established. -/
theorem untold_reset_ignored :
    Reaches twoSockets begun untold ∧
      (∀ side, (untold side).endpoint.state = .established ∧
        (untold side).past.accepted.length + 2 < 0x80000000) ∧
      ∃ rst, ((untold .opener).endpoint.reset 5).segments = [rst] ∧
        ((untold .listener).endpoint.receive 6 rst.ip rst.header rst.payload).endpoint.state =
          .established := by
  refine ⟨reaches_untold, ?_, _, rfl, by decide⟩
  intro side
  cases side <;> decide

end Pair

end RadioStack.Tcp
