import RadioStack.Proofs.Tcp.Demultiplexing
import RadioStack.Proofs.Tcp.Reaction

/-!
Which segment is sent again. The timer and a bare duplicate acknowledgment send the same one, which
brings the oldest item in flight, and nothing of the connection changes. Main statement:
`reachable_repeats`.
-/

namespace RadioStack.Tcp

namespace Endpoint

variable {endpoint : Endpoint} {dropped : Octets} {now : Instant}

theorem receive_eq_of_known {ip : Ip.Header} {header : Header} {payload : Octets}
    (known : endpoint.state = .synReceived ∨ endpoint.state.isSynchronized) :
    endpoint.receive now ip header payload =
      (endpoint.note (.segmentReceived endpoint.localPort header.flags header.sequence
        header.acknowledgment payload.length)).thenReceive
          (receiveSynchronized now header payload) := by
  unfold receive Turn.thenReceive
  dsimp only [endpoint_note]
  cases state : endpoint.state <;> rw [state] at known <;>
    first | rfl | (rcases known with known | known <;> cases known)

theorem receiveText_inPlace {header : Header} {payload : Octets}
    (synchronized : endpoint.state.isSynchronized)
    (inOrder : header.sequence = endpoint.receiveNext) (empty : header.span payload.length = 0) :
    endpoint.receiveText now header payload = endpoint.idle.quiet := by
  obtain ⟨notClosed, _, _, notAnswered⟩ := State.IsSynchronized.ne synchronized
  dsimp only [receiveText]
  rw [if_neg (by simp [notClosed, notAnswered]), if_neg (fun other => other inOrder), if_pos empty]

theorem receiveAck_of_prompts {asking : Segment} (ledger : endpoint.Ledger dropped)
    (synchronized : endpoint.state.isSynchronized) (prompts : endpoint.Prompts asking)
    (now : Instant) :
    ∃ record, endpoint.receiveAck now asking.header asking.payload =
      ((note record { endpoint with sendWindow := asking.header.window }).andThen
        (retransmit now)).quiet := by
  have within :
      inWindow endpoint.unacknowledged endpoint.sendNext asking.header.acknowledgment := by
    rw [inWindow_iff _ _ _ ledger.narrow, prompts.known, UInt32.sub_self]
    exact .inl (Nat.zero_le _)
  have held : endpoint.ring.isEmpty = false := by
    rw [← Bool.not_eq_true, SendRing.isEmpty_iff]
    exact prompts.held
  refine ⟨.duplicateAck endpoint.localPort asking.header.acknowledgment, ?_⟩
  dsimp only [receiveAck]
  rw [if_neg (State.IsSynchronized.ne synchronized).2.2.2, within, Bool.not_true,
    if_neg Bool.false_ne_true, if_pos prompts.known, receiveDuplicateAck, prompts.bare,
    prompts.noFin]
  dsimp only
  rw [held]
  rfl

theorem receive_of_prompts {asking : Segment} (ledger : endpoint.Ledger dropped)
    (bound : endpoint.Bound) (carries : endpoint.state.carriesData)
    (sized : 1 ≤ endpoint.config.maxSegmentSize) (prompts : endpoint.Prompts asking)
    (inOrder : asking.header.sequence = endpoint.receiveNext)
    (noRst : asking.header.flags.contains .rst = false) :
    let after := endpoint.receive now asking.ip asking.header asking.payload
    ∃ oldest, endpoint.item? = some oldest ∧ after.segments = [oldest] ∧ after.data = none ∧
      after.unexpectedAck = false ∧
      after.endpoint = { endpoint with sendWindow := asking.header.window, lastSend := now } := by
  have synchronized := State.isSynchronized_of_carriesData carries
  let windowed := { endpoint with sendWindow := asking.header.window }
  have windowBound : windowed.Bound := bound
  obtain ⟨oldest, known, -, sent⟩ := windowBound.retransmit_text carries prompts.held sized
  obtain ⟨segments, timed⟩ := sent now
  obtain ⟨record, acknowledged⟩ := receiveAck_of_prompts ledger synchronized prompts now
  have empty : asking.header.span asking.payload.length = 0 := by
    rw [prompts.bare, Header.span, prompts.noSyn, prompts.noFin]
    rfl
  let answered := (windowed.note record).andThen (retransmit now)
  have heard : endpoint.receiveSynchronized now asking.header asking.payload =
      { answered.thenReceive (receiveText now asking.header asking.payload) with
        unexpectedAck := false } := by
    rw [receiveSynchronized, noRst, prompts.noSyn, prompts.ack, acknowledged]
    rfl
  have text : receiveText now asking.header asking.payload answered.endpoint =
      (idle { windowed with lastSend := now }).quiet := by
    change receiveText now asking.header asking.payload (windowed.retransmit now).endpoint = _
    rw [timed]
    exact receiveText_inPlace synchronized inOrder empty
  intro after
  have same : after = _ := receive_eq_of_known (.inr synchronized)
  rw [same]
  refine ⟨oldest, known, ?_, ?_, ?_, ?_⟩
  · rw [Turn.segments_thenReceive, endpoint_note, heard]
    change [] ++ (answered.thenReceive _).segments = _
    rw [Turn.segments_thenReceive, text, Turn.segments_andThen, endpoint_note, segments]
    rfl
  · change (endpoint.receiveSynchronized now asking.header asking.payload).data = none
    rw [heard]
    exact congrArg Reception.data text
  · change (endpoint.receiveSynchronized now asking.header asking.payload).unexpectedAck = false
    rw [heard]
  · rw [Turn.endpoint_thenReceive, endpoint_note, heard]
    exact congrArg (fun reception => reception.endpoint) text

/-- Where no misleading segment has come before, the timer sends the oldest item whenever it is due
and nothing otherwise, and a bare duplicate acknowledgment of data has the same item sent. Beside
the timer nothing of the connection changes. -/
theorem reachable_repeats {address : Option Address} {port : UInt16} {config : Config}
    (reached : (create address port config).Reaches Genuine endpoint) :
    (∀ now, ¬ endpoint.RepeatsAt now →
      (endpoint.tick now).segments = [] ∧
        (endpoint.state ≠ .timeWait → (endpoint.tick now).endpoint = endpoint)) ∧
    (∀ now, endpoint.RepeatsAt now → ∃ oldest, endpoint.item? = some oldest ∧
      (endpoint.tick now).segments = [oldest] ∧
        (endpoint.tick now).endpoint = { endpoint with lastSend := now }) ∧
    ∀ now asking, endpoint.state.carriesData → 1 ≤ endpoint.config.maxSegmentSize →
      endpoint.Prompts asking → asking.header.sequence = endpoint.receiveNext →
      asking.header.flags.contains .rst = false →
        let after := endpoint.receive now asking.ip asking.header asking.payload
        ∃ oldest, endpoint.item? = some oldest ∧ after.segments = [oldest] ∧ after.data = none ∧
          after.unexpectedAck = false ∧
          after.endpoint =
            { endpoint with sendWindow := asking.header.window, lastSend := now } := by
  obtain ⟨stream, balanced⟩ := reached.balanced (balanced_create address port config)
  refine ⟨fun now => tick_of_not_repeatsAt, ?_, ?_⟩
  · intro now repeats
    obtain ⟨dropped, ledger, -⟩ := balanced.ledger repeats.running.1
    obtain ⟨oldest, known, -, again⟩ :=
      ledger.retransmit_item reached.bound repeats.inFlight repeats.sized
    obtain ⟨segments, timed⟩ := tick_of_repeatsAt repeats
    exact ⟨oldest, known, segments.trans (again now).1, timed.trans (again now).2⟩
  · intro now asking carries sized prompts inOrder noRst
    have synchronized := State.isSynchronized_of_carriesData carries
    obtain ⟨dropped, ledger, -⟩ := balanced.ledger (State.IsSynchronized.ne synchronized).1
    exact receive_of_prompts ledger reached.bound carries sized prompts inOrder noRst

/-- Three octets are sent again after a second, or as soon as the peer asks for them. -/
theorem sending_repeats :
    let asking : Segment :=
      ⟨{ nextHeader := .tcp, source := .allRouters, destination := .allNodes },
        { sourcePort := 2, destinationPort := 1, sequence := 8, acknowledgment := 1, flags := .ack
          window := 128 }, []⟩
    ∃ oldest, oldest.header.sequence = 1 ∧ oldest.header.flags = .ack ||| .psh ∧
      oldest.payload = [1, 2, 3] ∧ (sending.tick 999).segments = [] ∧
      (sending.tick 1000).segments = [oldest] ∧
      (sending.receive 5 asking.ip asking.header asking.payload).segments = [oldest] := by
  intro asking
  obtain ⟨silent, timed, asked⟩ := reachable_repeats reaches_sending
  have due : sending.RepeatsAt 1000 := by
    refine ⟨?_, ?_, ?_, ?_⟩ <;> decide
  have early : ¬ sending.RepeatsAt 999 := fun repeats => absurd repeats.due (by decide)
  have prompts : sending.Prompts asking := by
    refine ⟨?_, ?_, ?_, ?_, ?_, ?_⟩ <;> decide
  obtain ⟨oldest, known, repeated, -⟩ := timed 1000 due
  obtain ⟨same, known', answered, -⟩ := asked 5 asking (by decide) (by decide) prompts (by decide)
    (by decide)
  rw [known] at known'
  cases known'
  have item : sending.item? = some
      ⟨{ nextHeader := .tcp, source := .allNodes, destination := .allRouters },
        { sourcePort := 1, destinationPort := 2, sequence := 1, acknowledgment := 8
          flags := .ack ||| .psh, window := 128 }, [1, 2, 3]⟩ := by decide
  rw [known] at item
  cases item
  exact ⟨_, rfl, rfl, rfl, (silent 999 early).1, repeated, answered⟩

end Endpoint

end RadioStack.Tcp
