import RadioStack.Proofs.Tcp.AckWindow
import RadioStack.Proofs.Tcp.Intake
import RadioStack.Proofs.Tcp.Item

/-!
What the timer sends again, how a segment is answered, and what the answer does. Whatever is sent
again begins with the oldest number that is not acknowledged; whoever knows its peer answers with
the number that it expects next. Main statements: `Ledger.tick_repeats`, `answers_text`,
`Ledger.receive_oldest`.
-/

namespace RadioStack.Tcp

namespace State

theorem acceptsText_of_continuing {state : State} (synchronized : state.isSynchronized)
    (continuing : state.peerFinished = false) : state.acceptsText := by
  cases state <;> simp_all [isSynchronized, peerFinished, acceptsText]

theorem opening_or_known (state : State) :
    (state = .closed ∨ state = .listen ∨ state = .synSent) ∨ state = .synReceived ∨
      state.isSynchronized := by
  cases state <;> simp [isSynchronized]

end State

namespace Endpoint

variable {endpoint : Endpoint} {dropped : Octets} {now : Instant} {ip : Ip.Header}
  {header : Header} {payload : Octets}

inductive Repeats (endpoint : Endpoint) (sent : Segment) : Prop
  | syn (opening : endpoint.state = .synSent) (flags : sent.header.flags = .syn)
  | synAck (answered : endpoint.state = .synReceived) (flags : sent.header.flags = .syn ||| .ack)
  | text (synchronized : endpoint.state.isSynchronized)
    (noSyn : sent.header.flags.contains .syn = false) (ack : sent.header.flags.contains .ack)
    (matching : sent.header.acknowledgment = endpoint.receiveNext)
    (occupied : sent.header.span sent.payload.length ≠ 0)

theorem Repeats.timed {sent : Segment} (repeats : endpoint.Repeats sent) (lastSend : Instant) :
    Repeats { endpoint with lastSend } sent := by
  cases repeats with
  | syn opening flags => exact .syn opening flags
  | synAck answered flags => exact .synAck answered flags
  | text synchronized noSyn ack matching occupied =>
      exact .text synchronized noSyn ack matching occupied

theorem Ledger.repeats (ledger : endpoint.Ledger dropped)
    (sized : 1 ≤ endpoint.config.maxSegmentSize)
    (inFlight : endpoint.unacknowledged ≠ endpoint.sendNext) (bound : endpoint.Bound) :
    ∃ sent lastSend, (endpoint.retransmit now).segments = [sent] ∧
      (endpoint.retransmit now).endpoint = { endpoint with lastSend } ∧
      sent.header.sequence = endpoint.unacknowledged ∧ endpoint.Repeats sent := by
  obtain ⟨sent, known, occupied, again⟩ := ledger.retransmit_item bound inFlight fun _ => sized
  obtain ⟨sequence, flags, acknowledgment, -⟩ := item?_eq_some known
  refine ⟨sent, now, (again now).1, (again now).2, sequence, ?_⟩
  have text (synchronized : endpoint.state.isSynchronized) : endpoint.Repeats sent := by
    obtain ⟨noSyn, ack⟩ := State.itemFlags_of_isSynchronized synchronized
    rw [← flags] at noSyn ack
    rw [if_neg (State.IsSynchronized.ne synchronized).2.2.1] at acknowledgment
    exact .text synchronized noSyn ack acknowledgment occupied
  rcases ledger.inFlight inFlight with opening | answered | fin | ⟨carries, -⟩
  · rw [opening] at flags
    exact .syn opening flags
  · rw [answered] at flags
    exact .synAck answered flags
  · exact text (State.isSynchronized_of_finInFlight fin)
  · exact text (State.isSynchronized_of_carriesData carries)

theorem Ledger.tick_repeats (ledger : endpoint.Ledger dropped) (bound : endpoint.Bound)
    (sized : 1 ≤ endpoint.config.maxSegmentSize)
    (inFlight : endpoint.unacknowledged ≠ endpoint.sendNext)
    (due : endpoint.config.retransmissionInterval ≤ now.since endpoint.lastSend) :
    ∃ sent lastSend, (endpoint.tick now).segments = [sent] ∧
      (endpoint.tick now).endpoint = { endpoint with lastSend } ∧
      sent.header.sequence = endpoint.unacknowledged ∧ endpoint.Repeats sent := by
  obtain ⟨sent, lastSend, segments, timed, repeats⟩ :=
    @Ledger.repeats _ _ now ledger sized inFlight bound
  obtain ⟨sends, leaves⟩ :=
    tick_of_repeatsAt ⟨ledger.running_of_inFlight inFlight, inFlight, due, fun _ => sized⟩
  exact ⟨sent, lastSend, sends.trans segments, leaves.trans timed, repeats⟩

/-- What an acknowledgment does not end: the connection, and what is known of the peer. -/
structure Lives (before after : State) : Prop where
  synchronized : after.isSynchronized
  finished : after.peerFinished = before.peerFinished

theorem sendFinIfDrained_lives {before : State} (lives : Lives before endpoint.state) :
    Lives before (endpoint.sendFinIfDrained now).endpoint.state := by
  unfold sendFinIfDrained
  split
  · split
    · exact lives
    · rename_i state next
      rw [Turn.endpoint_andThen, endpoint_enter]
      rw [transmit_keeps _ Endpoint.state fun _ _ => rfl]
      rcases finState?_eq_some next with ⟨first, rfl⟩ | ⟨first, rfl⟩
      · exact ⟨rfl, by rw [← lives.finished, first]; rfl⟩
      · exact ⟨rfl, by rw [← lives.finished, first]; rfl⟩
  · exact lives

theorem advance_lives {acknowledgment : UInt32} (synchronized : endpoint.state.isSynchronized)
    (alive : endpoint.state = .lastAck → endpoint.coversFin acknowledgment = false) :
    Lives endpoint.state (endpoint.advance now acknowledgment).endpoint.state := by
  dsimp only [advance]
  rw [Turn.endpoint_andThen]
  apply sendFinIfDrained_lives
  split
  · rename_i covers
    unfold finAcknowledged
    split
    · rename_i state
      change endpoint.state = _ at state
      rw [endpoint_enter, state]
      exact ⟨rfl, rfl⟩
    · rename_i state
      change endpoint.state = _ at state
      rw [endpoint_enterTimeWait, state]
      exact ⟨rfl, rfl⟩
    · rename_i state
      rw [alive state] at covers
      cases covers
    · exact ⟨synchronized, rfl⟩
  · exact ⟨synchronized, rfl⟩

theorem receiveAck_lives (known : endpoint.state = .synReceived ∨ endpoint.state.isSynchronized)
    (ready : endpoint.state = .synReceived → header.acknowledgment = endpoint.sendNext)
    (alive : endpoint.state = .lastAck → endpoint.coversFin header.acknowledgment = false) :
    Lives endpoint.state (endpoint.receiveAck now header payload).endpoint.state := by
  dsimp only [receiveAck]
  split
  · rename_i answered
    unfold receiveAckOfSyn
    rw [if_pos (ready answered), Turn.toTurn_quiet, Turn.endpoint_andThen, endpoint_enter]
    refine sendFinIfDrained_lives ⟨rfl, ?_⟩
    rw [show endpoint.state = .synReceived from answered]
    rfl
  · rename_i other
    have synchronized := known.resolve_left other
    split
    · exact ⟨synchronized, rfl⟩
    · split
      · rw [Turn.toTurn_quiet, receiveDuplicateAck_keeps Endpoint.state fun _ _ => rfl]
        exact ⟨synchronized, rfl⟩
      · exact @advance_lives { endpoint with sendWindow := header.window } now
          header.acknowledgment synchronized alive

theorem receiveAck_keeps {α : Type} (field : Endpoint → α)
    (blind : ∀ (endpoint : Endpoint) state unacknowledged sendNext sendWindow ring closing lastSend
      timeWaitSince, field { endpoint with
        state, unacknowledged, sendNext, sendWindow, ring, closing, lastSend, timeWaitSince } =
      field endpoint) :
    field (endpoint.receiveAck now header payload).endpoint = field endpoint := by
  have fin (endpoint : Endpoint) :
      field (endpoint.sendFinIfDrained now).endpoint = field endpoint :=
    sendFinIfDrained_keeps field (fun _ _ _ _ => blind _ _ _ _ _ _ _ _ _) now endpoint
  dsimp only [receiveAck]
  split
  · unfold receiveAckOfSyn
    split
    · rw [Turn.toTurn_quiet, Turn.endpoint_andThen, endpoint_enter, fin]
      exact blind endpoint _ _ _ _ _ _ _ _
    · exact blind endpoint _ _ _ _ _ _ _ _
  · split
    · exact blind endpoint _ _ _ _ _ _ _ _
    · split
      · rw [Turn.toTurn_quiet, receiveDuplicateAck_keeps field fun _ _ => blind _ _ _ _ _ _ _ _ _]
        exact blind endpoint _ _ _ _ _ _ _ _
      · dsimp only [advance]
        rw [Turn.toTurn_quiet, Turn.endpoint_andThen, fin]
        split
        · unfold finAcknowledged
          split
          · rw [endpoint_enter]
            exact blind endpoint _ _ _ _ _ _ _ _
          · rw [endpoint_enterTimeWait]
            exact blind endpoint _ _ _ _ _ _ _ _
          · rw [endpoint_abort]
            exact blind endpoint _ _ _ _ _ _ _ _
          · exact blind endpoint _ _ _ _ _ _ _ _
        · exact blind endpoint _ _ _ _ _ _ _ _

theorem state_receiveText (now : Instant) (header : Header) (payload : Octets)
    (endpoint : Endpoint) :
    (endpoint.receiveText now header payload).endpoint.state = endpoint.state ∨
      (endpoint.receiveText now header payload).endpoint.state = endpoint.state.afterPeerFin := by
  have acknowledged (endpoint : Endpoint) :
      (endpoint.sendAck now).endpoint.state = endpoint.state :=
    transmit_keeps endpoint Endpoint.state (fun _ _ => rfl) _ _ _ _
  dsimp only [receiveText]
  split
  · exact .inl rfl
  · split
    · exact .inl (acknowledged endpoint)
    · split
      · exact .inl rfl
      · split
        · exact .inl (acknowledged endpoint)
        · rw [Turn.endpoint_andThen, acknowledged]
          split
          · exact .inr state_receiveFin
          · exact .inl rfl

theorem receiveText_synchronized (synchronized : endpoint.state.isSynchronized) :
    (endpoint.receiveText now header payload).endpoint.state.isSynchronized := by
  rcases state_receiveText now header payload endpoint with same | finished
  · rwa [same]
  · rw [finished, (State.afterPeerFin_books _).2.2.2, synchronized]

/-- What is sent ends with a segment that has these flags and acknowledges this number. -/
def Answers (segments : List Segment) (flags : Flags) (number : UInt32) : Prop :=
  ∃ early last, segments = early ++ [last] ∧ last.header.flags = flags ∧
    last.header.acknowledgment = number

theorem Answers.after {segments : List Segment} {flags : Flags} {number : UInt32}
    (answers : Answers segments flags number) (before : List Segment) :
    Answers (before ++ segments) flags number := by
  obtain ⟨early, last, sent, spoken, same⟩ := answers
  exact ⟨before ++ early, last, by rw [sent, List.append_assoc], spoken, same⟩

theorem Bound.answers (bound : endpoint.Bound)
    (running : endpoint.state ≠ .closed ∧ endpoint.state ≠ .listen) (now : Instant)
    (sequence : UInt32) {flags : Flags} (ack : flags.contains .ack) (length : Nat) :
    ∃ last, (endpoint.transmit now sequence flags length).segments = [last] ∧
      last.header.flags = flags ∧ last.header.acknowledgment = endpoint.receiveNext := by
  obtain ⟨_, _, _, _, _, _, spoken⟩ := bound.transmit running now sequence flags length
  exact ⟨_, spoken, rfl, acknowledgment_segmentAt ack⟩

theorem receiveFin_keeps {α : Type} (field : Endpoint → α)
    (blind : ∀ (endpoint : Endpoint) state timeWaitSince,
      field { endpoint with state, timeWaitSince } = field endpoint) :
    field (endpoint.receiveFin now).endpoint = field endpoint := by
  unfold receiveFin
  split
  · rw [endpoint_enter]
    exact blind endpoint _ _
  · rw [endpoint_enter]
    exact blind endpoint _ _
  · rw [endpoint_enterTimeWait]
    exact blind endpoint _ _
  · rfl

def ends (endpoint : Endpoint) : Option Address × Option Address × Option UInt16 :=
  (endpoint.localAddress, endpoint.remoteAddress, endpoint.remotePort)

theorem Bound.congr {other : Endpoint} (bound : endpoint.Bound)
    (running : endpoint.state ≠ .closed ∧ endpoint.state ≠ .listen)
    (same : other.ends = endpoint.ends) : other.Bound := by
  intro _ _
  simp only [ends, Prod.mk.injEq] at same
  obtain ⟨here, there, door⟩ := same
  rw [here, there, door]
  exact bound running.1 running.2

theorem sendAck_answers (bound : endpoint.Bound) (synchronized : endpoint.state.isSynchronized) :
    ∃ last, (endpoint.sendAck now).segments = [last] ∧ last.header.flags = .ack ∧
      last.header.acknowledgment = endpoint.receiveNext :=
  bound.answers (State.running_of_known (.inr synchronized)) now endpoint.sendNext (by decide) 0

theorem sendAck_receiveNext (endpoint : Endpoint) :
    (endpoint.sendAck now).endpoint.receiveNext = endpoint.receiveNext :=
  transmit_keeps endpoint Endpoint.receiveNext (fun _ _ => rfl) _ _ _ _

theorem receiveText_answers (bound : endpoint.Bound) (synchronized : endpoint.state.isSynchronized)
    (accepting : header.sequence = endpoint.receiveNext → endpoint.state.acceptsText)
    (occupied : header.span payload.length ≠ 0) :
    let after := endpoint.receiveText now header payload
    Answers after.segments .ack after.endpoint.receiveNext ∧
      after.endpoint.receiveNext ≠ header.sequence := by
  obtain ⟨notClosed, notListen, _, notAnswered⟩ := State.IsSynchronized.ne synchronized
  dsimp only [receiveText]
  rw [if_neg (by simp [notClosed, notAnswered])]
  by_cases inOrder : header.sequence = endpoint.receiveNext
  · rw [if_neg (fun other => other inOrder), if_neg occupied,
      if_neg (by simp [accepting inOrder])]
    -- The segment is taken, so what is expected comes after it.
    have answered (turn : Turn) (bound : turn.endpoint.Bound)
        (synchronized : turn.endpoint.state.isSynchronized)
        (next : turn.endpoint.receiveNext = endpoint.receiveNext + header.span payload.length) :
        Answers (turn.andThen (sendAck now)).segments .ack
          (turn.andThen (sendAck now)).endpoint.receiveNext ∧
        (turn.andThen (sendAck now)).endpoint.receiveNext ≠ header.sequence := by
      obtain ⟨last, sent, flags, number⟩ := @sendAck_answers turn.endpoint now bound synchronized
      rw [Turn.segments_andThen, Turn.endpoint_andThen, sendAck_receiveNext]
      refine ⟨⟨_, last, by rw [sent], flags, number⟩, ?_⟩
      rw [next, inOrder]
      intro same
      exact occupied (by simpa using same)
    have accepts := State.isSynchronized_of_acceptsText (accepting inOrder)
    split
    · apply answered
      · exact bound.congr ⟨notClosed, notListen⟩ (receiveFin_keeps ends fun _ _ _ => rfl)
      · rw [state_receiveFin]
        exact accepts.2
      · exact receiveFin_keeps Endpoint.receiveNext fun _ _ _ => rfl
    · exact answered (idle { endpoint with
        receiveNext := endpoint.receiveNext + header.span payload.length }) bound accepts.1 rfl
  · obtain ⟨last, sent, flags, number⟩ := @sendAck_answers endpoint now bound synchronized
    rw [if_pos inOrder, Turn.toTurn_quiet, Turn.segments_andThen, Turn.endpoint_andThen,
      endpoint_note, sendAck_receiveNext]
    exact ⟨⟨_, last, by rw [sent], flags, number⟩, fun same => inOrder same.symm⟩

theorem receive_of_closed (closed : endpoint.state = .closed) :
    (endpoint.receive now ip header payload).endpoint = endpoint ∧
      (endpoint.receive now ip header payload).segments = [] := by
  unfold receive
  rw [Turn.endpoint_thenReceive, Turn.segments_thenReceive, endpoint_note, closed]
  exact ⟨rfl, rfl⟩

theorem receive_of_listen (listening : endpoint.state = .listen) :
    (endpoint.receive now ip header payload).endpoint =
        (endpoint.receiveInListen now ip header).endpoint ∧
      (endpoint.receive now ip header payload).segments =
        (endpoint.receiveInListen now ip header).segments := by
  unfold receive
  rw [Turn.endpoint_thenReceive, Turn.segments_thenReceive, endpoint_note, listening]
  exact ⟨rfl, rfl⟩

theorem receive_of_synSent (opening : endpoint.state = .synSent) :
    (endpoint.receive now ip header payload).endpoint =
        (endpoint.receiveInSynSent now header).endpoint ∧
      (endpoint.receive now ip header payload).segments =
        (endpoint.receiveInSynSent now header).segments := by
  unfold receive
  rw [Turn.endpoint_thenReceive, Turn.segments_thenReceive, endpoint_note, opening]
  exact ⟨rfl, rfl⟩

theorem receive_of_known (known : endpoint.state = .synReceived ∨ endpoint.state.isSynchronized) :
    (endpoint.receive now ip header payload).endpoint =
        (endpoint.receiveSynchronized now header payload).endpoint ∧
      (endpoint.receive now ip header payload).segments =
        (endpoint.receiveSynchronized now header payload).segments := by
  unfold receive
  rw [Turn.endpoint_thenReceive, Turn.segments_thenReceive, endpoint_note]
  cases state : endpoint.state <;> rw [state] at known <;>
    first | exact ⟨rfl, rfl⟩ | (rcases known with known | known <;> cases known)

theorem receive_listen_answers (listening : endpoint.state = .listen)
    (syn : header.flags.contains .syn) (noAck : header.flags.contains .ack = false)
    (noRst : header.flags.contains .rst = false) :
    ∃ last, (endpoint.receive now ip header payload).segments = [last] ∧
      last.header.flags = .syn ||| .ack := by
  rw [(receive_of_listen listening).2, receiveInListen, syn, noAck, noRst, if_pos (by decide),
    Turn.segments_andThen, segments_enter, endpoint_enter, sendControl_eq]
  have answers (welcomed : Endpoint) (state : welcomed.state = .synReceived)
      (here : welcomed.localAddress.isSome) (there : welcomed.remoteAddress.isSome)
      (door : welcomed.remotePort.isSome) (sequence : UInt32) :
      ∃ last, (welcomed.transmit now sequence (.syn ||| .ack) 0).segments = [last] ∧
        last.header.flags = .syn ||| .ack := by
    have bound : welcomed.Bound := fun _ _ => ⟨here, there, door⟩
    obtain ⟨last, sent, flags, _⟩ := bound.answers (by simp [state]) now sequence
      (by decide : (Flags.syn ||| Flags.ack).contains .ack) 0
    exact ⟨last, sent, flags⟩
  refine answers _ rfl ?_ rfl rfl _
  cases endpoint.localAddress <;> rfl

theorem receive_repeatedSyn_answers (bound : endpoint.Bound)
    (known : endpoint.state = .synReceived ∨ endpoint.state.isSynchronized)
    (syn : header.flags.contains .syn) (noRst : header.flags.contains .rst = false) :
    ∃ last, (endpoint.receive now ip header payload).segments = [last] ∧
      last.header.flags = if endpoint.state = .synReceived then .syn ||| .ack else .ack := by
  rw [(receive_of_known known).2, receiveSynchronized, noRst, syn]
  change ∃ last, (endpoint.receiveRepeatedSyn now).segments = [last] ∧ _
  unfold receiveRepeatedSyn
  split
  · rename_i answered
    obtain ⟨last, sent, flags, _⟩ := bound.answers (by simp [answered]) now
      endpoint.unacknowledged (by decide : (Flags.syn ||| Flags.ack).contains .ack) 0
    exact ⟨last, sent, flags⟩
  · rename_i other
    obtain ⟨last, sent, flags, _⟩ := sendAck_answers bound (known.resolve_left other)
    exact ⟨last, sent, flags⟩

theorem receive_synSent_answers (bound : endpoint.Bound) (opening : endpoint.state = .synSent)
    (syn : header.flags.contains .syn) (ack : header.flags.contains .ack)
    (noRst : header.flags.contains .rst = false)
    (matching : header.acknowledgment = endpoint.sendNext) :
    ∃ last, (endpoint.receive now ip header payload).segments = [last] ∧
      last.header.flags = .ack := by
  have established : (endpoint.receiveInSynSent now header).segments =
      (sendAck now { endpoint with
        receiveNext := header.sequence + 1
        sendWindow := header.window
        unacknowledged := header.acknowledgment
        state := .established }).segments := by
    dsimp only [receiveInSynSent]
    rw [ack, matching, bne_self_eq_false, noRst, syn]
    change (endpoint.receiveSyn now header).segments = _
    dsimp only [receiveSyn]
    rw [if_pos ack, Turn.segments_andThen, segments_enter, endpoint_enter, matching]
    rfl
  rw [(receive_of_synSent opening).2, established]
  have answers (after : Endpoint) (state : after.state = .established)
      (same : after.ends = endpoint.ends) :
      ∃ last, (after.sendAck now).segments = [last] ∧ last.header.flags = .ack := by
    obtain ⟨last, sent, flags, _⟩ := sendAck_answers
      (bound.congr (by simp [opening]) same) (by rw [state]; rfl)
    exact ⟨last, sent, flags⟩
  exact answers _ rfl rfl

theorem answers_text (bound : endpoint.Bound)
    (known : endpoint.state = .synReceived ∨ endpoint.state.isSynchronized)
    (ready : endpoint.state = .synReceived → header.acknowledgment = endpoint.sendNext)
    (alive : endpoint.state = .lastAck → endpoint.coversFin header.acknowledgment = false)
    (fresh : endpoint.state.peerFinished → header.sequence ≠ endpoint.receiveNext)
    (noSyn : header.flags.contains .syn = false) (noRst : header.flags.contains .rst = false)
    (ack : header.flags.contains .ack) (occupied : header.span payload.length ≠ 0) :
    let after := endpoint.receive now ip header payload
    Answers after.segments .ack after.endpoint.receiveNext ∧
      after.endpoint.receiveNext ≠ header.sequence ∧ after.endpoint.state.isSynchronized := by
  obtain ⟨same, sent⟩ := @receive_of_known endpoint now ip header payload known
  have lives : Lives endpoint.state (endpoint.receiveAck now header payload).endpoint.state :=
    receiveAck_lives known ready alive
  have next : (endpoint.receiveAck now header payload).endpoint.receiveNext =
      endpoint.receiveNext :=
    receiveAck_keeps Endpoint.receiveNext fun _ _ _ _ _ _ _ _ _ => rfl
  have running := State.running_of_known known
  have bound' : (endpoint.receiveAck now header payload).endpoint.Bound :=
    bound.congr running (receiveAck_keeps ends fun _ _ _ _ _ _ _ _ _ => rfl)
  have accepting : header.sequence =
      (endpoint.receiveAck now header payload).endpoint.receiveNext →
      (endpoint.receiveAck now header payload).endpoint.state.acceptsText := by
    intro inOrder
    rw [next] at inOrder
    have continuing : (endpoint.receiveAck now header payload).endpoint.state.peerFinished =
        false := by
      rw [lives.finished, ← Bool.not_eq_true]
      exact fun finished => fresh finished inOrder
    exact State.acceptsText_of_continuing lives.synchronized continuing
  obtain ⟨answers, past⟩ := @receiveText_answers _ now header payload bound' lives.synchronized
    accepting occupied
  dsimp only
  rw [same, sent, receiveSynchronized, noRst, noSyn, ack]
  refine ⟨?_, past, receiveText_synchronized lives.synchronized⟩
  exact Turn.segments_thenReceive _ _ ▸ answers.after _

theorem oldest_receiveText (endpoint : Endpoint) :
    (endpoint.receiveText now header payload).endpoint.unacknowledged =
      endpoint.unacknowledged :=
  receiveText_keeps unacknowledged (fun _ _ _ _ _ => rfl) _ _ _ _

theorem receive_synSent_oldest (opening : endpoint.state = .synSent)
    (syn : header.flags.contains .syn) (ack : header.flags.contains .ack)
    (noRst : header.flags.contains .rst = false)
    (matching : header.acknowledgment = endpoint.sendNext) :
    (endpoint.receive now ip header payload).endpoint.unacknowledged = endpoint.sendNext := by
  rw [(receive_of_synSent opening).1]
  dsimp only [receiveInSynSent]
  rw [ack, matching, bne_self_eq_false, noRst, syn]
  change (endpoint.receiveSyn now header).endpoint.unacknowledged = _
  dsimp only [receiveSyn]
  rw [if_pos ack, Turn.endpoint_andThen, endpoint_enter, matching]
  exact transmit_keeps _ unacknowledged (fun _ _ => rfl) _ _ _ _

theorem receive_synReceived_oldest (answered : endpoint.state = .synReceived)
    (noSyn : header.flags.contains .syn = false) (ack : header.flags.contains .ack)
    (noRst : header.flags.contains .rst = false)
    (matching : header.acknowledgment = endpoint.sendNext) :
    (endpoint.receive now ip header payload).endpoint.unacknowledged = endpoint.sendNext := by
  rw [(receive_of_known (.inl answered)).1, receiveSynchronized, noRst, noSyn, ack]
  change (receiveText now header payload
    (endpoint.receiveAck now header payload).endpoint).endpoint.unacknowledged = _
  rw [oldest_receiveText]
  dsimp only [receiveAck]
  rw [if_pos answered, receiveAckOfSyn, if_pos matching, Turn.toTurn_quiet, Turn.endpoint_andThen,
    endpoint_enter, sendFinIfDrained_keeps unacknowledged (fun _ _ _ _ => rfl)]
  exact matching

/-- The acknowledgment of a FIN is looked at before the FIN that comes with it. -/
theorem receive_finWait1 (state : endpoint.state = .finWait1)
    (noSyn : header.flags.contains .syn = false) (ack : header.flags.contains .ack)
    (noRst : header.flags.contains .rst = false)
    (covers : header.acknowledgment = endpoint.sendNext)
    (new : endpoint.sendNext ≠ endpoint.unacknowledged)
    (within : inWindow endpoint.unacknowledged endpoint.sendNext header.acknowledgment) :
    (endpoint.receive now ip header payload).endpoint.state = .finWait2 ∨
      (endpoint.receive now ip header payload).endpoint.state = .timeWait := by
  have synchronized : endpoint.state.isSynchronized := by rw [state]; rfl
  have fin : (endpoint.receiveAck now header payload).endpoint.state = .finWait2 := by
    have covered (advanced : Endpoint) (state : advanced.state = .finWait1) :
        ((advanced.finAcknowledged now).andThen (sendFinIfDrained now)).endpoint.state =
          .finWait2 := by
      rw [Turn.endpoint_andThen, finAcknowledged, state]
      dsimp only
      rw [endpoint_enter, sendFinIfDrained]
      split <;> rfl
    dsimp only [receiveAck]
    rw [if_neg (by simp [state]), within]
    have coversFin : coversFin header.acknowledgment { endpoint with
        sendWindow := header.window } = true := by
      rw [Endpoint.coversFin, state, covers]
      exact beq_self_eq_true _
    rw [Bool.not_true, if_neg (by simp), if_neg (fun same => new (covers.symm.trans same)),
      Turn.toTurn_quiet]
    dsimp only [advance]
    rw [coversFin, if_pos rfl]
    exact covered _ state
  rw [(receive_of_known (.inr synchronized)).1, receiveSynchronized, noRst, noSyn, ack]
  have after := state_receiveText now header payload
    (endpoint.receiveAck now header payload).endpoint
  rw [fin] at after
  exact after

theorem AckEffect.oldest {after : Reception} (effect : endpoint.AckEffect header after)
    {origin : UInt32} {place number last : Nat}
    (oldest : endpoint.unacknowledged = ahead origin place)
    (next : endpoint.sendNext = ahead origin last)
    (acknowledged : header.acknowledgment = ahead origin number) (ordered : place ≤ last)
    (known : number ≤ last) (bounded : last < 2147483648) :
    after.endpoint.unacknowledged = ahead origin (max place number) := by
  have width : (endpoint.sendNext - endpoint.unacknowledged).toNat = last - place := by
    rw [next, oldest, toNat_ahead_sub _ ordered (by omega)]
  have window := Tcp.inWindow_iff endpoint.unacknowledged endpoint.sendNext header.acknowledgment
    (by omega)
  rw [width] at window
  have distance : (header.acknowledgment - endpoint.unacknowledged).toNat =
      if place ≤ number then number - place else 4294967296 - (place - number) := by
    rw [acknowledged, oldest]
    split
    · rw [toNat_ahead_sub _ (by omega) (by omega)]
    · rw [toNat_ahead_sub_of_lt _ (by omega) (by omega)]
  cases effect with
  | rejected outside _ same =>
      have before : number < place := by
        apply Decidable.byContradiction
        intro late
        rw [if_pos (by omega)] at distance
        rw [window.mpr (.inl (by omega))] at outside
        cases outside
      rw [same, oldest, Nat.max_eq_left (by omega)]
  | repeated known' _ same =>
      rw [acknowledged, oldest] at known'
      have equal := ahead_injective _ (by omega) (by omega) known'
      rw [same, oldest, Nat.max_eq_left (by omega)]
  | taken within _ _ taken =>
      have late : place ≤ number := by
        apply Decidable.byContradiction
        intro before
        rw [if_neg before] at distance
        rcases window.mp within with near | half <;> omega
      rw [taken, acknowledged, Nat.max_eq_right late]

theorem receive_bare_oldest (synchronized : endpoint.state.isSynchronized)
    (noRst : header.flags.contains .rst = false)
    (plain : header.flags.contains .syn ∨ header.flags.contains .ack = false) :
    (endpoint.receive now ip header payload).endpoint.unacknowledged = endpoint.unacknowledged ∧
      (endpoint.receive now ip header payload).endpoint.state.isSynchronized := by
  rw [(receive_of_known (.inr synchronized)).1, receiveSynchronized, noRst]
  cases syn : header.flags.contains .syn with
  | true =>
      change (endpoint.receiveRepeatedSyn now).endpoint.unacknowledged = _ ∧
        (endpoint.receiveRepeatedSyn now).endpoint.state.isSynchronized
      rw [receiveRepeatedSyn, if_neg (State.IsSynchronized.ne synchronized).2.2.2]
      refine ⟨transmit_keeps endpoint unacknowledged (fun _ _ => rfl) _ _ _ _, ?_⟩
      rw [sendAck, transmit_keeps endpoint Endpoint.state fun _ _ => rfl]
      exact synchronized
  | false =>
      rw [syn] at plain
      rw [plain.resolve_left Bool.false_ne_true]
      exact ⟨oldest_receiveText endpoint, receiveText_synchronized synchronized⟩

/-- A segment that acknowledges no more than has been sent moves the oldest number up to what it
acknowledges, and never back; the connection ends only with the last number. -/
theorem Ledger.receive_oldest (ledger : endpoint.Ledger dropped)
    (synchronized : endpoint.state.isSynchronized) (noRst : header.flags.contains .rst = false)
    {origin : UInt32} {place high last : Nat}
    (oldest : endpoint.unacknowledged = ahead origin place)
    (next : endpoint.sendNext = ahead origin last) (ordered : place ≤ last) (within : place ≤ high)
    (bounded : last < 2147483648)
    (counted : header.flags.contains .ack →
      ∃ number, number ≤ last ∧ number ≤ high ∧ header.acknowledgment = ahead origin number)
    (now : Instant) (ip : Ip.Header) (payload : Octets) :
    ∃ later, (endpoint.receive now ip header payload).endpoint.unacknowledged =
        ahead origin later ∧ place ≤ later ∧ later ≤ high ∧
      (header.flags.contains .ack → header.flags.contains .syn = false →
        ∃ number, number ≤ later ∧ header.acknowledgment = ahead origin number) ∧
      ((endpoint.receive now ip header payload).endpoint.state.isSynchronized ∨ place < later) := by
  by_cases plain : header.flags.contains .syn ∨ header.flags.contains .ack = false
  · obtain ⟨same, still⟩ :=
      @receive_bare_oldest endpoint now ip header payload synchronized noRst plain
    refine ⟨place, same.trans oldest, Nat.le_refl _, within, ?_, .inl still⟩
    intro ack noSyn
    rw [ack, noSyn] at plain
    rcases plain with syn | noAck
    · cases syn
    · cases noAck
  · have noSyn : header.flags.contains .syn = false := by
      cases syn : header.flags.contains .syn with
      | false => rfl
      | true => exact absurd (.inl syn) plain
    have ack : header.flags.contains .ack := by
      cases ack : header.flags.contains .ack with
      | true => rfl
      | false => exact absurd (.inr ack) plain
    obtain ⟨number, known, near, acknowledged⟩ := counted ack
    have effect : endpoint.AckEffect header (endpoint.receive now ip header payload) :=
      receive_effect synchronized ledger.lastAck_drained ack noSyn noRst
    refine ⟨max place number, effect.oldest oldest next acknowledged ordered known bounded,
      Nat.le_max_left _ _, Nat.max_le.mpr ⟨within, near⟩,
      fun _ _ => ⟨number, Nat.le_max_right _ _, acknowledged⟩, ?_⟩
    by_cases final : endpoint.state = .lastAck ∧ endpoint.coversFin header.acknowledgment
    · -- The last number is that of our FIN, which is in flight.
      obtain ⟨state, covers⟩ := final
      rw [coversFin, Bool.and_eq_true, beq_iff_eq] at covers
      have whole : number = last :=
        ahead_injective _ (by omega) (by omega)
          (acknowledged.symm.trans (covers.2.trans next))
      have distinct : place ≠ last := by
        intro same
        apply ledger.sendNext_ne_of_finInFlight covers.1
        rw [next, oldest, same]
      right
      omega
    · left
      have lives : Lives endpoint.state (endpoint.receiveAck now header payload).endpoint.state :=
        receiveAck_lives (.inr synchronized)
          (fun answered => absurd answered (State.IsSynchronized.ne synchronized).2.2.2)
          (fun state => Bool.not_eq_true _ ▸ fun covers => final ⟨state, covers⟩)
      rw [(receive_of_known (.inr synchronized)).1, receiveSynchronized, noRst, noSyn, ack]
      exact receiveText_synchronized lives.synchronized

end Endpoint

end RadioStack.Tcp
