import RadioStack.Proofs.Tcp.Repetition

/-!
How a segment is answered. Its own acknowledgment is looked at first, which sends at most one
segment; then the segment is acknowledged once if it does not come next or takes a sequence number,
and otherwise not at all. Nothing is taken of a segment that does not come next; a FIN in it only
keeps it from asking for the oldest data. Main statement: `reachable_answers_once`.
-/

namespace RadioStack.Tcp

namespace Endpoint

/-- What the acknowledgment of a segment comes to, if it has one, before its text is looked at. -/
def acknowledged (now : Instant) (header : Header) (payload : Octets) (endpoint : Endpoint) :
    Reception :=
  if header.flags.contains .ack then endpoint.receiveAck now header payload
  else endpoint.idle.quiet

/-- What an acknowledgment may have sent: the oldest data again, or our FIN for the first time. -/
inductive SendsOnAck (endpoint : Endpoint) (sent : Segment) : Prop
  | again (carries : endpoint.state.carriesData) (oldest : endpoint.item? = some sent)
    (flags : sent.header.flags = .ack ||| .psh)
  | finish (carries : endpoint.state.carriesData) (flags : sent.header.flags = .fin ||| .ack)
    (empty : sent.payload = []) (sequence : sent.header.sequence = endpoint.sendNext)

/-- A prompt has the oldest data sent again, unless the acknowledgment is out of its window even
so. -/
structure IsAsked (endpoint : Endpoint) (asking : Segment) : Prop extends
    endpoint.Prompts asking where
  within : inWindow endpoint.unacknowledged endpoint.sendNext endpoint.unacknowledged

def NeedsAnswer (endpoint : Endpoint) (header : Header) (payload : Octets) : Prop :=
  header.sequence ≠ endpoint.receiveNext ∨ payload ≠ [] ∨ header.flags.contains .fin

variable {endpoint : Endpoint} {now : Instant} {ip : Ip.Header} {header : Header}
  {payload : Octets}

theorem sendFinIfDrained_of_none (noFin : finState? endpoint.state = none) :
    endpoint.sendFinIfDrained now = endpoint.idle := by
  unfold sendFinIfDrained
  rw [noFin]
  split <;> rfl

theorem sendFinIfDrained_sends (bound : endpoint.Bound) :
    (endpoint.sendFinIfDrained now).segments = [] ∨
      ∃ sent, (endpoint.sendFinIfDrained now).segments = [sent] ∧ endpoint.state.carriesData ∧
        sent.header.flags = .fin ||| .ack ∧ sent.payload = [] ∧
        sent.header.sequence = endpoint.sendNext := by
  unfold sendFinIfDrained
  split
  · split
    · exact .inl rfl
    · rename_i state next
      have facts : endpoint.state.carriesData ∧ state ≠ .closed ∧ state ≠ .listen := by
        rcases finState?_eq_some next with ⟨first, rfl⟩ | ⟨first, rfl⟩ <;> rw [first] <;> decide
      obtain ⟨carries, running⟩ := facts
      have boundNext : Bound { endpoint with state, sendNext := endpoint.sendNext + 1 } :=
        bound.congr (State.running_of_known (.inr (State.isSynchronized_of_carriesData carries)))
          rfl
      obtain ⟨_, _, _, _, _, _, spoken⟩ :=
        boundNext.transmit running now endpoint.sendNext (.fin ||| .ack) 0
      rw [Turn.segments_andThen, segments_enter, endpoint_enter, spoken]
      exact .inr ⟨_, rfl, carries, rfl, payload_eq_nil (.inr rfl), rfl⟩
  · exact .inl rfl

theorem finAcknowledged_sends (covered : endpoint.state.finInFlight) :
    ((endpoint.finAcknowledged now).andThen (sendFinIfDrained now)).segments = [] ∧
      (endpoint.state = .lastAck →
        ((endpoint.finAcknowledged now).andThen (sendFinIfDrained now)).endpoint.state =
          .closed) := by
  have silent (turn : Turn) (segments : turn.segments = [])
      (noFin : finState? turn.endpoint.state = none) :
      (turn.andThen (sendFinIfDrained now)).segments = [] ∧
        (turn.andThen (sendFinIfDrained now)).endpoint = turn.endpoint := by
    rw [Turn.segments_andThen, Turn.endpoint_andThen, sendFinIfDrained_of_none noFin, segments]
    exact ⟨rfl, rfl⟩
  unfold finAcknowledged
  cases state : endpoint.state with
  | finWait1 =>
      obtain ⟨segments, -⟩ := silent (endpoint.enter .finWait2) (segments_enter _ _)
        (by rw [endpoint_enter]; rfl)
      exact ⟨segments, by rintro ⟨⟩⟩
  | closing =>
      obtain ⟨segments, -⟩ := silent (endpoint.enterTimeWait now) (segments_enter _ _)
        (by rw [endpoint_enterTimeWait]; rfl)
      exact ⟨segments, by rintro ⟨⟩⟩
  | lastAck =>
      obtain ⟨segments, after⟩ := silent endpoint.abort (segments_abort _)
        (by rw [endpoint_abort]; rfl)
      refine ⟨segments, fun _ => ?_⟩
      dsimp only
      rw [after, endpoint_abort]
  | closed | listen | synSent | synReceived | established | closeWait | finWait2 | timeWait =>
      rw [state] at covered
      cases covered

theorem advance_eq (endpoint : Endpoint) (now : Instant) (acknowledgment : UInt32) :
    ∃ advanced : Endpoint, advanced.state = endpoint.state ∧
      advanced.sendNext = endpoint.sendNext ∧ advanced.ends = endpoint.ends ∧
      endpoint.advance now acknowledgment =
        (if endpoint.coversFin acknowledgment then advanced.finAcknowledged now
          else advanced.idle).andThen (sendFinIfDrained now) :=
  ⟨{ endpoint with
      ring := endpoint.ring.release (endpoint.released acknowledgment)
      unacknowledged := acknowledgment
      lastSend := now }, rfl, rfl, rfl, rfl⟩

theorem advance_sends (bound : endpoint.Bound) (synchronized : endpoint.state.isSynchronized)
    (now : Instant) (acknowledgment : UInt32) :
    let after := endpoint.advance now acknowledgment
    (after.segments = [] ∨ ∃ sent, after.segments = [sent] ∧ endpoint.SendsOnAck sent) ∧
      (after.endpoint.state ≠ .closed → after.endpoint.state.isSynchronized) := by
  obtain ⟨advanced, state, next, ends, shape⟩ := endpoint.advance_eq now acknowledgment
  have alive (still : endpoint.state = .lastAck → endpoint.coversFin acknowledgment = false) :
      (endpoint.advance now acknowledgment).endpoint.state.isSynchronized :=
    (advance_lives synchronized still).synchronized
  dsimp only
  cases covers : endpoint.coversFin acknowledgment with
  | true =>
      have inFlight : advanced.state.finInFlight := by
        rw [coversFin, Bool.and_eq_true] at covers
        rw [state]
        exact covers.1
      rw [covers, if_pos rfl] at shape
      obtain ⟨segments, closed⟩ := @finAcknowledged_sends advanced now inFlight
      rw [← shape] at segments closed
      rw [state] at closed
      refine ⟨.inl segments, fun lasting => alive fun last => ?_⟩
      exact absurd (closed last) lasting
  | false =>
      rw [covers, if_neg Bool.false_ne_true] at shape
      refine ⟨?_, fun _ => alive fun _ => covers⟩
      have boundNext : advanced.Bound :=
        bound.congr (State.running_of_known (.inr synchronized)) ends
      rw [shape, Turn.segments_andThen, segments_idle, List.nil_append, endpoint_idle]
      refine (sendFinIfDrained_sends boundNext).imp_right ?_
      rintro ⟨sent, alone, carries, flags, empty, sequence⟩
      rw [state] at carries
      exact ⟨sent, alone, .finish carries flags empty (sequence.trans next)⟩

theorem receiveDuplicateAck_sends (bound : endpoint.Bound) (drained : endpoint.Drained) :
    let after := endpoint.receiveDuplicateAck now header payload
    after.segments = [] ∨ ∃ sent, after.segments = [sent] ∧ endpoint.SendsOnAck sent := by
  unfold receiveDuplicateAck
  dsimp only
  split
  · rename_i asked
    have held : endpoint.ring.toList ≠ [] := by
      rw [Bool.and_eq_true, Bool.not_eq_true', ← Bool.not_eq_true, SendRing.isEmpty_iff] at asked
      exact asked.2
    have carries : endpoint.state.carriesData := by
      rw [← Bool.not_eq_false]
      exact fun empty => held (drained empty)
    rw [Turn.segments_andThen, endpoint_note]
    by_cases sized : 1 ≤ endpoint.config.maxSegmentSize
    · obtain ⟨oldest, known, -, again⟩ := bound.retransmit_text carries held sized
      obtain ⟨-, flags, -⟩ := item?_eq_some known
      rw [State.itemFlags_of_carriesData carries] at flags
      exact .inr ⟨oldest, (again now).1, .again carries known flags⟩
    · rw [retransmit_unsized carries (by omega)]
      exact .inl rfl
  · exact .inl rfl

theorem receiveNext_acknowledged (endpoint : Endpoint) (now : Instant) (header : Header)
    (payload : Octets) :
    (endpoint.acknowledged now header payload).endpoint.receiveNext = endpoint.receiveNext := by
  unfold acknowledged
  split
  · exact receiveAck_keeps Endpoint.receiveNext fun _ _ _ _ _ _ _ _ _ => rfl
  · rfl

theorem ends_acknowledged (endpoint : Endpoint) (now : Instant) (header : Header)
    (payload : Octets) :
    (endpoint.acknowledged now header payload).endpoint.ends = endpoint.ends := by
  unfold acknowledged
  split
  · exact receiveAck_keeps ends fun _ _ _ _ _ _ _ _ _ => rfl
  · rfl

/-- An acknowledgment has at most one segment sent, and ends the connection or leaves it
synchronized. -/
theorem acknowledged_sends (bound : endpoint.Bound) (drained : endpoint.Drained)
    (synchronized : endpoint.state.isSynchronized) :
    let heard := endpoint.acknowledged now header payload
    (heard.segments = [] ∨ ∃ sent, heard.segments = [sent] ∧ endpoint.SendsOnAck sent) ∧
      (heard.endpoint.state ≠ .closed → heard.endpoint.state.isSynchronized) := by
  dsimp only [acknowledged]
  split
  · have windowed : Bound { endpoint with sendWindow := header.window } := bound
    have same (sent : Segment)
        (sends : SendsOnAck { endpoint with sendWindow := header.window } sent) :
        endpoint.SendsOnAck sent := by
      cases sends with
      | again carries oldest flags => exact .again carries oldest flags
      | finish carries flags empty sequence => exact .finish carries flags empty sequence
    dsimp only [receiveAck]
    rw [if_neg (State.IsSynchronized.ne synchronized).2.2.2]
    split
    · exact ⟨.inl rfl, fun _ => synchronized⟩
    · split
      · refine ⟨(receiveDuplicateAck_sends windowed drained).imp_right ?_, fun _ => ?_⟩
        · rintro ⟨sent, alone, sends⟩
          exact ⟨sent, alone, same sent sends⟩
        · rw [Turn.toTurn_quiet, receiveDuplicateAck_keeps Endpoint.state fun _ _ => rfl]
          exact synchronized
      · obtain ⟨sends, lives⟩ := advance_sends windowed synchronized now header.acknowledgment
        refine ⟨sends.imp_right ?_, lives⟩
        rintro ⟨sent, alone, sends⟩
        exact ⟨sent, alone, same sent sends⟩
  · exact ⟨.inl rfl, fun _ => synchronized⟩

/-- A bare acknowledgment takes no number, so not even the clock changes. -/
theorem endpoint_sendAck (endpoint : Endpoint) (now : Instant) :
    (endpoint.sendAck now).endpoint = endpoint := by
  unfold sendAck transmit
  split
  · rename_i source destination port here there door
    have empty : (endpoint.segmentAt source destination port endpoint.sendNext .ack 0).payload =
        [] := payload_eq_nil (.inr rfl)
    have flags : (endpoint.segmentAt source destination port endpoint.sendNext .ack
        0).header.flags = .ack := rfl
    have unnumbered : (endpoint.segmentAt source destination port endpoint.sendNext .ack
        0).header.span 0 = 0 := by
      rw [Header.span, flags]
      decide
    dsimp only
    rw [empty, List.length_nil, if_pos unnumbered]
  · rfl

theorem toNat_span (noSyn : header.flags.contains .syn = false)
    (short : payload.length < 0xffffffff) :
    (header.span payload.length).toNat =
      payload.length + (header.flags.contains .fin).toNat := by
  rw [Header.span, noSyn]
  cases fin : header.flags.contains .fin <;> simp <;> omega

theorem span_eq_zero_iff (noSyn : header.flags.contains .syn = false)
    (short : payload.length < 0xffffffff) :
    header.span payload.length = 0 ↔ payload = [] ∧ header.flags.contains .fin = false := by
  rw [← UInt32.toNat_inj, toNat_span noSyn short, UInt32.toNat_zero, Nat.add_eq_zero_iff,
    List.length_eq_zero_iff, Bool.toNat_eq_zero]

theorem needsAnswer_iff (noSyn : header.flags.contains .syn = false)
    (short : payload.length < 0xffffffff) :
    endpoint.NeedsAnswer header payload ↔
      header.sequence ≠ endpoint.receiveNext ∨ header.span payload.length ≠ 0 := by
  rw [NeedsAnswer, ne_eq (header.span _), span_eq_zero_iff noSyn short, not_and_or,
    Bool.not_eq_false]

theorem andThen_sendAck_current {turn : Turn} (silent : turn.segments = [])
    (bound : turn.endpoint.Bound) (synchronized : turn.endpoint.state.isSynchronized) :
    ∃ answer, (turn.andThen (sendAck now)).segments = [answer] ∧
      (turn.andThen (sendAck now)).endpoint.Current answer := by
  obtain ⟨answer, alone, current⟩ := sendAck_current bound synchronized now
  rw [Turn.segments_andThen, Turn.endpoint_andThen, silent, endpoint_sendAck]
  exact ⟨answer, alone, current⟩

theorem segments_receiveFin (endpoint : Endpoint) (now : Instant) :
    (endpoint.receiveFin now).segments = [] := by
  unfold receiveFin
  split <;> first | exact segments_enter _ _ | rfl

theorem receiveText_acknowledges (bound : endpoint.Bound)
    (synchronized : endpoint.state.isSynchronized)
    (noSyn : header.flags.contains .syn = false) (short : payload.length < 0xffffffff)
    (now : Instant) :
    let after := endpoint.receiveText now header payload
    (endpoint.NeedsAnswer header payload →
      ∃ answer, after.segments = [answer] ∧ after.endpoint.Current answer) ∧
    (¬ endpoint.NeedsAnswer header payload → after.segments = []) := by
  obtain ⟨notClosed, notListen, _, notAnswered⟩ := State.IsSynchronized.ne synchronized
  rw [needsAnswer_iff noSyn short]
  dsimp only [receiveText]
  rw [if_neg (by simp [notClosed, notAnswered])]
  by_cases inOrder : header.sequence = endpoint.receiveNext
  · rw [if_neg (fun other => other inOrder)]
    by_cases empty : header.span payload.length = 0
    · rw [if_pos empty]
      exact ⟨fun needs => absurd empty (needs.resolve_left fun other => other inOrder),
        fun _ => rfl⟩
    · rw [if_neg empty]
      refine ⟨fun _ => ?_, fun unneeded => absurd (.inr empty) unneeded⟩
      split
      · rw [Turn.toTurn_quiet, endpoint_sendAck]
        exact sendAck_current bound synchronized now
      · rename_i accepting
        rw [Bool.not_eq_true', Bool.not_eq_false] at accepting
        split
        · apply andThen_sendAck_current (segments_receiveFin _ now)
          · exact bound.congr ⟨notClosed, notListen⟩ (receiveFin_keeps ends fun _ _ _ => rfl)
          · rw [state_receiveFin]
            exact (State.isSynchronized_of_acceptsText accepting).2
        · exact andThen_sendAck_current (segments_idle { endpoint with
            receiveNext := endpoint.receiveNext + header.span payload.length }) bound synchronized
  · rw [if_pos inOrder, Turn.toTurn_quiet]
    refine ⟨fun _ => ?_, fun unneeded => absurd (.inl inOrder) unneeded⟩
    exact andThen_sendAck_current rfl bound synchronized

/-- Nothing of a segment is taken that does not come next, and its flags are not looked at. -/
theorem receiveText_elsewhere (elsewhere : header.sequence ≠ endpoint.receiveNext) :
    let after := endpoint.receiveText now header payload
    after.endpoint = endpoint ∧ after.data = none ∧
      ∀ flags, endpoint.receiveText now { header with flags } payload = after := by
  dsimp only [receiveText]
  by_cases deaf : endpoint.state = .closed ∨ endpoint.state = .synReceived
  · rw [if_pos deaf]
    exact ⟨rfl, rfl, fun _ => if_pos deaf⟩
  · rw [if_neg deaf, if_pos elsewhere]
    refine ⟨endpoint_sendAck endpoint now, rfl, fun flags => ?_⟩
    rw [if_neg deaf, if_pos elsewhere]

theorem receive_eq_acknowledged
    (known : endpoint.state = .synReceived ∨ endpoint.state.isSynchronized)
    (noSyn : header.flags.contains .syn = false) (noRst : header.flags.contains .rst = false)
    (now : Instant) (ip : Ip.Header) (payload : Octets) :
    let heard := endpoint.acknowledged now header payload
    let text := heard.endpoint.receiveText now header payload
    let after := endpoint.receive now ip header payload
    after.segments = heard.segments ++ text.segments ∧ after.endpoint = text.endpoint ∧
      after.data = text.data ∧ after.unexpectedAck = heard.unexpectedAck := by
  intro heard text after
  have same : after = _ := receive_eq_of_known known
  have whole : endpoint.receiveSynchronized now header payload =
      { heard.toTurn.thenReceive (receiveText now header payload) with
        unexpectedAck := heard.unexpectedAck } := by
    rw [receiveSynchronized, noRst, noSyn]
    rfl
  rw [same]
  refine ⟨?_, ?_, ?_, ?_⟩
  · rw [Turn.segments_thenReceive, endpoint_note, whole]
    change [] ++ (heard.toTurn.thenReceive _).segments = _
    rw [Turn.segments_thenReceive, List.nil_append]
  · rw [Turn.endpoint_thenReceive, endpoint_note, whole]
    rfl
  · change (endpoint.receiveSynchronized now header payload).data = _
    rw [whole]
    rfl
  · change (endpoint.receiveSynchronized now header payload).unexpectedAck = _
    rw [whole]

theorem receive_elsewhere (synchronized : endpoint.state.isSynchronized)
    (noSyn : header.flags.contains .syn = false) (noRst : header.flags.contains .rst = false)
    (elsewhere : header.sequence ≠ endpoint.receiveNext) (now : Instant) (ip : Ip.Header)
    (payload : Octets) :
    let heard := endpoint.acknowledged now header payload
    let after := endpoint.receive now ip header payload
    after.endpoint = heard.endpoint ∧ after.data = none ∧
      after.segments = heard.segments ++
        (heard.endpoint.receiveText now header payload).segments := by
  intro heard after
  obtain ⟨segments, same, data, -⟩ :=
    receive_eq_acknowledged (.inr synchronized) noSyn noRst now ip payload
  have past : header.sequence ≠ heard.endpoint.receiveNext := by
    rwa [receiveNext_acknowledged]
  obtain ⟨kept, nothing, -⟩ := receiveText_elsewhere past
  exact ⟨same.trans kept, data.trans nothing, segments⟩

theorem segments_transmit_congr (sequence : UInt32) (flags : Flags) (length : Nat)
    (sendWindow : UInt16) (lastSend : Instant) :
    (transmit now sequence flags length { endpoint with sendWindow, lastSend }).segments =
      (endpoint.transmit now sequence flags length).segments := by
  unfold transmit
  dsimp only
  split <;> rfl

theorem segments_retransmit_congr (sendWindow : UInt16) :
    (retransmit now { endpoint with sendWindow }).segments =
      (endpoint.retransmit now).segments := by
  unfold retransmit
  dsimp only
  split
  · exact segments_transmit_congr ..
  · exact segments_transmit_congr ..
  · exact segments_transmit_congr ..
  · exact segments_transmit_congr ..
  · exact segments_transmit_congr ..
  · split
    · rfl
    · exact segments_transmit_congr ..

theorem segments_receiveText_elsewhere (elsewhere : header.sequence ≠ endpoint.receiveNext)
    (lastSend : Instant) :
    (receiveText now header payload { endpoint with lastSend }).segments =
      (endpoint.receiveText now header payload).segments := by
  dsimp only [receiveText]
  by_cases deaf : endpoint.state = .closed ∨ endpoint.state = .synReceived
  · rw [if_pos deaf, if_pos deaf]
    rfl
  · rw [if_neg deaf, if_neg deaf, if_pos elsewhere, if_pos elsewhere, Turn.toTurn_quiet,
      Turn.toTurn_quiet, Turn.segments_andThen, Turn.segments_andThen]
    exact congrArg _ (segments_transmit_congr ..)

theorem receiveDuplicateAck_of_isAsked (asked : endpoint.IsAsked ⟨ip, header, payload⟩)
    (sendWindow : UInt16) :
    receiveDuplicateAck now header payload { endpoint with sendWindow } =
      (note (.duplicateAck endpoint.localPort header.acknowledgment)
        { endpoint with sendWindow }).andThen (retransmit now) := by
  refine if_pos ?_
  rw [Bool.and_eq_true, Bool.and_eq_true, List.isEmpty_iff, Bool.not_eq_true',
    Bool.not_eq_true' (SendRing.isEmpty _), ← Bool.not_eq_true (SendRing.isEmpty _),
    SendRing.isEmpty_iff]
  exact ⟨⟨asked.bare, asked.noFin⟩, asked.held⟩

theorem receiveDuplicateAck_of_not_isAsked (ack : header.flags.contains .ack)
    (noSyn : header.flags.contains .syn = false)
    (known : header.acknowledgment = endpoint.unacknowledged)
    (within : inWindow endpoint.unacknowledged endpoint.sendNext endpoint.unacknowledged)
    (unasked : ¬ endpoint.IsAsked ⟨ip, header, payload⟩) (sendWindow : UInt16) :
    receiveDuplicateAck now header payload { endpoint with sendWindow } =
      idle { endpoint with sendWindow } := by
  refine if_neg ?_
  rw [Bool.and_eq_true, Bool.and_eq_true, List.isEmpty_iff, Bool.not_eq_true',
    Bool.not_eq_true' (SendRing.isEmpty _), ← Bool.not_eq_true (SendRing.isEmpty _),
    SendRing.isEmpty_iff]
  rintro ⟨⟨bare, noFin⟩, held⟩
  exact unasked ⟨⟨noSyn, ack, known, bare, noFin, held⟩, within⟩

/-- Of the flags but ACK only a FIN counts, which keeps a segment from asking for the oldest
data. -/
theorem acknowledged_flags (synchronized : endpoint.state.isSynchronized)
    (noSyn : header.flags.contains .syn = false) {flags : Flags}
    (ack : flags.contains .ack = header.flags.contains .ack)
    (noSynToo : flags.contains .syn = false) (ip : Ip.Header) :
    let heard := endpoint.acknowledged now header payload
    let other := endpoint.acknowledged now { header with flags } payload
    let asked := endpoint.IsAsked ⟨ip, header, payload⟩
    let askedToo := endpoint.IsAsked ⟨ip, { header with flags }, payload⟩
    (∀ lastSend, { other.endpoint with lastSend } = { heard.endpoint with lastSend }) ∧
      ((asked ↔ askedToo) → other = heard) ∧
      (asked → ¬ askedToo → heard.segments = (endpoint.retransmit now).segments ∧
        other.segments = [] ∧ other.endpoint.lastSend = endpoint.lastSend) := by
  intro heard other asked askedToo
  have untimed (header : Header) (lastSend : Instant) :
      { (receiveDuplicateAck now header payload { endpoint with
        sendWindow := header.window }).endpoint with lastSend } =
      { endpoint with sendWindow := header.window, lastSend } :=
    receiveDuplicateAck_keeps (fun endpoint => { endpoint with lastSend }) (fun _ _ => rfl) _
  have notAnswered := (State.IsSynchronized.ne synchronized).2.2.2
  by_cases acks : header.flags.contains .ack
  · have hears : heard = endpoint.receiveAck now header payload := if_pos acks
    have hearsToo : other = endpoint.receiveAck now { header with flags } payload :=
      if_pos (ack.trans acks)
    rw [hears, hearsToo]
    dsimp only [receiveAck]
    rw [if_neg notAnswered, if_neg notAnswered]
    by_cases known : header.acknowledgment = endpoint.unacknowledged
    · have window : inWindow endpoint.unacknowledged endpoint.sendNext header.acknowledgment =
          inWindow endpoint.unacknowledged endpoint.sendNext endpoint.unacknowledged :=
        congrArg _ known
      rw [if_pos known, if_pos known, window]
      cases within : inWindow endpoint.unacknowledged endpoint.sendNext endpoint.unacknowledged with
      | false =>
          exact ⟨fun _ => rfl, fun _ => rfl,
            fun asks => absurd (within.symm.trans asks.within) nofun⟩
      | true =>
          rw [Bool.not_true, if_neg Bool.false_ne_true, if_neg Bool.false_ne_true]
          have asksNothing := @receiveDuplicateAck_of_not_isAsked endpoint now ip header payload
            acks noSyn known within
          have asksNothingToo := @receiveDuplicateAck_of_not_isAsked endpoint now ip
            { header with flags } payload (ack.trans acks) noSynToo known within
          refine ⟨fun lastSend => (untimed _ lastSend).trans (untimed header lastSend).symm,
            fun same => congrArg Turn.quiet ?_, fun asks unasked => ?_⟩
          · by_cases asks : asked
            · rw [receiveDuplicateAck_of_isAsked asks]
              exact receiveDuplicateAck_of_isAsked (same.mp asks) header.window
            · rw [asksNothing asks]
              exact asksNothingToo (mt same.mpr asks) header.window
          · rw [receiveDuplicateAck_of_isAsked asks, asksNothingToo unasked, Turn.toTurn_quiet,
              Turn.segments_andThen]
            exact ⟨segments_retransmit_congr header.window, rfl, rfl⟩
    · rw [if_neg known, if_neg known]
      exact ⟨fun _ => rfl, fun _ => rfl, fun asks => absurd asks.known known⟩
  · have idles : heard = endpoint.idle.quiet := if_neg acks
    have idlesToo : other = endpoint.idle.quiet := if_neg (ack ▸ acks)
    rw [idles, idlesToo]
    exact ⟨fun _ => rfl, fun _ => rfl, fun asks => absurd asks.ack acks⟩

theorem receive_flags (synchronized : endpoint.state.isSynchronized)
    (noSyn : header.flags.contains .syn = false) (noRst : header.flags.contains .rst = false)
    (elsewhere : header.sequence ≠ endpoint.receiveNext) {flags : Flags}
    (ack : flags.contains .ack = header.flags.contains .ack)
    (noSynToo : flags.contains .syn = false) (noRstToo : flags.contains .rst = false)
    (now : Instant) (ip : Ip.Header) (payload : Octets) :
    let after := endpoint.receive now ip header payload
    let other := endpoint.receive now ip { header with flags } payload
    let asked := endpoint.IsAsked ⟨ip, header, payload⟩
    let askedToo := endpoint.IsAsked ⟨ip, { header with flags }, payload⟩
    other.data = none ∧
      { other.endpoint with lastSend := after.endpoint.lastSend } = after.endpoint ∧
      ((asked ↔ askedToo) → other.endpoint = after.endpoint ∧ other.segments = after.segments) ∧
      (asked → ¬ askedToo → other.endpoint.lastSend = endpoint.lastSend ∧
        after.segments = (endpoint.retransmit now).segments ++ other.segments) := by
  intro after other asked askedToo
  let heard := endpoint.acknowledged now header payload
  let heardToo := endpoint.acknowledged now { header with flags } payload
  obtain ⟨still, -, segments⟩ :=
    receive_elsewhere synchronized noSyn noRst elsewhere now ip payload
  obtain ⟨stillToo, nothing, segmentsToo⟩ :=
    @receive_elsewhere endpoint { header with flags } synchronized noSynToo noRstToo elsewhere now
      ip payload
  obtain ⟨untimed, alike, apart⟩ :=
    @acknowledged_flags endpoint now header payload synchronized noSyn flags ack noSynToo ip
  have past : header.sequence ≠ heard.endpoint.receiveNext := by
    rwa [receiveNext_acknowledged]
  obtain ⟨-, -, blind⟩ := @receiveText_elsewhere heard.endpoint now header payload past
  have stays : after.endpoint = heard.endpoint := still
  have staysToo : other.endpoint = heardToo.endpoint := stillToo
  refine ⟨nothing, ?_, fun same => ?_, fun asks unasked => ?_⟩
  · rw [staysToo, stays]
    exact untimed _
  · rw [alike same] at stillToo segmentsToo
    rw [blind flags] at segmentsToo
    exact ⟨stillToo.trans still.symm, segmentsToo.trans segments.symm⟩
  · obtain ⟨again, silent, kept⟩ := apart asks unasked
    have dated : heardToo.endpoint =
        { heard.endpoint with lastSend := heardToo.endpoint.lastSend } :=
      untimed heardToo.endpoint.lastSend
    refine ⟨(congrArg Endpoint.lastSend staysToo).trans kept, ?_⟩
    have answers : other.segments =
        (heard.endpoint.receiveText now header payload).segments := by
      rw [← blind flags, ← @segments_receiveText_elsewhere heard.endpoint now
        { header with flags } payload past heardToo.endpoint.lastSend, ← dated]
      exact segmentsToo.trans (by rw [silent, List.nil_append])
    rw [answers, ← again]
    exact segments

def earlyPrompt (flags : Flags) : Segment :=
  ⟨{ nextHeader := .tcp, source := .allRouters, destination := .allNodes },
    { sourcePort := 2, destinationPort := 1, sequence := 9, acknowledgment := 1, flags
      window := 128 }, []⟩

end Endpoint

end RadioStack.Tcp
