import RadioStack.Proofs.Tcp.Move

/-!
Every call is a sequence of moves. Main statement: `perform_moves`.
-/

namespace RadioStack.Tcp

namespace Response

def output (response : Response) (call : Call) : Output where
  segments := response.segments
  accepted :=
    match call, response.result with
    | .send _ data, .ok () => data
    | _, _ => []
  reported := response.data.getD []

end Response

namespace Endpoint

def output (endpoint : Endpoint) (call : Call) : Output := (endpoint.perform call).output call

/-- A turn is made of moves that take nothing from the application and bring nothing to it. -/
def Makes (call : Call) (endpoint : Endpoint) (turn : Turn) : Prop :=
  Moves call endpoint { segments := turn.segments } turn.endpoint

def Receives (call : Call) (endpoint : Endpoint) (reception : Reception) : Prop :=
  Moves call endpoint { segments := reception.segments, reported := reception.data.getD [] }
    reception.endpoint

variable {call : Call} {endpoint middle : Endpoint} {turn : Turn} {now : Instant}

theorem makes_idle : endpoint.Makes call endpoint.idle := .done

theorem makes_note (record : Log.Record) : endpoint.Makes call (endpoint.note record) := .done

theorem Makes.andThen {next : Endpoint → Turn} (first : endpoint.Makes call turn)
    (second : turn.endpoint.Makes call (next turn.endpoint)) :
    endpoint.Makes call (turn.andThen next) := by
  have moves := Moves.trans first second
  rwa [Makes, Turn.segments_andThen]

theorem Makes.after (move : Move call endpoint {} middle) (makes : middle.Makes call turn) :
    endpoint.Makes call turn := .step move makes

theorem Makes.receives (makes : endpoint.Makes call turn) : endpoint.Receives call turn.quiet :=
  makes

theorem Makes.rejects (makes : endpoint.Makes call turn) : endpoint.Receives call turn.rejected :=
  makes

theorem Receives.after {reception : Reception} (move : Move call endpoint {} middle)
    (receives : middle.Receives call reception) : endpoint.Receives call reception :=
  .step move receives

theorem Receives.thenReceive {first : Reception} {next : Endpoint → Reception}
    (silent : first.data = none) (acknowledged : endpoint.Receives call first)
    (text : first.endpoint.Receives call (next first.endpoint)) :
    endpoint.Receives call (first.toTurn.thenReceive next) := by
  -- The data of the text is all there is, as the acknowledgment brings none.
  have moves := Moves.trans acknowledged text
  rw [silent] at moves
  rwa [Receives, Turn.segments_thenReceive]

theorem makes_abort (ends : endpoint.Ends call) : endpoint.Makes call endpoint.abort := by
  rw [Makes, endpoint_abort, segments_abort]
  exact .single (.abort ends)

theorem makes_enter {changed : Endpoint} {state : State}
    (moves : Moves call endpoint {} { changed with state }) :
    endpoint.Makes call (changed.enter state) := by
  rwa [Makes, endpoint_enter, segments_enter]

/-- Entering a state sends nothing, so it can be part of a move that changes more. -/
theorem Makes.entering {changed : Endpoint} {state : State} {next : Endpoint → Turn}
    (makes : endpoint.Makes call (next { changed with state })) :
    endpoint.Makes call ((changed.enter state).andThen next) := by
  rw [Makes, Turn.endpoint_andThen, Turn.segments_andThen, endpoint_enter, segments_enter]
  exact makes

theorem makes_transmit (now : Instant) {sequence : UInt32} {flags : Flags} {length : Nat}
    (may : endpoint.MaySend call sequence flags length) :
    endpoint.Makes call (endpoint.transmit now sequence flags length) := by
  rw [Makes]
  rcases endpoint.transmit_cases now sequence flags length with
    ⟨source, destination, port, lastSend, here, there, door, timed, sent⟩ | ⟨same, silent⟩
  · rw [timed, sent]
    exact .step (.say may here there door) (.single (.wait _ lastSend _))
  · rw [same, silent]
    exact .done

/-- It makes no difference whether the number of a control flag is counted before it is sent. -/
theorem sendControl_eq (flags : Flags) :
    endpoint.sendControl now flags =
      transmit now endpoint.sendNext flags 0
        { endpoint with sendNext := endpoint.sendNext + 1 } := by
  dsimp only [sendControl, transmit]
  split <;> rfl

theorem makes_sendAck (now : Instant) (synchronized : endpoint.state.isSynchronized) :
    endpoint.Makes call (endpoint.sendAck now) :=
  makes_transmit now (.ack synchronized)

theorem makes_sendFinIfDrained : endpoint.Makes call (endpoint.sendFinIfDrained now) := by
  unfold sendFinIfDrained
  split
  · rename_i ready
    rw [Bool.and_eq_true] at ready
    split
    · exact makes_idle
    · rename_i state next
      have inFlight : state.finInFlight := by
        rcases finState?_eq_some next with ⟨_, rfl⟩ | ⟨_, rfl⟩ <;> rfl
      refine .entering (.after (.sendFin ready.1 ready.2 next) ?_)
      exact makes_transmit now (.fin inFlight (UInt32.add_sub_cancel _ _).symm)
  · exact makes_idle

theorem makes_retransmit (known : endpoint.state ≠ .closed ∧ endpoint.state ≠ .listen) :
    endpoint.Makes call (endpoint.retransmit now) := by
  unfold retransmit
  split
  · rename_i state
    exact makes_transmit now (.syn state (.inl rfl))
  · rename_i state
    exact makes_transmit now (.synAck state (.inl rfl))
  · rename_i state
    exact makes_transmit now (.fin (by simp [state, State.finInFlight]) rfl)
  · rename_i state
    exact makes_transmit now (.fin (by simp [state, State.finInFlight]) rfl)
  · rename_i state
    exact makes_transmit now (.fin (by simp [state, State.finInFlight]) rfl)
  · dsimp only
    split
    · exact makes_idle
    · have synchronized : endpoint.state.isSynchronized := by
        cases state : endpoint.state <;> simp_all [State.isSynchronized]
      exact makes_transmit now (.again synchronized (Nat.min_le_left _ _))

theorem makes_connect {address : Address} {port : UInt16}
    (called : call = .connect now address port)
    (connected : endpoint.connect now address port = .ok turn) : endpoint.Makes call turn := by
  unfold connect at connected
  split at connected
  · cases connected
  · rename_i closed
    split at connected
    · cases connected
    · cases connected
      apply Makes.entering
      rw [sendControl_eq]
      exact .after (.connect called (Decidable.not_not.mp closed))
        (makes_transmit now (.syn rfl (.inl rfl)))

theorem makes_listen (called : call = .listen) (listened : endpoint.listen = .ok turn) :
    endpoint.Makes call turn := by
  unfold listen at listened
  split at listened
  · cases listened
  · rename_i closed
    cases listened
    exact makes_enter (.single (.listen called (Decidable.not_not.mp closed)))

theorem send_moves {data : Octets} (called : call = .send now data)
    (sent : endpoint.send now data = .ok turn) :
    Moves call endpoint { segments := turn.segments, accepted := data } turn.endpoint := by
  unfold send at sent
  split at sent
  · cases sent
  · rename_i ready
    split at sent
    · rename_i empty
      rw [List.isEmpty_iff] at empty
      subst empty
      cases sent
      exact .done
    · split at sent
      · cases sent
      · rename_i ring room
        cases sent
        have held : data.length ≤ ring.count := by
          have grown := congrArg List.length (SendRing.toList_enqueue? room)
          rw [SendRing.length_toList, List.length_append] at grown
          omega
        have synchronized :=
          State.isSynchronized_of_carriesData (carriesData_of_refusal?_eq_none ready)
        have moves := Moves.step (.queue called ready room) (makes_transmit now
          (.fresh synchronized held (UInt32.add_sub_cancel _ _).symm))
        rwa [Output.append_segments] at moves

theorem makes_close (called : call = .close now) : endpoint.Makes call (endpoint.close now) := by
  unfold close
  split
  · rename_i state
    exact makes_abort (.close called (.inl state))
  · rename_i state
    exact makes_abort (.close called (.inr state))
  · rename_i state
    exact .after (.intend called (.inl state)) makes_sendFinIfDrained
  · rename_i state
    exact .after (.intend called (.inr (.inl state))) makes_sendFinIfDrained
  · rename_i state
    exact .after (.intend called (.inr (.inr state))) makes_sendFinIfDrained
  · exact makes_idle

theorem makes_reset (called : call = .reset now) : endpoint.Makes call (endpoint.reset now) := by
  unfold reset
  split
  · exact makes_abort (.reset called)
  · exact makes_abort (.reset called)
  · exact (makes_transmit now (.rst called)).andThen (makes_abort (.reset called))

theorem makes_tick (called : call = .tick now) : endpoint.Makes call (endpoint.tick now) := by
  unfold tick
  split
  · exact makes_idle
  · exact makes_idle
  · rename_i state
    split
    · rename_i expired
      exact makes_abort (.expire called state expired)
    · exact makes_idle
  · rename_i notClosed notListen _
    split
    · exact (makes_note _).andThen (makes_retransmit ⟨notClosed, notListen⟩)
    · exact makes_idle

section Receive

variable {ip : Ip.Header} {header : Header} {payload : Octets}

theorem makes_receiveInListen (called : call = .receive now ip header payload)
    (listening : endpoint.state = .listen) :
    endpoint.Makes call (endpoint.receiveInListen now ip header) := by
  unfold receiveInListen
  split
  · rename_i guard
    simp only [Bool.and_eq_true, Bool.not_eq_true'] at guard
    obtain ⟨⟨syn, noAck⟩, noRst⟩ := guard
    apply Makes.entering
    rw [sendControl_eq]
    exact .after (.wait header.window endpoint.lastSend endpoint.timeWaitSince)
      (.after (.welcome called listening syn noAck noRst)
        (makes_transmit now (.synAck rfl (.inr (UInt32.add_sub_cancel _ _).symm))))
  · exact makes_idle

theorem makes_receiveSyn (called : call = .receive now ip header payload)
    (opening : endpoint.state = .synSent) (syn : header.flags.contains .syn)
    (noRst : header.flags.contains .rst = false)
    (matching : header.flags.contains .ack → header.acknowledgment = endpoint.sendNext) :
    endpoint.Makes call (endpoint.receiveSyn now header) := by
  have opened : Move call endpoint {} { endpoint with sendWindow := header.window } :=
    .wait header.window endpoint.lastSend endpoint.timeWaitSince
  dsimp only [receiveSyn]
  split
  · rename_i ack
    exact .entering (.after opened (.after (.establish called opening syn ack noRst (matching ack))
      (makes_sendAck now rfl)))
  · rename_i noAck
    rw [Bool.not_eq_true] at noAck
    exact .entering (.after opened (.after (.cross called opening syn noAck noRst)
      (makes_transmit now (.synAck rfl (.inl rfl)))))

theorem receives_inSynSent (called : call = .receive now ip header payload)
    (opening : endpoint.state = .synSent) :
    endpoint.Receives call (endpoint.receiveInSynSent now header) := by
  dsimp only [receiveInSynSent]
  split
  · exact (makes_note _).rejects
  · rename_i expected
    have matching : header.flags.contains .ack → header.acknowledgment = endpoint.sendNext := by
      intro ack
      simpa [ack] using expected
    split
    · rename_i rst
      split
      · rename_i ack
        exact ((makes_note _).andThen
          (makes_abort (.refuse called opening rst ack (matching ack)))).receives
      · exact makes_idle.receives
    · rename_i noRst
      rw [Bool.not_eq_true] at noRst
      split
      · rename_i syn
        exact (makes_receiveSyn called opening syn noRst matching).receives
      · exact makes_idle.receives

theorem makes_receiveRst (called : call = .receive now ip header payload)
    (known : endpoint.state = .synReceived ∨ endpoint.state.isSynchronized)
    (rst : header.flags.contains .rst) : endpoint.Makes call (endpoint.receiveRst header) := by
  unfold receiveRst
  split
  · rename_i matching
    exact (makes_note _).andThen (makes_abort (.resetByPeer called known rst matching))
  · exact makes_idle

theorem makes_receiveRepeatedSyn
    (known : endpoint.state = .synReceived ∨ endpoint.state.isSynchronized) :
    endpoint.Makes call (endpoint.receiveRepeatedSyn now) := by
  unfold receiveRepeatedSyn
  split
  · rename_i state
    exact makes_transmit now (.synAck state (.inl rfl))
  · rename_i other
    exact makes_sendAck now (known.resolve_left other)

theorem makes_advance (called : call = .receive now ip header payload)
    (synchronized : endpoint.state.isSynchronized) (covers : endpoint.Acknowledges header) :
    endpoint.Makes call (endpoint.advance now header.acknowledgment) := by
  dsimp only [advance]
  refine Makes.andThen ?_ makes_sendFinIfDrained
  split
  · rename_i fin
    dsimp only [finAcknowledged]
    split
    · rename_i state
      exact makes_enter (.step (.finish called (.inl ⟨state, rfl⟩) covers fin)
        (.single (.wait endpoint.sendWindow now endpoint.timeWaitSince)))
    · rename_i state
      exact makes_enter (.step (.finish called (.inr ⟨state, rfl⟩) covers fin)
        (.single (.wait endpoint.sendWindow now now)))
    · rename_i state
      rw [Makes, endpoint_abort, segments_abort]
      exact .step (.finishLast called state covers fin)
        (.single (.wait endpoint.sendWindow now endpoint.timeWaitSince))
    · rename_i notFirst notSecond notThird
      rw [coversFin, Bool.and_eq_true] at fin
      cases state : endpoint.state <;> simp_all [State.finInFlight]
  · rename_i noFin
    rw [Bool.not_eq_true] at noFin
    exact .after (.acknowledge called synchronized covers noFin)
      (.after (.wait endpoint.sendWindow now endpoint.timeWaitSince) makes_idle)

theorem makes_receiveDuplicateAck (synchronized : endpoint.state.isSynchronized) :
    endpoint.Makes call (endpoint.receiveDuplicateAck now header payload) := by
  unfold receiveDuplicateAck
  split
  · obtain ⟨notClosed, notListen, _⟩ := State.IsSynchronized.ne synchronized
    exact (makes_note _).andThen (makes_retransmit ⟨notClosed, notListen⟩)
  · exact makes_idle

theorem receives_ackOfSyn (called : call = .receive now ip header payload)
    (answered : endpoint.state = .synReceived) (ack : header.flags.contains .ack)
    (noSyn : header.flags.contains .syn = false) (noRst : header.flags.contains .rst = false) :
    endpoint.Receives call (endpoint.receiveAckOfSyn now header) := by
  unfold receiveAckOfSyn
  split
  · rename_i matching
    refine (Makes.entering ?_).receives
    exact .after (.confirm called answered ack noSyn noRst matching) makes_sendFinIfDrained
  · exact (makes_note _).rejects

theorem receives_ack (called : call = .receive now ip header payload)
    (known : endpoint.state = .synReceived ∨ endpoint.state.isSynchronized)
    (ack : header.flags.contains .ack) (noSyn : header.flags.contains .syn = false)
    (noRst : header.flags.contains .rst = false) :
    endpoint.Receives call (endpoint.receiveAck now header payload) := by
  -- The window of the segment counts whatever becomes of its acknowledgment.
  refine .after (.wait header.window endpoint.lastSend endpoint.timeWaitSince) ?_
  dsimp only [receiveAck]
  split
  · rename_i answered
    exact receives_ackOfSyn called answered ack noSyn noRst
  · rename_i other
    have synchronized := known.resolve_left other
    split
    · exact (makes_note _).rejects
    · rename_i within
      simp only [Bool.not_eq_true', Bool.not_eq_false] at within
      split
      · exact Makes.receives (makes_receiveDuplicateAck synchronized)
      · rename_i new
        exact Makes.receives
          (makes_advance called synchronized ⟨ack, noSyn, noRst, within, new⟩)

theorem data_receiveAck : (endpoint.receiveAck now header payload).data = none := by
  dsimp only [receiveAck, receiveAckOfSyn]
  split
  · split <;> rfl
  · split
    · rfl
    · split <;> rfl

theorem makes_receiveFin (now : Instant) (before : Endpoint)
    (accepting : before.state.acceptsText)
    (taken : Moves call middle {} { before with state := before.state.afterPeerFin }) :
    middle.Makes call (before.receiveFin now) := by
  unfold receiveFin
  split
  · rename_i state
    rw [state] at taken
    exact makes_enter taken
  · rename_i state
    rw [state] at taken
    exact makes_enter taken
  · rename_i state
    rw [state] at taken
    exact makes_enter (taken.trans (.single (.wait before.sendWindow before.lastSend now)))
  · cases state : before.state <;> simp_all [State.acceptsText]

theorem state_receiveFin :
    (endpoint.receiveFin now).endpoint.state = endpoint.state.afterPeerFin := by
  unfold receiveFin
  cases state : endpoint.state <;> simp [State.afterPeerFin, state]

theorem receives_taken (called : call = .receive now ip header payload)
    (noSyn : header.flags.contains .syn = false) (noRst : header.flags.contains .rst = false)
    (accepting : endpoint.state.acceptsText) (inOrder : header.sequence = endpoint.receiveNext)
    (occupied : header.span payload.length ≠ 0) (taken : Endpoint)
    (advanced : taken = { endpoint with
      receiveNext := endpoint.receiveNext + header.span payload.length }) :
    let turn := if header.flags.contains .fin then taken.receiveFin now else taken.idle
    Moves call endpoint
      { segments := (turn.andThen (sendAck now)).segments, reported := payload }
      (turn.andThen (sendAck now)).endpoint := by
  obtain ⟨before, after⟩ := State.isSynchronized_of_acceptsText accepting
  have took := Move.take called noSyn noRst accepting inOrder occupied
  dsimp only
  split
  · rename_i fin
    have synchronized : (taken.receiveFin now).endpoint.state.isSynchronized := by
      rw [state_receiveFin, advanced]
      exact after
    rw [if_pos fin] at took
    have same : taken.state = endpoint.state := by rw [advanced]
    -- The move has changed the state together with the number, so nothing is left to move.
    have finished : Makes call { taken with state := taken.state.afterPeerFin }
        (taken.receiveFin now) := makes_receiveFin now taken (by rwa [same]) .done
    rw [same, advanced] at finished
    rw [advanced] at synchronized ⊢
    have moves := Moves.step took (finished.andThen (makes_sendAck now synchronized))
    rwa [Output.append_segments] at moves
  · rename_i noFin
    rw [if_neg noFin] at took
    subst advanced
    have moves := Moves.step took (makes_sendAck now before)
    rwa [Output.append_segments] at moves

theorem Move.state_ne_opening {output : Output} (called : call = .receive now ip header payload)
    (move : Move call endpoint output middle)
    (past : endpoint.state ≠ .listen ∧ endpoint.state ≠ .synSent) :
    middle.state ≠ .listen ∧ middle.state ≠ .synSent := by
  cases move with
  | wait | say | queue | intend | acknowledge => exact past
  | connect connected => rw [called] at connected; cases connected
  | listen listened => rw [called] at listened; cases listened
  | welcome | establish | cross | confirm | finishLast | abort => simp
  | finish _ next => rcases next with ⟨_, rfl⟩ | ⟨_, rfl⟩ <;> simp
  | sendFin _ _ next => rcases finState?_eq_some next with ⟨_, rfl⟩ | ⟨_, rfl⟩ <;> simp
  | take _ _ _ accepting =>
      dsimp only
      split
      · cases state : endpoint.state <;> simp_all [State.acceptsText, State.afterPeerFin]
      · exact past

theorem Moves.state_ne_opening {output : Output} (called : call = .receive now ip header payload)
    (moves : Moves call endpoint output middle)
    (past : endpoint.state ≠ .listen ∧ endpoint.state ≠ .synSent) :
    middle.state ≠ .listen ∧ middle.state ≠ .synSent :=
  moves.keeps (fun move => move.state_ne_opening called) past

theorem receives_text (called : call = .receive now ip header payload)
    (past : endpoint.state ≠ .listen ∧ endpoint.state ≠ .synSent)
    (noSyn : header.flags.contains .syn = false) (noRst : header.flags.contains .rst = false) :
    endpoint.Receives call (endpoint.receiveText now header payload) := by
  dsimp only [receiveText]
  split
  · exact makes_idle.receives
  · rename_i open_
    have synchronized : endpoint.state.isSynchronized := by
      cases state : endpoint.state <;> simp_all [State.isSynchronized]
    split
    · exact ((makes_note _).andThen (makes_sendAck now synchronized)).receives
    · rename_i inOrder
      split
      · exact makes_idle.receives
      · rename_i occupied
        split
        · exact (makes_sendAck now synchronized).receives
        · rename_i accepting
          simp only [Bool.not_eq_true', Bool.not_eq_false] at accepting
          have moves := receives_taken called noSyn noRst accepting (Decidable.not_not.mp inOrder)
            occupied _ rfl
          rw [Receives]
          have reported : (if payload.isEmpty then none else some payload).getD [] = payload := by
            cases payload <;> rfl
          rw [reported]
          exact moves

theorem receives_synchronized (called : call = .receive now ip header payload)
    (known : endpoint.state = .synReceived ∨ endpoint.state.isSynchronized) :
    endpoint.Receives call (endpoint.receiveSynchronized now header payload) := by
  unfold receiveSynchronized
  split
  · rename_i rst
    exact (makes_receiveRst called known rst).receives
  · rename_i noRst
    rw [Bool.not_eq_true] at noRst
    split
    · exact (makes_receiveRepeatedSyn known).receives
    · rename_i noSyn
      rw [Bool.not_eq_true] at noSyn
      have past : endpoint.state ≠ .listen ∧ endpoint.state ≠ .synSent := by
        constructor <;> intro state <;> simp [state, State.isSynchronized] at known
      dsimp only
      split
      · rename_i ack
        have acknowledged : endpoint.Receives call (endpoint.receiveAck now header payload) :=
          receives_ack called known ack noSyn noRst
        exact acknowledged.thenReceive data_receiveAck
          (receives_text called (acknowledged.state_ne_opening called past) noSyn noRst)
      · exact makes_idle.receives.thenReceive rfl (receives_text called past noSyn noRst)

theorem receives_receive (called : call = .receive now ip header payload) :
    endpoint.Receives call (endpoint.receive now ip header payload) := by
  unfold receive
  refine (makes_note _).receives.thenReceive rfl ?_
  split
  · exact makes_idle.receives
  · rename_i listening
    exact (makes_receiveInListen called listening).receives
  · rename_i opening
    exact receives_inSynSent called opening
  · rename_i notClosed notListen notSynSent
    change endpoint.state ≠ .closed at notClosed
    change endpoint.state ≠ .listen at notListen
    change endpoint.state ≠ .synSent at notSynSent
    apply receives_synchronized called
    change endpoint.state = .synReceived ∨ endpoint.state.isSynchronized
    cases state : endpoint.state <;> simp_all [State.isSynchronized]

end Receive

/-- Every call is a sequence of moves, through which everything that passes during the call goes. -/
theorem perform_moves (endpoint : Endpoint) (call : Call) :
    Moves call endpoint (endpoint.output call) (endpoint.perform call).endpoint := by
  cases call with
  | connect now address port =>
      rw [output, perform]
      cases connected : endpoint.connect now address port with
      | ok turn => exact makes_connect rfl connected
      | error failure => exact .done
  | listen =>
      rw [output, perform]
      cases listened : endpoint.listen with
      | ok turn => exact makes_listen rfl listened
      | error failure => exact .done
  | send now data =>
      rw [output, perform]
      cases sent : endpoint.send now data with
      | ok turn => exact send_moves rfl sent
      | error failure => exact .done
  | close now => exact makes_close rfl
  | reset now => exact makes_reset rfl
  | tick now => exact makes_tick rfl
  | receive now ip header payload => exact receives_receive rfl

end Endpoint

end RadioStack.Tcp
