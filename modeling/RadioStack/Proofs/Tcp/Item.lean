import RadioStack.Proofs.Tcp.Label

/-!
The oldest item in flight, which the state tells: our SYN or our FIN, or else the front of the ring.
Whatever is sent again is that item. Main statements: `Ledger.retransmit_item`,
`tick_of_repeatsAt`.
-/

namespace RadioStack.Tcp

namespace State

def itemFlags : State → Flags
  | .synSent => .syn
  | .synReceived => .syn ||| .ack
  | .finWait1 | .closing | .lastAck => .fin ||| .ack
  | _ => .ack ||| .psh

theorem itemFlags_of_carriesData {state : State} (carries : state.carriesData) :
    state.itemFlags = .ack ||| .psh := by
  cases state <;> first | rfl | cases carries

theorem itemFlags_of_isSynchronized {state : State} (synchronized : state.isSynchronized) :
    state.itemFlags.contains .syn = false ∧ state.itemFlags.contains .ack := by
  cases state <;> first | decide | cases synchronized

theorem acknowledgment_itemFlags (state : State) (number : UInt32) :
    (if state.itemFlags.contains .ack then number else 0) =
      if state = .synSent then 0 else number := by
  cases state <;> rfl

theorem span_itemFlags {state : State} {header : Header} (flags : header.flags = state.itemFlags)
    (alone : state = .synSent ∨ state = .synReceived ∨ state.finInFlight) :
    header.span 0 ≠ 0 := by
  rw [Header.span, flags]
  rcases alone with rfl | rfl | fin
  · decide
  · decide
  · cases state <;> first | decide | cases fin

theorem isSynchronized_of_finInFlight {state : State} (inFlight : state.finInFlight) :
    state.isSynchronized := by
  cases state <;> first | rfl | cases inFlight

theorem running_of_known {state : State} (known : state = .synReceived ∨ state.isSynchronized) :
    state ≠ .closed ∧ state ≠ .listen := by
  rcases known with rfl | synchronized
  · decide
  · obtain ⟨notClosed, notListen, _⟩ := IsSynchronized.ne synchronized
    exact ⟨notClosed, notListen⟩

end State

namespace Endpoint

def itemText (endpoint : Endpoint) : Octets :=
  if endpoint.state.carriesData then
    endpoint.ring.toList.take (min endpoint.ring.count endpoint.config.maxSegmentSize)
  else []

def item? (endpoint : Endpoint) : Option Segment := do
  let source ← endpoint.localAddress
  let destination ← endpoint.remoteAddress
  let port ← endpoint.remotePort
  return {
    ip := { nextHeader := .tcp, hopLimit := endpoint.config.hopLimit, source, destination }
    header := {
      sourcePort := endpoint.localPort
      destinationPort := port
      sequence := endpoint.unacknowledged
      acknowledgment := if endpoint.state = .synSent then 0 else endpoint.receiveNext
      flags := endpoint.state.itemFlags
      window := endpoint.config.window }
    payload := endpoint.itemText }

/-- The timer has run out for something in flight, and of data at least one octet may be sent. -/
structure RepeatsAt (now : Instant) (endpoint : Endpoint) : Prop where
  running : endpoint.state ≠ .closed ∧ endpoint.state ≠ .listen ∧ endpoint.state ≠ .timeWait
  inFlight : endpoint.unacknowledged ≠ endpoint.sendNext
  due : endpoint.config.retransmissionInterval ≤ now.since endpoint.lastSend
  sized : endpoint.state.carriesData → 1 ≤ endpoint.config.maxSegmentSize

/-- The oldest item takes a number. Whenever something is sent again it is that item, and the timer
starts anew. -/
def RepeatsItem (endpoint : Endpoint) : Prop :=
  ∃ oldest, endpoint.item? = some oldest ∧ oldest.header.span oldest.payload.length ≠ 0 ∧ ∀ now,
    (endpoint.retransmit now).segments = [oldest] ∧
      (endpoint.retransmit now).endpoint = { endpoint with lastSend := now }

variable {endpoint : Endpoint} {dropped : Octets} {now : Instant} {header : Header}

theorem Ledger.inFlight (ledger : endpoint.Ledger dropped)
    (inFlight : endpoint.unacknowledged ≠ endpoint.sendNext) :
    endpoint.state = .synSent ∨ endpoint.state = .synReceived ∨ endpoint.state.finInFlight ∨
      (endpoint.state.carriesData ∧ endpoint.ring.toList ≠ []) := by
  have width := ledger.width
  have nonzero : (endpoint.sendNext - endpoint.unacknowledged).toNat ≠ 0 := by
    rw [ne_eq, toNat_sub_eq_iff _ _ (by decide), ahead_zero]
    exact fun same => inFlight same.symm
  have drained := ledger.drained
  cases state : endpoint.state with
  | synSent => exact .inl rfl
  | synReceived => exact .inr (.inl rfl)
  | lastAck | finWait1 | closing => exact .inr (.inr (.inl rfl))
  | established | closeWait =>
      refine .inr (.inr (.inr ⟨rfl, ?_⟩))
      intro empty
      rw [state, empty] at width
      exact nonzero width
  | closed | listen | finWait2 | timeWait =>
      rw [state] at drained width
      rw [drained rfl] at width
      exact absurd width nonzero

theorem Ledger.running_of_inFlight (ledger : endpoint.Ledger dropped)
    (inFlight : endpoint.unacknowledged ≠ endpoint.sendNext) :
    endpoint.state ≠ .closed ∧ endpoint.state ≠ .listen ∧ endpoint.state ≠ .timeWait := by
  have held := ledger.inFlight inFlight
  refine ⟨?_, ?_, ?_⟩
  all_goals
    intro state
    rw [state] at held
    simp [State.finInFlight, State.carriesData] at held

theorem Ledger.oldest_inFlight (ledger : endpoint.Ledger dropped)
    (synchronized : endpoint.state.isSynchronized)
    (inFlight : endpoint.unacknowledged ≠ endpoint.sendNext) :
    endpoint.unacknowledged = ahead endpoint.config.initialSequence (1 + dropped.length) := by
  have flags : endpoint.state.flagsAcknowledged = 1 := by
    have held := ledger.inFlight inFlight
    cases state : endpoint.state <;> rw [state] at held synchronized <;>
      simp_all [State.flagsAcknowledged, State.isSynchronized, State.finInFlight, State.carriesData]
  rw [ledger.oldest, flags]

theorem Ledger.fin_oldest (ledger : endpoint.Ledger dropped)
    (inFlight : endpoint.state.finInFlight) :
    endpoint.sendNext - 1 = endpoint.unacknowledged := by
  have flags : endpoint.state.flagsAcknowledged = 1 := by
    cases state : endpoint.state <;> rw [state] at inFlight <;> first | rfl | cases inFlight
  rw [ledger.last_of_finInFlight inFlight, ledger.oldest, flags,
    ledger.drained (State.carriesData_of_finInFlight inFlight), List.append_nil]

theorem span_ne_zero {length : Nat}
    (occupied : length ≠ 0 ∨ header.flags.contains .fin ∨ header.flags.contains .syn)
    (bounded : length ≤ 128) : header.span length ≠ 0 := by
  intro zero
  rw [Header.span] at zero
  have number := congrArg UInt32.toNat zero
  cases fin : header.flags.contains .fin <;> cases syn : header.flags.contains .syn <;>
    simp [fin, syn] at number occupied <;> omega

theorem item?_eq_some {oldest : Segment} (known : endpoint.item? = some oldest) :
    oldest.header.sequence = endpoint.unacknowledged ∧
      oldest.header.flags = endpoint.state.itemFlags ∧
      oldest.header.acknowledgment =
        (if endpoint.state = .synSent then 0 else endpoint.receiveNext) ∧
      oldest.payload = endpoint.itemText := by
  unfold item? at known
  cases here : endpoint.localAddress <;> cases there : endpoint.remoteAddress <;>
    cases door : endpoint.remotePort <;> rw [here, there, door] at known <;> cases known
  exact ⟨rfl, rfl, rfl, rfl⟩

theorem length_itemText (carries : endpoint.state.carriesData) :
    endpoint.itemText.length = min endpoint.ring.count endpoint.config.maxSegmentSize := by
  rw [itemText, if_pos carries, List.length_take, SendRing.length_toList]
  exact Nat.min_eq_left (Nat.min_le_left _ _)

/-- There is no empty item, and none that does not fit into the ring. -/
theorem length_itemText_bounds (carries : endpoint.state.carriesData)
    (held : endpoint.ring.toList ≠ []) (sized : 1 ≤ endpoint.config.maxSegmentSize) :
    endpoint.itemText.length ≠ 0 ∧ endpoint.itemText.length ≤ SendRing.capacity := by
  have count : endpoint.ring.count ≠ 0 := by rwa [ne_eq, ← SendRing.toList_eq_nil_iff]
  have full : endpoint.ring.count ≤ SendRing.capacity := endpoint.ring.count_le
  rw [length_itemText carries]
  omega

theorem Bound.retransmit_item (bound : endpoint.Bound)
    (running : endpoint.state ≠ .closed ∧ endpoint.state ≠ .listen) (length : Nat)
    (again : ∀ now, endpoint.retransmit now =
      endpoint.transmit now endpoint.unacknowledged endpoint.state.itemFlags length)
    (text : endpoint.ring.toList.take (min length SendRing.capacity) = endpoint.itemText)
    (occupied : ∀ header : Header, header.flags = endpoint.state.itemFlags →
      header.span endpoint.itemText.length ≠ 0) :
    endpoint.RepeatsItem := by
  obtain ⟨here, there, door⟩ := bound running.1 running.2
  obtain ⟨source, here⟩ := Option.isSome_iff_exists.mp here
  obtain ⟨destination, there⟩ := Option.isSome_iff_exists.mp there
  obtain ⟨port, door⟩ := Option.isSome_iff_exists.mp door
  let oldest := endpoint.segmentAt source destination port endpoint.unacknowledged
    endpoint.state.itemFlags length
  have payload : oldest.payload = endpoint.itemText := by
    change endpoint.ring.peek _ _ = _
    rw [SendRing.peek_eq_take_drop, UInt32.sub_self, UInt32.toNat_zero, List.drop_zero, text]
  have timed : oldest.header.span oldest.payload.length ≠ 0 := by
    rw [payload]
    exact occupied _ rfl
  refine ⟨oldest, ?_, timed, fun now => ?_⟩
  · rw [item?, here, there, door, ← payload, ← State.acknowledgment_itemFlags]
    rfl
  · rw [again, Endpoint.transmit, here, there, door]
    dsimp only
    rw [if_neg timed]
    exact ⟨rfl, rfl⟩

theorem Bound.retransmit_text (bound : endpoint.Bound) (carries : endpoint.state.carriesData)
    (held : endpoint.ring.toList ≠ []) (sized : 1 ≤ endpoint.config.maxSegmentSize) :
    endpoint.RepeatsItem := by
  have running := State.running_of_known (.inr (State.isSynchronized_of_carriesData carries))
  have flags := State.itemFlags_of_carriesData carries
  obtain ⟨nonzero, short⟩ := length_itemText_bounds carries held sized
  refine bound.retransmit_item running
    (min endpoint.ring.count endpoint.config.maxSegmentSize) ?_ ?_ ?_
  · intro now
    rw [length_itemText carries] at nonzero
    rw [retransmit, flags]
    cases state : endpoint.state <;> rw [state] at carries <;>
      first | exact if_neg nonzero | cases carries
  · rw [length_itemText carries] at short
    rw [itemText, if_pos carries, Nat.min_eq_left short]
  · exact fun _ _ => span_ne_zero (.inl nonzero) short

theorem retransmit_unsized (carries : endpoint.state.carriesData)
    (zero : endpoint.config.maxSegmentSize = 0) : endpoint.retransmit now = endpoint.idle := by
  unfold retransmit
  rw [zero, Nat.min_zero]
  cases state : endpoint.state <;> rw [state] at carries <;> first | rfl | cases carries

theorem Bound.retransmit_flag (bound : endpoint.Bound)
    (running : endpoint.state ≠ .closed ∧ endpoint.state ≠ .listen)
    (alone : endpoint.state = .synSent ∨ endpoint.state = .synReceived ∨
      endpoint.state.finInFlight)
    (again : ∀ now, endpoint.retransmit now =
      endpoint.transmit now endpoint.unacknowledged endpoint.state.itemFlags 0) :
    endpoint.RepeatsItem := by
  have empty : endpoint.itemText = [] := by
    refine if_neg ?_
    rcases alone with state | state | fin
    · rw [state]
      exact Bool.false_ne_true
    · rw [state]
      exact Bool.false_ne_true
    · rw [State.carriesData_of_finInFlight fin]
      exact Bool.false_ne_true
  refine bound.retransmit_item running 0 again ?_ ?_
  · rw [empty]
    rfl
  · intro header flags
    rw [empty]
    exact State.span_itemFlags flags alone

theorem Ledger.retransmit_item (ledger : endpoint.Ledger dropped) (bound : endpoint.Bound)
    (inFlight : endpoint.unacknowledged ≠ endpoint.sendNext)
    (sized : endpoint.state.carriesData → 1 ≤ endpoint.config.maxSegmentSize) :
    endpoint.RepeatsItem := by
  obtain ⟨notClosed, notListen, -⟩ := ledger.running_of_inFlight inFlight
  rcases ledger.inFlight inFlight with state | state | fin | ⟨carries, held⟩
  · refine bound.retransmit_flag ⟨notClosed, notListen⟩ (.inl state) fun now => ?_
    rw [retransmit, state]
    rfl
  · refine bound.retransmit_flag ⟨notClosed, notListen⟩ (.inr (.inl state)) fun now => ?_
    rw [retransmit, state]
    rfl
  · refine bound.retransmit_flag ⟨notClosed, notListen⟩ (.inr (.inr fin)) fun now => ?_
    rw [retransmit, ledger.fin_oldest fin]
    cases state : endpoint.state <;> rw [state] at fin <;> first | rfl | cases fin
  · exact bound.retransmit_text carries held (sized carries)

theorem tick_of_repeatsAt (repeats : endpoint.RepeatsAt now) :
    (endpoint.tick now).segments = (endpoint.retransmit now).segments ∧
      (endpoint.tick now).endpoint = (endpoint.retransmit now).endpoint := by
  obtain ⟨notClosed, notListen, notTimeWait⟩ := repeats.running
  have due : endpoint.retransmissionDue now := by
    rw [retransmissionDue, Bool.and_eq_true, bne_iff_ne, decide_eq_true_eq]
    exact ⟨repeats.inFlight, repeats.due⟩
  unfold tick
  split
  · exact absurd ‹_› notClosed
  · exact absurd ‹_› notListen
  · exact absurd ‹_› notTimeWait
  · rw [if_pos due, Turn.segments_andThen, Turn.endpoint_andThen, endpoint_note]
    exact ⟨rfl, rfl⟩

/-- Otherwise nothing is sent, and at most the end of TIME-WAIT changes something. -/
theorem tick_of_not_repeatsAt (silent : ¬ endpoint.RepeatsAt now) :
    (endpoint.tick now).segments = [] ∧
      (endpoint.state ≠ .timeWait → (endpoint.tick now).endpoint = endpoint) := by
  unfold tick
  split
  · exact ⟨rfl, fun _ => rfl⟩
  · exact ⟨rfl, fun _ => rfl⟩
  · rename_i state
    refine ⟨?_, fun lasting => absurd state lasting⟩
    split
    · exact segments_abort endpoint
    · rfl
  · rename_i notClosed notListen notTimeWait
    split
    · rename_i due
      rw [retransmissionDue, Bool.and_eq_true, bne_iff_ne, decide_eq_true_eq] at due
      have unsized : endpoint.state.carriesData ∧ endpoint.config.maxSegmentSize = 0 := by
        apply Decidable.byContradiction
        intro able
        refine silent ⟨⟨notClosed, notListen, notTimeWait⟩, due.1, due.2, fun carries => ?_⟩
        exact Nat.pos_of_ne_zero fun zero => able ⟨carries, zero⟩
      rw [Turn.segments_andThen, Turn.endpoint_andThen, endpoint_note,
        retransmit_unsized unsized.1 unsized.2]
      exact ⟨rfl, fun _ => rfl⟩
    · exact ⟨rfl, fun _ => rfl⟩

end Endpoint

end RadioStack.Tcp
