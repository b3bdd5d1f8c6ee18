import RadioStack.Proofs.Tcp.Move
import RadioStack.Proofs.Tcp.Sequence

/-!
The books of the sending side. What the application has handed over on a connection is what has
been acknowledged and dropped, followed by what the ring holds; both counters follow from these
lengths and from the flags that the state says are sent and acknowledged. Main statement:
`Moves.balanced`.
-/

namespace RadioStack.Tcp

namespace State

def flagsSent : State → Nat
  | .closed | .listen => 0
  | .synSent | .synReceived | .established | .closeWait => 1
  | .lastAck | .finWait1 | .finWait2 | .closing | .timeWait => 2

def flagsAcknowledged : State → Nat
  | .closed | .listen | .synSent | .synReceived => 0
  | .established | .closeWait | .lastAck | .finWait1 | .closing => 1
  | .finWait2 | .timeWait => 2

theorem flagsSent_le (state : State) : state.flagsSent ≤ 2 := by
  cases state <;> decide

theorem flagsAcknowledged_le (state : State) : state.flagsAcknowledged ≤ state.flagsSent := by
  cases state <;> decide

theorem flagsAcknowledged_pos (state : State) (synchronized : state.isSynchronized) :
    0 < state.flagsAcknowledged := by
  cases state <;> first | decide | cases synchronized

theorem flagsSent_of_isSynchronized {state : State} (synchronized : state.isSynchronized) :
    state.flagsSent = state.flagsAcknowledged + state.finInFlight.toNat := by
  cases state <;> first | rfl | cases synchronized

theorem carriesData_of_finInFlight {state : State} (inFlight : state.finInFlight) :
    state.carriesData = false := by
  cases state <;> first | rfl | cases inFlight

theorem afterPeerFin_books (state : State) :
    state.afterPeerFin.flagsSent = state.flagsSent ∧
      state.afterPeerFin.flagsAcknowledged = state.flagsAcknowledged ∧
      state.afterPeerFin.carriesData = state.carriesData ∧
      state.afterPeerFin.isSynchronized = state.isSynchronized := by
  cases state <;> decide

end State

def Call.opens : Call → Bool
  | .connect _ _ _ | .listen => true
  | _ => false

namespace Endpoint

/-- `dropped` has been acknowledged, and what the ring holds comes after it. -/
structure Ledger (dropped : Octets) (endpoint : Endpoint) : Prop where
  running : endpoint.state ≠ .closed
  oldest : endpoint.unacknowledged =
    ahead endpoint.config.initialSequence (endpoint.state.flagsAcknowledged + dropped.length)
  next : endpoint.sendNext = ahead endpoint.config.initialSequence
    (endpoint.state.flagsSent + dropped.length + endpoint.ring.toList.length)
  drained : endpoint.state.carriesData = false → endpoint.ring.toList = []
  fresh : endpoint.state.isSynchronized = false → dropped = []

/-- `stream` is what has been handed over on the connection, if there is one. -/
inductive Balanced (stream : Octets) (endpoint : Endpoint) : Prop
  | closed (state : endpoint.state = .closed) (drained : endpoint.ring.toList = [])
    (idle : endpoint.closing = false)
  | running {dropped : Octets} (ledger : endpoint.Ledger dropped)
    (whole : stream = dropped ++ endpoint.ring.toList)

/-- Nothing is in flight, and the number acknowledged is half the space away. Both comparisons of
the window let it through. -/
structure Misleads (endpoint : Endpoint) (header : Header) : Prop where
  synchronized : endpoint.state.isSynchronized
  ack : header.flags.contains .ack
  noSyn : header.flags.contains .syn = false
  noRst : header.flags.contains .rst = false
  quiet : endpoint.sendNext = endpoint.unacknowledged
  half : header.acknowledgment = endpoint.unacknowledged + 0x80000000

def Genuine (endpoint : Endpoint) (call : Call) : Prop :=
  ∀ now ip header payload, call = .receive now ip header payload → ¬ endpoint.Misleads header

variable {dropped : Octets} {endpoint : Endpoint} {header : Header}

theorem misleads_iff (synchronized : endpoint.state.isSynchronized)
    (ack : header.flags.contains .ack) (noSyn : header.flags.contains .syn = false)
    (noRst : header.flags.contains .rst = false) :
    endpoint.Misleads header ↔
      (endpoint.sendNext - endpoint.unacknowledged).toNat = 0 ∧
        (header.acknowledgment - endpoint.unacknowledged).toNat = 2147483648 := by
  rw [toNat_sub_eq_iff _ _ (by decide), toNat_sub_eq_iff _ _ (by decide), ahead_zero]
  exact ⟨fun misled => ⟨misled.quiet, misled.half⟩,
    fun far => ⟨synchronized, ack, noSyn, noRst, far.1, far.2⟩⟩

namespace Ledger

theorem count_le (endpoint : Endpoint) : endpoint.ring.toList.length ≤ 128 := by
  rw [SendRing.length_toList]
  exact endpoint.ring.count_le

/-- What is in flight: what the ring holds, and a flag that is not acknowledged. -/
theorem width (ledger : endpoint.Ledger dropped) :
    (endpoint.sendNext - endpoint.unacknowledged).toNat =
      endpoint.state.flagsSent - endpoint.state.flagsAcknowledged +
        endpoint.ring.toList.length := by
  have := count_le endpoint
  have := endpoint.state.flagsSent_le
  have := endpoint.state.flagsAcknowledged_le
  rw [ledger.next, ledger.oldest, toNat_ahead_sub _ (by omega) (by omega)]
  omega

theorem narrow (ledger : endpoint.Ledger dropped) :
    (endpoint.sendNext - endpoint.unacknowledged).toNat < 2147483648 := by
  have := count_le endpoint
  have := endpoint.state.flagsSent_le
  rw [ledger.width]
  omega

theorem sendNext_ne_of_finInFlight (ledger : endpoint.Ledger dropped)
    (inFlight : endpoint.state.finInFlight) : endpoint.sendNext ≠ endpoint.unacknowledged := by
  intro quiet
  have width := ledger.width
  have synchronized : endpoint.state.isSynchronized := by
    cases state : endpoint.state <;> first | rfl | (rw [state] at inFlight; cases inFlight)
  rw [quiet, UInt32.sub_self, State.flagsSent_of_isSynchronized synchronized, inFlight,
    Bool.toNat_true, UInt32.toNat_zero] at width
  omega

/-- The window of a connection is what is in flight, but for a misleading segment. -/
theorem inWindow_iff (ledger : endpoint.Ledger dropped)
    (synchronized : endpoint.state.isSynchronized)
    (ack : header.flags.contains .ack) (noSyn : header.flags.contains .syn = false)
    (noRst : header.flags.contains .rst = false) :
    inWindow endpoint.unacknowledged endpoint.sendNext header.acknowledgment = true ↔
      (header.acknowledgment - endpoint.unacknowledged).toNat ≤
        (endpoint.sendNext - endpoint.unacknowledged).toNat ∨ endpoint.Misleads header := by
  rw [misleads_iff synchronized ack noSyn noRst]
  exact Tcp.inWindow_iff _ _ _ ledger.narrow

theorem covered_le (ledger : endpoint.Ledger dropped) (covers : endpoint.Acknowledges header)
    (genuine : ¬ endpoint.Misleads header) (synchronized : endpoint.state.isSynchronized) :
    0 < (header.acknowledgment - endpoint.unacknowledged).toNat ∧
      (header.acknowledgment - endpoint.unacknowledged).toNat ≤
        (endpoint.sendNext - endpoint.unacknowledged).toNat := by
  have positive : (header.acknowledgment - endpoint.unacknowledged).toNat ≠ 0 := by
    rw [ne_eq, toNat_sub_eq_iff _ _ (by decide), ahead_zero]
    exact covers.new
  have within := (ledger.inWindow_iff synchronized covers.ack covers.noSyn covers.noRst).mp
    covers.within
  exact ⟨Nat.pos_of_ne_zero positive, within.resolve_right genuine⟩

theorem coversFin_eq (ledger : endpoint.Ledger dropped) (covers : endpoint.Acknowledges header)
    (genuine : ¬ endpoint.Misleads header) (synchronized : endpoint.state.isSynchronized) :
    endpoint.coversFin header.acknowledgment = endpoint.state.finInFlight := by
  have between := ledger.covered_le covers genuine synchronized
  have width := ledger.width
  rw [State.flagsSent_of_isSynchronized synchronized] at width
  cases inFlight : endpoint.state.finInFlight with
  | false => rw [coversFin, inFlight, Bool.false_and]
  | true =>
      -- The ring is empty by then, so the window has no number but that of the FIN.
      rw [ledger.drained (State.carriesData_of_finInFlight inFlight), inFlight, List.length_nil,
        Bool.toNat_true] at width
      have last : (header.acknowledgment - endpoint.unacknowledged).toNat =
          (endpoint.sendNext - endpoint.unacknowledged).toNat := by
        omega
      have reached := ahead_toNat_sub endpoint.unacknowledged header.acknowledgment
      rw [last, ahead_toNat_sub] at reached
      rw [coversFin, inFlight, Bool.true_and, reached, beq_self_eq_true]

theorem released_le (ledger : endpoint.Ledger dropped) (covers : endpoint.Acknowledges header)
    (genuine : ¬ endpoint.Misleads header) (synchronized : endpoint.state.isSynchronized) :
    (header.acknowledgment - endpoint.unacknowledged).toNat =
        endpoint.released header.acknowledgment +
          (endpoint.coversFin header.acknowledgment).toNat ∧
      endpoint.released header.acknowledgment ≤ endpoint.ring.toList.length := by
  have between := ledger.covered_le covers genuine synchronized
  have width := ledger.width
  rw [State.flagsSent_of_isSynchronized synchronized] at width
  have fin := endpoint.state.finInFlight.toNat_le
  unfold released
  rw [ledger.coversFin_eq covers genuine synchronized]
  omega

theorem advanced (ledger : endpoint.Ledger dropped) (covers : endpoint.Acknowledges header)
    (genuine : ¬ endpoint.Misleads header) (synchronized : endpoint.state.isSynchronized)
    {state : State} (still : state.isSynchronized)
    (sent : state.flagsSent = endpoint.state.flagsSent)
    (acknowledged : state.flagsAcknowledged = endpoint.state.flagsAcknowledged +
      (endpoint.coversFin header.acknowledgment).toNat)
    (carries : state.carriesData = endpoint.state.carriesData) :
    Ledger (dropped ++ endpoint.ring.toList.take (endpoint.released header.acknowledgment))
      { endpoint with
        state
        ring := endpoint.ring.release (endpoint.released header.acknowledgment)
        unacknowledged := header.acknowledgment } where
  running := (State.IsSynchronized.ne still).1
  oldest := by
    obtain ⟨distance, held⟩ := ledger.released_le covers genuine synchronized
    have reached := ahead_toNat_sub endpoint.unacknowledged header.acknowledgment
    simp only [List.length_append, List.length_take, acknowledged]
    calc
      header.acknowledgment = ahead endpoint.config.initialSequence
          (endpoint.state.flagsAcknowledged + dropped.length +
            (endpoint.released header.acknowledgment +
              (endpoint.coversFin header.acknowledgment).toNat)) := by
        rw [← ahead_ahead, ← ledger.oldest, ← distance, reached]
      _ = _ := by
        congr 1
        omega
  next := by
    obtain ⟨_, held⟩ := ledger.released_le covers genuine synchronized
    simp only [SendRing.toList_release, List.length_append, List.length_take, List.length_drop,
      sent]
    rw [ledger.next]
    congr 1
    omega
  drained empty := by
    simp only [SendRing.toList_release]
    rw [ledger.drained (carries ▸ empty), List.drop_nil]
  fresh silent := by
    rw [still] at silent
    cases silent

theorem opened (state : endpoint.state ≠ .closed) (drained : endpoint.ring.toList = [])
    (zero : endpoint.state.flagsAcknowledged = 0)
    (oldest : endpoint.unacknowledged = endpoint.config.initialSequence)
    (next : endpoint.sendNext =
      ahead endpoint.config.initialSequence endpoint.state.flagsSent) :
    endpoint.Ledger [] where
  running := state
  oldest := by rw [zero, oldest]; exact (ahead_zero _).symm
  next := by rw [drained, next]; rfl
  drained _ := drained
  fresh _ := rfl

theorem unsynchronized (ledger : endpoint.Ledger dropped)
    (opening : endpoint.state.isSynchronized = false) :
    dropped = [] ∧ endpoint.ring.toList = [] ∧
      endpoint.unacknowledged = endpoint.config.initialSequence ∧
      endpoint.sendNext = ahead endpoint.config.initialSequence endpoint.state.flagsSent := by
  have zero := ledger.fresh opening
  have empty : endpoint.ring.toList = [] := by
    apply ledger.drained
    cases carries : endpoint.state.carriesData with
    | false => rfl
    | true => rw [State.isSynchronized_of_carriesData carries] at opening; cases opening
  have before : endpoint.state.flagsAcknowledged = 0 := by
    cases state : endpoint.state <;> first | rfl | (rw [state] at opening; cases opening)
  refine ⟨zero, empty, ?_, ?_⟩
  · rw [ledger.oldest, before, zero]
    exact ahead_zero _
  · rw [ledger.next, zero, empty]
    rfl

theorem established (ledger : endpoint.Ledger dropped)
    (opening : endpoint.state = .synSent ∨ endpoint.state = .synReceived) {after : Endpoint}
    (state : after.state = .established) (config : after.config = endpoint.config)
    (ring : after.ring = endpoint.ring) (oldest : after.unacknowledged = endpoint.sendNext)
    (next : after.sendNext = endpoint.sendNext) : after.Ledger dropped := by
  have before : endpoint.state.isSynchronized = false ∧ endpoint.state.flagsSent = 1 := by
    rcases opening with state | state <;> rw [state] <;> decide
  obtain ⟨zero, drained, _, number⟩ := ledger.unsynchronized before.1
  rw [before.2] at number
  have flags : after.state.flagsSent = 1 ∧ after.state.flagsAcknowledged = 1 := by
    rw [state]
    decide
  refine ⟨by rw [state]; nofun, ?_, ?_, by rw [state]; nofun, by rw [state]; nofun⟩
  · rw [oldest, number, config, flags.2, zero]
    rfl
  · rw [next, number, config, ring, flags.1, zero, drained]
    rfl

theorem unchanged (ledger : endpoint.Ledger dropped) {after : Endpoint}
    (running : after.state ≠ .closed) (config : after.config = endpoint.config)
    (ring : after.ring = endpoint.ring) (oldest : after.unacknowledged = endpoint.unacknowledged)
    (next : after.sendNext = endpoint.sendNext)
    (sent : after.state.flagsSent = endpoint.state.flagsSent)
    (acknowledged : after.state.flagsAcknowledged = endpoint.state.flagsAcknowledged)
    (carries : after.state.carriesData = endpoint.state.carriesData)
    (synchronized : after.state.isSynchronized = endpoint.state.isSynchronized) :
    after.Ledger dropped where
  running := running
  oldest := by rw [oldest, config, acknowledged, ledger.oldest]
  next := by rw [next, config, sent, ring, ledger.next]
  drained empty := by rw [ring, ledger.drained (by rw [← carries, empty])]
  fresh silent := ledger.fresh (by rw [← synchronized, silent])

theorem queued (ledger : endpoint.Ledger dropped) (carries : endpoint.state.carriesData)
    {data : Octets} {ring : SendRing} (room : endpoint.ring.enqueue? data = some ring) :
    Ledger dropped { endpoint with
      ring
      sendNext := endpoint.sendNext + data.length.toUInt32 } where
  running := ledger.running
  oldest := ledger.oldest
  next := by
    dsimp only
    rw [ledger.next, SendRing.toList_enqueue? room, List.length_append]
    exact (ahead_ahead _ _ _).trans (by congr 1; omega)
  drained empty := absurd carries (by rw [empty]; nofun)
  fresh := ledger.fresh

theorem finished (ledger : endpoint.Ledger dropped) (drained : endpoint.ring.toList = [])
    {state : State} (next : finState? endpoint.state = some state) :
    Ledger dropped { endpoint with state, sendNext := endpoint.sendNext + 1 } := by
  have flags : state ≠ .closed ∧ state.isSynchronized ∧
      state.flagsSent = endpoint.state.flagsSent + 1 ∧
      state.flagsAcknowledged = endpoint.state.flagsAcknowledged := by
    rcases finState?_eq_some next with ⟨first, rfl⟩ | ⟨first, rfl⟩ <;> rw [first] <;> decide
  obtain ⟨running, synchronized, sent, acknowledged⟩ := flags
  refine ⟨running, ?_, ?_, fun _ => drained, ?_⟩
  · rw [acknowledged]
    exact ledger.oldest
  · dsimp only
    rw [sent, ledger.next, ahead_succ]
    congr 1
    omega
  · intro silent
    rw [synchronized] at silent
    cases silent

theorem first_of_opening {sequence : UInt32} (ledger : endpoint.Ledger dropped)
    (opening : endpoint.state = .synSent ∨ endpoint.state = .synReceived)
    (first : sequence = endpoint.unacknowledged ∨ sequence = endpoint.sendNext - 1) :
    sequence = endpoint.config.initialSequence := by
  have flags : endpoint.state.isSynchronized = false ∧ endpoint.state.flagsSent = 1 := by
    rcases opening with state | state <;> rw [state] <;> decide
  obtain ⟨_, _, oldest, next⟩ := ledger.unsynchronized flags.1
  rcases first with same | last
  · rw [same, oldest]
  · rw [last, next, flags.2]
    exact (ahead_sub _ (Nat.le_refl 1)).trans (ahead_zero _)

theorem last_of_finInFlight (ledger : endpoint.Ledger dropped)
    (inFlight : endpoint.state.finInFlight) :
    endpoint.sendNext - 1 = ahead endpoint.config.initialSequence
      (1 + (dropped ++ endpoint.ring.toList).length) := by
  have flags : endpoint.state.flagsSent = 2 := by
    cases state : endpoint.state <;> rw [state] at inFlight <;> first | rfl | cases inFlight
  rw [ledger.next, flags, List.length_append]
  change ahead _ _ - (1 : Nat).toUInt32 = _
  rw [ahead_sub _ (by omega)]
  congr 1
  omega

theorem next_of_finInFlight (ledger : endpoint.Ledger dropped)
    (inFlight : endpoint.state.finInFlight) :
    endpoint.sendNext = ahead endpoint.config.initialSequence
      (1 + (dropped ++ endpoint.ring.toList).length + 1) := by
  rw [← ahead_succ, ← ledger.last_of_finInFlight inFlight, UInt32.sub_add_cancel]

theorem next_of_carriesData (ledger : endpoint.Ledger dropped)
    (carries : endpoint.state.carriesData) :
    endpoint.unacknowledged = ahead endpoint.config.initialSequence (1 + dropped.length) ∧
      endpoint.sendNext = ahead endpoint.unacknowledged endpoint.ring.toList.length := by
  have flags : endpoint.state.flagsAcknowledged = 1 ∧ endpoint.state.flagsSent = 1 := by
    cases state : endpoint.state <;> rw [state] at carries <;> first | decide | cases carries
  have oldest := ledger.oldest
  rw [flags.1] at oldest
  rw [oldest, ledger.next, flags.2, ahead_ahead]
  exact ⟨rfl, rfl⟩

end Ledger

section Balanced

variable {call : Call} {before after : Endpoint} {output : Output} {stream : Octets}

theorem Balanced.ledger (balanced : before.Balanced stream) (state : before.state ≠ .closed) :
    ∃ dropped, before.Ledger dropped ∧ stream = dropped ++ before.ring.toList := by
  cases balanced with
  | closed closed => exact absurd closed state
  | running ledger whole => exact ⟨_, ledger, whole⟩

theorem Balanced.continued (balanced : after.Balanced stream) :
    ∃ rest, after.Balanced rest ∧ (call.opens = false → rest = stream ++ []) := by
  refine ⟨stream, balanced, ?_⟩
  intro _
  rw [List.append_nil]

theorem Move.balanced (move : Move call before output after) (genuine : before.Genuine call)
    (balanced : before.Balanced stream) :
    ∃ rest, after.Balanced rest ∧ (call.opens = false → rest = stream ++ output.accepted) := by
  cases move with
  | wait =>
      apply Balanced.continued
      cases balanced with
      | closed state drained idle => exact .closed state drained idle
      | running ledger whole =>
          exact .running (ledger.unchanged ledger.running rfl rfl rfl rfl rfl rfl rfl rfl) whole
  | say => exact balanced.continued
  -- A new connection has a stream of its own.
  | connect called =>
      exact ⟨[], .running (.opened nofun rfl rfl rfl rfl) rfl, by rw [called]; nofun⟩
  | listen called =>
      exact ⟨[], .running (.opened nofun rfl rfl rfl (ahead_zero _).symm) rfl,
        by rw [called]; nofun⟩
  | welcome _ listening =>
      obtain ⟨dropped, ledger, whole⟩ := balanced.ledger (by simp [listening])
      obtain ⟨zero, drained, oldest, next⟩ := ledger.unsynchronized (by rw [listening]; rfl)
      rw [listening] at next
      apply Balanced.continued
      refine .running (.opened nofun drained rfl oldest ?_) (zero ▸ whole)
      dsimp only
      rw [next, ahead_succ]
      rfl
  | establish _ opening _ _ _ matching =>
      obtain ⟨dropped, ledger, whole⟩ := balanced.ledger (by simp [opening])
      apply Balanced.continued
      exact .running (ledger.established (.inl opening) rfl rfl rfl matching rfl) whole
  | confirm _ answered _ _ _ matching =>
      obtain ⟨dropped, ledger, whole⟩ := balanced.ledger (by simp [answered])
      apply Balanced.continued
      exact .running (ledger.established (.inr answered) rfl rfl rfl matching rfl) whole
  | cross _ opening =>
      obtain ⟨dropped, ledger, whole⟩ := balanced.ledger (by simp [opening])
      apply Balanced.continued
      refine .running (ledger.unchanged nofun rfl rfl rfl rfl ?_ ?_ ?_ ?_) whole
      all_goals rw [opening]; rfl
  | queue _ ready room =>
      have carries := carriesData_of_refusal?_eq_none ready
      have synchronized := State.isSynchronized_of_carriesData carries
      obtain ⟨dropped, ledger, whole⟩ := balanced.ledger (State.IsSynchronized.ne synchronized).1
      refine ⟨_, .running (ledger.queued carries room) rfl, ?_⟩
      intro _
      dsimp only
      rw [SendRing.toList_enqueue? room, whole, List.append_assoc]
  | intend _ running =>
      have state : before.state ≠ .closed := by
        rcases running with state | state | state <;> simp [state]
      obtain ⟨dropped, ledger, whole⟩ := balanced.ledger state
      apply Balanced.continued
      exact .running (ledger.unchanged state rfl rfl rfl rfl rfl rfl rfl rfl) whole
  | acknowledge called synchronized covers noFin =>
      obtain ⟨dropped, ledger, whole⟩ := balanced.ledger (State.IsSynchronized.ne synchronized).1
      have advanced := ledger.advanced covers (genuine _ _ _ _ called) synchronized synchronized rfl
        (by rw [noFin]; rfl) rfl
      apply Balanced.continued
      apply Balanced.running advanced
      rw [whole, SendRing.toList_release, List.append_assoc, List.take_append_drop]
  | @finish _ _ _ _ state called next covers fin =>
      have flags : before.state.isSynchronized ∧ state.isSynchronized ∧
          state.flagsSent = before.state.flagsSent ∧
          state.flagsAcknowledged = before.state.flagsAcknowledged + 1 ∧
          state.carriesData = before.state.carriesData := by
        rcases next with ⟨first, rfl⟩ | ⟨first, rfl⟩ <;> rw [first] <;> decide
      obtain ⟨synchronized, still, sent, acknowledged, carries⟩ := flags
      obtain ⟨dropped, ledger, whole⟩ := balanced.ledger (State.IsSynchronized.ne synchronized).1
      have advanced := ledger.advanced covers (genuine _ _ _ _ called) synchronized still sent
        (by rw [fin]; exact acknowledged) carries
      apply Balanced.continued
      apply Balanced.running advanced
      rw [whole, SendRing.toList_release, List.append_assoc, List.take_append_drop]
  | finishLast | abort =>
      apply Balanced.continued
      exact .closed rfl rfl rfl
  | sendFin _ drained next =>
      have state : before.state ≠ .closed := by
        rcases finState?_eq_some next with ⟨first, _⟩ | ⟨first, _⟩ <;> simp [first]
      obtain ⟨dropped, ledger, whole⟩ := balanced.ledger state
      apply Balanced.continued
      exact .running (ledger.finished ((SendRing.isEmpty_iff _).mp drained) next) whole
  | @take _ _ header _ _ _ _ accepting =>
      obtain ⟨synchronized, after⟩ := State.isSynchronized_of_acceptsText accepting
      obtain ⟨dropped, ledger, whole⟩ := balanced.ledger (State.IsSynchronized.ne synchronized).1
      obtain ⟨sent, acknowledged, carries, same⟩ := before.state.afterPeerFin_books
      apply Balanced.continued
      refine .running (ledger.unchanged ?_ rfl rfl rfl rfl ?_ ?_ ?_ ?_) whole
      all_goals
        cases header.flags.contains .fin with
        | false => first | rfl | exact ledger.running
        | true => first | exact (State.IsSynchronized.ne after).1 | assumption

theorem Move.running (move : Move call before output after) (continues : call.opens = false)
    (running : after.state ≠ .closed) : before.state ≠ .closed := by
  intro closed
  cases move with
  | wait | say | acknowledge => exact running closed
  | connect called | listen called => rw [called] at continues; cases continues
  | welcome _ state | establish _ state | cross _ state | confirm _ state | finishLast _ state =>
      rw [closed] at state
      cases state
  | queue _ ready =>
      have carries := carriesData_of_refusal?_eq_none ready
      rw [closed] at carries
      cases carries
  | intend _ state =>
      rcases state with state | state | state <;> rw [closed] at state <;> cases state
  | finish _ next =>
      rcases next with ⟨state, _⟩ | ⟨state, _⟩ <;> rw [closed] at state <;> cases state
  | sendFin _ _ next => rw [closed] at next; cases next
  | take _ _ _ accepting => rw [closed] at accepting; cases accepting
  | abort => exact running rfl

theorem Moves.ended (moves : Moves call before output after) (continues : call.opens = false)
    (closed : before.state = .closed) : after.state = .closed := by
  induction moves with
  | done => exact closed
  | step move _ ih =>
      apply ih
      apply Decidable.byContradiction
      intro running
      exact move.running continues running closed

theorem ne_add_half (number : UInt32) : number ≠ number + 0x80000000 := by
  intro same
  have h := congrArg UInt32.toNat same
  have := number.toNat_lt
  rw [UInt32.toNat_add] at h
  have half : (0x80000000 : UInt32).toNat = 2147483648 := rfl
  omega

/-- What a segment acknowledges is not half the space away once it has been acted upon, so no move
makes it misleading. -/
theorem Move.genuine (move : Move call before output after) (genuine : before.Genuine call)
    (balanced : after.Balanced stream) : after.Genuine call := by
  intro now ip header payload called misled
  obtain ⟨synchronized, ack, noSyn, noRst, quiet, half⟩ := misled
  cases move with
  | wait | say => exact genuine _ _ _ _ called ⟨synchronized, ack, noSyn, noRst, quiet, half⟩
  | connect other | listen other | queue other | intend other =>
      rw [called] at other
      cases other
  | welcome | cross | finishLast | abort => cases synchronized
  | establish same | confirm same | acknowledge same | finish same =>
      rw [called] at same
      cases same
      exact ne_add_half _ half
  | sendFin _ _ next =>
      obtain ⟨dropped, ledger, _⟩ := balanced.ledger (State.IsSynchronized.ne synchronized).1
      refine ledger.sendNext_ne_of_finInFlight ?_ quiet
      rcases finState?_eq_some next with ⟨_, rfl⟩ | ⟨_, rfl⟩ <;> rfl
  | @take _ _ other _ _ _ _ accepting =>
      have before := (State.isSynchronized_of_acceptsText accepting).1
      exact genuine _ _ _ _ called ⟨before, ack, noSyn, noRst, quiet, half⟩

theorem Moves.balanced (moves : Moves call before output after) (genuine : before.Genuine call)
    (balanced : before.Balanced stream) :
    ∃ rest, after.Balanced rest ∧ (call.opens = false → rest = stream ++ output.accepted) := by
  -- The segment has to stay genuine on the way, or the next move could be misled by it.
  induction moves generalizing stream with
  | done => exact balanced.continued
  | step move _ ih =>
      obtain ⟨middle, balancedMiddle, wholeMiddle⟩ := move.balanced genuine balanced
      obtain ⟨rest, balancedRest, wholeRest⟩ :=
        ih (move.genuine genuine balancedMiddle) balancedMiddle
      refine ⟨rest, balancedRest, ?_⟩
      intro continued
      rw [wholeRest continued, wholeMiddle continued, Output.accepted_append, List.append_assoc]

end Balanced

end Endpoint

end RadioStack.Tcp
