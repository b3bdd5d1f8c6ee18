import RadioStack.Proofs.Tcp.Exchange

/-!
Two endpoints that cannot come to rest. Both have closed their sides and both FINs have been lost,
while something that is out of its place is still on its way: its receiver says what it expects, at
a number past its own FIN, which is out of its place again. Main statement: `Live.stuck_arrive_iff`.
-/

namespace RadioStack.Tcp

namespace Exchange

def Dull (exchange : Exchange) : Prop :=
  ∀ side, ∀ sent ∈ exchange.air side.other, ¬ (exchange.pair side).endpoint.Tells sent

def Closing (exchange : Exchange) : Prop :=
  ∀ side, (exchange.pair side).endpoint.state = .finWait1

/-- Both sides have closed and no FIN is on its way, but something that is out of its place. -/
structure Stuck (exchange : Exchange) : Prop where
  closing : exchange.Closing
  lost : ∀ side, ∀ sent ∈ exchange.air side, sent.header.flags.contains .fin = false
  astray : ∃ side, ∃ sent ∈ exchange.air side,
    sent.header.sequence ≠ (exchange.pair side.other).endpoint.receiveNext

variable {sockets : Side → Socket} {first : Pair} {exchange : Exchange} {side : Side}
  {sent : Segment} {rest : List Segment} {now : Instant}

namespace Live

variable (live : exchange.Live sockets first)

include live

/-- Once both sides wait for their FINs to be acknowledged, nothing else is left. -/
theorem numbers (closing : exchange.Closing) (side : Side) :
    let party := exchange.pair side
    let other := exchange.pair side.other
    party.endpoint.ring.toList = [] ∧ other.past.reported = party.past.accepted ∧
      party.endpoint.unacknowledged = ahead party.endpoint.config.initialSequence
        (1 + party.past.accepted.length) ∧
      party.endpoint.sendNext = ahead party.endpoint.config.initialSequence
        (1 + party.past.accepted.length + 1) ∧
      other.endpoint.receiveNext = ahead party.endpoint.config.initialSequence
        (1 + party.past.accepted.length) := by
  have state := closing side
  have sends := (live.safe side).sends
  have running : (exchange.pair side).endpoint.state ≠ .closed := by rw [state]; nofun
  obtain ⟨dropped, ledger, whole⟩ := live.ledger running
  have drained := ledger.drained (by rw [state]; rfl)
  rw [drained, List.append_nil] at whole
  have kept := sends.kept running
  rw [drained] at kept
  have reported := sends.held.eq_of_length_le kept
  have next := ledger.next_of_finInFlight (by rw [state]; rfl)
  rw [drained, List.append_nil, ← whole] at next
  have oldest := ledger.oldest
  rw [state, ← whole] at oldest
  have expected := sends.expected (by rw [closing side.other]; rfl)
  rw [closing side.other, reported] at expected
  exact ⟨drained, reported, oldest, next, expected⟩

theorem work_of_closing (closing : exchange.Closing) : exchange.work = 6 := by
  have each (side : Side) : exchange.pair.work side = 3 := by
    obtain ⟨drained, _⟩ := live.numbers closing side
    obtain ⟨_, reported, _⟩ := live.numbers closing side.other
    rw [Pair.other_other] at reported
    rw [Pair.work, closing side, drained, reported, Nat.sub_self]
    rfl
  rw [work, each, each]

theorem sendNext_ne_receiveNext (closing : exchange.Closing) (side : Side) :
    (exchange.pair side).endpoint.sendNext ≠ (exchange.pair side.other).endpoint.receiveNext := by
  obtain ⟨_, _, _, next, expected⟩ := live.numbers closing side
  have bounded := live.bounded side
  intro same
  rw [next, expected] at same
  have equal := ahead_injective _ (by omega) (by omega) same
  omega

theorem inPlace (heard : sent ∈ exchange.air side.other)
    (accepting : (exchange.pair side).endpoint.state.acceptsText)
    (untold : ¬ (exchange.pair side).endpoint.Tells sent)
    (inOrder : sent.header.sequence = (exchange.pair side).endpoint.receiveNext) :
    (exchange.pair side).endpoint.InPlace sent := by
  have noSyn : sent.header.flags.contains .syn = false := by
    rw [← Bool.not_eq_true]
    intro syn
    have expected := (live.safe side).receives.expected (State.knowsPeer_of_acceptsText accepting).1
    have held := (live.safe side).receives.held.length_le
    have bounded := live.bounded side.other
    have finished := (exchange.pair side).endpoint.state.peerFinished.toNat_le
    rw [← inOrder, sequence_of_syn (live.labelled heard) syn] at expected
    have zero := ahead_injective _ (by omega) (by omega) ((ahead_zero _).trans expected)
    omega
  refine ⟨noSyn, inOrder, ?_⟩
  apply Decidable.byContradiction
  exact fun occupied => untold (.take accepting noSyn inOrder occupied)

theorem tells_of_fin (closing : exchange.Closing) (heard : sent ∈ exchange.air side.other)
    (fin : sent.header.flags.contains .fin) : (exchange.pair side).endpoint.Tells sent := by
  have noSyn := live.reached.plain live.begins.plain _ sent (live.sent _ sent heard) fin
  obtain ⟨_, _, _, _, expected⟩ := live.numbers closing side.other
  rw [Pair.other_other] at expected
  cases (live.labelled heard).carries with
  | syn syn => rw [noSyn] at syn; cases syn
  | bare _ noFin | text _ noFin => rw [fin] at noFin; cases noFin
  | fin _ _ empty _ place =>
      refine .take (by rw [closing side]; rfl) noSyn (place.trans expected.symm) ?_
      exact Endpoint.span_ne_zero (.inr (.inl fin)) (by rw [empty]; exact Nat.zero_le _)

theorem not_acknowledges (closing : exchange.Closing) (heard : sent ∈ exchange.air side.other) :
    ¬ (exchange.pair side).endpoint.Acknowledges sent.header := by
  intro covers
  obtain ⟨_, reported, oldest, next, _⟩ := live.numbers closing side
  have bounded := live.bounded side
  have member := live.sent side.other sent heard
  rcases (live.closes side.other).counted sent member covers.ack with
    once | ⟨taken, counted, number⟩
  · have finished := once.peerFinished live.begins.safe live.begins.apart live.bounded
    rw [closing side.other] at finished
    rcases finished with finished | closed
    · cases finished
    · cases closed
  · rw [Pair.other_other] at number
    rw [reported] at counted
    have width : ((exchange.pair side).endpoint.sendNext -
        (exchange.pair side).endpoint.unacknowledged).toNat = 1 := by
      rw [oldest, next, toNat_ahead_sub _ (by omega) (by omega)]
      omega
    have within := covers.within
    have new := covers.new
    rw [inWindow_iff _ _ _ (by omega), width] at within
    have less : taken < (exchange.pair side).past.accepted.length := by
      apply Nat.lt_of_le_of_ne counted
      intro all
      exact new (by rw [number, oldest, all])
    rw [number, oldest, toNat_ahead_sub_of_lt _ (by omega) (by omega)] at within
    omega

theorem dull_of_closing (closing : exchange.Closing)
    (lost : ∀ side, ∀ sent ∈ exchange.air side, sent.header.flags.contains .fin = false) :
    exchange.Dull := by
  intro side sent heard tells
  have state := closing side
  cases tells with
  | welcome opening | establish opening | confirm opening => rw [state] at opening; cases opening
  | acknowledge _ covers => exact live.not_acknowledges closing heard covers
  | take accepting noSyn inOrder occupied =>
      obtain ⟨_, reported, _⟩ := live.numbers closing side.other
      rw [Pair.other_other] at reported
      obtain ⟨part, span, _⟩ := (live.safe side).receives.next_piece (live.bounded side.other)
        (State.knowsPeer_of_acceptsText accepting).1 (by rw [state]; rfl)
        (live.labelled heard).carries noSyn inOrder occupied
      have length := part.length_le
      rw [List.length_append, reported] at length
      have empty : sent.payload.length = 0 := by omega
      rw [lost side.other sent heard, empty] at span
      exact occupied (by rw [empty]; exact span)

theorem current_of_closing (closing : exchange.Closing) (heard : sent ∈ exchange.air side.other)
    (untold : ¬ (exchange.pair side).endpoint.Tells sent) (now : Instant) :
    ((exchange.pair side).act (sent.arrival now)).endpoint.core =
        (exchange.pair side).endpoint.core ∧
      (∀ answer ∈ (exchange.pair side).answers now sent,
        (exchange.pair side).endpoint.Current answer) ∧
      ((exchange.pair side).answers now sent ≠ [] ↔
        sent.header.sequence ≠ (exchange.pair side).endpoint.receiveNext) := by
  have state := closing side
  obtain ⟨drained, _⟩ := live.numbers closing side
  obtain ⟨same, echoes⟩ := live.echoes heard (by rw [state]; rfl) untold now
  have nobody {answer : Segment} (oldest : (exchange.pair side).endpoint.Oldest answer) : False :=
    oldest.held drained
  refine ⟨same, fun answer member => (echoes.known answer member).resolve_right nobody, ?_, ?_⟩
  · intro pending inOrder
    have place := live.inPlace heard (by rw [state]; rfl) untold inOrder
    obtain ⟨answer, member⟩ := List.exists_mem_of_ne_nil _ pending
    exact nobody (echoes.silent place answer member)
  · intro astray
    obtain ⟨answer, member, _⟩ := echoes.elsewhere astray
    exact List.ne_nil_of_mem member

theorem stuck_arrive (stuck : exchange.Stuck) (oldest : exchange.air side.other = sent :: rest)
    (now : Instant) : (exchange.arrive side now sent rest).Stuck := by
  have heard : sent ∈ exchange.air side.other := oldest ▸ List.mem_cons_self
  obtain ⟨same, current, answered⟩ := live.current_of_closing stuck.closing heard
    (live.dull_of_closing stuck.closing stuck.lost side sent heard) now
  refine ⟨?_, ?_, ?_⟩
  · exact forall_pair_arrive (motive := fun _ party => party.endpoint.state = .finWait1)
      ((congrArg Endpoint.state same).trans (stuck.closing side)) (stuck.closing side.other)
  · intro who later member
    rcases mem_air_arrive oldest member with old | ⟨rfl, new⟩
    · exact stuck.lost who later old
    · rw [(current later new).flags]
      decide
  · obtain ⟨who, stray, member, astray⟩ := stuck.astray
    rcases who.eq_or_eq_other side with rfl | rfl
    · refine ⟨who, stray, ?_, ?_⟩
      · rw [air_arrive_self]
        exact List.mem_append_left _ member
      · rwa [pair_arrive_other]
    · rw [Pair.other_other] at astray
      rw [oldest] at member
      rcases List.mem_cons.mp member with rfl | later
      · -- What arrives is answered with a number past the FIN, which the other does not expect.
        obtain ⟨answer, new⟩ := List.exists_mem_of_ne_nil _ (answered.mpr astray)
        refine ⟨side, answer, ?_, ?_⟩
        · rw [air_arrive_self]
          exact List.mem_append_right _ new
        · rw [pair_arrive_other, (current answer new).sequence]
          exact live.sendNext_ne_receiveNext stuck.closing side
      · refine ⟨side.other, stray, ?_, ?_⟩
        · rwa [air_arrive_other]
        · have expected := congrArg Endpoint.receiveNext same
          rw [Pair.other_other, pair_arrive_self]
          exact fun inOrder => astray (inOrder.trans expected)

theorem stuck_of_arrive (oldest : exchange.air side.other = sent :: rest)
    (stuck : (exchange.arrive side now sent rest).Stuck) : exchange.Stuck := by
  have heard : sent ∈ exchange.air side.other := oldest ▸ List.mem_cons_self
  have closing : exchange.Closing := by
    have peer : (exchange.pair side.other).endpoint.state = .finWait1 := by
      rw [← stuck.closing side.other, pair_arrive_other]
    have own : (exchange.pair side).endpoint.state = .finWait1 := by
      have after := stuck.closing side
      rw [pair_arrive_self] at after
      have known : (exchange.pair side).endpoint.state = .synReceived ∨
          (exchange.pair side).endpoint.state.isSynchronized := by
        refine (exchange.pair side).endpoint.state.opening_or_known.resolve_left ?_
        rintro (closed | opening)
        · have same : ((exchange.pair side).act (sent.arrival now)).endpoint.state = _ :=
            congrArg Endpoint.state (Endpoint.receive_of_closed closed).1
          rw [after, closed] at same
          cases same
        · have alone := (live.agree side).alone opening
          rw [peer] at alone
          cases alone
      refine (Endpoint.receive_showsFin (live.agree side).bound (live.labelled heard).noRst known
        now sent.ip sent.payload after).resolve_right ?_
      -- A FIN that has just been sent is on its way.
      rintro ⟨answer, member, fin⟩
      have lost := stuck.lost side answer (by
        rw [air_arrive_self]
        exact List.mem_append_right _ member)
      rw [fin] at lost
      cases lost
    intro who
    rcases who.eq_or_eq_other side with rfl | rfl
    · exact own
    · exact peer
  have untold : ¬ (exchange.pair side).endpoint.Tells sent := by
    intro tells
    have less := live.work_lt oldest tells now
    rw [live.work_of_closing closing,
      (live.arrive oldest now).work_of_closing stuck.closing] at less
    exact Nat.lt_irrefl _ less
  obtain ⟨same, current, answered⟩ := live.current_of_closing closing heard untold now
  refine ⟨closing, ?_, ?_⟩
  · intro who segment member
    rcases who.eq_or_eq_other side with rfl | rfl
    · apply stuck.lost who segment
      rw [air_arrive_self]
      exact List.mem_append_left _ member
    · rw [oldest] at member
      rcases List.mem_cons.mp member with rfl | later
      · rw [← Bool.not_eq_true]
        exact fun fin => untold (live.tells_of_fin closing heard fin)
      · apply stuck.lost side.other segment
        rwa [air_arrive_other]
  · obtain ⟨who, stray, member, astray⟩ := stuck.astray
    rcases who.eq_or_eq_other side with rfl | rfl
    · rw [air_arrive_self] at member
      rcases List.mem_append.mp member with old | new
      · rw [pair_arrive_other] at astray
        exact ⟨who, stray, old, astray⟩
      · refine ⟨who.other, sent, heard, ?_⟩
        rw [Pair.other_other]
        exact answered.mp (List.ne_nil_of_mem new)
    · rw [air_arrive_other] at member
      refine ⟨side.other, stray, oldest ▸ List.mem_cons_of_mem sent member, ?_⟩
      have expected := congrArg Endpoint.receiveNext same
      rw [Pair.other_other, pair_arrive_self] at astray
      rw [Pair.other_other]
      exact fun inOrder => astray (inOrder.trans expected.symm)

/-- No arrival changes whether an exchange can come to rest. -/
theorem stuck_arrive_iff (oldest : exchange.air side.other = sent :: rest) (now : Instant) :
    (exchange.arrive side now sent rest).Stuck ↔ exchange.Stuck :=
  ⟨live.stuck_of_arrive oldest, fun stuck => live.stuck_arrive stuck oldest now⟩

end Live

end Exchange

end RadioStack.Tcp
