import RadioStack.Proofs.Tcp.Stuck

/-!
Two endpoints that are left to themselves come to rest, unless they are stuck: a segment that has
something new is worked off, and where nothing is new, the answers on one of the ways die out.
Main statement: `reachable_rests_iff`.
-/

namespace RadioStack.Tcp

namespace State

variable {state : State}

theorem flagsSent_of_finished (synchronized : state.isSynchronized) (ended : state.finished) :
    state.flagsSent = 2 := by
  cases state <;> simp_all [finished, isSynchronized, flagsSent]

theorem finWait1_of_continuing (inFlight : state.finInFlight)
    (continuing : state.peerFinished = false) : state = .finWait1 := by
  cases state <;> simp_all [finInFlight, peerFinished]

theorem flagsAcknowledged_le_one (unknown : state.finAcknowledged = false) :
    state.flagsAcknowledged ≤ 1 := by
  cases state <;> first | decide | cases unknown

end State

namespace Exchange

def Stays (before after : Exchange) : Prop :=
  ∀ side, (after.pair side).endpoint.core = (before.pair side).endpoint.core

structure Pending (sockets : Side → Socket) (first : Pair) (most : Nat) (exchange : Exchange) :
    Prop where
  live : exchange.Live sockets first
  within : exchange.work ≤ most
  free : ¬ exchange.Stuck

def Settles (sockets : Side → Socket) (first : Pair) (most : Nat) : Prop :=
  ∀ exchange : Exchange, exchange.Live sockets first → exchange.work < most →
    ¬ exchange.Stuck → exchange.ComesToRest

variable {sockets : Side → Socket} {first : Pair} {exchange next : Exchange} {side : Side}
  {sent : Segment} {rest : List Segment} {now : Instant} {most : Nat}

section Stays

variable (stays : exchange.Stays next) (side : Side)

include stays

theorem Stays.state :
    (next.pair side).endpoint.state = (exchange.pair side).endpoint.state :=
  (congrArg Endpoint.state (stays side) :)

theorem Stays.ring : (next.pair side).endpoint.ring = (exchange.pair side).endpoint.ring :=
  (congrArg Endpoint.ring (stays side) :)

theorem Stays.unacknowledged :
    (next.pair side).endpoint.unacknowledged = (exchange.pair side).endpoint.unacknowledged :=
  (congrArg Endpoint.unacknowledged (stays side) :)

theorem Stays.receiveNext :
    (next.pair side).endpoint.receiveNext = (exchange.pair side).endpoint.receiveNext :=
  (congrArg Endpoint.receiveNext (stays side) :)

end Stays

theorem Stays.arrive (stays : exchange.Stays next)
    (same : ((next.pair side).act (sent.arrival now)).endpoint.core =
      (next.pair side).endpoint.core) :
    exchange.Stays (next.arrive side now sent rest) :=
  forall_pair_arrive
    (motive := fun who party => party.endpoint.core = (exchange.pair who).endpoint.core)
    (same.trans (stays side)) (stays side.other)

namespace Live

variable (live : exchange.Live sockets first)

include live

/-- Whoever has taken something that the other does not know to be acknowledged says so with
whatever it sends. -/
theorem tells_of_behind (own : (exchange.pair side).endpoint.state.isSynchronized)
    (peer : (exchange.pair side.other).endpoint.state.isSynchronized)
    (behind : (exchange.pair side.other).endpoint.receiveNext ≠
      (exchange.pair side).endpoint.unacknowledged)
    (repeats : (exchange.pair side.other).endpoint.Repeat sent) :
    (exchange.pair side).endpoint.Tells sent := by
  obtain ⟨noSyn, ack, noRst, number⟩ := repeats.facts
  refine .acknowledge own ⟨ack, noSyn, noRst, ?_, by rwa [number]⟩
  have running := (State.IsSynchronized.ne own).1
  have sends := (live.safe side).sends
  obtain ⟨dropped, ledger, whole⟩ := live.ledger running
  have expected := sends.expected (State.knowsPeer_of_isSynchronized peer)
  have held := sends.held.length_le
  have kept := sends.kept running
  have bounded := live.bounded side
  have length := congrArg List.length whole
  rw [List.length_append] at length
  have flags := (exchange.pair side).endpoint.state.flagsSent_le
  have flags' := (exchange.pair side).endpoint.state.flagsAcknowledged_le
  have flags'' := (exchange.pair side).endpoint.state.flagsAcknowledged_pos own
  -- What the other expects lies between the oldest number and the next.
  have least : (exchange.pair side).endpoint.state.flagsAcknowledged ≤
      1 + (exchange.pair side.other).endpoint.state.peerFinished.toNat := by
    cases acknowledged : (exchange.pair side).endpoint.state.finAcknowledged with
    | false => exact Nat.le_add_right_of_le (State.flagsAcknowledged_le_one acknowledged)
    | true =>
        have finished := (live.peerFinished_of_finAcknowledged acknowledged).resolve_right
          (State.IsSynchronized.ne peer).1
        rw [finished, Bool.toNat_true]
        omega
  have most : (exchange.pair side.other).endpoint.state.peerFinished.toNat + 1 ≤
      (exchange.pair side).endpoint.state.flagsSent := by
    cases finished : (exchange.pair side.other).endpoint.state.peerFinished with
    | false =>
        rw [Bool.toNat_false]
        omega
    | true => exact Nat.le_of_eq (State.flagsSent_of_finished own (sends.whole finished).1).symm
  rw [number, expected, ledger.oldest, ledger.next, inWindow_iff _ _ _ (by
    rw [toNat_ahead_sub _ (by omega) (by omega)]; omega)]
  left
  rw [toNat_ahead_sub _ (by omega) (by omega), toNat_ahead_sub _ (by omega) (by omega)]
  omega

theorem tells_of_oldest (own : (exchange.pair side).endpoint.state.isSynchronized)
    (peer : (exchange.pair side.other).endpoint.state.isSynchronized)
    (level : (exchange.pair side.other).endpoint.receiveNext =
      (exchange.pair side).endpoint.unacknowledged)
    (again : (exchange.pair side).endpoint.Oldest sent) :
    (exchange.pair side.other).endpoint.Tells sent := by
  have noSyn : sent.header.flags.contains .syn = false := by
    rw [again.flags]
    decide
  obtain ⟨dropped, ledger, _⟩ := live.ledger (State.IsSynchronized.ne own).1
  have accepting : (exchange.pair side.other).endpoint.state.acceptsText := by
    refine State.acceptsText_of_continuing peer ?_
    rw [← Bool.not_eq_true]
    intro finished
    -- Whoever has data to be acknowledged has not closed.
    have ended := ((live.safe side).sends.whole finished).1
    have carries : (exchange.pair side).endpoint.state.carriesData := by
      rw [← Bool.not_eq_false]
      exact fun empty => again.held (ledger.drained empty)
    rw [State.finished_of_carriesData carries] at ended
    cases ended
  refine .take accepting noSyn (again.sequence.trans level.symm) ?_
  exact Endpoint.span_ne_zero
    (.inl fun empty => again.nonempty (List.eq_nil_of_length_eq_zero empty)) again.short

end Live

namespace Pending

variable (settles : Settles sockets first most) (pending : exchange.Pending sockets first most)

theorem arrive (pending : exchange.Pending sockets first most)
    (oldest : exchange.air side.other = sent :: rest) (now : Instant) :
    (exchange.arrive side now sent rest).Pending sockets first most where
  live := pending.live.arrive oldest now
  within := Nat.le_trans work_arrive_le pending.within
  free := fun stuck => pending.free ((pending.live.stuck_arrive_iff oldest now).mp stuck)

include settles pending

theorem rests_arrive (oldest : exchange.air side.other = sent :: rest)
    (tells : (exchange.pair side).endpoint.Tells sent) (now : Instant) :
    (exchange.arrive side now sent rest).ComesToRest :=
  settles _ (pending.live.arrive oldest now)
    (Nat.lt_of_lt_of_le (pending.live.work_lt oldest tells now) pending.within)
    (pending.arrive oldest now).free

/-- What is new to its receiver arrives in the end, whatever else is on its way. -/
theorem rests_of_tells (side : Side) {early late : List Segment}
    (onWay : exchange.air side.other = early ++ sent :: late)
    (tells : (exchange.pair side).endpoint.Tells sent) : exchange.ComesToRest := by
  -- Whatever comes before it is answered with two segments at most, on the other way.
  induction measure : 3 * early.length + (exchange.air side).length using Nat.strongRecOn
    generalizing exchange early late with
  | ind size ih =>
  apply ComesToRest.of_next
  rintro _ @⟨who, arrived, rest, now, oldest⟩
  by_cases told : (exchange.pair who).endpoint.Tells arrived
  · exact pending.rests_arrive settles oldest told now
  · obtain ⟨same, few⟩ := pending.live.still (oldest ▸ List.mem_cons_self) told now
    rcases who.eq_or_eq_other side with rfl | rfl
    · cases early with
      | nil =>
          rw [oldest] at onWay
          cases onWay
          exact absurd tells told
      | cons head early =>
          rw [oldest] at onWay
          cases onWay
          refine ih _ ?_ (pending.arrive oldest now) air_arrive_other ?_ rfl
          · rw [air_arrive_self, List.length_append, ← measure, List.length_cons]
            omega
          · rw [pair_arrive_self]
            exact tells.congr same
    · have onWayNext : (exchange.arrive side.other now arrived rest).air side.other =
          early ++ sent :: (late ++ (exchange.pair side.other).answers now arrived) := by
        rw [air_arrive_self, onWay, List.append_assoc]
        rfl
      refine ih _ ?_ (pending.arrive oldest now) onWayNext ?_ rfl
      · rw [Pair.other_other] at oldest
        rw [air_arrive_at_other, ← measure, oldest, List.length_cons]
        omega
      · rwa [pair_arrive_at_other]

theorem rests_of_mem (side : Side) (onWay : sent ∈ exchange.air side.other)
    (tells : (exchange.pair side).endpoint.Tells sent) : exchange.ComesToRest := by
  obtain ⟨early, late, parted⟩ := List.append_of_mem onWay
  exact pending.rests_of_tells settles side parted tells

theorem rests_of_answer (oldest : exchange.air side.other = sent :: rest) {answer : Segment}
    (member : answer ∈ (exchange.pair side).answers now sent)
    (tells : (exchange.pair side.other).endpoint.Tells answer) :
    (exchange.arrive side now sent rest).ComesToRest := by
  rw [← pair_arrive_other] at tells
  refine (pending.arrive oldest now).rests_of_mem settles side.other ?_ tells
  rw [Pair.other_other, air_arrive_self]
  exact List.mem_append_right _ member

end Pending

/-- The answers on the way to a side die out: whatever the other side answers is new to this one,
or calm; and what is calm is not answered, or with something new. -/
structure DiesOut (sockets : Side → Socket) (first : Pair) (most : Nat) (exchange : Exchange)
    (side : Side) (calm : Segment → Prop) : Prop where
  answers : ∀ next : Exchange, next.Pending sockets first most → exchange.Stays next → next.Dull →
    ∀ sent ∈ next.air side, ∀ now, ∀ answer ∈ (next.pair side.other).answers now sent,
      (next.pair side).endpoint.Tells answer ∨ calm answer
  silent : ∀ next : Exchange, next.Pending sockets first most → exchange.Stays next → next.Dull →
    ∀ sent ∈ next.air side.other, calm sent → ∀ now, (next.pair side).answers now sent = [] ∨
      ∃ answer ∈ (next.pair side).answers now sent, (next.pair side.other).endpoint.Tells answer

/-- What was on the way to a side in the beginning is still there in part, and all that comes
behind it is calm. -/
structure Abates (exchange : Exchange) (side : Side) (calm : Segment → Prop)
    (old fresh : List Segment) (next : Exchange) : Prop where
  stays : exchange.Stays next
  onWay : next.air side.other = old ++ fresh
  calmed : ∀ sent ∈ fresh, calm sent

/-- How many arrivals there can be: everything is answered twice at most, what is calm not at
all. -/
def toll (next : Exchange) (side : Side) (old fresh : List Segment) : Nat :=
  7 * old.length + fresh.length + 3 * (next.air side).length

section DiesOut

variable {calm : Segment → Prop} {old fresh : List Segment}
  (settles : Settles sockets first most)
  (dies : exchange.DiesOut sockets first most side calm)
  (abates : exchange.Abates side calm old fresh next)
  (pending : next.Pending sockets first most) (dull : next.Dull)

include settles dies abates pending dull

theorem Abates.hear (oldest : next.air side.other = sent :: rest) (now : Instant) :
    (next.arrive side now sent rest).ComesToRest ∨
      ∃ left behind, exchange.Abates side calm left behind (next.arrive side now sent rest) ∧
        (next.arrive side now sent rest).toll side left behind < next.toll side old fresh := by
  have heard : sent ∈ next.air side.other := oldest ▸ List.mem_cons_self
  obtain ⟨same, few⟩ := pending.live.still heard (dull side sent heard) now
  have onWay := oldest.symm.trans abates.onWay
  cases old with
  | nil =>
      rw [List.nil_append] at onWay
      subst onWay
      rcases dies.silent next pending abates.stays dull sent heard
        (abates.calmed sent List.mem_cons_self) now with silent | ⟨answer, member, tells⟩
      · right
        refine ⟨[], rest, ⟨abates.stays.arrive same, air_arrive_other, ?_⟩, ?_⟩
        · exact fun later member => abates.calmed later (List.mem_cons_of_mem _ member)
        · rw [toll, toll, air_arrive_self, silent, List.append_nil, List.length_cons]
          omega
      · exact .inl (pending.rests_of_answer settles oldest member tells)
  | cons head old =>
      cases onWay
      right
      refine ⟨old, fresh, ⟨abates.stays.arrive same, air_arrive_other, abates.calmed⟩, ?_⟩
      rw [toll, toll, air_arrive_self, List.length_append, List.length_cons]
      omega

theorem Abates.answer (oldest : next.air side.other.other = sent :: rest) (now : Instant) :
    (next.arrive side.other now sent rest).ComesToRest ∨
      ∃ left behind,
        exchange.Abates side calm left behind (next.arrive side.other now sent rest) ∧
        (next.arrive side.other now sent rest).toll side left behind <
          next.toll side old fresh := by
  have heard : sent ∈ next.air side.other.other := oldest ▸ List.mem_cons_self
  obtain ⟨same, few⟩ := pending.live.still heard (dull side.other sent heard) now
  by_cases told : ∃ answer ∈ (next.pair side.other).answers now sent,
      (next.pair side.other.other).endpoint.Tells answer
  · obtain ⟨answer, member, tells⟩ := told
    exact .inl (pending.rests_of_answer settles oldest member tells)
  · right
    rw [Pair.other_other] at oldest heard told
    refine ⟨old, fresh ++ (next.pair side.other).answers now sent,
      ⟨abates.stays.arrive same, ?_, ?_⟩, ?_⟩
    · rw [air_arrive_self, abates.onWay, List.append_assoc]
    · intro answer member
      rcases List.mem_append.mp member with early | new
      · exact abates.calmed answer early
      · exact (dies.answers next pending abates.stays dull sent heard now answer new).resolve_left
          fun tells => told ⟨answer, new, tells⟩
    · rw [toll, toll, air_arrive_at_other, List.length_append, oldest, List.length_cons]
      omega

end DiesOut

namespace Pending

variable (settles : Settles sockets first most) (pending : exchange.Pending sockets first most)

include settles pending

theorem rests_of_diesOut {calm : Segment → Prop}
    (dies : exchange.DiesOut sockets first most side calm) : exchange.ComesToRest := by
  have all (size : Nat) : ∀ (next : Exchange) (old fresh : List Segment),
      next.Pending sockets first most → exchange.Abates side calm old fresh next →
      next.toll side old fresh = size → next.ComesToRest := by
    induction size using Nat.strongRecOn with
    | ind size ih =>
    intro next old fresh pending abates measure
    by_cases dull : next.Dull
    · apply ComesToRest.of_next
      rintro _ @⟨who, sent, rest, now, oldest⟩
      rcases who.eq_or_eq_other side with rfl | rfl
      · rcases abates.hear settles dies pending dull oldest now with
          rests | ⟨_, _, later, less⟩
        · exact rests
        · exact ih _ (measure ▸ less) _ _ _ (pending.arrive oldest now) later rfl
      · rcases abates.answer settles dies pending dull oldest now with
          rests | ⟨_, _, later, less⟩
        · exact rests
        · exact ih _ (measure ▸ less) _ _ _ (pending.arrive oldest now) later rfl
    · obtain ⟨who, untrue⟩ := Classical.not_forall.mp dull
      obtain ⟨sent, untrue⟩ := Classical.not_forall.mp untrue
      obtain ⟨heard, tells⟩ := Classical.not_imp.mp untrue
      exact pending.rests_of_mem settles who heard (Classical.not_not.mp tells)
  exact all _ exchange _ [] pending ⟨fun _ => rfl, (List.append_nil _).symm, nofun⟩ rfl

theorem rests_of_unheard (side : Side)
    (unknown : (exchange.pair side.other).endpoint.state = .closed ∨
    (exchange.pair side.other).endpoint.state = .listen ∨
    (exchange.pair side.other).endpoint.state = .synSent) : exchange.ComesToRest := by
  have dies : exchange.DiesOut sockets first most side fun _ => False := ⟨?_, nofun⟩
  · exact pending.rests_of_diesOut settles dies
  intro next pendingNext stays dull sent onWay now answer member
  rw [← stays.state] at unknown
  have heard : sent ∈ next.air side.other.other := by rwa [Pair.other_other]
  obtain ⟨_, silent⟩ := Endpoint.receive_unheard unknown (pendingNext.live.labelled heard).noRst
    (dull side.other sent heard) now
  change answer ∈ (Endpoint.receive now _ _ _ _).segments at member
  rw [silent] at member
  cases member

/-- A synchronized endpoint only repeats what is known, so it is enough to know what these
repetitions do. -/
theorem rests_of_repeats (side : Side) (calm : Segment → Prop)
    (synchronized : (exchange.pair side.other).endpoint.state.isSynchronized)
    (tell : ∀ next : Exchange, next.Live sockets first → exchange.Stays next → ∀ answer,
      (next.pair side.other).endpoint.Repeat answer →
        (next.pair side).endpoint.Tells answer ∨ calm answer)
    (silent : ∀ next : Exchange, next.Live sockets first → exchange.Stays next → next.Dull →
      ∀ sent ∈ next.air side.other, calm sent → ∀ now,
        (next.pair side).answers now sent = [] ∨
          ∃ answer ∈ (next.pair side).answers now sent,
            (next.pair side.other).endpoint.Tells answer) : exchange.ComesToRest := by
  have dies : exchange.DiesOut sockets first most side calm :=
    ⟨?_, fun next pendingNext => silent next pendingNext.live⟩
  · exact pending.rests_of_diesOut settles dies
  intro next pendingNext stays dull sent onWay now answer member
  have heard : sent ∈ next.air side.other.other := by rwa [Pair.other_other]
  rw [← stays.state] at synchronized
  obtain ⟨_, echoes⟩ :=
    pendingNext.live.echoes heard synchronized (dull side.other sent heard) now
  exact tell next pendingNext.live stays answer (echoes.known answer member)

theorem rests_of_answered (side : Side)
    (answered : (exchange.pair side).endpoint.state = .synReceived)
    (peer : (exchange.pair side.other).endpoint.state.isSynchronized) :
    exchange.ComesToRest := by
  refine pending.rests_of_repeats settles side (fun _ => False) peer ?_ nofun
  intro next _ stays answer repeats
  obtain ⟨noSyn, ack, _⟩ := repeats.facts
  exact .inl (.confirm (by rw [stays.state, answered]) noSyn ack)

theorem rests_of_behind (own : (exchange.pair side).endpoint.state.isSynchronized)
    (peer : (exchange.pair side.other).endpoint.state.isSynchronized)
    (behind : (exchange.pair side.other).endpoint.receiveNext ≠
      (exchange.pair side).endpoint.unacknowledged) : exchange.ComesToRest := by
  refine pending.rests_of_repeats settles side (fun _ => False) peer ?_ nofun
  intro next live stays answer repeats
  rw [← stays.state] at own peer
  rw [← stays.receiveNext, ← stays.unacknowledged] at behind
  exact .inl (live.tells_of_behind own peer behind repeats)

/-- Where either side knows all that the other has taken, an acknowledgment is calm if it asks for
data or is in its place. -/
theorem rests_of_level (synchronized : ∀ side, (exchange.pair side).endpoint.state.isSynchronized)
    (level : ∀ side, (exchange.pair side.other).endpoint.receiveNext =
      (exchange.pair side).endpoint.unacknowledged) (side : Side)
    (ready : (exchange.pair side).endpoint.ring.toList ≠ [] ∨
      ((exchange.pair side).endpoint.ring.toList = [] ∧
        (exchange.pair side.other).endpoint.sendNext =
          (exchange.pair side).endpoint.receiveNext)) : exchange.ComesToRest := by
  have tells {next : Exchange} (live : next.Live sockets first) (stays : exchange.Stays next)
      {who : Side} {answer : Segment} (again : (next.pair who).endpoint.Oldest answer) :
      (next.pair who.other).endpoint.Tells answer := by
    apply live.tells_of_oldest (by rw [stays.state]; exact synchronized who)
      (by rw [stays.state]; exact synchronized who.other) _ again
    rw [stays.receiveNext, stays.unacknowledged]
    exact level who
  refine pending.rests_of_repeats settles side (exchange.pair side.other).endpoint.Current
    (synchronized side.other) ?_ ?_
  · intro next live stays answer repeats
    rcases repeats with current | again
    · exact .inr (current.congr (stays side.other).symm)
    · left
      have tells := tells live stays again
      rwa [Pair.other_other] at tells
  · intro next live stays dull sent heard current now
    obtain ⟨_, echoes⟩ := live.echoes heard (by rw [stays.state]; exact synchronized side)
      (dull side sent heard) now
    have noSyn : sent.header.flags.contains .syn = false := by rw [current.flags]; decide
    have noFin : sent.header.flags.contains .fin = false := by rw [current.flags]; decide
    rcases ready with held | ⟨drained, placed⟩
    · right
      have asked : (next.pair side).endpoint.Prompts sent := by
        refine ⟨noSyn, by rw [current.flags]; decide, ?_, current.empty, noFin, ?_⟩
        · rw [stays.unacknowledged, ← level side, current.acknowledgment]
        · rwa [stays.ring]
      obtain ⟨answer, member, again⟩ := echoes.prompted asked
      exact ⟨answer, member, tells live stays again⟩
    · left
      have place : (next.pair side).endpoint.InPlace sent := by
        refine ⟨noSyn, ?_, ?_⟩
        · rw [stays.receiveNext, ← placed, current.sequence]
        · rw [current.empty, Header.span, noSyn, noFin]
          rfl
      refine List.eq_nil_iff_forall_not_mem.mpr ?_
      intro answer member
      have held := (echoes.silent place answer member).held
      rw [stays.ring] at held
      exact held drained

/-- Where both sides wait for their FINs and are not stuck, all that is on its way is in its
place. -/
theorem rests_of_closing (closing : exchange.Closing) : exchange.ComesToRest := by
  have dies : exchange.DiesOut sockets first most .opener fun _ => False := ⟨?_, nofun⟩
  · exact pending.rests_of_diesOut settles dies
  intro next pendingNext stays dull sent heard now answer member
  have closingNext : next.Closing := fun who => by rw [stays.state, closing who]
  obtain ⟨_, _, answered⟩ := (pendingNext.live.current_of_closing closingNext heard
    (dull .listener sent heard) now :)
  have astray := answered.mp (List.ne_nil_of_mem member)
  refine absurd ⟨closingNext, ?_, .opener, sent, heard, astray⟩ pendingNext.free
  intro who segment onWay
  rw [← Bool.not_eq_true]
  intro fin
  have heard : segment ∈ next.air who.other.other := by rwa [Pair.other_other]
  exact dull who.other segment heard (pendingNext.live.tells_of_fin closingNext heard fin)

end Pending

theorem Live.closing_of_apart (live : exchange.Live sockets first)
    (synchronized : ∀ side, (exchange.pair side).endpoint.state.isSynchronized)
    (level : ∀ side, (exchange.pair side.other).endpoint.receiveNext =
      (exchange.pair side).endpoint.unacknowledged)
    (drained : ∀ side, (exchange.pair side).endpoint.ring.toList = [])
    (apart : ∀ side, (exchange.pair side.other).endpoint.sendNext ≠
      (exchange.pair side).endpoint.receiveNext) : exchange.Closing := by
  have running (side : Side) := State.IsSynchronized.ne (synchronized side)
  have inFlight (side : Side) : (exchange.pair side.other).endpoint.state.finInFlight := by
    obtain ⟨dropped, ledger, _⟩ := live.ledger (running side.other).1
    have outstanding : (exchange.pair side.other).endpoint.unacknowledged ≠
        (exchange.pair side.other).endpoint.sendNext := by
      intro same
      apply apart side
      rw [← same, ← level side.other, Pair.other_other]
    rcases ledger.inFlight outstanding with state | state | fin | ⟨_, held⟩
    · exact absurd state (running side.other).2.2.1
    · exact absurd state (running side.other).2.2.2
    · exact fin
    · exact absurd (drained side.other) held
  intro side
  have own := inFlight side.other
  rw [Pair.other_other] at own
  have continuing : (exchange.pair side).endpoint.state.peerFinished = false := by
    rw [← Bool.not_eq_true]
    intro finished
    -- Whoever has taken the FIN of the other expects the number after it.
    apply apart side
    have receives := (live.safe side).receives
    obtain ⟨dropped, ledger, whole⟩ := live.ledger (running side.other).1
    rw [ledger.next_of_finInFlight (inFlight side), ← whole,
      receives.expected (State.knowsPeer_of_peerFinished finished), (receives.whole finished).2,
      finished]
    rfl
  exact State.finWait1_of_continuing own continuing

theorem Pending.rests_of_synchronized (settles : Settles sockets first most)
    (pending : exchange.Pending sockets first most)
    (synchronized : ∀ side, (exchange.pair side).endpoint.state.isSynchronized) :
    exchange.ComesToRest := by
  by_cases level : ∀ side, (exchange.pair side.other).endpoint.receiveNext =
      (exchange.pair side).endpoint.unacknowledged
  · by_cases drained : ∀ side, (exchange.pair side).endpoint.ring.toList = []
    · by_cases apart : ∀ side, (exchange.pair side.other).endpoint.sendNext ≠
          (exchange.pair side).endpoint.receiveNext
      · exact pending.rests_of_closing settles
          (pending.live.closing_of_apart synchronized level drained apart)
      · obtain ⟨side, placed⟩ := Classical.not_forall.mp apart
        exact pending.rests_of_level settles synchronized level side
          (.inr ⟨drained side, Classical.not_not.mp placed⟩)
    · obtain ⟨side, held⟩ := Classical.not_forall.mp drained
      exact pending.rests_of_level settles synchronized level side (.inl held)
  · obtain ⟨side, behind⟩ := Classical.not_forall.mp level
    exact pending.rests_of_behind settles (synchronized side) (synchronized side.other) behind

/-- By induction on what there is to be done; the cases are those of the two states. -/
theorem Live.comesToRest (live : exchange.Live sockets first) (free : ¬ exchange.Stuck) :
    exchange.ComesToRest := by
  induction measure : exchange.work using Nat.strongRecOn generalizing exchange with
  | ind size ih =>
  have settles : Settles sockets first size :=
    fun next liveNext less freeNext => ih _ less liveNext freeNext rfl
  have pending : exchange.Pending sockets first size := ⟨live, Nat.le_of_eq measure, free⟩
  rcases (exchange.pair .opener).endpoint.state.opening_or_known with
    unknown | answered | opener
  · exact pending.rests_of_unheard settles .listener unknown
  · exact absurd answered (live.agree .opener).suits.2
  · rcases (exchange.pair .listener).endpoint.state.opening_or_known with
      unknown | answered | listener
    · exact pending.rests_of_unheard settles .opener unknown
    · exact pending.rests_of_answered settles .listener answered opener
    · exact pending.rests_of_synchronized settles fun
        | .opener => opener
        | .listener => listener

theorem ComesToRest.not_stuck (rests : exchange.ComesToRest) (live : exchange.Live sockets first) :
    ¬ exchange.Stuck := by
  induction rests with
  | quiet nothing =>
      intro stuck
      obtain ⟨side, sent, member, _⟩ := stuck.astray
      rw [nothing side] at member
      cases member
  | @onward exchange _ _ ih =>
      intro stuck
      obtain ⟨side, sent, member, _⟩ := stuck.astray
      cases onWay : exchange.air side with
      | nil => rw [onWay] at member; cases member
      | cons head rest =>
          have oldest : exchange.air side.other.other = head :: rest := by rwa [Pair.other_other]
          exact ih _ (.arrive 0 oldest) (live.arrive oldest 0)
            ((live.stuck_arrive_iff oldest 0).mpr stuck)

end Exchange

namespace Pair

/-- Whatever has been sent, lost, repeated and reordered: if from now on the applications are
silent, no timer runs, and what is on its way arrives in its order, then nothing is on its way
after finitely many arrivals, unless both sides have closed, no FIN is on its way, and something
that is out of its place is. Then there is no end to it. -/
theorem reachable_rests_iff {sockets : Side → Socket} {pair : Pair} {air : Side → List Segment}
    {now : Instant} {bound : Option Address} {configs : Side → Config}
    (apart : sockets .opener ≠ sockets .listener)
    (free : bound = none ∨ bound = some (sockets .listener).address)
    (sized : ∀ side, 1 ≤ (configs side).maxSegmentSize)
    (reached : Reaches sockets (start now sockets bound configs) pair)
    (bounded : ∀ side, (pair side).past.accepted.length + 2 < 0x80000000)
    (sent : ∀ side, ∀ sent ∈ air side, sent ∈ (pair side).past.segments) :
    Exchange.ComesToRest ⟨pair, air⟩ ↔ ¬ Exchange.Stuck ⟨pair, air⟩ := by
  have live : Exchange.Live sockets (start now sockets bound configs) ⟨pair, air⟩ :=
    ⟨begins_start apart free sized, reached, bounded, sent⟩
  exact ⟨fun rests => rests.not_stuck live, live.comesToRest⟩

/-- Three octets are on their way, and with them all that has been sent before. -/
theorem lost_rests :
    Reaches twoSockets begun lost ∧
      Exchange.ComesToRest ⟨lost, fun side => (lost side).past.segments⟩ := by
  have reached : Reaches twoSockets begun lost := .step reaches_opened (.send 0 [1, 2, 3])
  have bounded : ∀ side, (lost side).past.accepted.length + 2 < 0x80000000 := by
    intro side
    cases side <;> decide
  refine ⟨reached, (reachable_rests_iff (by decide) (.inl rfl) (fun _ => by decide) reached
    bounded fun _ _ member => member).mpr ?_⟩
  intro stuck
  exact absurd (stuck.closing .opener) (by decide)

def bothClosed : Pair :=
  ((opened.arrive .listener 1).act .opener (.close 0)).act .listener (.close 0)

/-- Both FINs have been lost, and the SYN of the listener comes again: each of the two answers for
ever to what it does not expect. -/
theorem bothClosed_not_rests :
    Reaches twoSockets begun bothClosed ∧
      ¬ Exchange.ComesToRest ⟨bothClosed, fun
        | .opener => []
        | .listener => (bothClosed .listener).past.segments.take 1⟩ := by
  have reached : Reaches twoSockets begun bothClosed := by
    refine .step (.step (.arrive reaches_opened _ _ ?_) (.close 0)) (.close 0)
    decide
  have bounded : ∀ side, (bothClosed side).past.accepted.length + 2 < 0x80000000 := by
    intro side
    cases side <;> decide +kernel
  refine ⟨reached, ?_⟩
  intro rests
  have begins : Begins twoSockets begun :=
    begins_start (by decide) (.inl rfl) fun _ => by decide
  refine rests.not_stuck ⟨begins, reached, bounded, ?_⟩ ⟨?_, ?_, ?_⟩
  · rintro (_ | _) sent member
    · cases member
    · exact List.mem_of_mem_take member
  · intro side
    cases side <;> decide +kernel
  · intro side
    cases side <;> decide +kernel
  · refine ⟨.listener, ?_⟩
    decide +kernel

end Pair

end RadioStack.Tcp
