import RadioStack.Proofs.Tcp.Reaction
import RadioStack.Proofs.Tcp.Round

/-!
Two endpoints that are left to themselves: neither application calls and no timer runs, so that
all that happens is the arrival of what is on its way, in the order in which it was sent, and of
what is sent in answer. An arrival leaves no more work than there was, and less if it brings
something new; if it brings nothing new, nothing but clocks changes. Main statements:
`Live.work_lt`, `Live.still`.
-/

namespace RadioStack.Tcp

namespace State

def remaining : State → Nat
  | .listen | .synSent => 6
  | .synReceived => 5
  | .established => 4
  | .closeWait | .finWait1 => 3
  | .finWait2 | .closing | .lastAck => 2
  | .timeWait => 1
  | .closed => 0

variable {before after : State}

theorem StepsTo.remaining (steps : before.StepsTo after) :
    after = before ∨ after.remaining < before.remaining := by
  cases steps with
  | still => exact .inl rfl
  | take accepting =>
      right
      cases state : before <;> rw [state] at accepting <;> first | decide | cases accepting
  | stop => cases before <;> first | exact .inl rfl | exact .inr (by decide)
  | welcome | cross | establish | confirm | sendFin | sendLastFin | finish | finishBoth =>
      exact .inr (by decide)

theorem StepsTo.peerFinished (steps : before.StepsTo after)
    (finished : before.peerFinished ∨ before = .closed) :
    after.peerFinished ∨ after = .closed := by
  cases steps with
  | still => exact finished
  | take accepting => exact .inl (peerFinished_afterPeerFin accepting).1
  | welcome | cross | establish | confirm | sendFin | sendLastFin | finish | finishBoth | stop =>
      simp_all [State.peerFinished]

end State

namespace Endpoint

variable {call : Call} {before after : Endpoint} {output : Output}

theorem Moves.remaining (moves : Moves call before output after) (continues : call.opens = false) :
    after.state = before.state ∨ after.state.remaining < before.state.remaining := by
  induction moves with
  | done => exact .inl rfl
  | step move _ ih =>
      rcases (move.stepsTo continues).remaining with same | less
      · rw [← same]
        exact ih
      · right
        rcases ih with same | less'
        · rwa [same]
        · exact Nat.lt_trans less' less

theorem Move.length_ring_le (move : Move call before output after)
    (silent : ∀ now data, call ≠ .send now data) :
    after.ring.toList.length ≤ before.ring.toList.length := by
  cases move with
  | queue called => exact absurd called (silent _ _)
  | connect | listen | finishLast | abort => exact Nat.zero_le _
  | acknowledge | finish =>
      dsimp only
      rw [SendRing.toList_release, List.length_drop]
      exact Nat.sub_le _ _
  | wait | say | welcome | establish | cross | confirm | intend | sendFin | take =>
      exact Nat.le_refl _

/-- Nothing but a call of the application puts anything in the ring. -/
theorem Moves.length_ring_le (moves : Moves call before output after)
    (silent : ∀ now data, call ≠ .send now data) :
    after.ring.toList.length ≤ before.ring.toList.length := by
  induction moves with
  | done => exact Nat.le_refl _
  | step move _ ih => exact Nat.le_trans ih (move.length_ring_le silent)

theorem Moves.peerFinished (moves : Moves call before output after)
    (continues : call.opens = false)
    (finished : before.state.peerFinished ∨ before.state = .closed) :
    after.state.peerFinished ∨ after.state = .closed :=
  moves.keeps (fun move => (move.stepsTo continues).peerFinished) finished

theorem Says.noSyn_of_fin {moment : Endpoint} {sent : Segment} (spoken : moment.Says call sent)
    (fin : sent.header.flags.contains .fin) : sent.header.flags.contains .syn = false := by
  cases spoken with
  | @segmentAt _ flags _ _ _ _ may =>
      change flags.contains .fin at fin
      change flags.contains .syn = false
      cases may with
      | syn | synAck => exact absurd fin (by decide)
      | ack | fin | fresh | again | rst => decide

end Endpoint

namespace Pair

variable {sockets : Side → Socket} {first pair later : Pair} {side : Side} {sent : Segment}
  {now : Instant}

theorem Reaches.peerFinished (reached : Reaches sockets pair later)
    (finished : (pair side).endpoint.state.peerFinished ∨ (pair side).endpoint.state = .closed) :
    (later side).endpoint.state.peerFinished ∨ (later side).endpoint.state = .closed := by
  induction reached with
  | refl => exact finished
  | @step pair mover call reached happens ih =>
      rcases side.eq_or_eq_other mover with rfl | rfl
      · rw [act_self]
        exact (Endpoint.perform_moves _ call).peerFinished happens.continues ih
      · rwa [act_other]

theorem Once.peerFinished (once : Once sockets first pair side Endpoint.TakesFin)
    (safe : first.AllSafe sockets) (apart : ∀ side, sockets side ≠ sockets side.other)
    (bounded : ∀ side, (pair side).past.accepted.length + 2 < 0x80000000) :
    (pair side).endpoint.state.peerFinished ∨ (pair side).endpoint.state = .closed := by
  obtain ⟨earlier, call, reached, happens, onward, takes⟩ := once
  have shorter := ((Reaches.step .refl happens).trans onward).shorter bounded
  have safeEarlier := reached.allSafe safe apart shorter
  apply onward.peerFinished
  rw [act_self]
  exact (happens.fed (apart side) (safeEarlier side)).peerFinished (shorter side.other)
    (Endpoint.perform_moves (earlier side).endpoint call).hears takes

def Plain (pair : Pair) : Prop :=
  ∀ side, ∀ sent ∈ (pair side).past.segments, sent.header.flags.contains .fin →
    sent.header.flags.contains .syn = false

theorem Plain.act (plain : pair.Plain) (side : Side) (call : Call) :
    (pair.act side call).Plain := by
  intro who sent member fin
  rcases who.eq_or_eq_other side with rfl | rfl
  · rw [act_self] at member
    rcases List.mem_append.mp member with old | new
    · exact plain who sent old fin
    · obtain ⟨early, late, parted⟩ := List.append_of_mem new
      obtain ⟨_, _, _, _, spoken⟩ := Endpoint.output_said parted
      exact spoken.noSyn_of_fin fin
  · rw [act_other] at member
    exact plain side.other sent member fin

theorem Reaches.plain (reached : Reaches sockets first pair) (plain : first.Plain) :
    pair.Plain := by
  induction reached with
  | refl => exact plain
  | step _ _ ih => exact ih.act _ _

/-- What an endpoint has before it: changes of its state, octets to be acknowledged, and octets of
the other to be reported. -/
def work (pair : Pair) (side : Side) : Nat :=
  (pair side).endpoint.state.remaining + (pair side).endpoint.ring.toList.length +
    ((pair side.other).past.accepted.length - (pair side).past.reported.length)

theorem work_other :
    (pair.act side (sent.arrival now)).work side.other = pair.work side.other := by
  rw [work, work, other_other, act_self, act_other, Party.act, Party.accepted_after]
  change _ + (((pair side).past.accepted ++ []).length - _) = _
  rw [List.append_nil]

theorem work_le : (pair.act side (sent.arrival now)).work side ≤ pair.work side := by
  have moves := Endpoint.perform_moves (pair side).endpoint (sent.arrival now)
  have ring := moves.length_ring_le (fun _ _ => nofun)
  have reported := ((pair side).continues_act (rfl : (sent.arrival now).opens = false)).reported
  have state : ((pair side).act (sent.arrival now)).endpoint.state.remaining ≤
      (pair side).endpoint.state.remaining := by
    rcases moves.remaining rfl with same | less
    · exact Nat.le_of_eq (congrArg State.remaining same)
    · exact Nat.le_of_lt less
  rw [work, work, act_self, act_other]
  have longer := reported.length_le
  change ((pair side).act (sent.arrival now)).endpoint.ring.toList.length ≤ _ at ring
  omega

theorem AllSafe.work_lt (safe : pair.AllSafe sockets)
    (safeNext : (pair.act side (sent.arrival now)).AllSafe sockets)
    (bounded : ∀ side, (pair side).past.accepted.length + 2 < 0x80000000)
    (changes : Endpoint.Changes (pair side).endpoint
      (pair.act side (sent.arrival now) side).endpoint) :
    (pair.act side (sent.arrival now)).work side < pair.work side := by
  have moves := Endpoint.perform_moves (pair side).endpoint (sent.arrival now)
  have config := (moves.continues rfl).1
  have ring := moves.length_ring_le (fun _ _ => nofun)
  have reported := ((pair side).continues_act (rfl : (sent.arrival now).opens = false)).reported
  have sends := (safeNext side).sends
  have receives := (safeNext side).receives
  rw [act_self, act_other] at sends receives
  rw [act_self] at changes
  rw [work, work, act_self, act_other]
  have longer := reported.length_le
  have short := bounded side
  have shortOther := bounded side.other
  change ((pair side).act (sent.arrival now)).endpoint.ring.toList.length ≤ _ at ring
  change ((pair side).act (sent.arrival now)).endpoint.config = _ at config
  rcases moves.remaining rfl with state | less
  · change ((pair side).act (sent.arrival now)).endpoint.state = _ at state
    rcases changes with other | oldest | ⟨known, expected⟩
    · exact absurd state other
    · -- In the same state another octet can only be the oldest if some have left the ring.
      have running : (pair side).endpoint.state ≠ .closed := by
        intro closed
        apply oldest
        exact congrArg Endpoint.unacknowledged (Endpoint.receive_of_closed closed).1
      obtain ⟨dropped, ledger, whole⟩ := (safe side).sends.balanced.ledger running
      obtain ⟨dropped', ledger', whole'⟩ := sends.balanced.ledger (by rwa [state])
      rw [Party.act, Party.accepted_after] at whole'
      change (pair side).past.accepted ++ [] = _ at whole'
      rw [List.append_nil, whole] at whole'
      have length := congrArg List.length whole'
      rw [List.length_append, List.length_append] at length
      change dropped.length + _ =
        dropped'.length + ((pair side).act (sent.arrival now)).endpoint.ring.toList.length at length
      have distinct : dropped'.length ≠ dropped.length := by
        intro same
        apply oldest
        rw [ledger'.oldest, config, state, same, ledger.oldest]
      rw [state]
      omega
    · have before := (safe side).receives.expected known
      have after := receives.expected (by rwa [state])
      have distinct : ((pair side).act (sent.arrival now)).past.reported.length ≠
          (pair side).past.reported.length := by
        intro same
        apply expected
        rw [after, state, same, before]
      have held := receives.held.length_le
      rw [state]
      omega
  · change ((pair side).act (sent.arrival now)).endpoint.state.remaining < _ at less
    omega

structure Begins (sockets : Side → Socket) (first : Pair) : Prop where
  apart : ∀ side, sockets side ≠ sockets side.other
  sized : ∀ side, 1 ≤ (first side).endpoint.config.maxSegmentSize
  safe : first.AllSafe sockets
  agree : first.AllAgree
  closes : ∀ side, Closes sockets first first side
  plain : first.Plain

theorem begins_start {bound : Option Address} {configs : Side → Config}
    (apart : sockets .opener ≠ sockets .listener)
    (free : bound = none ∨ bound = some (sockets .listener).address)
    (sized : ∀ side, 1 ≤ (configs side).maxSegmentSize) :
    Begins sockets (start now sockets bound configs) where
  apart := Side.ne_other apart
  sized side := by
    have sized := sized side
    cases side <;> exact sized
  safe := allSafe_start free
  agree := allAgree_start
  closes := closes_start
  plain side sent member := by
    cases side with
    | opener =>
        change sent ∈ [_] at member
        rw [List.mem_singleton] at member
        subst member
        exact fun fin => absurd fin (by decide : ¬ Flags.syn.contains .fin)
    | listener => cases member

end Pair

/-- A pair, and what is on its way from either side: the oldest segment arrives first. -/
structure Exchange where
  pair : Pair
  air : Side → List Segment

namespace Exchange

def Quiet (exchange : Exchange) : Prop := ∀ side, exchange.air side = []

def arrive (exchange : Exchange) (side : Side) (now : Instant) (sent : Segment)
    (rest : List Segment) : Exchange where
  pair := exchange.pair.act side (sent.arrival now)
  air who := if who = side then exchange.air side ++ (exchange.pair side).answers now sent else rest

inductive Arrives (exchange : Exchange) : Exchange → Prop
  | arrive {side : Side} {sent : Segment} {rest : List Segment} (now : Instant)
    (oldest : exchange.air side.other = sent :: rest) :
    Arrives exchange (exchange.arrive side now sent rest)

/-- Whatever arrives first, nothing is on its way after finitely many arrivals. -/
inductive ComesToRest : Exchange → Prop
  | quiet {exchange : Exchange} (nothing : exchange.Quiet) : ComesToRest exchange
  | onward {exchange : Exchange} (busy : ¬ exchange.Quiet)
    (all : ∀ next, exchange.Arrives next → ComesToRest next) : ComesToRest exchange

theorem ComesToRest.of_next {exchange : Exchange}
    (all : ∀ next, exchange.Arrives next → next.ComesToRest) : exchange.ComesToRest := by
  by_cases nothing : exchange.Quiet
  · exact .quiet nothing
  · exact .onward nothing all

def work (exchange : Exchange) : Nat := exchange.pair.work .opener + exchange.pair.work .listener

variable {sockets : Side → Socket} {first : Pair} {exchange : Exchange} {side : Side}
  {sent : Segment} {rest : List Segment} {now : Instant}

@[simp] theorem air_arrive_self : (exchange.arrive side now sent rest).air side =
    exchange.air side ++ (exchange.pair side).answers now sent := if_pos rfl

@[simp] theorem air_arrive_other : (exchange.arrive side now sent rest).air side.other = rest := by
  cases side <;> rfl

theorem pair_arrive_self : (exchange.arrive side now sent rest).pair side =
    (exchange.pair side).act (sent.arrival now) := Pair.act_self

theorem pair_arrive_other : (exchange.arrive side now sent rest).pair side.other =
    exchange.pair side.other := Pair.act_other

theorem forall_pair_arrive {motive : Side → Party → Prop}
    (self : motive side ((exchange.pair side).act (sent.arrival now)))
    (other : motive side.other (exchange.pair side.other)) (who : Side) :
    motive who ((exchange.arrive side now sent rest).pair who) := by
  rcases who.eq_or_eq_other side with rfl | rfl
  · rwa [pair_arrive_self]
  · rwa [pair_arrive_other]

theorem mem_air_arrive {who : Side} {later : Segment}
    (oldest : exchange.air side.other = sent :: rest)
    (onWay : later ∈ (exchange.arrive side now sent rest).air who) :
    later ∈ exchange.air who ∨ who = side ∧ later ∈ (exchange.pair side).answers now sent := by
  rcases who.eq_or_eq_other side with rfl | rfl
  · rw [air_arrive_self, List.mem_append] at onWay
    exact onWay.imp_right fun new => ⟨rfl, new⟩
  · rw [air_arrive_other] at onWay
    exact .inl (oldest ▸ List.mem_cons_of_mem sent onWay)

theorem air_arrive_at_other : (exchange.arrive side.other now sent rest).air side = rest := by
  cases side <;> rfl

theorem pair_arrive_at_other : (exchange.arrive side.other now sent rest).pair side =
    exchange.pair side := by
  cases side <;> rfl

theorem work_eq (exchange : Exchange) (side : Side) :
    exchange.work = exchange.pair.work side + exchange.pair.work side.other := by
  cases side with
  | opener => rfl
  | listener => exact Nat.add_comm _ _

theorem work_arrive_le : (exchange.arrive side now sent rest).work ≤ exchange.work := by
  rw [work_eq _ side, work_eq exchange side]
  exact Nat.add_le_add Pair.work_le (Nat.le_of_eq Pair.work_other)

/-- An exchange in which everything that is on its way has been sent, at some time, by a pair of
which one endpoint has opened towards the other. -/
structure Live (sockets : Side → Socket) (first : Pair) (exchange : Exchange) : Prop where
  begins : Pair.Begins sockets first
  reached : Pair.Reaches sockets first exchange.pair
  bounded : ∀ side, (exchange.pair side).past.accepted.length + 2 < 0x80000000
  sent : ∀ side, ∀ sent ∈ exchange.air side, sent ∈ (exchange.pair side).past.segments

namespace Live

variable (live : exchange.Live sockets first)

include live

theorem safe : exchange.pair.AllSafe sockets :=
  live.reached.allSafe live.begins.safe live.begins.apart live.bounded

theorem agree : exchange.pair.AllAgree :=
  live.reached.agree live.begins.safe live.begins.apart live.bounded live.begins.agree

theorem closes (side : Side) : Pair.Closes sockets first exchange.pair side :=
  live.reached.closes live.begins.safe live.begins.apart live.bounded live.begins.closes side

theorem sized (side : Side) : 1 ≤ (exchange.pair side).endpoint.config.maxSegmentSize := by
  rw [(live.reached.continues side).config]
  exact live.begins.sized side

theorem labelled (heard : sent ∈ exchange.air side.other) :
    Labelled (sockets side.other) (sockets side)
      ((exchange.pair side.other).flow (exchange.pair side))
      ((exchange.pair side).flow (exchange.pair side.other)) sent :=
  (live.safe side).hears.labelled sent (live.sent side.other sent heard)

theorem happens (heard : sent ∈ exchange.air side.other) (now : Instant) :
    exchange.pair.Happens sockets side (sent.arrival now) :=
  .arrival live.safe (live.sent side.other sent heard) now

theorem arrive (oldest : exchange.air side.other = sent :: rest) (now : Instant) :
    (exchange.arrive side now sent rest).Live sockets first := by
  have happens := live.happens (oldest ▸ List.mem_cons_self) now
  have bounded := (live.safe.act_silent live.begins.apart live.bounded happens rfl).2
  refine ⟨live.begins, .step live.reached happens, bounded, ?_⟩
  intro who later member
  rcases mem_air_arrive oldest member with old | ⟨rfl, new⟩
  · exact (happens.continues_act who).segments.subset (live.sent who later old)
  · rw [pair_arrive_self]
    exact List.mem_append_right _ new

theorem ledger (running : (exchange.pair side).endpoint.state ≠ .closed) :
    ∃ dropped, (exchange.pair side).endpoint.Ledger dropped ∧
      (exchange.pair side).past.accepted =
        dropped ++ (exchange.pair side).endpoint.ring.toList :=
  (live.safe side).sends.balanced.ledger running

theorem peerFinished_of_finAcknowledged
    (acknowledged : (exchange.pair side).endpoint.state.finAcknowledged) :
    (exchange.pair side.other).endpoint.state.peerFinished ∨
      (exchange.pair side.other).endpoint.state = .closed :=
  ((live.closes side).acknowledged acknowledged).peerFinished live.begins.safe live.begins.apart
    live.bounded

/-- What is new to an endpoint leaves less to be done. -/
theorem work_lt (oldest : exchange.air side.other = sent :: rest)
    (tells : (exchange.pair side).endpoint.Tells sent) (now : Instant) :
    (exchange.arrive side now sent rest).work < exchange.work := by
  have heard : sent ∈ exchange.air side.other := oldest ▸ List.mem_cons_self
  have labelled := live.labelled heard
  have running : (exchange.pair side).endpoint.state ≠ .closed := by
    intro closed
    cases tells <;> simp_all [State.isSynchronized, State.acceptsText]
  obtain ⟨dropped, ledger, _⟩ := live.ledger running
  have changes : Endpoint.Changes (exchange.pair side).endpoint
      ((exchange.arrive side now sent rest).pair side).endpoint := by
    rw [pair_arrive_self]
    apply tells.changes ledger (live.agree side).bound labelled.noRst
    · intro opening
      -- Only the opener waits for the answer to its SYN.
      have peer := live.agree side.other
      cases side with
      | opener => exact peer.answers rfl sent (live.sent _ sent heard)
      | listener => exact absurd opening (live.agree .listener).suits
    · intro opening ack
      exact (live.safe side).sends.next_of_confirms opening (labelled.confirms ack)
  have less := live.safe.work_lt (live.arrive oldest now).safe live.bounded changes
  rw [work_eq _ side, work_eq exchange side]
  exact Nat.add_lt_add_of_lt_of_le less (Nat.le_of_eq Pair.work_other)

theorem echoes (heard : sent ∈ exchange.air side.other)
    (synchronized : (exchange.pair side).endpoint.state.isSynchronized)
    (untold : ¬ (exchange.pair side).endpoint.Tells sent) (now : Instant) :
    ((exchange.pair side).act (sent.arrival now)).endpoint.core =
        (exchange.pair side).endpoint.core ∧
      (exchange.pair side).endpoint.Echoes sent ((exchange.pair side).answers now sent) := by
  obtain ⟨dropped, ledger, _⟩ := live.ledger (State.IsSynchronized.ne synchronized).1
  exact Endpoint.receive_untold ledger (live.agree side).bound (live.sized side) synchronized
    (live.labelled heard).noRst untold now

/-- A segment that has nothing new leaves everything but clocks as it is, and is answered with two
segments at most. -/
theorem still (heard : sent ∈ exchange.air side.other)
    (untold : ¬ (exchange.pair side).endpoint.Tells sent) (now : Instant) :
    ((exchange.pair side).act (sent.arrival now)).endpoint.core =
        (exchange.pair side).endpoint.core ∧
      ((exchange.pair side).answers now sent).length ≤ 2 := by
  have noRst := (live.labelled heard).noRst
  rcases (exchange.pair side).endpoint.state.opening_or_known with unknown | answered | synchronized
  · obtain ⟨same, silent⟩ := Endpoint.receive_unheard unknown noRst untold now
    exact ⟨same, Nat.le_trans (Nat.le_of_eq (congrArg List.length silent)) (Nat.zero_le 2)⟩
  · obtain ⟨same, few⟩ :=
      Endpoint.receive_answered (live.agree side).bound answered noRst untold now
    exact ⟨same, Nat.le_succ_of_le few⟩
  · obtain ⟨same, echoes⟩ := live.echoes heard synchronized untold now
    exact ⟨same, echoes.few⟩

end Live

end Exchange

end RadioStack.Tcp
