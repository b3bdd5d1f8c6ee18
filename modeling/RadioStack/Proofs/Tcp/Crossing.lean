import Mathlib.Logic.Relation
import RadioStack.Proofs.Tcp.Exchange

/-!
Two endpoints that open towards each other at the same time. Either answers the SYN of the other,
and then each answer of the other with the same answer again: an acknowledgment that comes with a
SYN is not looked at, so the handshake never ends. Main statement: `crossing_never_established`.
-/

namespace RadioStack.Tcp

structure Segment.SynAck (sent : Segment) (own peer : UInt32) : Prop where
  flags : sent.header.flags = .syn ||| .ack
  sequence : sent.header.sequence = own
  acknowledgment : sent.header.acknowledgment = peer + 1

namespace Endpoint

variable {endpoint : Endpoint} {sent : Segment} {peer : UInt32}

/-- An endpoint that has sent its SYN, and has heard at most that of its peer. -/
structure Awaits (peer : UInt32) (endpoint : Endpoint) : Prop where
  bound : endpoint.Bound
  oldest : endpoint.unacknowledged = endpoint.config.initialSequence
  next : endpoint.sendNext = endpoint.config.initialSequence + 1
  state : endpoint.state = .synSent ∨
    (endpoint.state = .synReceived ∧ endpoint.receiveNext = peer + 1)

structure Answered (peer : UInt32) (config : Config) (turn : Turn) : Prop where
  awaits : turn.endpoint.Awaits peer
  state : turn.endpoint.state = .synReceived
  same : turn.endpoint.config = config
  alone : ∃ last, turn.segments = [last] ∧ last.SynAck config.initialSequence peer

theorem Answered.congr {config : Config} {turn other : Turn} (answered : Answered peer config turn)
    (same : other.endpoint = turn.endpoint) (segments : other.segments = turn.segments) :
    Answered peer config other where
  awaits := same ▸ answered.awaits
  state := same ▸ answered.state
  same := same ▸ answered.same
  alone := segments ▸ answered.alone

theorem Awaits.transmit (awaits : endpoint.Awaits peer)
    (answered : endpoint.state = .synReceived) (now : Instant) :
    Answered peer endpoint.config
      (endpoint.transmit now endpoint.unacknowledged (.syn ||| .ack) 0) := by
  obtain ⟨_, heard⟩ := awaits.state.resolve_left (by rw [answered]; nofun)
  have running := State.running_of_known (.inl answered)
  have kept {α : Type} (field : Endpoint → α) (untimed : ∀ (endpoint : Endpoint) lastSend,
      field { endpoint with lastSend } = field endpoint) :=
    transmit_keeps endpoint field untimed now endpoint.unacknowledged (.syn ||| .ack) 0
  have state := (kept Endpoint.state fun _ _ => rfl).trans answered
  have same := kept config fun _ _ => rfl
  obtain ⟨_, _, _, _, _, _, spoken⟩ :=
    awaits.bound.transmit running now endpoint.unacknowledged (.syn ||| .ack) 0
  refine ⟨⟨?_, ?_, ?_, .inr ⟨state, ?_⟩⟩, state, same, _, spoken, rfl, awaits.oldest,
    (acknowledgment_segmentAt (by decide)).trans heard⟩
  · exact awaits.bound.congr running (kept ends fun _ _ => rfl)
  · rw [kept unacknowledged fun _ _ => rfl, same, awaits.oldest]
  · rw [kept sendNext fun _ _ => rfl, same, awaits.next]
  · rw [kept receiveNext fun _ _ => rfl, heard]

theorem Awaits.receive_syn (awaits : endpoint.Awaits peer) (opening : endpoint.state = .synSent)
    (flags : sent.header.flags = .syn) (first : sent.header.sequence = peer) (now : Instant) :
    Answered peer endpoint.config
      (endpoint.receive now sent.ip sent.header sent.payload).toTurn := by
  have syn : sent.header.flags.contains .syn := by rw [flags]; decide
  have noAck : sent.header.flags.contains .ack = false := by rw [flags]; decide
  have noRst : sent.header.flags.contains .rst = false := by rw [flags]; decide
  have crossed : Awaits peer { endpoint with
      state := .synReceived
      receiveNext := sent.header.sequence + 1
      sendWindow := sent.header.window } :=
    ⟨awaits.bound.congr (by rw [opening]; decide) rfl, awaits.oldest, awaits.next,
      .inr ⟨rfl, by rw [first]⟩⟩
  have heard : (endpoint.receiveInSynSent now sent.header).toTurn =
      (enter .synReceived { endpoint with
        receiveNext := sent.header.sequence + 1
        sendWindow := sent.header.window }).andThen fun endpoint =>
          endpoint.transmit now endpoint.unacknowledged (.syn ||| .ack) 0 := by
    dsimp only [receiveInSynSent]
    rw [noAck, noRst, syn]
    exact if_neg (by rw [noAck]; nofun)
  apply (crossed.transmit rfl now).congr
  · rw [(receive_of_synSent opening).1, heard, Turn.endpoint_andThen, endpoint_enter]
  · rw [(receive_of_synSent opening).2, heard, Turn.segments_andThen, segments_enter,
      endpoint_enter]
    rfl

theorem Awaits.receive_synAck (awaits : endpoint.Awaits peer)
    (answered : endpoint.state = .synReceived) (flags : sent.header.flags = .syn ||| .ack)
    (now : Instant) :
    Answered peer endpoint.config
      (endpoint.receive now sent.ip sent.header sent.payload).toTurn := by
  have syn : sent.header.flags.contains .syn := by rw [flags]; decide
  have noRst : sent.header.flags.contains .rst = false := by rw [flags]; decide
  obtain ⟨same, segments⟩ :=
    @receive_of_known endpoint now sent.ip sent.header sent.payload (.inl answered)
  have again : (endpoint.receiveSynchronized now sent.header sent.payload).toTurn =
      endpoint.transmit now endpoint.unacknowledged (.syn ||| .ack) 0 := by
    rw [receiveSynchronized, noRst, syn]
    exact if_pos answered
  exact (awaits.transmit answered now).congr (by rw [same, again]) (by rw [segments, again])

end Endpoint

namespace Exchange

/-- Two endpoints, each of which has opened towards the other: both SYNs are on their way. -/
def crossing (moments : Side → Instant) (sockets : Side → Socket) (configs : Side → Config) :
    Exchange :=
  let pair : Pair := fun side =>
    Party.act ⟨.create (some (sockets side).address) (sockets side).port (configs side), {}⟩
      (.connect (moments side) (sockets side.other).address (sockets side.other).port)
  ⟨pair, fun side => (pair side).past.segments⟩

/-- What is on its way to an endpoint that has sent its SYN: that of the other, if it has not been
heard, and answers to its own. -/
inductive Approaches (state : State) (own peer : UInt32) : List Segment → Prop
  | syn {first : Segment} {rest : List Segment} (opening : state = .synSent)
    (flags : first.header.flags = .syn) (sequence : first.header.sequence = peer)
    (answers : ∀ sent ∈ rest, sent.SynAck peer own) : Approaches state own peer (first :: rest)
  | answers {air : List Segment} (answered : state = .synReceived)
    (answers : ∀ sent ∈ air, sent.SynAck peer own) : Approaches state own peer air

structure Crossed (configs : Side → Config) (exchange : Exchange) : Prop where
  awaits : ∀ side, (exchange.pair side).endpoint.Awaits (configs side.other).initialSequence
  config : ∀ side, (exchange.pair side).endpoint.config = configs side
  approaches : ∀ side, Approaches (exchange.pair side).endpoint.state
    (configs side).initialSequence (configs side.other).initialSequence (exchange.air side.other)
  two : ∀ side, (exchange.air side).length + (exchange.air side.other).length = 2

variable {sockets : Side → Socket} {configs : Side → Config} {moments : Side → Instant}
  {exchange : Exchange} {side : Side} {sent : Segment} {rest : List Segment}

theorem crossed_crossing : (crossing moments sockets configs).Crossed configs where
  awaits _ := ⟨fun _ _ => ⟨rfl, rfl, rfl⟩, rfl, rfl, .inl rfl⟩
  config _ := rfl
  approaches _ := .syn rfl rfl rfl nofun
  two _ := rfl

theorem Approaches.append {state : State} {own peer : UInt32} {air : List Segment}
    (approaches : Approaches state own peer air) (answer : sent.SynAck peer own) :
    Approaches state own peer (air ++ [sent]) := by
  have more {early : List Segment} (answers : ∀ earlier ∈ early, earlier.SynAck peer own) :
      ∀ later ∈ early ++ [sent], later.SynAck peer own := by
    intro later member
    rcases List.mem_append.mp member with old | new
    · exact answers later old
    · rw [List.mem_singleton] at new
      exact new ▸ answer
  cases approaches with
  | syn opening flags sequence answers => exact .syn opening flags sequence (more answers)
  | answers answered answers => exact .answers answered (more answers)

theorem Approaches.synAck {state : State} {own peer : UInt32} {air : List Segment}
    (approaches : Approaches state own peer air) (answered : state = .synReceived) :
    ∀ sent ∈ air, sent.SynAck peer own := by
  cases approaches with
  | syn opening => rw [opening] at answered; cases answered
  | answers _ answers => exact answers

namespace Crossed

variable (crossed : exchange.Crossed configs)

include crossed

/-- Whatever arrives is answered with the same SYN, and leaves an endpoint waiting. -/
theorem hears (oldest : exchange.air side.other = sent :: rest) (now : Instant) :
    Endpoint.Answered (configs side.other).initialSequence (configs side)
        ((exchange.pair side).endpoint.perform (sent.arrival now)).toTurn ∧
      ∀ later ∈ rest,
        later.SynAck (configs side.other).initialSequence (configs side).initialSequence := by
  have awaits := crossed.awaits side
  have approaches := crossed.approaches side
  rw [← crossed.config side] at approaches ⊢
  rw [oldest] at approaches
  cases approaches with
  | syn opening flags sequence answers =>
      exact ⟨awaits.receive_syn opening flags sequence now, answers⟩
  | answers answered answers =>
      have flags := (answers sent List.mem_cons_self).flags
      exact ⟨awaits.receive_synAck answered flags now,
        fun later member => answers later (List.mem_cons_of_mem _ member)⟩

theorem arrive (oldest : exchange.air side.other = sent :: rest) (now : Instant) :
    (exchange.arrive side now sent rest).Crossed configs := by
  obtain ⟨answered, answers⟩ := crossed.hears oldest now
  obtain ⟨last, alone, synAck⟩ := answered.alone
  change (exchange.pair side).answers now sent = [last] at alone
  have own : ((exchange.arrive side now sent rest).pair side).endpoint =
      ((exchange.pair side).endpoint.perform (sent.arrival now)).endpoint := by
    rw [pair_arrive_self]
    rfl
  have total := crossed.two side
  rw [oldest, List.length_cons] at total
  refine ⟨?_, ?_, ?_, ?_⟩
  · exact forall_pair_arrive
      (motive := fun who party => party.endpoint.Awaits (configs who.other).initialSequence)
      answered.awaits (crossed.awaits side.other)
  · exact forall_pair_arrive (motive := fun who party => party.endpoint.config = configs who)
      answered.same (crossed.config side.other)
  · intro who
    rcases who.eq_or_eq_other side with rfl | rfl
    · rw [air_arrive_other, own]
      exact .answers answered.state answers
    · have before := crossed.approaches side.other
      rw [Pair.other_other] at before ⊢
      rw [pair_arrive_other, air_arrive_self, alone]
      exact before.append synAck
  · intro who
    rcases who.eq_or_eq_other side with rfl | rfl
    · rw [air_arrive_self, air_arrive_other, alone, List.length_append, List.length_singleton]
      omega
    · rw [Pair.other_other, air_arrive_self, air_arrive_other, alone, List.length_append,
        List.length_singleton]
      omega

theorem follows {later : Exchange} (follows : Relation.ReflTransGen Arrives exchange later) :
    later.Crossed configs := by
  induction follows with
  | refl => exact crossed
  | tail _ arrives ih =>
      cases arrives with
      | arrive now oldest => exact ih.arrive oldest now

theorem not_comesToRest : ¬ exchange.ComesToRest := by
  intro rests
  induction rests with
  | quiet nothing =>
      have two := crossed.two .opener
      rw [nothing, nothing] at two
      cases two
  | @onward exchange busy _ ih =>
      apply busy
      intro side
      cases onWay : exchange.air side with
      | nil => rfl
      | cons head rest =>
          have oldest : exchange.air side.other.other = head :: rest := by rwa [Pair.other_other]
          exact absurd (crossed.arrive oldest 0) (ih _ (.arrive 0 oldest))

end Crossed

/-- Two endpoints that open towards each other wait for ever: after any arrivals of what is on its
way, two segments are on their way, each of which acknowledges the SYN of its receiver if this has
heard the other; yet neither end is established, and no order of arrivals brings an end. -/
theorem crossing_never_established
    (follows : Relation.ReflTransGen Arrives (crossing moments sockets configs) exchange) :
    (∀ side, (exchange.pair side).endpoint.state = .synSent ∨
        (exchange.pair side).endpoint.state = .synReceived) ∧
      (exchange.air .opener).length + (exchange.air .listener).length = 2 ∧
      (∀ side, (exchange.pair side).endpoint.state = .synReceived →
        ∀ sent ∈ exchange.air side.other, sent.header.flags = .syn ||| .ack ∧
          sent.header.acknowledgment = (exchange.pair side).endpoint.sendNext) ∧
      ¬ exchange.ComesToRest := by
  have crossed := crossed_crossing.follows follows
  refine ⟨?_, crossed.two .opener, ?_, crossed.not_comesToRest⟩
  · exact fun side => (crossed.awaits side).state.imp_right And.left
  · intro side answered sent onWay
    have synAck := (crossed.approaches side).synAck answered sent onWay
    refine ⟨synAck.flags, synAck.acknowledgment.trans ?_⟩
    rw [(crossed.awaits side).next, crossed.config side]

def hear (exchange : Exchange) (side : Side) : Exchange :=
  match exchange.air side.other with
  | [] => exchange
  | sent :: rest => exchange.arrive side 0 sent rest

theorem follows_hear (exchange : Exchange) (side : Side) :
    Relation.ReflTransGen Arrives exchange (exchange.hear side) := by
  unfold hear
  split
  · exact .refl
  · rename_i oldest
    exact .single (.arrive 0 oldest)

def bothOpened : Exchange := crossing (fun _ => 0) Pair.twoSockets fun _ => {}

def bothAnswered : Exchange := ((bothOpened.hear .opener).hear .listener).hear .opener

theorem bothAnswered_never_established :
    Relation.ReflTransGen Arrives bothOpened bothAnswered ∧
      (∀ side, (bothAnswered.pair side).endpoint.state = .synReceived) ∧
      (∀ side, ∀ sent ∈ bothAnswered.air side.other,
        sent.header.acknowledgment = (bothAnswered.pair side).endpoint.sendNext) ∧
      ¬ bothAnswered.ComesToRest := by
  have follows : Relation.ReflTransGen Arrives bothOpened bothAnswered :=
    ((follows_hear bothOpened .opener).trans (follows_hear _ .listener)).trans
      (follows_hear _ .opener)
  have answered : ∀ side, (bothAnswered.pair side).endpoint.state = .synReceived := by
    intro side
    cases side <;> decide +kernel
  obtain ⟨_, _, acknowledges, onward⟩ := crossing_never_established follows
  exact ⟨follows, answered, fun side sent onWay => (acknowledges side (answered side) sent onWay).2,
    onward⟩

/-- Two endpoints that have opened towards each other do not come to rest. -/
theorem bothOpened_not_rests : ¬ bothOpened.ComesToRest :=
  crossed_crossing.not_comesToRest

end Exchange

end RadioStack.Tcp
