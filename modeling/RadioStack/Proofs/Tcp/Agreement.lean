import RadioStack.Proofs.Tcp.Answer
import RadioStack.Proofs.Tcp.Close

/-!
What the states of two endpoints say of each other, where one has opened towards the other, and how
a state changes. An endpoint that has not heard of its peer has acknowledged nothing, so the peer is
not synchronized; only the listener answers a SYN with a SYN; and the last FIN comes with the
acknowledgment of the first. Main statement: `Reaches.agree`.
-/

namespace RadioStack.Tcp

namespace State

/-- The handshake of either end has states that the other end is never in. -/
def suits : Side → State → Prop
  | .opener, state => state ≠ .listen ∧ state ≠ .synReceived
  | .listener, state => state ≠ .synSent

theorem finWait_of_finished {state : State} (known : state.knowsPeer)
    (continuing : state.peerFinished = false) (ended : state.finished) :
    state = .finWait1 ∨ state.finAcknowledged := by
  cases state <;> simp_all [knowsPeer, peerFinished, finished, finAcknowledged]

/-- How the state of an endpoint changes at one stroke of a call that opens nothing. -/
inductive StepsTo : State → State → Prop
  | still {state : State} : StepsTo state state
  | welcome : StepsTo .listen .synReceived
  | cross : StepsTo .synSent .synReceived
  | establish : StepsTo .synSent .established
  | confirm : StepsTo .synReceived .established
  | sendFin : StepsTo .established .finWait1
  | sendLastFin : StepsTo .closeWait .lastAck
  | finish : StepsTo .finWait1 .finWait2
  | finishBoth : StepsTo .closing .timeWait
  | take {state : State} (accepting : state.acceptsText) : StepsTo state state.afterPeerFin
  | stop {state : State} : StepsTo state .closed

variable {before after : State}

theorem StepsTo.synchronized (steps : before.StepsTo after)
    (synchronized : before.isSynchronized ∨ before = .closed) :
    after.isSynchronized ∨ after = .closed := by
  cases steps with
  | still => exact synchronized
  | take accepting => exact .inl (isSynchronized_of_acceptsText accepting).2
  | welcome | cross | establish | confirm | sendFin | sendLastFin | finish | finishBoth | stop =>
      simp_all [isSynchronized]

/-- An endpoint that waits for the last acknowledgment has been in `closeWait` before, where it
could still be handed data. -/
theorem StepsTo.finished (steps : before.StepsTo after)
    (ended : before.finished ∧ before ≠ .lastAck) : after.finished ∧ after ≠ .lastAck := by
  cases steps with
  | still => exact ended
  | take accepting =>
      cases state : before <;> simp_all [State.finished, acceptsText, afterPeerFin]
  | welcome | cross | establish | confirm | sendFin | sendLastFin | finish | finishBoth | stop =>
      simp_all [State.finished]

theorem StepsTo.finAcknowledged (steps : before.StepsTo after)
    (acknowledged : before.finAcknowledged ∨ before = .closed) :
    after.finAcknowledged ∨ after = .closed := by
  cases steps with
  | still => exact acknowledged
  | take accepting =>
      cases state : before <;> simp_all [State.finAcknowledged, acceptsText, afterPeerFin]
  | welcome | cross | establish | confirm | sendFin | sendLastFin | finish | finishBoth | stop =>
      simp_all [State.finAcknowledged]

end State

namespace Endpoint

variable {call : Call} {before after moment : Endpoint} {output : Output} {sent : Segment}

theorem Hears.opening (hears : Hears call before output after) (continues : call.opens = false)
    (opening : after.state = .listen ∨ after.state = .synSent) :
    before.state = after.state ∧ output.acknowledgments = [] := by
  have unknown : after.state.knowsPeer = false := by
    rcases opening with state | state <;> rw [state] <;> rfl
  cases hears with
  | opened opens => rw [continues] at opens; cases opens
  | unheard _ _ state acknowledged =>
      have same := state.opening opening
      refine ⟨same, List.eq_nil_iff_forall_not_mem.mpr ?_⟩
      intro number listed
      have known := (acknowledged number listed).1
      rw [same, unknown] at known
      cases known
  | introduced _ _ _ _ _ state | taken _ _ _ _ _ _ _ _ state =>
      have same := state.opening opening
      rw [← same, (State.withPeer_facts _).1] at unknown
      cases unknown

theorem Hears.finished (hears : Hears call before output after) (continues : call.opens = false)
    (finished : before.state.peerFinished) :
    after.receiveNext = before.receiveNext := by
  have known := State.knowsPeer_of_peerFinished finished
  cases hears with
  | opened opens => rw [continues] at opens; cases opens
  | unheard _ next => exact next
  | introduced _ _ opening =>
      rcases opening with state | state <;> rw [state] at known <;> cases known
  | taken _ _ _ continuing => rw [continuing] at finished; cases finished

theorem Move.unsynchronized (move : Move call before output after)
    (continues : call.opens = false)
    (noAck : ∀ now ip header payload, call = .receive now ip header payload →
      header.flags.contains .ack = false)
    (opening : before.state.isSynchronized = false) : after.state.isSynchronized = false := by
  cases move with
  | wait | say | queue | intend | acknowledge => exact opening
  | connect called | listen called => rw [called] at continues; cases continues
  | welcome | cross | finishLast | abort => rfl
  | establish called _ _ ack | confirm called _ ack =>
      rw [noAck _ _ _ _ called] at ack
      cases ack
  | finish _ next =>
      rcases next with ⟨state, _⟩ | ⟨state, _⟩ <;> rw [state] at opening <;> cases opening
  | sendFin _ _ next =>
      rcases finState?_eq_some next with ⟨state, _⟩ | ⟨state, _⟩ <;> rw [state] at opening <;>
        cases opening
  | take _ _ _ accepting =>
      rw [(State.isSynchronized_of_acceptsText accepting).1] at opening
      cases opening

theorem Moves.unsynchronized (moves : Moves call before output after)
    (continues : call.opens = false)
    (noAck : ∀ now ip header payload, call = .receive now ip header payload →
      header.flags.contains .ack = false)
    (opening : before.state.isSynchronized = false) : after.state.isSynchronized = false :=
  moves.keeps (fun move => move.unsynchronized continues noAck) opening

theorem Move.suits {side : Side} (move : Move call before output after)
    (continues : call.opens = false)
    (answered : side = .opener → ∀ now ip header payload, call = .receive now ip header payload →
      header.flags.contains .syn → header.flags.contains .ack)
    (suits : before.state.suits side) : after.state.suits side := by
  cases move with
  | wait | say | queue | intend | acknowledge => exact suits
  | connect called | listen called => rw [called] at continues; cases continues
  | welcome _ listening =>
      cases side with
      | opener => exact absurd listening suits.1
      | listener => exact nofun
  | cross called _ syn noAck =>
      cases side with
      | opener =>
          rw [answered rfl _ _ _ _ called syn] at noAck
          cases noAck
      | listener => exact nofun
  | establish | confirm | finishLast | abort => cases side <;> simp [State.suits]
  | finish _ next =>
      rcases next with ⟨_, rfl⟩ | ⟨_, rfl⟩ <;> cases side <;> simp [State.suits]
  | sendFin _ _ next =>
      rcases finState?_eq_some next with ⟨_, rfl⟩ | ⟨_, rfl⟩ <;> cases side <;> simp [State.suits]
  | take _ _ _ accepting =>
      dsimp only
      split
      · cases state : before.state <;> rw [state] at accepting <;> cases side <;>
          simp [State.suits, State.afterPeerFin] <;> cases accepting
      · exact suits

theorem Moves.suits {side : Side} (moves : Moves call before output after)
    (continues : call.opens = false)
    (answered : side = .opener → ∀ now ip header payload, call = .receive now ip header payload →
      header.flags.contains .syn → header.flags.contains .ack)
    (suits : before.state.suits side) : after.state.suits side :=
  moves.keeps (fun move => move.suits continues answered) suits

theorem Move.stepsTo (move : Move call before output after) (continues : call.opens = false) :
    before.state.StepsTo after.state := by
  cases move with
  | wait | say | queue | intend | acknowledge => exact .still
  | connect called | listen called => rw [called] at continues; cases continues
  | welcome _ state => rw [state]; exact .welcome
  | cross _ state => rw [state]; exact .cross
  | establish _ state => rw [state]; exact .establish
  | confirm _ state => rw [state]; exact .confirm
  | finish _ next =>
      rcases next with ⟨state, rfl⟩ | ⟨state, rfl⟩ <;> rw [state]
      · exact .finish
      · exact .finishBoth
  | finishLast | abort => exact .stop
  | sendFin _ _ next =>
      rcases finState?_eq_some next with ⟨state, rfl⟩ | ⟨state, rfl⟩ <;> rw [state]
      · exact .sendFin
      · exact .sendLastFin
  | take _ _ _ accepting =>
      dsimp only
      split
      · exact .take accepting
      · exact .still

theorem Moves.synchronized (moves : Moves call before output after)
    (continues : call.opens = false) (synchronized : before.state.isSynchronized) :
    after.state.isSynchronized ∨ after.state = .closed :=
  moves.keeps (fun move => (move.stepsTo continues).synchronized) (.inl synchronized)

theorem Moves.toLastAck (moves : Moves call before output after) (continues : call.opens = false)
    (last : after.state = .lastAck) : before.state = .lastAck ∨ before.state.finished = false := by
  cases ended : before.state.finished with
  | false => exact .inr rfl
  | true =>
      left
      apply Decidable.byContradiction
      intro other
      have past : after.state.finished ∧ after.state ≠ .lastAck :=
        moves.keeps (fun move => (move.stepsTo continues).finished) ⟨ended, other⟩
      exact past.2 last

theorem Moves.keepsFinAcknowledged (moves : Moves call before output after)
    (continues : call.opens = false) (acknowledged : before.state.finAcknowledged) :
    after.state.finAcknowledged ∨ after.state = .closed :=
  moves.keeps (fun move => (move.stepsTo continues).finAcknowledged) (.inl acknowledged)

theorem Says.ack_of_syn (spoken : moment.Says call sent) (opened : moment.state ≠ .synSent)
    (syn : sent.header.flags.contains .syn) : sent.header.flags.contains .ack := by
  cases spoken with
  | @segmentAt _ flags _ _ _ _ may =>
      change flags.contains .syn at syn
      change flags.contains .ack
      cases may with
      | syn state => exact absurd state opened
      | synAck | ack | fin | fresh | again => decide
      | rst => exact absurd syn (by decide)

theorem Says.finInFlight (spoken : moment.Says call sent)
    (fin : sent.header.flags.contains .fin) :
    moment.state.finInFlight ∧ sent.header.flags.contains .ack := by
  cases spoken with
  | @segmentAt _ flags _ _ _ _ may =>
      change flags.contains .fin at fin
      change _ ∧ flags.contains .ack
      cases may with
      | fin inFlight => exact ⟨inFlight, by decide⟩
      | syn | synAck | ack | fresh | again | rst => exact absurd fin (by decide)

end Endpoint

/-- What the state of a party, and what it has sent, says of the other. -/
structure Agrees (side : Side) (party other : Party) : Prop where
  bound : party.endpoint.Bound
  suits : party.endpoint.state.suits side
  answers : side = .listener → ∀ sent ∈ party.past.segments,
    sent.header.flags.contains .syn → sent.header.flags.contains .ack
  silent : party.endpoint.state = .listen ∨ party.endpoint.state = .synSent →
    ∀ sent ∈ party.past.segments, sent.header.flags.contains .ack = false
  alone : party.endpoint.state = .listen ∨ party.endpoint.state = .synSent →
    other.endpoint.state.isSynchronized = false
  last : party.endpoint.state = .lastAck → ∀ sent ∈ party.past.segments,
    sent.header.flags.contains .fin → sent.header.flags.contains .syn = false →
      sent.header.flags.contains .ack ∧
        sent.header.acknowledgment = party.endpoint.receiveNext
  known : party.endpoint.state = .lastAck → other.endpoint.state.peerFinished →
    other.endpoint.state.finAcknowledged

section Step

variable {call : Call} {here there : Socket} {side : Side} {party other : Party}

theorem Agrees.last_act (agrees : Agrees side party other)
    (safe : Safe here there party other) (continues : call.opens = false)
    (state : (party.act call).endpoint.state = .lastAck) :
    ∀ sent ∈ (party.act call).past.segments, sent.header.flags.contains .fin →
      sent.header.flags.contains .syn = false → sent.header.flags.contains .ack ∧
        sent.header.acknowledgment = (party.act call).endpoint.receiveNext := by
  have moves := Endpoint.perform_moves party.endpoint call
  intro sent member fin noSyn
  rcases List.mem_append.mp member with old | new
  · rcases moves.toLastAck continues state with before | unfinished
    · obtain ⟨ack, matching⟩ := agrees.last before sent old fin noSyn
      exact ⟨ack, matching.trans (moves.hears.finished continues (by rw [before]; rfl)).symm⟩
    · -- There has been no FIN before.
      cases (safe.speaks.labelled sent old).carries with
      | syn syn => rw [noSyn] at syn; cases syn
      | bare _ noFin | text _ noFin => rw [noFin] at fin; cases fin
      | fin _ _ _ ended =>
          change party.endpoint.state.finished at ended
          rw [unfinished] at ended
          cases ended
  · obtain ⟨early, late, parted⟩ := List.append_of_mem new
    obtain ⟨_, moment, ⟨rest, _, onward, _⟩, _, spoken⟩ := Endpoint.output_said parted
    obtain ⟨inFlight, ack⟩ := spoken.finInFlight fin
    have before : moment.state = .lastAck := by
      apply (onward.toLastAck continues state).resolve_right
      rw [State.finished_of_finInFlight inFlight]
      nofun
    refine ⟨ack, (spoken.acknowledgment ack).2.trans ?_⟩
    exact (onward.hears.finished continues (by rw [before]; rfl)).symm

theorem Agrees.known_act (agrees : Agrees side.other other party)
    (safe : Safe here there party other) (fed : Fed here there party other call)
    (heard : ∀ now ip header payload, call = .receive now ip header payload →
      ⟨ip, header, payload⟩ ∈ other.past.segments)
    (state : other.endpoint.state = .lastAck)
    (finished : (party.act call).endpoint.state.peerFinished) :
    (party.act call).endpoint.state.finAcknowledged := by
  have moves := Endpoint.perform_moves party.endpoint call
  have still (acknowledged : party.endpoint.state.finAcknowledged) :
      (party.act call).endpoint.state.finAcknowledged := by
    apply (moves.keepsFinAcknowledged fed.continues acknowledged).resolve_right
    intro closed
    change (party.act call).endpoint.state = .closed at closed
    rw [closed] at finished
    cases finished
  have known := State.knowsPeer_of_peerFinished finished
  cases moves.hears with
  | opened opens => rw [fed.continues] at opens; cases opens
  | unheard _ _ same =>
      have before := (same.known known).2
      change (party.act call).endpoint.state.peerFinished = _ at before
      rw [finished] at before
      exact still (agrees.known state before.symm)
  | introduced _ _ _ _ _ same =>
      have before := (same.known known).2
      change (party.act call).endpoint.state.peerFinished = _ at before
      rw [finished] at before
      cases before
  | @taken now ip header payload called noSyn knows continuing _ _ _ _ same =>
      have fin : header.flags.contains .fin := by
        have before := (same.known known).2
        change (party.act call).endpoint.state.peerFinished = _ at before
        rw [finished, (State.withPeer_facts _).2] at before
        exact before.symm
      obtain ⟨ack, matching⟩ := agrees.last state _ (heard _ _ _ _ called) fin noSyn
      have expected := safe.sends.expected (by rw [state]; rfl)
      obtain ⟨ended, whole⟩ := safe.sends.whole (by rw [state]; rfl)
      rcases State.finWait_of_finished knows continuing ended with first | acknowledged
      · have inFlight : party.endpoint.state.finInFlight := by rw [first]; rfl
        obtain ⟨dropped, ledger, stream⟩ := safe.sends.balanced.ledger (by simp [first])
        have covers : header.acknowledgment = party.endpoint.sendNext := by
          rw [ledger.next_of_finInFlight inFlight, ← stream]
          exact matching.trans (by rw [expected, whole, state]; rfl)
        have within : inWindow party.endpoint.unacknowledged party.endpoint.sendNext
            header.acknowledgment := by
          rw [covers, inWindow_iff _ _ _ ledger.narrow]
          exact .inl (Nat.le_refl _)
        have after : (party.endpoint.receive now ip header payload).endpoint.state = .finWait2 ∨
            (party.endpoint.receive now ip header payload).endpoint.state = .timeWait :=
          Endpoint.receive_finWait1 first noSyn ack (fed.labelled _ _ _ _ called).noRst covers
            (ledger.sendNext_ne_of_finInFlight inFlight) within
        rw [called]
        change (party.endpoint.receive now ip header payload).endpoint.state.finAcknowledged
        rcases after with after | after <;> rw [after] <;> rfl
      · exact still acknowledged

theorem Agrees.act (agrees : Agrees side party other) (peer : Agrees side.other other party)
    (safe : Safe here there party other) (fed : Fed here there party other call)
    (heard : ∀ now ip header payload, call = .receive now ip header payload →
      ⟨ip, header, payload⟩ ∈ other.past.segments) : Agrees side (party.act call) other := by
  have moves := Endpoint.perform_moves party.endpoint call
  have answered : side = .opener → ∀ now ip header payload,
      call = .receive now ip header payload → header.flags.contains .syn →
        header.flags.contains .ack := by
    intro opener now ip header payload called
    exact peer.answers (by rw [opener]; rfl) _ (heard _ _ _ _ called)
  have quiet := moves.hears.opening fed.continues
  refine ⟨agrees.bound.perform call, moves.suits fed.continues answered agrees.suits, ?_, ?_, ?_,
    agrees.last_act safe fed.continues, ?_⟩
  · intro listener sent member syn
    rcases List.mem_append.mp member with old | new
    · exact agrees.answers listener sent old syn
    · obtain ⟨early, late, parted⟩ := List.append_of_mem new
      obtain ⟨_, moment, ⟨_, reached, _⟩, _, spoken⟩ := Endpoint.output_said parted
      have suits := reached.suits fed.continues answered agrees.suits
      rw [listener] at suits
      exact spoken.ack_of_syn suits syn
  · intro opening sent member
    obtain ⟨same, nothing⟩ := quiet opening
    rcases List.mem_append.mp member with old | new
    · exact agrees.silent (by rw [same]; exact opening) sent old
    · rw [← Bool.not_eq_true]
      intro ack
      have listed := Output.acknowledgment_mem new ack
      rw [nothing] at listed
      cases listed
  · intro opening
    obtain ⟨same, _⟩ := quiet opening
    exact agrees.alone (by rw [same]; exact opening)
  · intro state finished
    rcases moves.toLastAck fed.continues state with before | unfinished
    · exact agrees.known before finished
    · rw [(safe.sends.whole finished).1] at unfinished
      cases unfinished

theorem Agrees.watch (agrees : Agrees side.other other party)
    (safe : Safe here there party other) (fed : Fed here there party other call)
    (heard : ∀ now ip header payload, call = .receive now ip header payload →
      ⟨ip, header, payload⟩ ∈ other.past.segments) :
    Agrees side.other other (party.act call) := by
  refine ⟨agrees.bound, agrees.suits, agrees.answers, agrees.silent, ?_, agrees.last,
    agrees.known_act safe fed heard⟩
  intro opening
  apply (Endpoint.perform_moves party.endpoint call).unsynchronized fed.continues ?_
    (agrees.alone opening)
  exact fun _ _ _ _ called => agrees.silent opening _ (heard _ _ _ _ called)

end Step

namespace Pair

variable {sockets : Side → Socket} {first pair : Pair} {side : Side} {call : Call}

def AllAgree (pair : Pair) : Prop := ∀ side, Agrees side (pair side) (pair side.other)

theorem AllAgree.act (agree : pair.AllAgree) (safe : pair.AllSafe sockets)
    (apart : ∀ side, sockets side ≠ sockets side.other)
    (happens : pair.Happens sockets side call) : (pair.act side call).AllAgree := by
  have peer := agree side.other
  rw [other_other] at peer
  have fed := happens.fed (apart side) (safe side)
  have heard : ∀ now ip header payload, call = .receive now ip header payload →
      ⟨ip, header, payload⟩ ∈ (pair side.other).past.segments :=
    fun _ _ _ _ called => happens.sent (apart side) (safe side) called
  intro who
  rcases who.eq_or_eq_other side with rfl | rfl
  · rw [act_self, act_other]
    exact (agree who).act peer (safe who) fed heard
  · rw [other_other, act_self, act_other]
    exact peer.watch (safe side) fed heard

theorem allAgree_start {now : Instant} {bound : Option Address} {configs : Side → Config} :
    (start now sockets bound configs).AllAgree := by
  intro side
  cases side with
  | opener =>
      have bound : (start now sockets bound configs .opener).endpoint.Bound :=
        fun _ _ => ⟨rfl, rfl, rfl⟩
      refine ⟨bound, ⟨nofun, nofun⟩, nofun, ?_, fun _ => rfl, nofun, nofun⟩
      intro _ sent member
      change sent ∈ [_] at member
      rw [List.mem_singleton] at member
      subst member
      exact (by decide : Flags.syn.contains .ack = false)
  | listener =>
      have bound : (start now sockets bound configs .listener).endpoint.Bound :=
        fun _ listening => absurd rfl listening
      exact ⟨bound, nofun, nofun, nofun, fun _ => rfl, nofun, nofun⟩

theorem Reaches.agree (reached : Reaches sockets first pair) (safe : first.AllSafe sockets)
    (apart : ∀ side, sockets side ≠ sockets side.other)
    (bounded : ∀ side, (pair side).past.accepted.length + 2 < 0x80000000)
    (agree : first.AllAgree) : pair.AllAgree := by
  induction reached with
  | refl => exact agree
  | @step pair side call reached happens ih =>
      have shorter := (Reaches.step .refl happens).shorter bounded
      exact (ih shorter).act (reached.allSafe safe apart shorter) apart happens

end Pair

end RadioStack.Tcp
