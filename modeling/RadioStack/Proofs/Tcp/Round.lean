import RadioStack.Proofs.Tcp.Agreement

/-!
A round of the timer in which nothing is lost makes progress. Whatever has been lost before, what an
endpoint sends again is answered, and the answer acknowledges something new: no two endpoints wait
for each other forever. Main statement: `reachable_round_progress`.
-/

namespace RadioStack.Tcp

abbrev Segment.arrival (sent : Segment) (now : Instant) : Call :=
  .receive now sent.ip sent.header sent.payload

abbrev Party.answers (party : Party) (now : Instant) (sent : Segment) : List Segment :=
  (party.endpoint.perform (sent.arrival now)).segments

section Numbers

variable {party other : Party} {dropped : Octets} {number : UInt32}

theorem Delivers.count_of_confirms (delivers : Delivers party other)
    (ledger : party.endpoint.Ledger dropped)
    (whole : party.past.accepted = dropped ++ party.endpoint.ring.toList)
    (opened : party.endpoint.state ≠ .listen)
    (confirms : (party.flow other).Confirms number) :
    ∃ count, 1 ≤ count ∧ count ≤ party.endpoint.state.flagsSent + dropped.length +
        party.endpoint.ring.toList.length ∧
      number = ahead party.endpoint.config.initialSequence count := by
  obtain ⟨taken, same, known⟩ := confirms
  have near := delivers.held.length_le
  have length := congrArg List.length whole
  rw [List.length_append] at length
  have sent : 1 ≤ party.endpoint.state.flagsSent := by
    have running := ledger.running
    cases state : party.endpoint.state <;> simp_all [State.flagsSent]
  refine ⟨1 + taken, Nat.le_add_right _ _, ?_, same⟩
  rcases known with within | ⟨all, ended, _⟩
  · change taken ≤ other.past.reported.length at within
    omega
  · have finished : party.endpoint.state.flagsSent = 2 := by
      change party.endpoint.state.finished at ended
      have running := ledger.running
      cases state : party.endpoint.state <;> simp_all [State.flagsSent, State.finished]
    change taken = party.past.accepted.length + 1 at all
    omega

theorem Delivers.next_of_confirms (delivers : Delivers party other)
    (opening : party.endpoint.state = .synSent ∨ party.endpoint.state = .synReceived)
    (confirms : (party.flow other).Confirms number) : number = party.endpoint.sendNext := by
  have flags : party.endpoint.state.isSynchronized = false ∧ party.endpoint.state.flagsSent = 1 ∧
      party.endpoint.state ≠ .closed ∧ party.endpoint.state ≠ .listen := by
    rcases opening with state | state <;> rw [state] <;> decide
  obtain ⟨unsynchronized, sent, running, opened⟩ := flags
  obtain ⟨dropped, ledger, whole⟩ := delivers.balanced.ledger running
  obtain ⟨zero, drained, _, next⟩ := ledger.unsynchronized unsynchronized
  obtain ⟨count, positive, most, same⟩ := delivers.count_of_confirms ledger whole opened confirms
  rw [zero, drained, sent] at most
  have one : count = 1 := Nat.le_antisymm most positive
  rw [same, next, one, sent]

end Numbers

section Answers

variable {here there : Socket} {side : Side} {party other : Party} {sent : Segment} {now : Instant}

theorem Agrees.answers_syn (own : Agrees side party other) (peer : Agrees side.other other party)
    (state : party.endpoint.state = .synSent) (alive : other.endpoint.state ≠ .closed)
    (flags : sent.header.flags = .syn) :
    ∃ last, other.answers now sent = [last] ∧ last.header.flags = .syn ||| .ack := by
  have alone := own.alone (.inr state)
  have elsewhere : other.endpoint.state ≠ .synSent := by
    cases side with
    | opener => exact peer.suits
    | listener => exact absurd state own.suits
  have syn : sent.header.flags.contains .syn := by rw [flags]; decide
  have noAck : sent.header.flags.contains .ack = false := by rw [flags]; decide
  have noRst : sent.header.flags.contains .rst = false := by rw [flags]; decide
  have waiting : other.endpoint.state = .listen ∨ other.endpoint.state = .synReceived := by
    cases state : other.endpoint.state <;> simp_all [State.isSynchronized]
  rcases waiting with listening | answered
  · exact Endpoint.receive_listen_answers listening syn noAck noRst
  · have repeated : ∃ last, other.answers now sent = [last] ∧ last.header.flags =
        if other.endpoint.state = .synReceived then .syn ||| .ack else .ack :=
      Endpoint.receive_repeatedSyn_answers peer.bound (.inl answered) syn noRst
    rwa [if_pos answered] at repeated

theorem Agrees.answers_synAck (own : Agrees side party other)
    (peer : Agrees side.other other party) (delivers : Delivers other party)
    (state : party.endpoint.state = .synReceived) (alive : other.endpoint.state ≠ .closed)
    (flags : sent.header.flags = .syn ||| .ack)
    (confirms : (other.flow party).Confirms sent.header.acknowledgment) :
    ∃ last, other.answers now sent = [last] ∧ last.header.flags = .ack := by
  have syn : sent.header.flags.contains .syn := by rw [flags]; decide
  have ack : sent.header.flags.contains .ack := by rw [flags]; decide
  have noRst : sent.header.flags.contains .rst = false := by rw [flags]; decide
  have suits : other.endpoint.state ≠ .listen ∧ other.endpoint.state ≠ .synReceived := by
    cases side with
    | opener => exact absurd state own.suits.2
    | listener => exact peer.suits
  by_cases opening : other.endpoint.state = .synSent
  · exact Endpoint.receive_synSent_answers peer.bound opening syn ack noRst
      (delivers.next_of_confirms (.inl opening) confirms)
  · have synchronized : other.endpoint.state.isSynchronized := by
      cases state : other.endpoint.state <;> simp_all [State.isSynchronized]
    have repeated : ∃ last, other.answers now sent = [last] ∧ last.header.flags =
        if other.endpoint.state = .synReceived then .syn ||| .ack else .ack :=
      Endpoint.receive_repeatedSyn_answers peer.bound (.inr synchronized) syn noRst
    rwa [if_neg suits.2] at repeated

theorem Agrees.answers_text (peer : Agrees side.other other party)
    (safe : Safe here there party other) (bounded : party.past.accepted.length + 2 < 0x80000000)
    (boundedOther : other.past.accepted.length + 2 < 0x80000000)
    (synchronized : party.endpoint.state.isSynchronized)
    (inFlight : party.endpoint.unacknowledged ≠ party.endpoint.sendNext)
    (alive : other.endpoint.state ≠ .closed)
    (labelled : Labelled here there (party.flow other) (other.flow party) sent)
    (first : sent.header.sequence = party.endpoint.unacknowledged)
    (noSyn : sent.header.flags.contains .syn = false) (ack : sent.header.flags.contains .ack)
    (matching : sent.header.acknowledgment = party.endpoint.receiveNext)
    (occupied : sent.header.span sent.payload.length ≠ 0) (now : Instant) :
    let after := other.endpoint.receive now sent.ip sent.header sent.payload
    Endpoint.Answers after.segments .ack after.endpoint.receiveNext ∧
      after.endpoint.receiveNext ≠ sent.header.sequence ∧
      after.endpoint.state.isSynchronized := by
  obtain ⟨dropped, ledger, whole⟩ :=
    safe.sends.balanced.ledger (State.IsSynchronized.ne synchronized).1
  have known : other.endpoint.state = .synReceived ∨ other.endpoint.state.isSynchronized := by
    have heard : ¬ (other.endpoint.state = .listen ∨ other.endpoint.state = .synSent) := by
      intro waiting
      rw [peer.alone waiting] at synchronized
      cases synchronized
    cases state : other.endpoint.state <;> simp_all [State.isSynchronized]
  have confirms := labelled.confirms ack
  refine Endpoint.answers_text peer.bound known ?_ ?_ ?_ noSyn labelled.noRst ack occupied
  · intro answered
    exact safe.receives.next_of_confirms (.inr answered) confirms
  · -- Whoever could acknowledge the last FIN has seen its own acknowledged.
    intro last
    have expected := safe.receives.expected (State.knowsPeer_of_isSynchronized synchronized)
    cases finished : party.endpoint.state.peerFinished with
    | false =>
        rw [finished] at expected
        exact safe.receives.not_coversFin boundedOther (Nat.le_refl _) (matching.trans expected)
    | true =>
        have acknowledged := peer.known last finished
        have held := ledger.inFlight inFlight
        cases state : party.endpoint.state <;> rw [state] at held acknowledged <;>
          simp_all [State.finAcknowledged, State.finInFlight, State.carriesData]
  · intro finished inOrder
    have expected := safe.sends.expected (State.knowsPeer_of_peerFinished finished)
    have length := congrArg List.length whole
    rw [List.length_append] at length
    rw [finished, (safe.sends.whole finished).2, ← inOrder, first,
      ledger.oldest_inFlight synchronized inFlight] at expected
    have same := ahead_injective _ (by omega) (by rw [Bool.toNat_true]; omega) expected
    rw [Bool.toNat_true] at same
    omega

end Answers

/-- The oldest number in flight has this place, at which the connection goes on unless something
after `low` has been acknowledged. -/
structure Endpoint.Stands (low high place : Nat) (endpoint : Endpoint) : Prop where
  oldest : endpoint.unacknowledged = ahead endpoint.config.initialSequence place
  least : low ≤ place
  most : place ≤ high
  alive : endpoint.state.isSynchronized ∨ (endpoint.state = .closed ∧ low < place)

def Segment.Counts (sent : Segment) (origin : UInt32) (high : Nat) : Prop :=
  sent.header.flags.contains .ack →
    ∃ number, number ≤ high ∧ sent.header.acknowledgment = ahead origin number

section Arrivals

variable {here there : Socket} {party other : Party} {sent : Segment} {low high place : Nat}

theorem Safe.stands_arrival (safe : Safe here there party other)
    (bounded : party.past.accepted.length + 2 < 0x80000000) (near : high < 0x80000000)
    (stands : party.endpoint.Stands low high place)
    (labelled : Labelled there here (other.flow party) (party.flow other) sent)
    (counts : sent.Counts party.endpoint.config.initialSequence high) (now : Instant) :
    ∃ later, (party.act (sent.arrival now)).endpoint.Stands low high later ∧ place ≤ later ∧
      (sent.header.flags.contains .syn = false →
        low < later ∨ sent.Counts party.endpoint.config.initialSequence later) := by
  have moves := Endpoint.perform_moves party.endpoint (sent.arrival now)
  have config := (moves.continues rfl).1
  rcases stands.alive with synchronized | ⟨closed, past⟩
  · obtain ⟨dropped, ledger, whole⟩ :=
      safe.sends.balanced.ledger (State.IsSynchronized.ne synchronized).1
    have length := congrArg List.length whole
    rw [List.length_append] at length
    have flags := party.endpoint.state.flagsSent_le
    have flags' := party.endpoint.state.flagsAcknowledged_le
    have same : place = party.endpoint.state.flagsAcknowledged + dropped.length := by
      have most := stands.most
      exact ahead_injective _ (by omega) (by omega) (stands.oldest.symm.trans ledger.oldest)
    have counted : sent.header.flags.contains .ack → ∃ number,
        number ≤ party.endpoint.state.flagsSent + dropped.length +
          party.endpoint.ring.toList.length ∧ number ≤ high ∧
        sent.header.acknowledgment = ahead party.endpoint.config.initialSequence number := by
      intro ack
      obtain ⟨number, within, acknowledged⟩ := counts ack
      obtain ⟨count, _, most, acknowledged'⟩ := safe.sends.count_of_confirms ledger whole
        (State.IsSynchronized.ne synchronized).2.1 (labelled.confirms ack)
      have equal := ahead_injective _ (by omega) (by omega) (acknowledged.symm.trans acknowledged')
      exact ⟨number, by omega, within, acknowledged⟩
    obtain ⟨later, oldest, ordered, within, moved, alive⟩ :=
      ledger.receive_oldest synchronized labelled.noRst stands.oldest ledger.next (by omega)
        stands.most (by omega) counted now sent.ip sent.payload
    refine ⟨later, ⟨?_, Nat.le_trans stands.least ordered, within, ?_⟩, ordered, ?_⟩
    · exact oldest.trans (congrArg (fun c => ahead (Config.initialSequence c) later) config.symm)
    · rcases moves.synchronized rfl synchronized with still | closed
      · exact .inl still
      · refine .inr ⟨closed, ?_⟩
        have least := stands.least
        rcases alive with still | past
        · exact absurd closed (State.IsSynchronized.ne still).1
        · omega
    · exact fun noSyn => .inr fun ack => moved ack noSyn
  · have same : (party.act (sent.arrival now)).endpoint = party.endpoint :=
      (Endpoint.receive_of_closed closed).1
    rw [same]
    exact ⟨place, stands, Nat.le_refl _, fun _ => .inl past⟩

end Arrivals

namespace Pair

variable {sockets : Side → Socket} {pair : Pair} {side : Side} {sent : Segment} {now : Instant}
  {low high place : Nat}

def deliver (pair : Pair) (side : Side) : List (Instant × Segment) → Pair
  | [] => pair
  | (now, sent) :: rest => deliver (pair.act side (sent.arrival now)) side rest

theorem Happens.arrival (safe : pair.AllSafe sockets)
    (member : sent ∈ (pair side.other).past.segments) (now : Instant) :
    pair.Happens sockets side (sent.arrival now) := by
  have labelled := (safe side).hears.labelled sent member
  exact .deliver now member labelled.destination.1 labelled.destination.2

theorem accepted_act {call : Call} (silent : ((pair side).endpoint.output call).accepted = [])
    (who : Side) : (pair.act side call who).past.accepted = (pair who).past.accepted := by
  rcases who.eq_or_eq_other side with rfl | rfl
  · rw [act_self, Party.act, Party.accepted_after, silent, List.append_nil]
  · rw [act_other]

theorem AllSafe.act_silent {call : Call} (safe : pair.AllSafe sockets)
    (apart : ∀ side, sockets side ≠ sockets side.other)
    (bounded : ∀ side, (pair side).past.accepted.length + 2 < 0x80000000)
    (happens : pair.Happens sockets side call)
    (silent : ((pair side).endpoint.output call).accepted = []) :
    (pair.act side call).AllSafe sockets ∧
      ∀ who, (pair.act side call who).past.accepted.length + 2 < 0x80000000 := by
  have shorter : ∀ who, (pair.act side call who).past.accepted.length + 2 < 0x80000000 := by
    intro who
    rw [accepted_act silent]
    exact bounded who
  exact ⟨safe.act apart happens shorter, shorter⟩

/-- Whatever arrives of what has been sent, acknowledgments only move forward. -/
theorem AllSafe.deliver (safe : pair.AllSafe sockets)
    (apart : ∀ side, sockets side ≠ sockets side.other)
    (bounded : ∀ side, (pair side).past.accepted.length + 2 < 0x80000000)
    (near : high < 0x80000000) (stands : (pair side).endpoint.Stands low high place)
    (arrivals : List (Instant × Segment))
    (sent : ∀ sent ∈ arrivals.map Prod.snd, sent ∈ (pair side.other).past.segments ∧
      sent.Counts (pair side).endpoint.config.initialSequence high) :
    Reaches sockets pair (pair.deliver side arrivals) ∧
      ∃ later, (pair.deliver side arrivals side).endpoint.Stands low high later ∧ place ≤ later ∧
        ∀ sent ∈ arrivals.map Prod.snd, sent.header.flags.contains .syn = false →
          low < later ∨ sent.Counts (pair side).endpoint.config.initialSequence later := by
  induction arrivals generalizing pair place with
  | nil => exact ⟨.refl, place, stands, Nat.le_refl _, nofun⟩
  | cons arrival rest ih =>
      obtain ⟨now, first⟩ := arrival
      obtain ⟨member, counts⟩ := sent first List.mem_cons_self
      have happens := Happens.arrival safe member now
      obtain ⟨safeNext, boundedNext⟩ := safe.act_silent apart bounded happens rfl
      obtain ⟨middle, standsMiddle, ordered, moved⟩ :=
        (safe side).stands_arrival (bounded side) near stands
          ((safe side).hears.labelled first member) counts now
      rw [← act_self] at standsMiddle
      have config : (pair.act side (first.arrival now) side).endpoint.config =
          (pair side).endpoint.config := (happens.continues_act side).config
      have onward := @ih (pair.act side (first.arrival now)) middle safeNext boundedNext
        standsMiddle
      rw [act_other, config] at onward
      obtain ⟨reached, later, standsLater, further, all⟩ :=
        onward fun sent' listed => sent sent' (List.mem_cons_of_mem _ listed)
      refine ⟨(Reaches.step .refl happens).trans reached, later, standsLater,
        Nat.le_trans ordered further, ?_⟩
      intro sent' listed noSyn
      rcases List.mem_cons.mp listed with rfl | listed
      · refine (moved noSyn).imp (fun past => Nat.lt_of_lt_of_le past further) ?_
        intro counts ack
        obtain ⟨number, within, acknowledged⟩ := counts ack
        exact ⟨number, Nat.le_trans within further, acknowledged⟩
      · exact all sent' listed noSyn

def Gains (before after : Endpoint) : Prop :=
  0 < (after.unacknowledged - before.unacknowledged).toNat ∧
    (after.unacknowledged - before.unacknowledged).toNat ≤
      (before.sendNext - before.unacknowledged).toNat

theorem gains_of_handshake {before after : Endpoint}
    (inFlight : before.unacknowledged ≠ before.sendNext)
    (all : after.unacknowledged = before.sendNext) : Gains before after := by
  refine ⟨Nat.pos_of_ne_zero ?_, Nat.le_of_eq (by rw [all])⟩
  rw [ne_eq, toNat_sub_eq_iff _ _ (by decide), ahead_zero, all]
  exact fun same => inFlight same.symm

theorem gains_of_stands {before after : Endpoint} {later : Nat}
    (config : after.config = before.config) (stands : after.Stands low high later)
    (moved : low < later) (near : high < 0x80000000)
    (oldest : before.unacknowledged = ahead before.config.initialSequence low)
    (next : before.sendNext = ahead before.config.initialSequence high) :
    Gains before after := by
  have most := stands.most
  rw [Gains, stands.oldest, config, oldest, next, toNat_ahead_sub _ (by omega) (by omega),
    toNat_ahead_sub _ (by omega) (by omega)]
  omega

theorem AllSafe.gains_of_single (safe : pair.AllSafe sockets)
    (inFlight : (pair side).endpoint.unacknowledged ≠ (pair side).endpoint.sendNext)
    {last : Segment} (member : last ∈ (pair side.other).past.segments)
    {arrivals : List (Instant × Segment)} (only : arrivals.map Prod.snd = [last])
    (all : ∀ now, ((pair side).endpoint.perform (last.arrival now)).endpoint.unacknowledged =
      (pair side).endpoint.sendNext) :
    Reaches sockets pair (pair.deliver side arrivals) ∧
      Gains (pair side).endpoint (pair.deliver side arrivals side).endpoint := by
  obtain ⟨⟨now, other⟩, single, same⟩ := List.map_eq_singleton_iff.mp only
  change other = last at same
  subst single same
  refine ⟨.step .refl (Happens.arrival safe member now), gains_of_handshake inFlight ?_⟩
  change (pair.act side (other.arrival now) side).endpoint.unacknowledged = _
  rw [act_self]
  exact all now

theorem AllSafe.gains_of_synAck (safe : pair.AllSafe sockets)
    (opening : (pair side).endpoint.state = .synSent)
    (inFlight : (pair side).endpoint.unacknowledged ≠ (pair side).endpoint.sendNext)
    {last : Segment} (member : last ∈ (pair side.other).past.segments)
    (flags : last.header.flags = .syn ||| .ack)
    {arrivals : List (Instant × Segment)} (only : arrivals.map Prod.snd = [last]) :
    Reaches sockets pair (pair.deliver side arrivals) ∧
      Gains (pair side).endpoint (pair.deliver side arrivals side).endpoint := by
  have labelled := (safe side).hears.labelled last member
  have syn : last.header.flags.contains .syn := by rw [flags]; decide
  have ack : last.header.flags.contains .ack := by rw [flags]; decide
  have matching := (safe side).sends.next_of_confirms (.inl opening) (labelled.confirms ack)
  exact safe.gains_of_single inFlight member only fun _ =>
    Endpoint.receive_synSent_oldest opening syn ack labelled.noRst matching

theorem AllSafe.gains_of_ack (safe : pair.AllSafe sockets)
    (answered : (pair side).endpoint.state = .synReceived)
    (inFlight : (pair side).endpoint.unacknowledged ≠ (pair side).endpoint.sendNext)
    {last : Segment} (member : last ∈ (pair side.other).past.segments)
    (flags : last.header.flags = .ack)
    {arrivals : List (Instant × Segment)} (only : arrivals.map Prod.snd = [last]) :
    Reaches sockets pair (pair.deliver side arrivals) ∧
      Gains (pair side).endpoint (pair.deliver side arrivals side).endpoint := by
  have labelled := (safe side).hears.labelled last member
  have noSyn : last.header.flags.contains .syn = false := by rw [flags]; decide
  have ack : last.header.flags.contains .ack := by rw [flags]; decide
  have matching := (safe side).sends.next_of_confirms (.inr answered) (labelled.confirms ack)
  exact safe.gains_of_single inFlight member only fun _ =>
    Endpoint.receive_synReceived_oldest answered noSyn ack labelled.noRst matching

theorem AllSafe.gains_of_answers (safe : pair.AllSafe sockets)
    (apart : ∀ side, sockets side ≠ sockets side.other)
    (bounded : ∀ side, (pair side).past.accepted.length + 2 < 0x80000000)
    (synchronized : (pair side).endpoint.state.isSynchronized)
    (inFlight : (pair side).endpoint.unacknowledged ≠ (pair side).endpoint.sendNext)
    (known : (pair side.other).endpoint.state.isSynchronized)
    (new : (pair side.other).endpoint.receiveNext ≠ (pair side).endpoint.unacknowledged)
    {arrivals : List (Instant × Segment)}
    (members : ∀ sent ∈ arrivals.map Prod.snd, sent ∈ (pair side.other).past.segments)
    (answers : Endpoint.Answers (arrivals.map Prod.snd) .ack
      (pair side.other).endpoint.receiveNext) :
    Reaches sockets pair (pair.deliver side arrivals) ∧
      Gains (pair side).endpoint (pair.deliver side arrivals side).endpoint := by
  have running := (State.IsSynchronized.ne synchronized).1
  obtain ⟨dropped, ledger, whole⟩ := (safe side).sends.balanced.ledger running
  have oldest := ledger.oldest_inFlight synchronized inFlight
  have short := bounded side
  have length := congrArg List.length whole
  rw [List.length_append] at length
  have flags := (pair side).endpoint.state.flagsSent_le
  have flags' := (pair side).endpoint.state.flagsAcknowledged_pos synchronized
  have flags'' := (pair side).endpoint.state.flagsAcknowledged_le
  have near : (pair side).endpoint.state.flagsSent + dropped.length +
      (pair side).endpoint.ring.toList.length < 0x80000000 := by omega
  have stands : (pair side).endpoint.Stands (1 + dropped.length)
      ((pair side).endpoint.state.flagsSent + dropped.length +
        (pair side).endpoint.ring.toList.length) (1 + dropped.length) :=
    ⟨oldest, Nat.le_refl _, by omega, .inl synchronized⟩
  have counts : ∀ sent ∈ arrivals.map Prod.snd, sent ∈ (pair side.other).past.segments ∧
      sent.Counts (pair side).endpoint.config.initialSequence
        ((pair side).endpoint.state.flagsSent + dropped.length +
          (pair side).endpoint.ring.toList.length) := by
    intro sent listed
    refine ⟨members sent listed, ?_⟩
    intro ack
    have labelled := (safe side).hears.labelled sent (members sent listed)
    obtain ⟨count, _, most, same⟩ := (safe side).sends.count_of_confirms ledger whole
      (State.IsSynchronized.ne synchronized).2.1 (labelled.confirms ack)
    exact ⟨count, most, same⟩
  obtain ⟨reached, later, standsLater, _, all⟩ :=
    safe.deliver apart bounded near stands arrivals counts
  refine ⟨reached, gains_of_stands ?_ standsLater ?_ near oldest ledger.next⟩
  · exact (reached.continues side).config
  · obtain ⟨early, last, listed, spoken, number⟩ := answers
    have member : last ∈ arrivals.map Prod.snd := by
      rw [listed]
      exact List.mem_append_right _ (List.mem_singleton_self last)
    have noSyn : last.header.flags.contains .syn = false := by rw [spoken]; decide
    have ack : last.header.flags.contains .ack := by rw [spoken]; decide
    rcases all last member noSyn with past | counted
    · exact past
    · obtain ⟨count, within, acknowledged⟩ := counted ack
      -- What has been dropped has been reported, so what is expected is not before the oldest.
      have expected := (safe side).sends.expected (State.knowsPeer_of_isSynchronized known)
      have kept := (safe side).sends.kept running
      have held := (safe side).sends.held.length_le
      have finished := (pair side.other).endpoint.state.peerFinished.toNat_le
      have most := standsLater.most
      have same := ahead_injective _ (by omega) (by omega)
        ((acknowledged.symm.trans number).trans expected)
      have distinct : 1 + (pair side.other).past.reported.length +
          (pair side.other).endpoint.state.peerFinished.toNat ≠ 1 + dropped.length := by
        intro equal
        rw [equal, ← oldest] at expected
        exact new expected
      omega

/-- A segment sent again has been heard, and all of the answer arrives. -/
theorem AllAgree.round (agree : pair.AllAgree) (safe : pair.AllSafe sockets)
    (apart : ∀ side, sockets side ≠ sockets side.other)
    (bounded : ∀ side, (pair side).past.accepted.length + 2 < 0x80000000)
    (inFlight : (pair side).endpoint.unacknowledged ≠ (pair side).endpoint.sendNext)
    (alive : (pair side.other).endpoint.state ≠ .closed)
    (member : sent ∈ (pair side).past.segments)
    (first : sent.header.sequence = (pair side).endpoint.unacknowledged)
    (repeats : (pair side).endpoint.Repeats sent) (now : Instant)
    (arrivals : List (Instant × Segment))
    (answers : arrivals.map Prod.snd = (pair side.other).answers now sent) :
    let answered := pair.act side.other (sent.arrival now)
    Reaches sockets pair (answered.deliver side arrivals) ∧
      Gains (pair side).endpoint (answered.deliver side arrivals side).endpoint := by
  intro answered
  have happens : pair.Happens sockets side.other (sent.arrival now) :=
    Happens.arrival safe (by rwa [other_other]) now
  obtain ⟨safeNext, boundedNext⟩ := safe.act_silent apart bounded happens rfl
  change answered.AllSafe sockets at safeNext
  have still : answered side = pair side := by
    have same : answered side.other.other = pair side.other.other := act_other
    rwa [other_other] at same
  have heard : answered side.other = (pair side.other).act (sent.arrival now) := act_self
  have peer := agree side.other
  rw [other_other] at peer
  have labelled := (safe side).speaks.labelled sent member
  have members : ∀ sent ∈ arrivals.map Prod.snd, sent ∈ (answered side.other).past.segments := by
    intro answer listed
    rw [answers] at listed
    rw [heard]
    exact List.mem_append_right _ listed
  have onward : Reaches sockets answered (answered.deliver side arrivals) ∧
      Gains (answered side).endpoint (answered.deliver side arrivals side).endpoint := by
    cases repeats with
    | syn opening flags =>
        obtain ⟨last, only, spoken⟩ :
            ∃ last, (pair side.other).answers now sent = [last] ∧
              last.header.flags = .syn ||| .ack :=
          (agree side).answers_syn peer opening alive flags
        have mine := members last (by rw [answers, only]; exact List.mem_singleton_self last)
        rw [← still] at opening inFlight
        exact safeNext.gains_of_synAck opening inFlight mine spoken (answers.trans only)
    | synAck answered flags =>
        have ack : sent.header.flags.contains .ack := by rw [flags]; decide
        obtain ⟨last, only, spoken⟩ :
            ∃ last, (pair side.other).answers now sent = [last] ∧ last.header.flags = .ack :=
          (agree side).answers_synAck peer (safe side).receives answered alive flags
            (labelled.confirms ack)
        have mine := members last (by rw [answers, only]; exact List.mem_singleton_self last)
        rw [← still] at answered inFlight
        exact safeNext.gains_of_ack answered inFlight mine spoken (answers.trans only)
    | text synchronized noSyn ack matching occupied =>
        obtain ⟨answer, past, known⟩ := peer.answers_text (safe side) (bounded side)
          (bounded side.other) synchronized inFlight alive labelled first noSyn ack matching
          occupied now
        rw [first] at past
        rw [← still] at synchronized inFlight past
        refine safeNext.gains_of_answers apart boundedNext synchronized inFlight ?_ ?_ members ?_
        · rw [heard]
          exact known
        · rw [heard]
          exact past
        · rw [heard, answers]
          exact answer
  rw [still] at onward
  exact ⟨(Reaches.step .refl happens).trans onward.1, onward.2⟩

/-- When the timer of an endpoint runs out with something in flight, it sends one segment; and once
this and all of the answer have arrived, some of what was in flight has been acknowledged. -/
theorem reachable_round_progress {now due : Instant} {bound : Option Address}
    {configs : Side → Config} (apart : sockets .opener ≠ sockets .listener)
    (free : bound = none ∨ bound = some (sockets .listener).address)
    (sized : ∀ side, 1 ≤ (configs side).maxSegmentSize)
    (reached : Reaches sockets (start now sockets bound configs) pair)
    (bounded : ∀ side, (pair side).past.accepted.length + 2 < 0x80000000)
    (running : (pair side).endpoint.state ≠ .closed)
    (inFlight : (pair side).endpoint.unacknowledged ≠ (pair side).endpoint.sendNext)
    (alive : (pair side.other).endpoint.state ≠ .closed)
    (late : (pair side).endpoint.config.retransmissionInterval ≤
      due.since (pair side).endpoint.lastSend) :
    ∃ sent, ((pair side).endpoint.perform (.tick due)).segments = [sent] ∧
      ∀ moment arrivals,
        let ticked := pair.act side (.tick due)
        let answered := ticked.act side.other (sent.arrival moment)
        arrivals.map Prod.snd = (ticked side.other).answers moment sent →
          Reaches sockets pair (answered.deliver side arrivals) ∧
            Gains (pair side).endpoint (answered.deliver side arrivals side).endpoint := by
  have distinct : ∀ side, sockets side ≠ sockets side.other := Side.ne_other apart
  have safe := reached.allSafe (allSafe_start free) distinct bounded
  have agree := reached.agree (allSafe_start free) distinct bounded allAgree_start
  obtain ⟨dropped, ledger, _⟩ := (safe side).sends.balanced.ledger running
  have config : (pair side).endpoint.config = configs side := by
    rw [(reached.continues side).config]
    cases side <;> rfl
  obtain ⟨sent, lastSend, segments, endpoint, first, repeats⟩ :=
    ledger.tick_repeats (agree side).bound (by rw [config]; exact sized side) inFlight late
  refine ⟨sent, segments, ?_⟩
  intro moment arrivals ticked answered answers
  have happens : pair.Happens sockets side (.tick due) := .tick due
  obtain ⟨safeNext, boundedNext⟩ := safe.act_silent distinct bounded happens rfl
  have agreeNext : ticked.AllAgree := agree.act safe distinct happens
  have mine : ticked side = (pair side).act (.tick due) := act_self
  have other : ticked side.other = pair side.other := act_other
  have same : (ticked side).endpoint = { (pair side).endpoint with lastSend } := by
    rw [mine]
    exact endpoint
  have member : sent ∈ (ticked side).past.segments := by
    rw [mine]
    refine List.mem_append_right _ ?_
    change sent ∈ ((pair side).endpoint.tick due).segments
    rw [segments]
    exact List.mem_singleton_self sent
  have onward := agreeNext.round safeNext distinct boundedNext (by rwa [same]) (by rwa [other])
    member (by rwa [same]) (by rw [same]; exact repeats.timed lastSend) moment arrivals answers
  rw [same] at onward
  exact ⟨(Reaches.step .refl happens).trans onward.1, onward.2⟩

def lost : Pair := opened.act .opener (.send 0 [1, 2, 3])

theorem lost_round_progress :
    ∃ sent, ((lost .opener).endpoint.perform (.tick 1000)).segments = [sent] ∧
      sent.payload = [1, 2, 3] ∧
      let ticked := lost.act .opener (.tick 1000)
      let answers := (ticked .listener).answers 1005 sent
      let after := (ticked.act .listener (sent.arrival 1005)).deliver .opener
        (answers.map fun answer => (1010, answer))
      Reaches twoSockets lost after ∧ Gains (lost .opener).endpoint (after .opener).endpoint := by
  have reached : Reaches twoSockets begun lost := .step reaches_opened (.send 0 [1, 2, 3])
  have bounded : ∀ side, (lost side).past.accepted.length + 2 < 0x80000000 := by
    intro side
    cases side <;> decide
  have payloads : ((lost .opener).endpoint.perform (.tick 1000)).segments.map Segment.payload =
      [[1, 2, 3]] := by
    decide +kernel
  obtain ⟨sent, segments, progress⟩ :=
    reachable_round_progress (by decide) (.inl rfl) (fun _ => by decide) reached bounded
      (by decide : (lost .opener).endpoint.state ≠ .closed) (by decide +kernel) (by decide)
      (by decide : _ ≤ Instant.since 1000 (lost .opener).endpoint.lastSend)
  rw [segments] at payloads
  refine ⟨sent, segments, List.head_eq_of_cons_eq payloads, progress 1005 _ ?_⟩
  rw [List.map_map]
  exact List.map_id _

end Pair

end RadioStack.Tcp
