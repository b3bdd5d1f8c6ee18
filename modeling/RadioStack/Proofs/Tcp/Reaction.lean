import RadioStack.Proofs.Tcp.Agreement

/-!
What an arriving segment does to an endpoint. If it has something new for the endpoint, then the
state or one of the numbers of the connection changes. If it has nothing new, everything but the
clocks stays, and what is answered repeats what is known: the numbers of the connection, and
perhaps the oldest data. Main statements: `Tells.changes`, `receive_untold`.
-/

namespace RadioStack.Tcp

namespace Endpoint

/-- An endpoint without its clocks and the window of its peer, on which no answer depends. -/
def core (endpoint : Endpoint) : Endpoint :=
  { endpoint with sendWindow := 0, lastSend := 0, timeWaitSince := 0 }

inductive Tells (endpoint : Endpoint) (sent : Segment) : Prop
  | welcome (listening : endpoint.state = .listen) (syn : sent.header.flags.contains .syn)
    (noAck : sent.header.flags.contains .ack = false)
  | establish (opening : endpoint.state = .synSent) (syn : sent.header.flags.contains .syn)
  | confirm (answered : endpoint.state = .synReceived)
    (noSyn : sent.header.flags.contains .syn = false) (ack : sent.header.flags.contains .ack)
  | acknowledge (synchronized : endpoint.state.isSynchronized)
    (covers : endpoint.Acknowledges sent.header)
  | take (accepting : endpoint.state.acceptsText)
    (noSyn : sent.header.flags.contains .syn = false)
    (inOrder : sent.header.sequence = endpoint.receiveNext)
    (occupied : sent.header.span sent.payload.length ≠ 0)

structure Current (endpoint : Endpoint) (sent : Segment) : Prop where
  flags : sent.header.flags = .ack
  empty : sent.payload = []
  sequence : sent.header.sequence = endpoint.sendNext
  acknowledgment : sent.header.acknowledgment = endpoint.receiveNext

structure Oldest (endpoint : Endpoint) (sent : Segment) : Prop where
  flags : sent.header.flags = .ack ||| .psh
  nonempty : sent.payload ≠ []
  short : sent.payload.length ≤ SendRing.capacity
  sequence : sent.header.sequence = endpoint.unacknowledged
  acknowledgment : sent.header.acknowledgment = endpoint.receiveNext
  held : endpoint.ring.toList ≠ []

/-- A segment that says nothing but what is known already. -/
def Repeat (endpoint : Endpoint) (sent : Segment) : Prop :=
  endpoint.Current sent ∨ endpoint.Oldest sent

/-- A bare acknowledgment of what is known, which asks for the oldest data. -/
structure Prompts (endpoint : Endpoint) (sent : Segment) : Prop where
  noSyn : sent.header.flags.contains .syn = false
  ack : sent.header.flags.contains .ack
  known : sent.header.acknowledgment = endpoint.unacknowledged
  bare : sent.payload = []
  noFin : sent.header.flags.contains .fin = false
  held : endpoint.ring.toList ≠ []

structure InPlace (endpoint : Endpoint) (sent : Segment) : Prop where
  noSyn : sent.header.flags.contains .syn = false
  inOrder : sent.header.sequence = endpoint.receiveNext
  empty : sent.header.span sent.payload.length = 0

/-- An answer that says nothing but what is known: whoever is asked for the oldest data sends it,
and whatever is not in its place is acknowledged. -/
structure Echoes (endpoint : Endpoint) (sent : Segment) (answers : List Segment) : Prop where
  few : answers.length ≤ 2
  known : ∀ answer ∈ answers, endpoint.Repeat answer
  prompted : endpoint.Prompts sent → ∃ answer ∈ answers, endpoint.Oldest answer
  silent : endpoint.InPlace sent → ∀ answer ∈ answers, endpoint.Oldest answer
  elsewhere : sent.header.sequence ≠ endpoint.receiveNext →
    ∃ answer ∈ answers, endpoint.Current answer

section Core

variable {before after : Endpoint} {sent : Segment}

theorem Tells.congr (tells : before.Tells sent) (same : after.core = before.core) :
    after.Tells sent := by
  have state : after.state = before.state := (congrArg Endpoint.state same :)
  have oldest : after.unacknowledged = before.unacknowledged := (congrArg unacknowledged same :)
  have next : after.sendNext = before.sendNext := (congrArg sendNext same :)
  have expected : after.receiveNext = before.receiveNext := (congrArg receiveNext same :)
  cases tells with
  | welcome listening syn noAck => exact .welcome (by rw [state, listening]) syn noAck
  | establish opening syn => exact .establish (by rw [state, opening]) syn
  | confirm answered noSyn ack => exact .confirm (by rw [state, answered]) noSyn ack
  | acknowledge synchronized covers =>
      obtain ⟨ack, noSyn, noRst, within, new⟩ := covers
      rw [← oldest, ← next] at within
      rw [← oldest] at new
      exact .acknowledge (by rwa [state]) ⟨ack, noSyn, noRst, within, new⟩
  | take accepting noSyn inOrder occupied =>
      exact .take (by rwa [state]) noSyn (by rw [expected, inOrder]) occupied

theorem Current.congr (current : before.Current sent) (same : after.core = before.core) :
    after.Current sent := by
  have next : after.sendNext = before.sendNext := (congrArg sendNext same :)
  have expected : after.receiveNext = before.receiveNext := (congrArg receiveNext same :)
  exact ⟨current.flags, current.empty, by rw [next, current.sequence],
    by rw [expected, current.acknowledgment]⟩

theorem Oldest.congr (again : before.Oldest sent) (same : after.core = before.core) :
    after.Oldest sent := by
  have oldest : after.unacknowledged = before.unacknowledged := (congrArg unacknowledged same :)
  have expected : after.receiveNext = before.receiveNext := (congrArg receiveNext same :)
  have queue : after.ring = before.ring := (congrArg ring same :)
  exact ⟨again.flags, again.nonempty, again.short, by rw [oldest, again.sequence],
    by rw [expected, again.acknowledgment], by rw [queue]; exact again.held⟩

end Core

variable {endpoint : Endpoint} {sent : Segment} {dropped : Octets} {now : Instant}
  {header : Header} {payload : Octets}

theorem Repeat.facts (repeats : endpoint.Repeat sent) :
    sent.header.flags.contains .syn = false ∧ sent.header.flags.contains .ack ∧
      sent.header.flags.contains .rst = false ∧
      sent.header.acknowledgment = endpoint.receiveNext := by
  rcases repeats with current | again
  · rw [current.flags]
    exact ⟨by decide, by decide, by decide, current.acknowledgment⟩
  · rw [again.flags]
    exact ⟨by decide, by decide, by decide, again.acknowledgment⟩

theorem core_sendAck (endpoint : Endpoint) (now : Instant) :
    (endpoint.sendAck now).endpoint.core = endpoint.core :=
  transmit_keeps endpoint core (fun _ _ => rfl) _ _ _ _

theorem sendAck_current (bound : endpoint.Bound) (synchronized : endpoint.state.isSynchronized)
    (now : Instant) :
    ∃ last, (endpoint.sendAck now).segments = [last] ∧ endpoint.Current last := by
  obtain ⟨_, _, _, _, _, _, spoken⟩ := bound.transmit
    (State.running_of_known (.inr synchronized)) now endpoint.sendNext .ack 0
  exact ⟨_, spoken, rfl, payload_eq_nil (.inr rfl), rfl, acknowledgment_segmentAt (by decide)⟩

theorem receiveText_untold (bound : endpoint.Bound) (synchronized : endpoint.state.isSynchronized)
    (untold : ¬ (endpoint.state.acceptsText ∧ header.sequence = endpoint.receiveNext ∧
      header.span payload.length ≠ 0)) :
    let after := endpoint.receiveText now header payload
    after.endpoint.core = endpoint.core ∧
      ((header.sequence = endpoint.receiveNext ∧ header.span payload.length = 0 ∧
          after.segments = []) ∨
        (¬ (header.sequence = endpoint.receiveNext ∧ header.span payload.length = 0) ∧
          ∃ last, after.segments = [last] ∧ endpoint.Current last)) := by
  obtain ⟨notClosed, _, _, notAnswered⟩ := State.IsSynchronized.ne synchronized
  have current := sendAck_current bound synchronized now
  dsimp only [receiveText]
  rw [if_neg (by simp [notClosed, notAnswered])]
  by_cases inOrder : header.sequence = endpoint.receiveNext
  · rw [if_neg (fun other => other inOrder)]
    by_cases empty : header.span payload.length = 0
    · rw [if_pos empty]
      exact ⟨rfl, .inl ⟨inOrder, empty, rfl⟩⟩
    · have deaf : endpoint.state.acceptsText = false := by
        rw [← Bool.not_eq_true]
        exact fun accepting => untold ⟨accepting, inOrder, empty⟩
      rw [if_neg empty, if_pos (by simp [deaf])]
      exact ⟨core_sendAck endpoint now, .inr ⟨fun place => empty place.2, current⟩⟩
  · rw [if_pos inOrder, Turn.toTurn_quiet, Turn.endpoint_andThen, Turn.segments_andThen,
      endpoint_note]
    exact ⟨core_sendAck endpoint now, .inr ⟨fun place => inOrder place.1, current⟩⟩

theorem Ledger.retransmit_oldest (ledger : endpoint.Ledger dropped) (bound : endpoint.Bound)
    (sized : 1 ≤ endpoint.config.maxSegmentSize) (held : endpoint.ring.toList ≠ [])
    (now : Instant) :
    ∃ again, (endpoint.retransmit now).segments = [again] ∧ endpoint.Oldest again := by
  have carries : endpoint.state.carriesData := by
    rw [← Bool.not_eq_false]
    exact fun empty => held (ledger.drained empty)
  have notOpening := (State.IsSynchronized.ne (State.isSynchronized_of_carriesData carries)).2.2.1
  obtain ⟨oldest, known, -, again⟩ := bound.retransmit_text carries held sized
  obtain ⟨sequence, flags, acknowledgment, payload⟩ := item?_eq_some known
  rw [State.itemFlags_of_carriesData carries] at flags
  rw [if_neg notOpening] at acknowledgment
  obtain ⟨nonzero, short⟩ := length_itemText_bounds carries held sized
  rw [← payload] at nonzero short
  exact ⟨oldest, (again now).1, flags, fun empty => nonzero (congrArg List.length empty), short,
    sequence, acknowledgment, held⟩

theorem receiveDuplicateAck_untold (ledger : endpoint.Ledger dropped) (bound : endpoint.Bound)
    (sized : 1 ≤ endpoint.config.maxSegmentSize) (now : Instant) :
    let after := endpoint.receiveDuplicateAck now header payload
    after.endpoint.core = endpoint.core ∧
      (after.segments = [] ∨ ∃ again, after.segments = [again] ∧ endpoint.Oldest again) ∧
      (payload = [] → header.flags.contains .fin = false → endpoint.ring.toList ≠ [] →
        after.segments ≠ []) := by
  have asked : (payload.isEmpty && !header.flags.contains .fin && !endpoint.ring.isEmpty) = true ↔
      payload = [] ∧ header.flags.contains .fin = false ∧ endpoint.ring.toList ≠ [] := by
    rw [Bool.and_eq_true, Bool.and_eq_true, List.isEmpty_iff, Bool.not_eq_true', Bool.not_eq_true',
      ← Bool.not_eq_true endpoint.ring.isEmpty, SendRing.isEmpty_iff, and_assoc]
  unfold receiveDuplicateAck
  dsimp only
  split
  · rename_i prompted
    obtain ⟨_, _, held⟩ := asked.mp prompted
    obtain ⟨again, sent, oldest⟩ := ledger.retransmit_oldest bound sized held now
    rw [Turn.endpoint_andThen, Turn.segments_andThen, endpoint_note]
    refine ⟨retransmit_keeps endpoint core (fun _ _ => rfl) now, .inr ⟨again, sent, oldest⟩, ?_⟩
    intro _ _ _
    rw [sent]
    exact List.append_ne_nil_of_right_ne_nil _ (List.cons_ne_nil _ _)
  · rename_i unasked
    exact ⟨rfl, .inl rfl, fun bare noFin held => absurd (asked.mpr ⟨bare, noFin, held⟩) unasked⟩

theorem receiveAck_untold (ledger : endpoint.Ledger dropped) (bound : endpoint.Bound)
    (sized : 1 ≤ endpoint.config.maxSegmentSize) (synchronized : endpoint.state.isSynchronized)
    (untold : inWindow endpoint.unacknowledged endpoint.sendNext header.acknowledgment →
      header.acknowledgment = endpoint.unacknowledged) (now : Instant) :
    let after := endpoint.receiveAck now header payload
    after.endpoint.core = endpoint.core ∧
      (after.segments = [] ∨ ∃ again, after.segments = [again] ∧ endpoint.Oldest again) ∧
      (header.acknowledgment = endpoint.unacknowledged → payload = [] →
        header.flags.contains .fin = false → endpoint.ring.toList ≠ [] → after.segments ≠ []) := by
  have windowed : Ledger dropped { endpoint with sendWindow := header.window } :=
    ⟨ledger.running, ledger.oldest, ledger.next, ledger.drained, ledger.fresh⟩
  dsimp only [receiveAck]
  rw [if_neg (State.IsSynchronized.ne synchronized).2.2.2]
  split
  · rename_i outside
    refine ⟨rfl, .inl rfl, ?_⟩
    intro known
    rw [known, Bool.not_eq_true', ← Bool.not_eq_true, inWindow_iff _ _ _ ledger.narrow,
      UInt32.sub_self] at outside
    exact absurd (.inl (Nat.zero_le _)) outside
  · rename_i within
    rw [Bool.not_eq_true', Bool.not_eq_false] at within
    rw [if_pos (untold within)]
    obtain ⟨same, again, asked⟩ :=
      @receiveDuplicateAck_untold _ _ header payload windowed bound sized now
    refine ⟨same, again.imp_right ?_, fun _ => asked⟩
    rintro ⟨again, sent, oldest⟩
    exact ⟨again, sent, oldest.congr rfl⟩

theorem echoes_thenReceive (bound : endpoint.Bound) (synchronized : endpoint.state.isSynchronized)
    (noSyn : sent.header.flags.contains .syn = false) (untold : ¬ endpoint.Tells sent)
    {first : Turn} (same : first.endpoint.core = endpoint.core)
    (again : first.segments = [] ∨ ∃ again, first.segments = [again] ∧ endpoint.Oldest again)
    (prompted : endpoint.Prompts sent → first.segments ≠ []) (now : Instant) :
    let after := first.thenReceive (receiveText now sent.header sent.payload)
    after.endpoint.core = endpoint.core ∧ endpoint.Echoes sent after.segments := by
  have state : first.endpoint.state = endpoint.state := (congrArg Endpoint.state same :)
  have expected : first.endpoint.receiveNext = endpoint.receiveNext :=
    (congrArg receiveNext same :)
  have bound' : first.endpoint.Bound :=
    bound.congr (State.running_of_known (.inr synchronized)) (congrArg ends same :)
  obtain ⟨still, answer⟩ := @receiveText_untold first.endpoint now sent.header sent.payload bound'
    (by rwa [state]) (fun text => untold (.take (by rw [← state]; exact text.1) noSyn
      (by rw [← expected]; exact text.2.1) text.2.2))
  have prompts : endpoint.Prompts sent → ∃ answer ∈ first.segments, endpoint.Oldest answer := by
    intro asked
    obtain ⟨again, alone, oldest⟩ := again.resolve_left (prompted asked)
    exact ⟨again, by rw [alone]; exact List.mem_singleton_self again, oldest⟩
  have few : first.segments.length ≤ 1 := by
    rcases again with silent | ⟨again, alone, _⟩
    · rw [silent]
      exact Nat.zero_le _
    · rw [alone]
      exact Nat.le_refl _
  have known : ∀ answer ∈ first.segments, endpoint.Oldest answer := by
    intro answer member
    rcases again with silent | ⟨again, alone, oldest⟩
    · rw [silent] at member
      cases member
    · rw [alone, List.mem_singleton] at member
      rwa [member]
  dsimp only
  rw [Turn.endpoint_thenReceive, Turn.segments_thenReceive]
  refine ⟨still.trans same, ?_⟩
  rcases answer with ⟨inOrder, _, silent⟩ | ⟨elsewhere, last, alone, current⟩
  · rw [silent, List.append_nil]
    exact ⟨Nat.le_succ_of_le few, fun answer member => .inr (known answer member), prompts,
      fun _ => known, fun other => absurd (inOrder.trans expected) other⟩
  · have answered : first.endpoint.Current last → endpoint.Current last :=
      fun current => current.congr same.symm
    rw [alone]
    refine ⟨?_, ?_, ?_, ?_, ?_⟩
    · rw [List.length_append]
      exact Nat.succ_le_succ few
    · intro answer member
      rcases List.mem_append.mp member with early | late
      · exact .inr (known answer early)
      · rw [List.mem_singleton] at late
        exact .inl (late ▸ answered current)
    · intro asked
      obtain ⟨answer, member, oldest⟩ := prompts asked
      exact ⟨answer, List.mem_append_left _ member, oldest⟩
    · intro place
      exact absurd ⟨place.inOrder.trans expected.symm, place.empty⟩ elsewhere
    · exact fun _ => ⟨last, List.mem_append_right _ (List.mem_singleton_self last),
        answered current⟩

/-- A synchronized endpoint that hears nothing new stays as it is, and echoes. -/
theorem receive_untold (ledger : endpoint.Ledger dropped) (bound : endpoint.Bound)
    (sized : 1 ≤ endpoint.config.maxSegmentSize) (synchronized : endpoint.state.isSynchronized)
    (noRst : sent.header.flags.contains .rst = false) (untold : ¬ endpoint.Tells sent)
    (now : Instant) :
    let after := endpoint.receive now sent.ip sent.header sent.payload
    after.endpoint.core = endpoint.core ∧ endpoint.Echoes sent after.segments := by
  obtain ⟨same, segments⟩ :=
    @receive_of_known endpoint now sent.ip sent.header sent.payload (.inr synchronized)
  dsimp only
  rw [same, segments, receiveSynchronized, noRst]
  cases syn : sent.header.flags.contains .syn with
  | true =>
      obtain ⟨last, alone, current⟩ := sendAck_current bound synchronized now
      change (endpoint.receiveRepeatedSyn now).endpoint.core = _ ∧
        endpoint.Echoes sent (endpoint.receiveRepeatedSyn now).segments
      rw [receiveRepeatedSyn, if_neg (State.IsSynchronized.ne synchronized).2.2.2, alone]
      refine ⟨core_sendAck endpoint now, by simp, ?_, ?_, ?_, ?_⟩
      · intro answer member
        rw [List.mem_singleton] at member
        exact .inl (member ▸ current)
      · intro prompts
        rw [prompts.noSyn] at syn
        cases syn
      · intro place
        rw [place.noSyn] at syn
        cases syn
      · exact fun _ => ⟨last, List.mem_singleton_self last, current⟩
  | false =>
      cases ack : sent.header.flags.contains .ack with
      | false =>
          refine echoes_thenReceive bound synchronized syn untold rfl (.inl rfl) ?_ now
          intro prompts
          rw [prompts.ack] at ack
          cases ack
      | true =>
          have known : inWindow endpoint.unacknowledged endpoint.sendNext
              sent.header.acknowledgment →
              sent.header.acknowledgment = endpoint.unacknowledged := by
            intro within
            apply Decidable.byContradiction
            intro new
            exact untold (.acknowledge synchronized ⟨ack, syn, noRst, within, new⟩)
          obtain ⟨still, again, asked⟩ := @receiveAck_untold _ _ sent.header sent.payload ledger
            bound sized synchronized known now
          exact echoes_thenReceive bound synchronized syn untold still again
            (fun prompts => asked prompts.known prompts.bare prompts.noFin prompts.held) now

theorem receive_unheard
    (unknown : endpoint.state = .closed ∨ endpoint.state = .listen ∨ endpoint.state = .synSent)
    (noRst : sent.header.flags.contains .rst = false) (untold : ¬ endpoint.Tells sent)
    (now : Instant) :
    let after := endpoint.receive now sent.ip sent.header sent.payload
    after.endpoint.core = endpoint.core ∧ after.segments = [] := by
  unfold receive
  dsimp only
  rw [Turn.endpoint_thenReceive, Turn.segments_thenReceive, endpoint_note]
  rcases unknown with state | state | state <;> rw [state]
  · exact ⟨rfl, rfl⟩
  · have ignored : (sent.header.flags.contains .syn && !sent.header.flags.contains .ack &&
        !sent.header.flags.contains .rst) = false := by
      rw [← Bool.not_eq_true, Bool.and_eq_true, Bool.and_eq_true, Bool.not_eq_true']
      exact fun greets => untold (.welcome state greets.1.1 greets.1.2)
    dsimp only
    rw [receiveInListen, ignored]
    exact ⟨rfl, rfl⟩
  · have noSyn : sent.header.flags.contains .syn = false := by
      rw [← Bool.not_eq_true]
      exact fun syn => untold (.establish state syn)
    dsimp only [receiveInSynSent]
    rw [noRst, noSyn]
    split <;> exact ⟨rfl, rfl⟩

theorem receive_answered (bound : endpoint.Bound) (answered : endpoint.state = .synReceived)
    (noRst : sent.header.flags.contains .rst = false) (untold : ¬ endpoint.Tells sent)
    (now : Instant) :
    let after := endpoint.receive now sent.ip sent.header sent.payload
    after.endpoint.core = endpoint.core ∧ after.segments.length ≤ 1 := by
  obtain ⟨same, segments⟩ :=
    @receive_of_known endpoint now sent.ip sent.header sent.payload (.inl answered)
  dsimp only
  rw [same, segments, receiveSynchronized, noRst]
  cases syn : sent.header.flags.contains .syn with
  | true =>
      change (endpoint.receiveRepeatedSyn now).endpoint.core = _ ∧
        (endpoint.receiveRepeatedSyn now).segments.length ≤ 1
      obtain ⟨_, _, _, _, _, _, spoken⟩ := bound.transmit
        (State.running_of_known (.inl answered)) now endpoint.unacknowledged (.syn ||| .ack) 0
      rw [receiveRepeatedSyn, if_pos answered, spoken]
      exact ⟨transmit_keeps endpoint core (fun _ _ => rfl) _ _ _ _, Nat.le_refl _⟩
  | false =>
      have noAck : sent.header.flags.contains .ack = false := by
        rw [← Bool.not_eq_true]
        exact fun ack => untold (.confirm answered syn ack)
      rw [noAck]
      change (receiveText now sent.header sent.payload endpoint).endpoint.core = _ ∧
        (([] ++ (receiveText now sent.header sent.payload endpoint).segments).length ≤ 1)
      dsimp only [receiveText]
      rw [if_pos (.inr answered)]
      exact ⟨rfl, Nat.zero_le _⟩

/-- The connection has got on: its state is another one, or the oldest number that is not
acknowledged, or the number that is expected next. -/
def Changes (before after : Endpoint) : Prop :=
  after.state ≠ before.state ∨ after.unacknowledged ≠ before.unacknowledged ∨
    (before.state.knowsPeer ∧ after.receiveNext ≠ before.receiveNext)

theorem sendNext_ne_of_opening (ledger : endpoint.Ledger dropped)
    (opening : endpoint.state = .synSent ∨ endpoint.state = .synReceived) :
    endpoint.sendNext ≠ endpoint.unacknowledged := by
  have flags : endpoint.state.isSynchronized = false ∧ endpoint.state.flagsSent = 1 := by
    rcases opening with state | state <;> rw [state] <;> decide
  obtain ⟨_, _, oldest, next⟩ := ledger.unsynchronized flags.1
  rw [oldest, next, flags.2]
  intro same
  have one := ahead_injective _ (by decide) (by decide) (same.trans (ahead_zero _).symm)
  cases one

theorem receive_listen_state (listening : endpoint.state = .listen)
    (syn : sent.header.flags.contains .syn) (noAck : sent.header.flags.contains .ack = false)
    (noRst : sent.header.flags.contains .rst = false) (now : Instant) :
    (endpoint.receive now sent.ip sent.header sent.payload).endpoint.state = .synReceived := by
  rw [(receive_of_listen listening).1, receiveInListen, syn, noAck, noRst, if_pos (by decide),
    Turn.endpoint_andThen, endpoint_enter, sendControl_eq]
  exact transmit_keeps _ Endpoint.state (fun _ _ => rfl) _ _ _ _

theorem receive_next_text (bound : endpoint.Bound) (accepting : endpoint.state.acceptsText)
    (noSyn : sent.header.flags.contains .syn = false)
    (noRst : sent.header.flags.contains .rst = false)
    (inOrder : sent.header.sequence = endpoint.receiveNext)
    (occupied : sent.header.span sent.payload.length ≠ 0) (now : Instant) :
    (endpoint.receive now sent.ip sent.header sent.payload).endpoint.receiveNext ≠
      endpoint.receiveNext := by
  have synchronized := (State.isSynchronized_of_acceptsText accepting).1
  obtain ⟨_, continuing⟩ := State.knowsPeer_of_acceptsText accepting
  rw [(receive_of_known (.inr synchronized)).1, receiveSynchronized, noRst, noSyn, ← inOrder]
  cases sent.header.flags.contains .ack with
  | false => exact (receiveText_answers bound synchronized (fun _ => accepting) occupied).2
  | true =>
      have lives : Lives endpoint.state
          (endpoint.receiveAck now sent.header sent.payload).endpoint.state := by
        apply receiveAck_lives (.inr synchronized)
        · exact fun answered => absurd answered (State.IsSynchronized.ne synchronized).2.2.2
        · intro last
          rw [last] at accepting
          cases accepting
      have bound' : (endpoint.receiveAck now sent.header sent.payload).endpoint.Bound :=
        bound.congr (State.running_of_known (.inr synchronized))
          (receiveAck_keeps ends fun _ _ _ _ _ _ _ _ _ => rfl)
      have accepting' := State.acceptsText_of_continuing lives.synchronized
        (lives.finished.trans continuing)
      exact (receiveText_answers bound' lives.synchronized (fun _ => accepting') occupied).2

theorem Tells.changes (tells : endpoint.Tells sent) (ledger : endpoint.Ledger dropped)
    (bound : endpoint.Bound) (noRst : sent.header.flags.contains .rst = false)
    (answers : endpoint.state = .synSent → sent.header.flags.contains .syn →
      sent.header.flags.contains .ack)
    (matching : endpoint.state = .synSent ∨ endpoint.state = .synReceived →
      sent.header.flags.contains .ack → sent.header.acknowledgment = endpoint.sendNext)
    (now : Instant) :
    Changes endpoint (endpoint.receive now sent.ip sent.header sent.payload).endpoint := by
  cases tells with
  | welcome listening syn noAck =>
      left
      rw [receive_listen_state listening syn noAck noRst, listening]
      nofun
  | establish opening syn =>
      have ack := answers opening syn
      right
      left
      rw [receive_synSent_oldest opening syn ack noRst (matching (.inl opening) ack)]
      exact sendNext_ne_of_opening ledger (.inl opening)
  | confirm answered noSyn ack =>
      right
      left
      rw [receive_synReceived_oldest answered noSyn ack noRst (matching (.inr answered) ack)]
      exact sendNext_ne_of_opening ledger (.inr answered)
  | acknowledge synchronized covers =>
      have effect : endpoint.AckEffect sent.header
          (endpoint.receive now sent.ip sent.header sent.payload) :=
        receive_effect synchronized ledger.lastAck_drained covers.ack covers.noSyn covers.noRst
      right
      left
      cases effect with
      | rejected outside => rw [covers.within] at outside; cases outside
      | repeated known => exact absurd known covers.new
      | taken _ new _ oldest => rwa [oldest]
  | take accepting noSyn inOrder occupied =>
      exact .inr (.inr ⟨(State.knowsPeer_of_acceptsText accepting).1,
        receive_next_text bound accepting noSyn noRst inOrder occupied now⟩)

/-- Whoever comes to wait for the acknowledgment of its FIN with this turn sends it. -/
def ShowsFin (before : Endpoint) (turn : Turn) : Prop :=
  turn.endpoint.state = .finWait1 →
    before.state = .finWait1 ∨ ∃ answer ∈ turn.segments, answer.header.flags.contains .fin

theorem sendFinIfDrained_showsFin (bound : endpoint.Bound) (now : Instant) :
    endpoint.ShowsFin (endpoint.sendFinIfDrained now) := by
  unfold sendFinIfDrained
  split
  · split
    · exact .inl
    · rename_i state next
      intro _
      right
      have running : (endpoint.state ≠ .closed ∧ endpoint.state ≠ .listen) ∧
          state ≠ .closed ∧ state ≠ .listen := by
        rcases finState?_eq_some next with ⟨first, rfl⟩ | ⟨first, rfl⟩ <;> rw [first] <;> decide
      have boundNext : Bound { endpoint with state, sendNext := endpoint.sendNext + 1 } :=
        bound.congr running.1 rfl
      obtain ⟨_, _, _, _, _, _, spoken⟩ :=
        boundNext.transmit running.2 now endpoint.sendNext (.fin ||| .ack) 0
      rw [Turn.segments_andThen, segments_enter, endpoint_enter, spoken]
      exact ⟨_, List.mem_singleton_self _, (by decide : (Flags.fin ||| .ack).contains .fin)⟩
  · exact .inl

theorem andThen_showsFin {turn : Turn} (bound : turn.endpoint.Bound)
    (before : turn.endpoint.state = .finWait1 → endpoint.state = .finWait1) (now : Instant) :
    endpoint.ShowsFin (turn.andThen (sendFinIfDrained now)) := by
  intro waits
  refine (sendFinIfDrained_showsFin bound now waits).imp before ?_
  rintro ⟨answer, member, fin⟩
  rw [Turn.segments_andThen]
  exact ⟨answer, List.mem_append_right _ member, fin⟩

theorem receiveAck_showsFin (bound : endpoint.Bound)
    (known : endpoint.state = .synReceived ∨ endpoint.state.isSynchronized) (now : Instant) :
    endpoint.ShowsFin (endpoint.receiveAck now header payload).toTurn := by
  have running := State.running_of_known known
  dsimp only [receiveAck]
  split
  · unfold receiveAckOfSyn
    split
    · rw [Turn.toTurn_quiet]
      apply andThen_showsFin
      · rw [endpoint_enter]
        exact bound.congr running rfl
      · rw [endpoint_enter]
        rintro ⟨⟩
    · exact .inl
  · split
    · exact .inl
    · split
      · intro waits
        rw [Turn.toTurn_quiet, receiveDuplicateAck_keeps Endpoint.state fun _ _ => rfl] at waits
        exact .inl waits
      · rw [Turn.toTurn_quiet]
        dsimp only [advance]
        split
        · apply andThen_showsFin
          · refine bound.congr running ?_
            unfold finAcknowledged
            split <;> simp [ends]
          · unfold finAcknowledged
            split
            · rw [endpoint_enter]
              rintro ⟨⟩
            · rw [endpoint_enterTimeWait]
              rintro ⟨⟩
            · rw [endpoint_abort]
              rintro ⟨⟩
            · exact id
        · exact andThen_showsFin (bound.congr running rfl) id now

theorem receive_showsFin (bound : endpoint.Bound) (noRst : header.flags.contains .rst = false)
    (known : endpoint.state = .synReceived ∨ endpoint.state.isSynchronized) (now : Instant)
    (ip : Ip.Header) (payload : Octets) :
    endpoint.ShowsFin (endpoint.receive now ip header payload).toTurn := by
  obtain ⟨same, segments⟩ := @receive_of_known endpoint now ip header payload known
  intro waits
  rw [segments]
  rw [same] at waits
  rw [receiveSynchronized, noRst] at waits ⊢
  cases syn : header.flags.contains .syn with
  | true =>
      left
      rw [syn] at waits
      change (endpoint.receiveRepeatedSyn now).endpoint.state = _ at waits
      unfold receiveRepeatedSyn at waits
      split at waits
      · rwa [transmit_keeps _ Endpoint.state fun _ _ => rfl] at waits
      · rwa [sendAck, transmit_keeps _ Endpoint.state fun _ _ => rfl] at waits
  | false =>
      rw [syn] at waits
      -- The text of a segment leads to no state in which nothing but the FIN is left to send.
      have before {first : Turn}
          (text : (first.thenReceive (receiveText now header payload)).endpoint.state =
            .finWait1) : first.endpoint.state = .finWait1 := by
        rw [Turn.endpoint_thenReceive] at text
        rcases state_receiveText now header payload first.endpoint with same | finished
        · rwa [← same]
        · rw [finished] at text
          cases state : first.endpoint.state <;> rw [state] at text <;> cases text
      cases ack : header.flags.contains .ack with
      | false =>
          rw [ack] at waits
          exact .inl (before waits)
      | true =>
          rw [ack] at waits
          refine (receiveAck_showsFin bound known now (before waits)).imp_right ?_
          rintro ⟨answer, member, fin⟩
          exact ⟨answer, Turn.segments_thenReceive _ _ ▸ List.mem_append_left _ member, fin⟩

end Endpoint

end RadioStack.Tcp
