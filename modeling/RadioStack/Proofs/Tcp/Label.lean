import RadioStack.Proofs.Tcp.Accounting
import RadioStack.Proofs.Tcp.Moment

/-!
Sequence numbers label the octets that are sent. Whatever an endpoint sends, for the first time or
again, is the piece of what has been handed over on the connection that its number says, and is
still held in the ring. Main statement: `reachable_labelled`.
-/

namespace RadioStack.Tcp

/-- The payload of a segment is a piece of a stream, with the number that it has there, and among
the octets held at its end. -/
def Segment.Labels (sent : Segment) (origin : UInt32) (stream : Octets) (held : Nat) : Prop :=
  ∃ before after, stream = before ++ sent.payload ++ after ∧
    sent.header.sequence = ahead origin (1 + before.length) ∧ stream.length ≤ before.length + held

namespace Endpoint

variable {call : Call} {before after moment endpoint : Endpoint} {output : Output}
  {dropped stream data : Octets} {now : Instant} {turn : Turn}

theorem payload_eq_nil {source destination : Address} {port : UInt16} {sequence : UInt32}
    {flags : Flags} {length : Nat} (empty : endpoint.ring.toList = [] ∨ length = 0) :
    (endpoint.segmentAt source destination port sequence flags length).payload = [] := by
  change endpoint.ring.peek _ _ = []
  rw [SendRing.peek_eq_take_drop]
  rcases empty with empty | zero
  · rw [empty, List.drop_nil, List.take_nil]
  · rw [zero, Nat.zero_min, List.take_zero]

theorem length_payload {source destination : Address} {port : UInt16} {sequence : UInt32}
    {flags : Flags} {length : Nat} :
    (endpoint.segmentAt source destination port sequence flags length).payload.length =
      min (min length SendRing.capacity)
        (endpoint.ring.count - (sequence - endpoint.unacknowledged).toNat) := by
  change (endpoint.ring.peek _ _).length = _
  rw [SendRing.peek_eq_take_drop, List.length_take, List.length_drop, SendRing.length_toList]

theorem acknowledgment_segmentAt {source destination : Address} {port : UInt16}
    {sequence : UInt32} {flags : Flags} {length : Nat} (ack : flags.contains .ack) :
    (endpoint.segmentAt source destination port sequence flags length).header.acknowledgment =
      endpoint.receiveNext := if_pos ack

theorem Ledger.labels_of_offset (ledger : endpoint.Ledger dropped)
    (carries : endpoint.state.carriesData) {offset : Nat}
    (inside : offset ≤ endpoint.ring.toList.length) {source destination : Address} {port : UInt16}
    {sequence : UInt32} {flags : Flags} {length : Nat}
    (place : sequence = ahead endpoint.unacknowledged offset) :
    (endpoint.segmentAt source destination port sequence flags length).Labels
      endpoint.config.initialSequence (dropped ++ endpoint.ring.toList) endpoint.ring.count := by
  have held := Ledger.count_le endpoint
  have apart : (sequence - endpoint.unacknowledged).toNat = offset :=
    (toNat_sub_eq_iff _ _ (by omega)).mpr place
  have payload : (endpoint.segmentAt source destination port sequence flags length).payload =
      (endpoint.ring.toList.drop offset).take (min length SendRing.capacity) := by
    rw [← apart]
    exact SendRing.peek_eq_take_drop _ _ _
  refine ⟨dropped ++ endpoint.ring.toList.take offset,
    (endpoint.ring.toList.drop offset).drop (min length SendRing.capacity), ?_, ?_, ?_⟩
  · rw [payload, List.append_assoc, List.take_append_drop, List.append_assoc,
      List.take_append_drop]
  · rw [List.length_append, List.length_take, Nat.min_eq_left inside]
    change sequence = _
    rw [place, (ledger.next_of_carriesData carries).1, ahead_ahead, Nat.add_assoc]
  · rw [List.length_append, List.length_append, SendRing.length_toList]
    omega

theorem Ledger.labels (ledger : endpoint.Ledger dropped) {source destination : Address}
    {port : UInt16} {sequence : UInt32} {flags : Flags} {length : Nat}
    (may : endpoint.MaySend call sequence flags length)
    (text : (endpoint.segmentAt source destination port sequence flags length).payload ≠ []) :
    (endpoint.segmentAt source destination port sequence flags length).Labels
      endpoint.config.initialSequence (dropped ++ endpoint.ring.toList) endpoint.ring.count := by
  have carries : endpoint.state.carriesData := by
    cases carries : endpoint.state.carriesData with
    | true => rfl
    | false => exact absurd (payload_eq_nil (.inl (ledger.drained carries))) text
  cases may with
  | ack | syn | synAck | fin | rst => exact absurd (payload_eq_nil (.inr rfl)) text
  | fresh _ held last =>
      rw [← SendRing.length_toList] at held
      apply ledger.labels_of_offset carries (Nat.sub_le _ length)
      rw [last, (ledger.next_of_carriesData carries).2, ahead_sub _ held]
  | again => exact ledger.labels_of_offset carries (Nat.zero_le _) (ahead_zero _).symm

theorem Move.config (move : Move call before output after) : after.config = before.config := by
  cases move <;> rfl

theorem Moves.config (moves : Moves call before output after) : after.config = before.config :=
  moves.keeps (fun move same => move.config.trans same) rfl

def Bound (endpoint : Endpoint) : Prop :=
  endpoint.state ≠ .closed → endpoint.state ≠ .listen →
    endpoint.localAddress.isSome ∧ endpoint.remoteAddress.isSome ∧ endpoint.remotePort.isSome

theorem Bound.listens (bound : endpoint.Bound) (running : endpoint.state ≠ .closed)
    (unbound : endpoint.isConnected = false) : endpoint.state = .listen := by
  apply Decidable.byContradiction
  intro begun
  obtain ⟨_, there, door⟩ := bound running begun
  rw [isConnected, there, door] at unbound
  cases unbound

theorem Move.bound (move : Move call before output after)
    (addressed : ∀ now address port, call = .connect now address port →
      before.boundAddress.isSome) (bound : before.Bound) :
    after.Bound ∧ after.boundAddress = before.boundAddress := by
  have still (running : before.state ≠ .closed ∧ before.state ≠ .listen) :=
    bound running.1 running.2
  cases move with
  | wait | say | queue | intend | acknowledge => exact ⟨bound, rfl⟩
  | connect called => exact ⟨fun _ _ => ⟨addressed _ _ _ called, rfl, rfl⟩, rfl⟩
  | listen => exact ⟨fun _ waiting => absurd rfl waiting, rfl⟩
  | welcome => exact ⟨fun _ _ => ⟨by simp, rfl, rfl⟩, rfl⟩
  | establish _ state | cross _ state | confirm _ state =>
      exact ⟨fun _ _ => still (by simp [state]), rfl⟩
  | finish _ next =>
      refine ⟨fun _ _ => still ?_, rfl⟩
      rcases next with ⟨state, _⟩ | ⟨state, _⟩ <;> simp [state]
  | finishLast | abort => exact ⟨fun running _ => absurd rfl running, rfl⟩
  | sendFin _ _ next =>
      refine ⟨fun _ _ => still ?_, rfl⟩
      rcases finState?_eq_some next with ⟨state, _⟩ | ⟨state, _⟩ <;> simp [state]
  | take _ _ _ accepting =>
      obtain ⟨notClosed, notListen, _⟩ :=
        State.IsSynchronized.ne (State.isSynchronized_of_acceptsText accepting).1
      exact ⟨fun _ _ => still ⟨notClosed, notListen⟩, rfl⟩

theorem Moves.bound (moves : Moves call before output after)
    (addressed : ∀ now address port, call = .connect now address port →
      before.boundAddress.isSome) (bound : before.Bound) : after.Bound := by
  induction moves with
  | done => exact bound
  | step move _ ih =>
      obtain ⟨boundMiddle, same⟩ := move.bound addressed bound
      exact ih (by rwa [same]) boundMiddle

theorem connect_of_isNone (now : Instant) (address : Address) (port : UInt16)
    (unaddressed : endpoint.boundAddress = none) :
    ∃ failure, endpoint.connect now address port = .error failure := by
  unfold connect
  split
  · exact ⟨_, rfl⟩
  · rw [unaddressed]
    exact ⟨_, rfl⟩

theorem Bound.perform (bound : endpoint.Bound) (call : Call) :
    (endpoint.perform call).endpoint.Bound := by
  cases call with
  | connect now address port =>
      cases addressed : endpoint.boundAddress with
      | none =>
          obtain ⟨failure, failed⟩ := endpoint.connect_of_isNone now address port addressed
          rw [Endpoint.perform, failed]
          exact bound
      | some here =>
          exact (perform_moves endpoint _).bound (fun _ _ _ _ => by rw [addressed]; rfl) bound
  | listen | send | close | reset | tick | receive =>
      refine (perform_moves endpoint _).bound ?_ bound
      rintro _ _ _ ⟨⟩

/-- What has been handed over on the connection after a call: a connection that opens has a stream
of its own. -/
def nextStream (endpoint : Endpoint) (call : Call) (stream : Octets) : Octets :=
  if call.opens && (endpoint.perform call).result.isOk then []
  else stream ++ (endpoint.output call).accepted

theorem transmit_bare (endpoint : Endpoint) (now : Instant) (sequence : UInt32) (flags : Flags) :
    ∀ sent ∈ (endpoint.transmit now sequence flags 0).segments, sent.payload = [] := by
  intro sent member
  obtain ⟨_, _, _, rfl⟩ := endpoint.mem_transmit member
  exact payload_eq_nil (.inr rfl)

theorem connect_opens {address : Address} {port : UInt16}
    (connected : endpoint.connect now address port = .ok turn) :
    turn.endpoint.state = .synSent ∧ ∀ sent ∈ turn.segments, sent.payload = [] := by
  unfold connect at connected
  split at connected
  · cases connected
  · split at connected
    · cases connected
    · cases connected
      rw [Turn.endpoint_andThen, Turn.segments_andThen, segments_enter, endpoint_enter,
        sendControl_eq]
      exact ⟨transmit_keeps _ Endpoint.state (fun _ _ => rfl) _ _ _ _, transmit_bare _ _ _ _⟩

theorem listen_opens (listened : endpoint.listen = .ok turn) :
    turn.endpoint.state = .listen ∧ turn.segments = [] := by
  unfold listen at listened
  split at listened
  · cases listened
  · cases listened
    rw [endpoint_enter, segments_enter]
    exact ⟨rfl, rfl⟩

theorem opens_facts (opens : call.opens) :
    (∀ sent ∈ (endpoint.output call).segments, sent.payload = []) ∧
      ((endpoint.perform call).result.isOk → (endpoint.perform call).endpoint.state ≠ .closed ∧
        (endpoint.perform call).endpoint.state.isSynchronized = false) ∧
      ((endpoint.perform call).result.isOk = false →
        (endpoint.perform call).endpoint = endpoint ∧ (endpoint.output call).accepted = []) := by
  cases call with
  | connect now address port =>
      rw [output, perform]
      cases connected : endpoint.connect now address port with
      | ok turn =>
          obtain ⟨state, bare⟩ := connect_opens connected
          refine ⟨bare, fun _ => ?_, by rintro ⟨⟩⟩
          change turn.endpoint.state ≠ _ ∧ turn.endpoint.state.isSynchronized = _
          rw [state]
          exact ⟨by decide, rfl⟩
      | error failure => exact ⟨List.forall_mem_nil _, by rintro ⟨⟩, fun _ => ⟨rfl, rfl⟩⟩
  | listen =>
      rw [output, perform]
      cases listened : endpoint.listen with
      | ok turn =>
          obtain ⟨state, silent⟩ := listen_opens listened
          refine ⟨?_, fun _ => ?_, by rintro ⟨⟩⟩
          · change ∀ sent ∈ turn.segments, _
            rw [silent]
            exact List.forall_mem_nil _
          · change turn.endpoint.state ≠ _ ∧ turn.endpoint.state.isSynchronized = _
            rw [state]
            exact ⟨by decide, rfl⟩
      | error failure => exact ⟨List.forall_mem_nil _, by rintro ⟨⟩, fun _ => ⟨rfl, rfl⟩⟩
  | send | close | reset | tick | receive => cases opens

theorem Balanced.perform (balanced : endpoint.Balanced stream) (genuine : endpoint.Genuine call) :
    (endpoint.perform call).endpoint.Balanced (endpoint.nextStream call stream) := by
  obtain ⟨rest, after, continued⟩ := (perform_moves endpoint call).balanced genuine balanced
  unfold nextStream
  cases opens : call.opens with
  | false =>
      rw [continued opens] at after
      exact after
  | true =>
      obtain ⟨_, opened, failed⟩ := endpoint.opens_facts opens
      cases succeeded : (endpoint.perform call).result.isOk with
      | true =>
          obtain ⟨running, opening⟩ := opened succeeded
          obtain ⟨dropped, ledger, whole⟩ := after.ledger running
          obtain ⟨zero, drained, _⟩ := ledger.unsynchronized opening
          rw [zero, drained] at whole
          rwa [whole] at after
      | false =>
          obtain ⟨same, nothing⟩ := failed succeeded
          rw [same, nothing]
          exact (List.append_nil stream).symm ▸ balanced

theorem Records.balanced {start : Endpoint}
    (recorded : start.Records Genuine nextStream [] endpoint stream)
    (balanced : start.Balanced []) : endpoint.Balanced stream := by
  induction recorded with
  | blank => exact balanced
  | call _ genuine ih => exact ih.perform genuine

theorem Records.bound {Record : Type} {allowed : Endpoint → Call → Prop}
    {enter : Endpoint → Call → Record → Record} {start : Endpoint} {blank record : Record}
    (recorded : start.Records allowed enter blank endpoint record) (bound : start.Bound) :
    endpoint.Bound := by
  induction recorded with
  | blank => exact bound
  | call _ _ ih => exact ih.perform _

theorem Records.config {Record : Type} {allowed : Endpoint → Call → Prop}
    {enter : Endpoint → Call → Record → Record} {start : Endpoint} {blank record : Record}
    (recorded : start.Records allowed enter blank endpoint record) :
    endpoint.config = start.config := by
  induction recorded with
  | blank => rfl
  | call _ _ ih => rw [(perform_moves _ _).config, ih]

theorem Bound.transmit (bound : endpoint.Bound)
    (running : endpoint.state ≠ .closed ∧ endpoint.state ≠ .listen) (now : Instant)
    (sequence : UInt32) (flags : Flags) (length : Nat) :
    ∃ source destination port,
      endpoint.localAddress = some source ∧ endpoint.remoteAddress = some destination ∧
      endpoint.remotePort = some port ∧
      (endpoint.transmit now sequence flags length).segments =
        [endpoint.segmentAt source destination port sequence flags length] := by
  obtain ⟨here, there, door⟩ := bound running.1 running.2
  obtain ⟨source, here⟩ := Option.isSome_iff_exists.mp here
  obtain ⟨destination, there⟩ := Option.isSome_iff_exists.mp there
  obtain ⟨port, door⟩ := Option.isSome_iff_exists.mp door
  refine ⟨source, destination, port, here, there, door, ?_⟩
  unfold Endpoint.transmit
  rw [here, there, door]
  rfl

/-- What is handed over goes out at once, as one segment with the numbers that come next. -/
theorem send_emits (balanced : endpoint.Balanced stream) (bound : endpoint.Bound)
    (text : data ≠ []) (sent : endpoint.send now data = .ok turn) :
    ∃ segment, turn.segments = [segment] ∧ segment.payload = data ∧
      segment.header.sequence = endpoint.sendNext ∧
      turn.endpoint.sendNext = endpoint.sendNext + data.length.toUInt32 := by
  unfold send at sent
  split at sent
  · cases sent
  · rename_i ready
    split at sent
    · rename_i empty
      exact absurd (List.isEmpty_iff.mp empty) text
    · split at sent
      · cases sent
      · rename_i ring room
        cases sent
        have carries := carriesData_of_refusal?_eq_none ready
        obtain ⟨notClosed, notListen, _⟩ :=
          State.IsSynchronized.ne (State.isSynchronized_of_carriesData carries)
        obtain ⟨dropped, ledger, _⟩ := balanced.ledger notClosed
        obtain ⟨source, destination, port, _, _, _, spoken⟩ :=
          @Bound.transmit { endpoint with
            ring, sendNext := endpoint.sendNext + data.length.toUInt32 } bound
            ⟨notClosed, notListen⟩ now endpoint.sendNext (.ack ||| .psh) data.length
        refine ⟨_, spoken, ?_, rfl, transmit_keeps _ sendNext (fun _ _ => rfl) _ _ _ _⟩
        -- The ring has held everything before the new data, which is therefore what it ends with.
        have grown := SendRing.toList_enqueue? room
        have fits : data.length ≤ 128 := by
          have length := congrArg List.length grown
          have := ring.count_le
          rw [SendRing.length_toList, List.length_append] at length
          omega
        have offset : (endpoint.sendNext - endpoint.unacknowledged).toNat =
            endpoint.ring.toList.length := by
          have := Ledger.count_le endpoint
          exact (toNat_sub_eq_iff _ _ (by omega)).mpr (ledger.next_of_carriesData carries).2
        calc
          ring.peek (endpoint.sendNext - endpoint.unacknowledged).toNat (min data.length 128) =
              (ring.toList.drop endpoint.ring.toList.length).take data.length := by
            rw [SendRing.peek_eq_take_drop, offset, Nat.min_eq_left fits]
          _ = data := by
            rw [grown, List.drop_left, List.take_length]

/-- Against any peer, but for misleading segments: whatever text goes out, for the first time or
again, is the piece of the stream that its number says, in the part that is not acknowledged; and
what is handed over goes out at once as one segment. -/
theorem reachable_labelled {address : Option Address} {port : UInt16} {config : Config}
    (recorded : (create address port config).Records Genuine nextStream [] endpoint stream) :
    (∀ call, endpoint.Genuine call → ∀ early sent late,
      (endpoint.output call).segments = early ++ sent :: late → sent.payload ≠ [] →
        call.opens = false ∧ ∃ output moment, endpoint.Passes call output moment ∧
          output.segments = early ∧ sent.Labels config.initialSequence
            (stream ++ output.accepted) moment.ring.count) ∧
    ∀ now data turn, data ≠ [] → endpoint.send now data = .ok turn →
      ∃ sent, turn.segments = [sent] ∧ sent.payload = data ∧
        sent.header.sequence = endpoint.sendNext ∧
        turn.endpoint.sendNext = endpoint.sendNext + data.length.toUInt32 := by
  have balanced := recorded.balanced (balanced_create address port config)
  have bound : endpoint.Bound := recorded.bound fun running => absurd rfl running
  refine ⟨?_, fun now data turn text sent => send_emits balanced bound text sent⟩
  intro call genuine early sent late parted text
  have continues : call.opens = false := by
    cases opens : call.opens with
    | false => rfl
    | true =>
        refine absurd ((endpoint.opens_facts opens).1 sent ?_) text
        rw [parted]
        exact List.mem_append_right _ List.mem_cons_self
  obtain ⟨output, moment, passes, sentEarly, spoken⟩ := output_said parted
  refine ⟨continues, output, moment, passes, sentEarly, ?_⟩
  obtain ⟨_, reached, _⟩ := passes
  obtain ⟨rest, after, whole⟩ := reached.balanced genuine balanced
  have origin : moment.config = config := reached.config.trans recorded.config
  cases spoken with
  | segmentAt may =>
      have running : moment.state ≠ .closed := by
        intro closed
        cases after with
        | closed _ drained => exact text (payload_eq_nil (.inl drained))
        | running ledger => exact ledger.running closed
      obtain ⟨dropped, ledger, parts⟩ := after.ledger running
      have labels := ledger.labels may text
      rwa [origin, ← parts, whole continues] at labels

def shortened : Endpoint :=
  (sending.perform (.receive 0
    { nextHeader := .tcp, source := .allRouters, destination := .allNodes }
    { sourcePort := 2, destinationPort := 1, sequence := 8, acknowledgment := 3
      flags := .ack, window := 128 } [])).endpoint

theorem records_shortened :
    (create (some .allNodes) 1 {}).Records Genuine nextStream [] shortened [1, 2, 3] := by
  have calm {endpoint : Endpoint} (opening : endpoint.state.isSynchronized = false) (call : Call) :
      endpoint.Genuine call := by
    intro _ _ _ _ _ misled
    exact absurd misled.synchronized (by simp [opening])
  have opened : (create (some .allNodes) 1 {}).Records Genuine nextStream [] waiting [] :=
    .call (.call .blank (calm rfl _)) (calm rfl _)
  have sent : (create (some .allNodes) 1 {}).Records Genuine nextStream [] sending [1, 2, 3] :=
    .call opened nofun
  refine .call sent ?_
  intro _ _ _ _ called misled
  cases called
  cases misled.quiet

/-- The third octet goes out again with its number, and two more after it. -/
theorem shortened_labelled :
    let due : Call := .tick 2000
    shortened.Genuine due ∧
      (∃ sent output moment, (shortened.output due).segments = [sent] ∧ sent.payload = [3] ∧
        shortened.Passes due output moment ∧
        sent.Labels 0 ([1, 2, 3] ++ output.accepted) moment.ring.count) ∧
      ∃ turn sent, shortened.send 0 [4, 5] = .ok turn ∧ turn.segments = [sent] ∧
        sent.payload = [4, 5] ∧ sent.header.sequence = 4 ∧ turn.endpoint.sendNext = 6 := by
  intro due
  obtain ⟨labelled, emits⟩ := reachable_labelled records_shortened
  have genuine : shortened.Genuine due := nofun
  obtain ⟨sent, only⟩ : ∃ sent, (shortened.output due).segments = [sent] :=
    List.length_eq_one_iff.mp (by decide)
  have text : ∀ sent ∈ (shortened.output due).segments, sent.payload = [3] := by decide
  have payload := text sent (by rw [only]; exact List.mem_singleton_self sent)
  obtain ⟨_, output, moment, passes, _, labels⟩ :=
    labelled due genuine [] sent [] only (by rw [payload]; nofun)
  refine ⟨genuine, ⟨sent, output, moment, only, payload, passes, labels⟩, ?_⟩
  obtain ⟨turn, handed⟩ : ∃ turn, shortened.send 0 [4, 5] = .ok turn := ⟨_, rfl⟩
  obtain ⟨fresh, spoken, carried, number, next⟩ := emits 0 [4, 5] turn nofun handed
  exact ⟨turn, fresh, handed, spoken, carried, number, next⟩

end Endpoint

end RadioStack.Tcp
