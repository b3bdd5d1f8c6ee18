import RadioStack.Proofs.Tcp.Contention
import RadioStack.Proofs.Tcp.Reuse

/-!
What becomes of a send when the connection on which it waits is closed. The send looks at the
endpoint only when it tries again. If it does so before the endpoint is opened anew, it fails, and
all that has been accepted of it has been accepted on one connection. Once the endpoint is opened
anew nothing tells the send so, and it may hand over what remains of its data on another connection.
Main statement: `run_keeps_to_connection`.
-/

namespace RadioStack.Tcp

namespace Endpoint

variable {endpoint : Endpoint} {now : Instant} {data payload : Octets} {ip : Ip.Header}
  {header : Header}

theorem send_of_ready (ready : endpoint.refusal? = none) (empty : endpoint.ring.toList = [])
    (short : data.length ≤ SendRing.capacity) : ∃ turn, endpoint.send now data = .ok turn := by
  have room : data.length ≤ endpoint.ring.free := by
    rw [SendRing.free, (SendRing.toList_eq_nil_iff _).mp empty]
    exact short
  unfold send
  rw [ready, SendRing.enqueue?, if_pos room]
  dsimp only
  split
  · exact ⟨_, rfl⟩
  · exact ⟨_, rfl⟩

def Unused (state : State) (endpoint : Endpoint) : Prop :=
  endpoint.state = state ∧ endpoint.ring.toList = [] ∧ endpoint.closing = false

theorem Unused.refusal (unused : endpoint.Unused .established) : endpoint.refusal? = none := by
  obtain ⟨established, -, continuing⟩ := unused
  unfold refusal?
  rw [continuing, if_neg Bool.false_ne_true, established]

theorem unused_listen (closed : endpoint.state = .closed) :
    let after := endpoint.perform .listen
    after.result.isOk ∧ after.endpoint.Unused .listen ∧
      after.endpoint.sendNext = endpoint.config.initialSequence := by
  rw [perform, listen_of_closed closed]
  dsimp only [respond, Turn.quiet]
  rw [endpoint_enter]
  exact ⟨rfl, ⟨rfl, rfl, rfl⟩, rfl⟩

theorem Unused.receive_syn (unused : endpoint.Unused .listen) (now : Instant) (ip : Ip.Header)
    (payload : Octets) (greets : header.flags = .syn) :
    let after := (endpoint.perform (.receive now ip header payload)).endpoint
    after.Unused .synReceived ∧ after.sendNext = endpoint.sendNext + 1 ∧
      after.receiveNext = header.sequence + 1 := by
  obtain ⟨listening, empty, continuing⟩ := unused
  dsimp only [perform]
  rw [(receive_of_listen listening).1, receiveInListen, greets, if_pos (by decide),
    Turn.endpoint_andThen, endpoint_enter, sendControl_eq]
  rw [transmit_keeps _ (fun after => after.Unused .synReceived ∧
    after.sendNext = endpoint.sendNext + 1 ∧ after.receiveNext = header.sequence + 1)
    fun _ _ => rfl]
  exact ⟨⟨rfl, empty, continuing⟩, rfl, rfl⟩

theorem Unused.receive_ack (unused : endpoint.Unused .synReceived) (confirms : header.flags = .ack)
    (covers : header.acknowledgment = endpoint.sendNext)
    (inOrder : header.sequence = endpoint.receiveNext) :
    (endpoint.perform (.receive now ip header [])).endpoint.Unused .established := by
  obtain ⟨answered, empty, continuing⟩ := unused
  have established : (endpoint.receiveAck now header []).endpoint =
      { endpoint with
        sendWindow := header.window
        unacknowledged := header.acknowledgment
        state := .established } := by
    rw [receiveAck, if_pos answered, receiveAckOfSyn, if_pos covers, Turn.toTurn_quiet,
      Turn.endpoint_andThen, endpoint_enter, sendFinIfDrained]
    dsimp only
    rw [continuing, Bool.false_and, if_neg Bool.false_ne_true]
    rfl
  have bare : header.span ([] : Octets).length = 0 := by
    rw [Header.span, confirms]
    decide
  dsimp only [perform]
  rw [(receive_of_known (.inl answered)).1, receiveSynchronized, confirms, if_neg (by decide),
    if_neg (by decide), if_pos (by decide)]
  dsimp only
  rw [Turn.endpoint_thenReceive, established, receiveText, if_neg (by simp),
    if_neg (not_not.mpr inOrder), if_pos bare]
  exact ⟨rfl, empty, continuing⟩

def reopening (endpoint : Endpoint) : List Call :=
  [.listen, arriving 7 0 .syn [], arriving 8 (endpoint.config.initialSequence + 1) .ack []]

theorem unused_reopening (closed : endpoint.state = .closed) :
    (endpoint.reopening.foldl (fun moment call => (moment.perform call).endpoint)
      endpoint).Unused .established := by
  let greeting : Header := { sourcePort := 2, destinationPort := 1, sequence := 7
                             acknowledgment := 0, flags := .syn, window := 128 }
  obtain ⟨-, listening, number⟩ := unused_listen closed
  obtain ⟨answered, own, peer⟩ := listening.receive_syn 0
    { nextHeader := .tcp, source := .allRouters, destination := .allNodes } []
    (rfl : greeting.flags = .syn)
  rw [number] at own
  exact answered.receive_ack rfl own.symm peer.symm

end Endpoint

namespace Sender

variable {sender : Sender} {endpoint : Endpoint} {now : Instant} {expired : Bool}
  {accepted : List Octets}

theorem Tries.running_before {attempt : Attempt} (tries : sender.Tries now endpoint attempt)
    (running : attempt.sender.result = none) : sender.result = none := by
  cases tries with
  | hand before => exact before
  | keep => exact running
  | fail before => exact before

theorem HandedOver.next (handed : sender.HandedOver accepted) (running : sender.result = none) :
    ∃ chunk rest, sender = ⟨sender.message, chunk :: rest, none⟩ ∧
      chunk.length ≤ SendRing.capacity := by
  obtain ⟨message, remaining, result⟩ := sender
  cases running
  cases remaining with
  | nil => cases handed.done.mpr rfl
  | cons chunk rest =>
      have member : chunk ∈ chunks message.data := by
        rw [← handed.whole]
        exact List.mem_append_right _ List.mem_cons_self
      exact ⟨chunk, rest, rfl, (length_of_mem_chunks member).2⟩

theorem HandedOver.attempt_of_closed (handed : sender.HandedOver accepted)
    (running : sender.result = none) (closed : endpoint.state = .closed) (now : Instant)
    (expired : Bool) :
    sender.attempt now expired endpoint =
      ⟨endpoint.idle, { sender with result := some (.error .connectionClosed) }, none⟩ := by
  obtain ⟨chunk, rest, same, -⟩ := handed.next running
  rw [same, attempt_of_refused (Endpoint.refusal_of_closed closed)]

theorem HandedOver.attempt_of_ready (handed : sender.HandedOver accepted)
    (running : sender.result = none)
    (ready : endpoint.refusal? = none) (empty : endpoint.ring.toList = []) (now : Instant)
    (expired : Bool) : (sender.attempt now expired endpoint).accepted.isSome := by
  obtain ⟨chunk, rest, same, short⟩ := handed.next running
  obtain ⟨turn, sent⟩ := Endpoint.send_of_ready ready empty short
  rw [same, attempt_cons, sent]
  rfl

end Sender

namespace Contention

structure Trial where
  sender : Nat
  /-- The connection it met, counted in the order in which they were opened. -/
  connection : Nat
  state : State
  accepted : Option Octets
  sent : List Segment
  result : Option (Except Failure Unit)

/-- What is accepted of one send is accepted on one connection. When the connection that it has met
is closed and the send has not ended, nothing more is accepted or sent, and it fails. -/
structure Trial.Keeps (first second : Trial) : Prop where
  together : first.accepted.isSome → second.accepted.isSome → second.connection = first.connection
  ends : first.result = none →
    second.connection ≠ first.connection ∨ second.state = .closed →
    second.accepted = none ∧ second.sent = [] ∧ second.result = some (.error .connectionClosed)

structure History where
  contention : Contention
  opened : Nat := 0
  trials : List Trial := []

def opens (contention : Contention) : Event → Bool
  | .attempt .. => false
  | .call call => call.opens && (contention.endpoint.perform call).result.isOk

theorem running_before {contention : Contention} {event : Event} {number : Nat} {later : Sender}
    (listed : (contention.step event).senders[number]? = some later)
    (running : later.result = none) :
    ∃ sender, contention.senders[number]? = some sender ∧ sender.result = none := by
  cases event with
  | call => exact ⟨later, listed, running⟩
  | attempt other now expired =>
      rw [step] at listed
      split at listed
      · exact ⟨later, listed, running⟩
      · rename_i sender here
        change (contention.senders.set other _)[number]? = _ at listed
        by_cases same : other = number
        · subst same
          have inside := (List.getElem?_eq_some_iff.mp here).1
          rw [List.getElem?_set_self inside] at listed
          cases listed
          exact ⟨sender, here, (Sender.attempt_tries ..).running_before running⟩
        · rw [List.getElem?_set_ne same] at listed
          exact ⟨later, listed, running⟩

theorem senders_step_attempt {contention : Contention} {number : Nat} {sender : Sender}
    (listed : contention.senders[number]? = some sender) (now : Instant) (expired : Bool) :
    (contention.step (.attempt number now expired)).senders[number]? =
      some (sender.attempt now expired contention.endpoint).sender := by
  rw [step, listed]
  exact List.getElem?_set_self (List.getElem?_eq_some_iff.mp listed).1

namespace History

def start (endpoint : Endpoint) (messages : List Message) : History where
  contention := begin endpoint messages

variable {history : History} {messages : List Message} {number : Nat} {now : Instant}
  {expired : Bool} {sender : Sender} {trial : Trial} {event : Event} {events : List Event}

def note (history : History) (number : Nat) (attempt : Attempt) : Trial where
  sender := number
  connection := history.opened
  state := history.contention.endpoint.state
  accepted := attempt.accepted
  sent := attempt.segments
  result := attempt.sender.result

def trial? (history : History) : Event → Option Trial
  | .call _ => none
  | .attempt number now expired =>
    match history.contention.senders[number]? with
    | none => none
    | some sender =>
      if sender.result.isSome then none
      else some (history.note number (sender.attempt now expired history.contention.endpoint))

def step (history : History) (event : Event) : History where
  contention := history.contention.step event
  opened := history.opened + (history.contention.opens event).toNat
  trials := history.trials ++ (history.trial? event).toList

def run (history : History) (events : List Event) : History := events.foldl step history

/-- Every send keeps to the connection on which it was first tried. -/
def Faithful (history : History) : Prop :=
  history.trials.Pairwise fun first second => first.sender = second.sender → first.Keeps second

def Waits (history : History) (number : Nat) : Prop :=
  (∃ trial ∈ history.trials, trial.sender = number) ∧
    ∃ sender, history.contention.senders[number]? = some sender ∧ sender.result = none

def Prompt (history : History) : List Event → Prop
  | [] => True
  | event :: events =>
    (history.contention.opens event → ∀ number, ¬ history.Waits number) ∧
      (history.step event).Prompt events

theorem contention_run (events : List Event) :
    (history.run events).contention = history.contention.run events := by
  induction events generalizing history with
  | nil => rfl
  | cons event events ih => exact ih

theorem trial?_of_running (listed : history.contention.senders[number]? = some sender)
    (running : sender.result = none) (now : Instant) (expired : Bool) :
    history.trial? (.attempt number now expired) =
      some (history.note number (sender.attempt now expired history.contention.endpoint)) := by
  rw [trial?, listed]
  dsimp only
  rw [running]
  rfl

theorem trial?_eq_some (tried : history.trial? event = some trial) :
    ∃ number now expired sender, event = .attempt number now expired ∧
      history.contention.senders[number]? = some sender ∧ sender.result = none ∧
      trial = history.note number (sender.attempt now expired history.contention.endpoint) := by
  cases event with
  | call => cases tried
  | attempt number now expired =>
      rw [trial?] at tried
      split at tried
      · cases tried
      · rename_i sender listed
        split at tried
        · cases tried
        · rename_i running
          rw [Bool.not_eq_true, Option.isSome_eq_false_iff, Option.isNone_iff_eq_none] at running
          exact ⟨number, now, expired, sender, rfl, listed, running, (Option.some.inj tried).symm⟩

theorem mem_trials_step : trial ∈ (history.step event).trials ↔
    trial ∈ history.trials ∨ history.trial? event = some trial := by
  rw [step, List.mem_append, Option.mem_toList]

/-- Nothing that has been noted of a send has ended it while it has not ended. -/
structure Known (messages : List Message) (history : History) : Prop where
  tracks : history.contention.Tracks messages
  within : ∀ trial ∈ history.trials, trial.connection ≤ history.opened
  running : ∀ trial ∈ history.trials, ∀ sender,
    history.contention.senders[trial.sender]? = some sender → sender.result = none →
      trial.result = none

theorem Known.step (known : history.Known messages) (event : Event) :
    (history.step event).Known messages := by
  refine ⟨known.tracks.step event, ?_, ?_⟩
  · intro trial member
    apply Nat.le_trans _ (Nat.le_add_right _ _)
    rcases mem_trials_step.mp member with old | new
    · exact known.within trial old
    · obtain ⟨number, now, expired, sender, -, -, -, rfl⟩ := trial?_eq_some new
      exact Nat.le_refl _
  · intro trial member later listed running
    rcases mem_trials_step.mp member with old | new
    · obtain ⟨sender, before, unended⟩ := running_before listed running
      exact known.running trial old sender before unended
    · obtain ⟨number, now, expired, sender, rfl, here, -, rfl⟩ := trial?_eq_some new
      cases listed.symm.trans (senders_step_attempt here now expired)
      exact running

theorem Known.run (known : history.Known messages) (events : List Event) :
    (history.run events).Known messages := by
  induction events generalizing history with
  | nil => exact known
  | cons event events ih => exact ih (known.step event)

theorem known_start (endpoint : Endpoint) (messages : List Message) :
    (start endpoint messages).Known messages :=
  ⟨tracks_begin endpoint messages, nofun, nofun⟩

structure Orderly (messages : List Message) (history : History) : Prop
    extends history.Known messages where
  current : ∀ trial ∈ history.trials, ∀ sender,
    history.contention.senders[trial.sender]? = some sender → sender.result = none →
      trial.connection = history.opened
  faithful : history.Faithful

theorem Orderly.keeps (orderly : history.Orderly messages)
    (listed : history.contention.senders[number]? = some sender) (running : sender.result = none)
    {first : Trial} (member : first ∈ history.trials) (same : first.sender = number) :
    first.Keeps
      (history.note number (sender.attempt now expired history.contention.endpoint)) := by
  subst same
  have here := orderly.current first member sender listed running
  refine ⟨fun _ _ => here.symm, ?_⟩
  intro _ parted
  have closed : history.contention.endpoint.state = .closed :=
    parted.resolve_left (not_not.mpr here.symm)
  have failed := (orderly.tracks.shares first.sender sender listed).attempt_of_closed running closed
    now expired
  rw [failed]
  exact ⟨rfl, rfl, rfl⟩

theorem Orderly.step (orderly : history.Orderly messages)
    (promptly : history.contention.opens event → ∀ number, ¬ history.Waits number) :
    (history.step event).Orderly messages := by
  refine ⟨orderly.toKnown.step event, ?_, ?_⟩
  · intro trial member later listed running
    obtain ⟨sender, before, unended⟩ := running_before listed running
    rcases mem_trials_step.mp member with old | new
    · have still : history.contention.opens event = false := by
        rw [← Bool.not_eq_true]
        intro opened
        exact promptly opened trial.sender ⟨⟨trial, old, rfl⟩, sender, before, unended⟩
      rw [History.step, still]
      exact orderly.current trial old sender before unended
    · obtain ⟨number, now, expired, sender, rfl, -, -, rfl⟩ := trial?_eq_some new
      rfl
  · refine List.pairwise_append.mpr ⟨orderly.faithful, ?_, ?_⟩
    · cases history.trial? event with
      | none => exact .nil
      | some trial => exact List.pairwise_singleton _ _
    · intro first member second new same
      obtain ⟨number, now, expired, sender, -, listed, running, rfl⟩ :=
        trial?_eq_some (Option.mem_toList.mp new)
      exact orderly.keeps listed running member same

theorem Orderly.run (orderly : history.Orderly messages) (promptly : history.Prompt events) :
    (history.run events).Orderly messages := by
  induction events generalizing history with
  | nil => exact orderly
  | cons event events ih => exact ih (orderly.step promptly.1) promptly.2

theorem orderly_start (endpoint : Endpoint) (messages : List Message) :
    (start endpoint messages).Orderly messages :=
  ⟨known_start endpoint messages, nofun, .nil⟩

theorem trials_calls (calls : List Call) :
    (history.run (calls.map .call)).trials = history.trials := by
  induction calls generalizing history with
  | nil => rfl
  | cons call calls ih =>
      have still : (history.step (.call call)).trials = history.trials := List.append_nil _
      exact ih.trans still

theorem Known.step_spills (known : history.Known messages)
    (listed : history.contention.senders[number]? = some sender) (running : sender.result = none)
    (tried : ∃ trial ∈ history.trials, trial.sender = number)
    (earlier : ∀ trial ∈ history.trials, trial.connection < history.opened)
    (ready : history.contention.endpoint.Unused .established) (now : Instant) (expired : Bool) :
    let after := history.step (.attempt number now expired)
    ¬ after.Faithful ∧ ∃ late ∈ after.trials, late.sender = number ∧
      late.connection = history.opened ∧ late.accepted.isSome := by
  intro after
  obtain ⟨early, member, rfl⟩ := tried
  have noted := trial?_of_running listed running now expired
  have accepted := (known.tracks.shares early.sender sender listed).attempt_of_ready running
    ready.refusal ready.2.1 now expired
  constructor
  · intro faithful
    obtain ⟨-, -, keeps⟩ := List.pairwise_append.mp faithful
    obtain ⟨nothing, -⟩ := (keeps early member _ (Option.mem_toList.mpr noted) rfl).ends
      (known.running early member sender listed running)
        (.inl (Nat.ne_of_gt (earlier early member)))
    change (sender.attempt now expired history.contention.endpoint).accepted = _ at nothing
    rw [nothing] at accepted
    cases accepted
  · exact ⟨_, mem_trials_step.mpr (.inr noted), rfl, rfl, accepted⟩

/-- While a send waits on a connection that is closed, the endpoint can be opened anew, and the peer
that connects then is handed the next chunk of the send. -/
theorem Known.spills (known : history.Known messages)
    (closed : history.contention.endpoint.state = .closed) (waits : history.Waits number) :
    ∃ more, ¬ (history.run more).Faithful ∧ ∃ late ∈ (history.run more).trials,
      late.sender = number ∧ history.opened < late.connection ∧ late.accepted.isSome := by
  obtain ⟨tried, sender, listed, running⟩ := waits
  let endpoint := history.contention.endpoint
  let reopened := history.run (endpoint.reopening.map .call)
  have opened : reopened.opened = history.opened + 1 := by
    have listens := (Endpoint.unused_listen closed).1
    change history.opened + (true && (endpoint.perform .listen).result.isOk).toNat = _
    rw [listens]
    rfl
  have same : reopened.trials = history.trials := trials_calls _
  have earlier : ∀ trial ∈ reopened.trials, trial.connection < reopened.opened := by
    intro trial member
    rw [same] at member
    rw [opened]
    exact Nat.lt_succ_of_le (known.within trial member)
  rw [← same] at tried
  obtain ⟨unfaithful, late, member, sent, here, accepted⟩ :=
    (known.run _).step_spills listed running tried earlier (Endpoint.unused_reopening closed) 0
      false
  refine ⟨endpoint.reopening.map .call ++ [.attempt number 0 false], ?_⟩
  rw [History.run, List.foldl_append]
  refine ⟨unfaithful, late, member, sent, ?_, accepted⟩
  rw [here, opened]
  exact Nat.lt_succ_self _

/-- However the attempts of any number of sends come between each other and between other calls: if
no connection is opened while a send waits, a send keeps to the connection on which it was first
tried, and fails if it finds it closed. A send that waits while its connection is closed depends on
that: the endpoint can be opened anew so that data of the send is accepted on a later connection. -/
theorem run_keeps_to_connection (endpoint : Endpoint) (messages : List Message)
    (events : List Event) :
    let after := (start endpoint messages).run events
    after.contention = (begin endpoint messages).run events ∧
      ((start endpoint messages).Prompt events → after.Faithful) ∧
      ∀ number, after.contention.endpoint.state = .closed → after.Waits number →
        ∃ more, ¬ (after.run more).Faithful ∧ ∃ late ∈ (after.run more).trials,
          late.sender = number ∧ after.opened < late.connection ∧ late.accepted.isSome := by
  intro after
  refine ⟨contention_run events, ?_, ?_⟩
  · intro promptly
    exact ((orderly_start endpoint messages).run promptly).faithful
  · intro number closed waits
    exact ((known_start endpoint messages).run events).spills closed waits

/-- A send of three octets, to be tried during the handshake. -/
def hasty : History := start Endpoint.greeted [⟨[1, 2, 3], false⟩]

theorem hasty_eq : hasty =
    ⟨⟨Endpoint.greeted, [⟨⟨[1, 2, 3], false⟩, [[1, 2, 3]], none⟩], []⟩, 0, []⟩ := by
  have parts : chunks [1, 2, 3] = [[1, 2, 3]] := by simp [chunks, SendRing.capacity]
  simp [hasty, start, begin, Sender.begin, parts]

/-- If the send is tried after the reset and before the endpoint listens again, it fails. If it is
not, it is still open to what comes. -/
theorem hasty_keeps_to_connection :
    let reset : List Event := [.attempt 0 0 false, .call (.reset 0)]
    let events : List Event := reset ++ [.attempt 0 0 false, .call .listen]
    hasty.Prompt events ∧ (hasty.run events).Faithful ∧
      ∃ more, ¬ ((hasty.run reset).run more).Faithful := by
  intro reset events
  have promptly : hasty.Prompt events := by
    refine ⟨nofun, nofun, nofun, ?_, trivial⟩
    rintro - number ⟨-, sender, listed, running⟩
    rw [hasty_eq] at listed
    have failed := List.mem_singleton.mp (List.mem_of_getElem? listed)
    rw [failed] at running
    cases running
  have closed : (hasty.run reset).contention.endpoint.state = .closed := by
    rw [hasty_eq]
    rfl
  have waits : (hasty.run reset).Waits 0 := by
    rw [hasty_eq]
    exact ⟨⟨_, List.mem_singleton_self _, rfl⟩, _, rfl, rfl⟩
  obtain ⟨-, faithful, -⟩ :=
    run_keeps_to_connection Endpoint.greeted [⟨[1, 2, 3], false⟩] events
  obtain ⟨-, -, spills⟩ :=
    run_keeps_to_connection Endpoint.greeted [⟨[1, 2, 3], false⟩] reset
  obtain ⟨more, unfaithful, -⟩ := spills 0 closed waits
  exact ⟨promptly, faithful promptly, more, unfaithful⟩

/-- The send has waited on one connection, and its data is accepted on the next one. -/
theorem hasty_not_faithful :
    let events : List Event := [.attempt 0 0 false, .call (.reset 0), .call .listen,
      .call (Endpoint.arriving 70 0 .syn []), .call (Endpoint.arriving 71 1 .ack []),
      .attempt 0 0 false]
    let after := hasty.run events
    after.trials.map (fun trial => (trial.connection, trial.state, trial.accepted)) =
      [(0, .synReceived, none), (1, .established, some [1, 2, 3])] ∧ ¬ after.Faithful := by
  intro events after
  have noted : ∃ sent last, after.trials = [⟨0, 0, .synReceived, none, [], none⟩,
      ⟨0, 1, .established, some [1, 2, 3], sent, last⟩] := by
    unfold after
    rw [hasty_eq]
    exact ⟨_, _, rfl⟩
  obtain ⟨sent, last, trials⟩ := noted
  constructor
  · rw [trials]
    rfl
  · intro faithful
    rw [Faithful, trials] at faithful
    have keeps := (List.pairwise_cons.mp faithful).1 _ (List.mem_singleton_self _) rfl
    obtain ⟨nothing, -⟩ := keeps.ends rfl (.inl nofun)
    cases nothing

end History

end Contention

end RadioStack.Tcp
