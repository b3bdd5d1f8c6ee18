import RadioStack.Proofs.Tcp.Handshake
import RadioStack.Tcp.Contention

/-!
Sends that compete for the room of one endpoint. Whatever comes between their attempts, the endpoint
accepts of each send its first chunks, each of them whole and once, and a send succeeds if all of
its chunks have been accepted. Main statement: `run_accepts_prefixes`.
-/

namespace RadioStack.Tcp

theorem flatten_chunks (data : Octets) : (chunks data).flatten = data := by
  fun_induction chunks data with
  | case1 data empty => rw [List.flatten_nil, List.isEmpty_iff.mp empty]
  | case2 data _ ih => rw [List.flatten_cons, ih, List.take_append_drop]

theorem length_of_mem_chunks {data chunk : Octets} (member : chunk ∈ chunks data) :
    0 < chunk.length ∧ chunk.length ≤ SendRing.capacity := by
  fun_induction chunks data with
  | case1 => cases member
  | case2 data nonempty ih =>
      rcases List.mem_cons.mp member with rfl | member
      · rw [List.isEmpty_iff] at nonempty
        have : 0 < data.length := List.length_pos_iff.mpr nonempty
        rw [List.length_take, SendRing.capacity]
        omega
      · exact ih member

theorem getElem?_chunks (data : Octets) (index : Nat) :
    (chunks data)[index]? =
      if SendRing.capacity * index < data.length then
        some ((data.drop (SendRing.capacity * index)).take SendRing.capacity)
      else none := by
  fun_induction chunks data generalizing index with
  | case1 data empty =>
      rw [List.isEmpty_iff.mp empty, List.length_nil, if_neg (Nat.not_lt_zero _)]
      rfl
  | case2 data nonempty ih =>
      cases index with
      | zero =>
          rw [List.isEmpty_iff] at nonempty
          rw [Nat.mul_zero, if_pos (List.length_pos_iff.mpr nonempty)]
          rfl
      | succ index =>
          have further : SendRing.capacity * (index + 1) < data.length ↔
              SendRing.capacity * index < (data.drop SendRing.capacity).length := by
            rw [List.length_drop, Nat.mul_succ]
            omega
          rw [List.getElem?_cons_succ, ih, List.drop_drop, Nat.add_comm, ← Nat.mul_succ]
          simp only [further]

theorem flatten_take_chunks (data : Octets) (count : Nat) :
    ((chunks data).take count).flatten = data.take (SendRing.capacity * count) := by
  fun_induction chunks data generalizing count with
  | case1 data empty => simp [List.isEmpty_iff.mp empty]
  | case2 data _ ih =>
      cases count with
      | zero => rfl
      | succ count =>
          rw [List.take_succ_cons, List.flatten_cons, ih, Nat.mul_succ, Nat.add_comm,
            List.take_add]

theorem chunks_nil : chunks [] = [] := by
  rw [chunks, List.isEmpty_nil, if_pos rfl]

theorem exists_chunk {data : Octets} (nonempty : data ≠ []) :
    ∃ chunk rest, chunks data = chunk :: rest := by
  rw [chunks, if_neg (by rwa [List.isEmpty_iff])]
  exact ⟨_, _, rfl⟩

theorem chunks_of_short {data : Octets} (nonempty : data ≠ [])
    (short : data.length ≤ SendRing.capacity) : chunks data = [data] := by
  rw [chunks, if_neg (by rwa [List.isEmpty_iff]), List.take_of_length_le short,
    List.drop_of_length_le short, chunks_nil]

namespace Endpoint

theorem refusal_of_closed {endpoint : Endpoint} (closed : endpoint.state = .closed) :
    endpoint.refusal? = some .connectionClosed := by
  unfold refusal?
  rw [closed, ite_self]

theorem send_fails {endpoint : Endpoint} {now : Instant} {data : Octets} {failure : Failure}
    (failed : endpoint.send now data = .error failure) :
    failure = .connectionClosed ∨ failure = .bufferFull := by
  unfold send at failed
  split at failed
  · rename_i refused
    cases failed
    unfold refusal? at refused
    split at refused
    · cases refused
      exact .inl rfl
    · split at refused <;> cases refused <;> simp
  · split at failed
    · cases failed
    · split at failed
      · cases failed
        exact .inr rfl
      · cases failed

end Endpoint

instance : DecidableEq (Except Failure Unit)
  | .ok (), .ok () => isTrue rfl
  | .error first, .error second =>
    decidable_of_iff (first = second) ⟨congrArg _, Except.error.inj⟩
  | .ok (), .error _ => isFalse nofun
  | .error _, .ok () => isFalse nofun

namespace Sender

variable {sender : Sender} {endpoint : Endpoint} {now : Instant} {expired : Bool}
  {accepted : List Octets}

/-- What has been accepted of a send, what remains of it, and how it ends. -/
structure HandedOver (sender : Sender) (accepted : List Octets) : Prop where
  whole : accepted ++ sender.remaining = chunks sender.message.data
  done : sender.result = some (.ok ()) ↔ sender.remaining = []
  failed : ∀ failure, sender.result = some (.error failure) →
    failure = .connectionClosed ∨ failure = .timedOut ∧ sender.message.limited

theorem handedOver_begin (message : Message) : (begin message).HandedOver [] := by
  refine ⟨rfl, ?_, ?_⟩
  · rw [begin]
    cases parts : chunks message.data <;> simp
  · intro failure failed
    rw [begin] at failed
    dsimp only at failed
    split at failed <;> cases failed

/-- What an attempt comes to: the next chunk is accepted whole, or the endpoint stays as it is. -/
inductive Tries (now : Instant) (endpoint : Endpoint) (sender : Sender) : Attempt → Prop
  | hand {chunk : Octets} {rest : List Octets} {turn : Turn} (running : sender.result = none)
    (next : sender.remaining = chunk :: rest) (sent : endpoint.send now chunk = .ok turn) :
    Tries now endpoint sender ⟨turn, { sender with
      remaining := rest
      result := if rest.isEmpty then some (.ok ()) else none }, some chunk⟩
  | keep {turn : Turn} (same : turn.endpoint = endpoint) :
    Tries now endpoint sender ⟨turn, sender, none⟩
  | fail {turn : Turn} {failure : Failure} (running : sender.result = none)
    (left : sender.remaining ≠ []) (same : turn.endpoint = endpoint)
    (why : failure = .connectionClosed ∨ failure = .timedOut ∧ sender.message.limited) :
    Tries now endpoint sender ⟨turn, { sender with result := some (.error failure) }, none⟩

theorem attempt_tries (now : Instant) (expired : Bool) (endpoint : Endpoint) (sender : Sender) :
    sender.Tries now endpoint (sender.attempt now expired endpoint) := by
  unfold attempt
  split
  · rename_i chunk rest running next
    have unfinished : sender.remaining ≠ [] := by
      rw [next]
      exact nofun
    split
    · rename_i turn sent
      exact .hand running next sent
    · split
      · rename_i late
        rw [Bool.and_eq_true] at late
        exact .fail running unfinished rfl (.inr ⟨rfl, late.1⟩)
      · exact .keep rfl
    · rename_i failure other failed
      refine .fail running unfinished rfl (.inl ?_)
      exact (Endpoint.send_fails failed).resolve_right other
  · exact .keep rfl

theorem attempt_cons (now : Instant) (expired : Bool) (endpoint : Endpoint) (message : Message)
    (chunk : Octets) (rest : List Octets) :
    attempt now expired endpoint ⟨message, chunk :: rest, none⟩ =
      match endpoint.send now chunk with
      | .ok turn =>
        ⟨turn, ⟨message, rest, if rest.isEmpty then some (.ok ()) else none⟩, some chunk⟩
      | .error .bufferFull =>
        if message.limited && expired then
          ⟨endpoint.note (.sendTimedOut endpoint.localPort),
            ⟨message, chunk :: rest, some (.error .timedOut)⟩, none⟩
        else ⟨endpoint.idle, ⟨message, chunk :: rest, none⟩, none⟩
      | .error failure =>
        ⟨endpoint.idle, ⟨message, chunk :: rest, some (.error failure)⟩, none⟩ := rfl

theorem attempt_of_refused (refused : endpoint.refusal? = some .connectionClosed)
    (message : Message) (chunk : Octets) (rest : List Octets) (now : Instant) (expired : Bool) :
    attempt now expired endpoint ⟨message, chunk :: rest, none⟩ =
      ⟨endpoint.idle, ⟨message, chunk :: rest, some (.error .connectionClosed)⟩, none⟩ := by
  rw [attempt_cons, Endpoint.send, refused]

theorem Tries.message {attempt : Attempt} (tries : sender.Tries now endpoint attempt) :
    attempt.sender.message = sender.message := by
  cases tries <;> rfl

theorem Tries.handedOver {attempt : Attempt} (tries : sender.Tries now endpoint attempt)
    (handed : sender.HandedOver accepted) :
    attempt.sender.HandedOver (accepted ++ attempt.accepted.toList) := by
  cases tries with
  | @hand chunk rest turn running next sent =>
      refine ⟨?_, ?_, ?_⟩
      · rw [← handed.whole, next]
        exact List.append_assoc _ _ _
      · cases rest <;> simp
      · intro failure failed
        dsimp only at failed
        split at failed <;> cases failed
  | keep =>
      rw [Option.toList_none, List.append_nil]
      exact handed
  | fail running unfinished _ why =>
      rw [Option.toList_none, List.append_nil]
      refine ⟨handed.whole, iff_of_false nofun unfinished, ?_⟩
      intro failure failed
      cases failed
      exact why

end Sender

namespace Contention

def share (contention : Contention) (number : Nat) : List Octets :=
  (contention.accepted.filter (·.1 == number)).map Prod.snd

def stream (contention : Contention) : Octets := (contention.accepted.map Prod.snd).flatten

/-- What comes between the attempts as long as nobody opens the endpoint anew. -/
def Event.continues : Event → Bool
  | .attempt .. => true
  | .call (.close _) | .call (.reset _) | .call (.tick _) | .call (.receive ..) => true
  | .call (.connect ..) | .call .listen | .call (.send ..) => false

variable {contention : Contention} {messages : List Message} {number other : Nat}
  {attempt : Attempt}

theorem share_adopt : (contention.adopt number attempt).share other =
    contention.share other ++ if number = other then attempt.accepted.toList else [] := by
  rw [share, adopt, List.filter_append, List.map_append, share]
  congr 1
  cases attempt.accepted with
  | none => split <;> rfl
  | some chunk =>
      by_cases same : number = other
      · simp [same]
      · simp [same]

theorem stream_adopt : (contention.adopt number attempt).stream =
    contention.stream ++ attempt.accepted.toList.flatten := by
  rw [stream, adopt, List.map_append, List.flatten_append, stream, List.map_map]
  exact congrArg _ (congrArg _ (List.map_id _))

/-- Every sender is where its share of what has been accepted says. -/
structure Tracks (messages : List Message) (contention : Contention) : Prop where
  same : contention.senders.map Sender.message = messages
  shares : ∀ (number : Nat) (sender : Sender), contention.senders[number]? = some sender →
    sender.HandedOver (contention.share number)
  known : ∀ entry ∈ contention.accepted, entry.1 < messages.length

theorem tracks_begin (endpoint : Endpoint) (messages : List Message) :
    (begin endpoint messages).Tracks messages := by
  refine ⟨?_, ?_, nofun⟩
  · rw [begin, List.map_map]
    exact List.map_id _
  · intro number sender listed
    rw [begin, List.getElem?_map] at listed
    obtain ⟨message, _, rfl⟩ := Option.map_eq_some_iff.mp listed
    exact Sender.handedOver_begin message

theorem Tracks.adopt {sender : Sender} {now : Instant} (tracks : contention.Tracks messages)
    (listed : contention.senders[number]? = some sender)
    (tries : sender.Tries now contention.endpoint attempt) :
    (contention.adopt number attempt).Tracks messages := by
  obtain ⟨inside, here⟩ := List.getElem?_eq_some_iff.mp listed
  have length : contention.senders.length = messages.length := by
    rw [← tracks.same, List.length_map]
  refine ⟨?_, ?_, ?_⟩
  · rw [← tracks.same]
    change (contention.senders.set number attempt.sender).map Sender.message = _
    rw [List.map_set, tries.message, ← here, ← List.getElem_map Sender.message,
      List.set_getElem_self]
    rwa [List.length_map]
  · intro other sender' listed'
    change (contention.senders.set number attempt.sender)[other]? = _ at listed'
    rw [share_adopt]
    by_cases same : number = other
    · subst same
      rw [List.getElem?_set_self inside] at listed'
      cases listed'
      rw [if_pos rfl]
      exact tries.handedOver (tracks.shares number sender listed)
    · rw [List.getElem?_set_ne same] at listed'
      rw [if_neg same, List.append_nil]
      exact tracks.shares other sender' listed'
  · intro entry member
    rcases List.mem_append.mp member with early | late
    · exact tracks.known entry early
    · obtain ⟨_, _, rfl⟩ := List.mem_map.mp late
      rw [← length]
      exact inside

theorem Tracks.step (tracks : contention.Tracks messages) (event : Event) :
    (contention.step event).Tracks messages := by
  unfold Contention.step
  split
  · split
    · exact tracks
    · rename_i sender listed
      exact tracks.adopt listed (Sender.attempt_tries ..)
  · exact ⟨tracks.same, tracks.shares, tracks.known⟩

theorem Tracks.run (tracks : contention.Tracks messages) (events : List Event) :
    (contention.run events).Tracks messages := by
  induction events generalizing contention with
  | nil => exact tracks
  | cons event events ih => exact ih (tracks.step event)

end Contention

namespace Endpoint

variable {call : Call} {before after endpoint : Endpoint} {output : Output}

theorem Move.ring_suffix (move : Move call before output after) :
    after.ring.toList <:+ before.ring.toList ++ output.accepted := by
  cases move with
  | wait | say | welcome | establish | cross | confirm | intend | sendFin | take =>
      exact ⟨[], (List.append_nil _).symm⟩
  | connect | listen | finishLast | abort => exact List.nil_suffix
  | queue _ _ room => exact ⟨[], SendRing.toList_enqueue? room⟩
  | acknowledge | finish =>
      rw [List.append_nil]
      change (before.ring.release _).toList <:+ _
      rw [SendRing.toList_release]
      exact List.drop_suffix _ _

theorem Moves.ring_suffix (moves : Moves call before output after) :
    after.ring.toList <:+ before.ring.toList ++ output.accepted := by
  induction moves with
  | done => exact ⟨[], (List.append_nil _).symm⟩
  | step move _ ih =>
      rw [Output.accepted_append, ← List.append_assoc]
      exact ih.trans (List.suffix_append_self_iff.mpr move.ring_suffix)

theorem output_send {now : Instant} {data : Octets} {turn : Turn}
    (sent : endpoint.send now data = .ok turn) :
    (endpoint.perform (.send now data)).endpoint = turn.endpoint ∧
      (endpoint.output (.send now data)).accepted = data := by
  rw [Endpoint.output, perform, sent]
  exact ⟨rfl, rfl⟩

end Endpoint

namespace Contention

variable {contention : Contention} {start : Endpoint}

/-- What the endpoint has accepted since the senders began. -/
structure Accounts (start : Endpoint) (contention : Contention) : Prop where
  recorded : start.Records (fun _ call => call.opens = false) Endpoint.nextStream []
    contention.endpoint contention.stream
  held : contention.endpoint.ring.toList <:+ start.ring.toList ++ contention.stream

theorem Accounts.call {after : Contention} (accounts : contention.Accounts start)
    {call : Call} (continues : call.opens = false)
    (endpoint : after.endpoint = (contention.endpoint.perform call).endpoint)
    (stream : after.stream = contention.stream ++ (contention.endpoint.output call).accepted) :
    after.Accounts start where
  recorded := by
    have next : contention.endpoint.nextStream call contention.stream = after.stream := by
      rw [Endpoint.nextStream, continues, stream]
      rfl
    rw [endpoint, ← next]
    exact .call accounts.recorded continues
  held := by
    rw [endpoint, stream, ← List.append_assoc]
    exact (Endpoint.perform_moves _ call).ring_suffix.trans
      (List.suffix_append_self_iff.mpr accounts.held)

theorem Accounts.adopt {sender : Sender} {number : Nat} {now : Instant} {attempt : Attempt}
    (accounts : contention.Accounts start)
    (tries : sender.Tries now contention.endpoint attempt) :
    (contention.adopt number attempt).Accounts start := by
  have stays {turn : Turn} {sender : Sender} (same : turn.endpoint = contention.endpoint) :
      (contention.adopt number ⟨turn, sender, none⟩).Accounts start := by
    have stream := @stream_adopt contention number ⟨turn, sender, none⟩
    rw [Option.toList_none, List.flatten_nil, List.append_nil] at stream
    have endpoint : (contention.adopt number ⟨turn, sender, none⟩).endpoint = contention.endpoint :=
      same
    constructor
    · rw [stream, endpoint]
      exact accounts.recorded
    · rw [stream, endpoint]
      exact accounts.held
  cases tries with
  | hand _ _ sent =>
      obtain ⟨endpoint, accepted⟩ := Endpoint.output_send sent
      refine accounts.call rfl endpoint.symm ?_
      rw [stream_adopt, accepted]
      simp
  | keep same => exact stays same
  | fail _ _ same => exact stays same

theorem Accounts.step (accounts : contention.Accounts start) {event : Event}
    (continues : event.continues) : (contention.step event).Accounts start := by
  cases event with
  | attempt number now expired =>
      rw [Contention.step]
      split
      · exact accounts
      · exact accounts.adopt (Sender.attempt_tries ..)
  | call call =>
      obtain ⟨still, nothing⟩ :
          call.opens = false ∧ (contention.endpoint.output call).accepted = [] := by
        cases call with
        | connect | listen | send => cases continues
        | close | reset | tick | receive => exact ⟨rfl, rfl⟩
      refine accounts.call still rfl ?_
      rw [nothing, List.append_nil]
      rfl

theorem Accounts.run (accounts : contention.Accounts start) {events : List Event}
    (continues : ∀ event ∈ events, event.continues) : (contention.run events).Accounts start := by
  induction events generalizing contention with
  | nil => exact accounts
  | cons event events ih =>
      rw [List.forall_mem_cons] at continues
      exact ih (accounts.step continues.1) continues.2

theorem accounts_begin (start : Endpoint) (messages : List Message) :
    (begin start messages).Accounts start :=
  ⟨.blank, ⟨[], (List.append_nil _).symm⟩⟩

def Ends (sender last : Sender) : Progress → Prop
  | .complete => last.result = some (.ok ())
  | .blocked remaining => last = { sender with remaining }
  | .failed failure => last.result = some (.error failure)

theorem run_attempt (now : Instant) (count : Nat) (endpoint : Endpoint) (sender : Sender)
    (accepted : List (Nat × Octets)) :
    run ⟨endpoint, [sender], accepted⟩ (List.replicate (count + 1) (.attempt 0 now false)) =
      run (adopt 0 (sender.attempt now false endpoint) ⟨endpoint, [sender], accepted⟩)
        (List.replicate count (.attempt 0 now false)) := rfl

/-- Handing over chunks in a row is a number of attempts of one sender. -/
theorem sendChunks_attempts (now : Instant) (message : Message) {remaining : List Octets}
    (unfinished : remaining ≠ []) (endpoint : Endpoint) (accepted : List (Nat × Octets)) :
    let sender : Sender := ⟨message, remaining, none⟩
    ∃ count last,
      let after := run ⟨endpoint, [sender], accepted⟩
        (List.replicate count (.attempt 0 now false))
      after.endpoint = (endpoint.sendChunks now remaining).endpoint ∧ after.senders = [last] ∧
        Ends sender last (endpoint.sendChunks now remaining).progress := by
  intro sender
  induction remaining generalizing endpoint accepted with
  | nil => exact absurd rfl unfinished
  | cons chunk rest ih =>
      have tried := Sender.attempt_cons now false endpoint message chunk rest
      rw [Endpoint.sendChunks]
      cases sent : endpoint.send now chunk with
      | ok turn =>
          rw [sent] at tried
          cases rest with
          | nil =>
              refine ⟨1, ⟨message, [], some (.ok ())⟩, ?_⟩
              rw [run_attempt, tried]
              exact ⟨rfl, rfl, rfl⟩
          | cons next rest =>
              obtain ⟨count, last, onward⟩ := ih nofun turn.endpoint (accepted ++ [(0, chunk)])
              refine ⟨count + 1, last, ?_⟩
              rw [run_attempt, tried]
              exact onward
      | error failure =>
          rw [sent] at tried
          cases failure with
          | bufferFull => exact ⟨0, sender, rfl, rfl, rfl⟩
          | connectionClosed | unexpectedAck | timedOut | invalidState | unaddressable =>
              refine ⟨1, (sender.attempt now false endpoint).sender, ?_⟩
              rw [run_attempt, tried]
              exact ⟨rfl, rfl, rfl⟩

/-- However the attempts of any number of sends come between each other and between other calls that
do not open the endpoint anew: of each message the endpoint has accepted the first chunks, in order,
each of them whole and once, and nothing else; it holds the end of what it has accepted. A send
succeeds when all of its chunks have been accepted, and has chunks left when it fails. -/
theorem run_accepts_prefixes (start : Endpoint) (messages : List Message) {events : List Event}
    (continues : ∀ event ∈ events, event.continues) :
    let after := (begin start messages).run events
    (∀ (number : Nat) (message : Message), messages[number]? = some message →
      (chunks message.data).flatten = message.data ∧
      (∀ index, (chunks message.data)[index]? =
        if SendRing.capacity * index < message.data.length then
          some ((message.data.drop (SendRing.capacity * index)).take SendRing.capacity)
        else none) ∧
      ∃ sender k, after.senders[number]? = some sender ∧ k ≤ (chunks message.data).length ∧
        (after.accepted.filter (·.1 == number)).map Prod.snd = (chunks message.data).take k ∧
        ((after.accepted.filter (·.1 == number)).map Prod.snd).flatten =
          message.data.take (SendRing.capacity * k) ∧
        (sender.result = some (.ok ()) ↔ k = (chunks message.data).length) ∧
        ∀ failure, sender.result = some (.error failure) → k < (chunks message.data).length ∧
          (failure = .connectionClosed ∨ failure = .timedOut ∧ message.limited)) ∧
    (∀ entry ∈ after.accepted, entry.1 < messages.length) ∧
    start.Records (fun _ call => call.opens = false) Endpoint.nextStream [] after.endpoint
      (after.accepted.map Prod.snd).flatten ∧
    after.endpoint.ring.toList <:+
      start.ring.toList ++ (after.accepted.map Prod.snd).flatten := by
  intro after
  have tracks : after.Tracks messages := (tracks_begin start messages).run events
  have accounts : after.Accounts start := (accounts_begin start messages).run continues
  refine ⟨?_, tracks.known, accounts.recorded, accounts.held⟩
  intro number message given
  refine ⟨flatten_chunks message.data, getElem?_chunks message.data, ?_⟩
  rw [← tracks.same, List.getElem?_map] at given
  obtain ⟨sender, listed, rfl⟩ := Option.map_eq_some_iff.mp given
  obtain ⟨whole, done, failed⟩ := tracks.shares number sender listed
  have length := congrArg List.length whole
  rw [List.length_append] at length
  have complete : sender.remaining = [] ↔
      (after.share number).length = (chunks sender.message.data).length := by
    rw [← List.length_eq_zero_iff]
    omega
  have share : after.share number =
      (chunks sender.message.data).take (after.share number).length := by
    rw [← whole, List.take_left]
  refine ⟨sender, (after.share number).length, listed, by omega, share, ?_, done.trans complete, ?_⟩
  · exact (congrArg List.flatten share).trans (flatten_take_chunks _ _)
  · intro failure ended
    have unfinished : sender.remaining ≠ [] := by
      rw [ne_eq, ← done, ended]
      exact nofun
    rw [ne_eq, complete] at unfinished
    exact ⟨by omega, failed failure ended⟩

/-- The first message waits for the handshake, and its last two octets for an acknowledgment. The
second one does not wait so long. -/
theorem greeted_accepts_prefixes :
    let long : Octets := .replicate 130 7
    let messages : List Message := [⟨long, false⟩, ⟨[4, 5], true⟩]
    let events : List Event := [.attempt 0 0 false, .attempt 1 0 true,
      .call (Endpoint.arriving 8 1 .ack []), .attempt 0 0 false, .attempt 0 0 false,
      .call (Endpoint.arriving 8 129 .ack []), .attempt 0 0 false]
    let after := (begin Endpoint.greeted messages).run events
    (∀ event ∈ events, event.continues) ∧
      after.senders.map Sender.result = [some (.ok ()), some (.error .timedOut)] ∧
      after.share 0 = [.replicate 128 7, .replicate 2 7] ∧ (after.share 0).flatten = long ∧
      after.share 1 = [] ∧ after.endpoint.ring.toList <:+ after.stream := by
  intro long messages events after
  have first : chunks long = [.replicate 128 7, .replicate 2 7] := by
    simp [long, chunks, SendRing.capacity]
  have second : chunks [4, 5] = [[4, 5]] := by simp [chunks, SendRing.capacity]
  have continues : ∀ event ∈ events, event.continues := by
    simp [events, Event.continues, Endpoint.arriving]
  have started : begin Endpoint.greeted messages = ⟨Endpoint.greeted,
      [⟨⟨long, false⟩, [.replicate 128 7, .replicate 2 7], none⟩,
        ⟨⟨[4, 5], true⟩, [[4, 5]], none⟩], []⟩ := by
    simp [begin, messages, Sender.begin, first, second]
  have results : after.senders.map Sender.result = [some (.ok ()), some (.error .timedOut)] := by
    unfold after
    rw [started]
    decide +kernel
  have result {number : Nat} {sender : Sender} (listed : after.senders[number]? = some sender) :
      [some (.ok ()), some (.error .timedOut)][number]? = some sender.result := by
    rw [← results, List.getElem?_map, listed]
    rfl
  obtain ⟨accepts, -, -, held⟩ := run_accepts_prefixes Endpoint.greeted messages continues
  obtain ⟨whole, -, sender, k, listed, -, share, -, done, -⟩ := accepts 0 _ rfl
  have all : after.share 0 = chunks long := by
    rw [done.mp (Option.some.inj (result listed)).symm, List.take_length] at share
    exact share
  refine ⟨continues, results, all.trans first, (congrArg List.flatten all).trans whole, ?_, held⟩
  obtain ⟨-, -, sender, k, listed, -, share, -, -, failed⟩ := accepts 1 _ rfl
  obtain ⟨short, -⟩ := failed .timedOut (Option.some.inj (result listed)).symm
  rw [second] at share short
  rw [Nat.lt_one_iff.mp short] at share
  exact share

end Contention

end RadioStack.Tcp
