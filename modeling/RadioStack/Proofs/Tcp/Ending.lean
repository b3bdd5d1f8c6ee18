import RadioStack.Proofs.Tcp.Agreement
import RadioStack.Proofs.Tcp.Opening

/-!
The FIN comes last. All FINs of a connection carry the number after everything that has been handed
over; none is sent before the application has closed its side and the ring is empty, and no data
after one. Main statement: `reachable_fin_last`.
-/

namespace RadioStack.Tcp

namespace State

theorem carriesData_of_finished {state : State} (finished : state.finished) :
    state.carriesData = false := by
  cases state <;> first | rfl | cases finished

theorem afterPeerFin_sent (state : State) :
    state.afterPeerFin.flagsSent = state.flagsSent ∧
      state.afterPeerFin.finInFlight = state.finInFlight ∧
      state.afterPeerFin.finished = state.finished := by
  cases state <;> decide

end State

namespace Output

def fins (output : Output) : List UInt32 :=
  (output.segments.filter (·.header.flags.contains .fin)).map (·.header.sequence)

@[simp] theorem fins_append (first second : Output) :
    (first ++ second).fins = first.fins ++ second.fins := by
  simp [fins]

theorem fins_single (sent : Segment) : ({ segments := [sent] } : Output).fins =
    if sent.header.flags.contains .fin then [sent.header.sequence] else [] := by
  cases fin : sent.header.flags.contains .fin <;> simp [fins, fin]

theorem fins_ne_nil {output : Output} {sent : Segment} (member : sent ∈ output.segments)
    (fin : sent.header.flags.contains .fin) : output.fins ≠ [] :=
  List.ne_nil_of_mem (List.mem_map.mpr ⟨sent, List.mem_filter.mpr ⟨member, fin⟩, rfl⟩)

end Output

def Call.closes : Call → Bool
  | .close _ => true
  | _ => false

/-- What has gone out on a connection: the data handed over, whether the application has closed its
side, and the numbers of the FINs that have been sent. -/
structure Course where
  stream : Octets := []
  closed : Bool := false
  fins : List UInt32 := []
  deriving DecidableEq

namespace Course

def pass (output : Output) (course : Course) : Course :=
  { course with
    stream := course.stream ++ output.accepted
    fins := course.fins ++ output.fins }

/-- By a moment of a call. The application has closed its side from the call on that does so. -/
def next (call : Call) (output : Output) (course : Course) : Course :=
  pass output { course with closed := course.closed || call.closes }

def enter (endpoint : Endpoint) (call : Call) (course : Course) : Course :=
  if call.opens && (endpoint.perform call).result.isOk then {}
  else course.next call (endpoint.output call)

/-- The next number counts what has gone out, and a FIN has gone out after all of it. -/
structure Explains (course : Course) (endpoint : Endpoint) : Prop where
  next : endpoint.state ≠ .closed → endpoint.sendNext =
    ahead endpoint.config.initialSequence (endpoint.state.flagsSent + course.stream.length)
  asked : endpoint.closing → course.closed
  ending : endpoint.state.finInFlight → endpoint.closing
  last : course.fins ≠ [] → endpoint.state.finished
  same : ∀ number ∈ course.fins,
    number = ahead endpoint.config.initialSequence (1 + course.stream.length)

end Course

namespace Endpoint

/-- The application has closed its side, or it can hand over nothing anyway. -/
def Refuses (endpoint : Endpoint) : Prop := endpoint.closing ∨ endpoint.state.finished

end Endpoint

namespace Course

open Endpoint (Move Moves)

variable {call : Call} {before after endpoint moment : Endpoint} {output : Output}
  {course : Course} {sent : Segment}

theorem Explains.unmoved (explains : course.Explains before) (silent : output.fins = [])
    (nothing : output.accepted = []) (config : after.config = before.config)
    (next : after.state ≠ .closed → before.state ≠ .closed ∧ ∃ more,
      after.sendNext = ahead before.sendNext more ∧
        after.state.flagsSent = before.state.flagsSent + more)
    (asked : after.closing → course.closed) (ending : after.state.finInFlight → after.closing)
    (finished : before.state.finished → after.state.finished) :
    (course.pass output).Explains after := by
  have same : course.pass output = course := by
    rw [pass, nothing, silent, List.append_nil, List.append_nil]
  rw [same]
  refine ⟨?_, asked, ending, fun fins => finished (explains.last fins), config ▸ explains.same⟩
  intro running
  obtain ⟨known, more, counted, flags⟩ := next running
  rw [counted, explains.next known, flags, config, ahead_ahead]
  congr 1
  omega

theorem flagsSent_of_finInFlight {state : State} (inFlight : state.finInFlight) :
    state.flagsSent = 2 := by
  cases state <;> first | rfl | cases inFlight

/-- A FIN has the number before the next one, which comes after all that has been handed over. -/
theorem Explains.say (explains : course.Explains endpoint) {sequence : UInt32} {flags : Flags}
    {length : Nat} {source destination : Address} {port : UInt16}
    (may : endpoint.MaySend call sequence flags length) :
    (course.pass { segments :=
      [endpoint.segmentAt source destination port sequence flags length] }).Explains endpoint := by
  have fins : ({ segments :=
      [endpoint.segmentAt source destination port sequence flags length] } : Output).fins =
        if flags.contains .fin then [sequence] else [] := Output.fins_single _
  have still (noFin : flags.contains .fin = false) :=
    explains.unmoved (fins.trans (if_neg (by rw [noFin]; nofun))) rfl rfl
      (fun running => ⟨running, 0, (ahead_zero _).symm, rfl⟩) explains.asked explains.ending id
  cases may with
  | ack | syn | synAck | fresh | again | rst => exact still (by decide)
  | fin inFlight last =>
      have running : endpoint.state ≠ .closed := by
        intro closed
        rw [closed] at inFlight
        cases inFlight
      have number : sequence =
          ahead endpoint.config.initialSequence (1 + course.stream.length) := by
        rw [last, explains.next running, flagsSent_of_finInFlight inFlight]
        change ahead _ _ - (1 : Nat).toUInt32 = _
        rw [ahead_sub _ (by omega)]
        congr 1
        omega
      have stream : (course.pass { segments := [endpoint.segmentAt source destination port sequence
          (.fin ||| .ack) 0] }).stream = course.stream := List.append_nil _
      refine ⟨by rw [stream]; exact explains.next, explains.asked, explains.ending,
        fun _ => State.finished_of_finInFlight inFlight, ?_⟩
      intro other listed
      rw [stream]
      rcases List.mem_append.mp listed with earlier | last
      · exact explains.same other earlier
      · rw [fins, if_pos (by decide), List.mem_singleton] at last
        rw [last]
        exact number

theorem Explains.move (explains : course.Explains before) (continues : call.opens = false)
    (asked : call.closes → course.closed) (move : Move call before output after) :
    (course.pass output).Explains after := by
  have still (running : before.state ≠ .closed) : before.state ≠ .closed ∧ ∃ more,
      before.sendNext = ahead before.sendNext more ∧
        before.state.flagsSent = before.state.flagsSent + more :=
    ⟨running, 0, (ahead_zero _).symm, rfl⟩
  cases move with
  | wait | acknowledge => exact explains.unmoved rfl rfl rfl still explains.asked explains.ending id
  | connect called | listen called => rw [called] at continues; cases continues
  | say may => exact explains.say may
  | intend called =>
      exact explains.unmoved rfl rfl rfl still (fun _ => asked (by rw [called]; rfl))
        (fun _ => rfl) id
  | welcome _ state | establish _ state | cross _ state | confirm _ state =>
      refine explains.unmoved rfl rfl rfl (fun _ => ⟨by simp [state], ?_⟩) explains.asked nofun ?_
      · rw [state]
        first | exact ⟨0, (ahead_zero _).symm, rfl⟩ | exact ⟨1, rfl, rfl⟩
      · rw [state]
        rintro ⟨⟩
  | queue _ ready room =>
      -- No FIN has been sent, because the state still lets data be handed over.
      have carries := Endpoint.carriesData_of_refusal?_eq_none ready
      have unsent : course.fins = [] := by
        apply Decidable.byContradiction
        intro fins
        have ended := explains.last fins
        rw [State.finished_of_carriesData carries] at ended
        cases ended
      have fins (data : Octets) : (course.pass { accepted := data }).fins = [] :=
        (List.append_nil _).trans unsent
      have running := (State.IsSynchronized.ne (State.isSynchronized_of_carriesData carries)).1
      refine ⟨?_, explains.asked, explains.ending, by rw [fins]; nofun, by rw [fins]; nofun⟩
      intro _
      dsimp only [pass]
      rw [explains.next running, List.length_append, ← Nat.add_assoc]
      exact ahead_ahead _ _ _
  | finish _ next =>
      have sent : before.state ≠ .closed ∧ before.state.finInFlight := by
        rcases next with ⟨state, _⟩ | ⟨state, _⟩ <;> rw [state] <;> decide
      refine explains.unmoved rfl rfl rfl (fun _ => ⟨sent.1, 0, (ahead_zero _).symm, ?_⟩)
        explains.asked (fun _ => explains.ending sent.2) ?_
      · rcases next with ⟨state, rfl⟩ | ⟨state, rfl⟩ <;> rw [state] <;> rfl
      · rcases next with ⟨_, rfl⟩ | ⟨_, rfl⟩ <;> exact fun _ => rfl
  | finishLast | abort =>
      exact explains.unmoved rfl rfl rfl (fun running => absurd rfl running) nofun nofun
        fun _ => rfl
  | sendFin closing _ next =>
      refine explains.unmoved rfl rfl rfl (fun _ => ⟨?_, 1, rfl, ?_⟩) explains.asked
        (fun _ => closing) ?_
      all_goals
        rcases Endpoint.finState?_eq_some next with ⟨state, rfl⟩ | ⟨state, rfl⟩ <;> rw [state] <;>
          first | rfl | exact nofun
  | @take _ _ header _ _ _ _ accepting =>
      obtain ⟨known, _⟩ := State.knowsPeer_of_acceptsText accepting
      obtain ⟨sent, inFlight, finished⟩ := before.state.afterPeerFin_sent
      have running : before.state ≠ .closed := by
        intro closed
        rw [closed] at known
        cases known
      refine explains.unmoved rfl rfl rfl (fun _ => ⟨running, 0, (ahead_zero _).symm, ?_⟩)
        explains.asked ?_ ?_
      all_goals
        dsimp only
        split
      · exact sent
      · rfl
      · exact fun ending => explains.ending (inFlight ▸ ending)
      · exact explains.ending
      · exact fun ended => finished ▸ ended
      · exact id

theorem Explains.moves (moves : Moves call before output after) (continues : call.opens = false)
    (asked : call.closes → course.closed) (explains : course.Explains before) :
    (course.pass output).Explains after := by
  induction moves generalizing course with
  | done =>
      have same : course.pass {} = course := by
        rw [pass, List.append_nil]
        exact congrArg (Course.mk _ _) (List.append_nil _)
      rwa [same]
  | @step _ _ _ output rest move _ ih =>
      have whole : (course.pass output).pass rest = course.pass (output ++ rest) := by
        simp [pass]
      rw [← whole]
      exact ih asked (explains.move continues asked move)

theorem Explains.reach (explains : course.Explains before) (continues : call.opens = false)
    (moves : Moves call before output moment) : (course.next call output).Explains moment := by
  apply Explains.moves moves continues
  · intro closes
    rw [closes, Bool.or_true]
  · refine ⟨explains.next, ?_, explains.ending, explains.last, explains.same⟩
    intro closing
    rw [explains.asked closing, Bool.true_or]

theorem explains_opening (opening : endpoint.state = .listen ∨ endpoint.state = .synSent)
    (begins : endpoint.Begins) (settled : endpoint.Settled) : Explains {} endpoint := by
  have facts : endpoint.state ≠ .closed ∧ endpoint.state.isSynchronized = false ∧
      endpoint.state.finInFlight = false := by
    rcases opening with state | state <;> rw [state] <;> decide
  refine ⟨fun running => (begins running facts.2.1).2, ?_, ?_, nofun, nofun⟩
  · rw [settled.continuing opening]
    rintro ⟨⟩
  · rw [facts.2.2]
    rintro ⟨⟩

theorem enter_of_continues (continues : call.opens = false) :
    course.enter endpoint call = course.next call (endpoint.output call) := by
  rw [enter, continues, Bool.false_and, if_neg Bool.false_ne_true]

theorem enter_of_opened (opens : call.opens) (opened : (endpoint.perform call).result.isOk) :
    course.enter endpoint call = {} := by
  rw [enter, opens, opened, Bool.and_true, if_pos rfl]

theorem enter_of_unopened (opens : call.opens)
    (unopened : (endpoint.perform call).result.isOk = false) :
    course.enter endpoint call = course := by
  have closes : call.closes = false := by
    cases call <;> first | rfl | cases opens
  rw [enter, unopened, Bool.and_false, if_neg Bool.false_ne_true,
    (Endpoint.idle_of_unopened opens unopened).2, next, closes, Bool.or_false, pass,
    List.append_nil]
  exact congrArg (Course.mk _ _) (List.append_nil _)

theorem Explains.perform (explains : course.Explains endpoint)
    (begins : (endpoint.perform call).endpoint.Begins)
    (settled : (endpoint.perform call).endpoint.Settled) :
    (course.enter endpoint call).Explains (endpoint.perform call).endpoint := by
  rcases endpoint.opens_cases call with continues | ⟨opens, opened⟩ | ⟨opens, unopened⟩
  · rw [enter_of_continues continues]
    exact explains.reach continues (Endpoint.perform_moves endpoint call)
  · rw [enter_of_opened opens opened]
    exact explains_opening (Endpoint.state_of_opened opens opened) begins settled
  · rw [enter_of_unopened opens unopened, (Endpoint.idle_of_unopened opens unopened).1]
    exact explains

end Course

namespace Endpoint

open Course (Explains)

variable {call : Call} {before after endpoint moment : Endpoint} {output : Output}
  {course : Course} {sent : Segment} {now : Instant}

theorem Move.refuses (move : Move call before output after) (continues : call.opens = false)
    (refuses : before.Refuses) : after.Refuses := by
  rcases refuses with closing | finished
  · cases move with
    | connect called | listen called => rw [called] at continues; cases continues
    | intend => exact .inl rfl
    | finishLast | abort => exact .inr rfl
    | wait | say | welcome | establish | cross | confirm | queue | acknowledge | finish | sendFin
    | take => exact .inl closing
  · exact .inr ((move.continues continues).2.2 finished).1

theorem refuses_close : (endpoint.close now).endpoint.Refuses := by
  have closing (endpoint : Endpoint) (asked : endpoint.closing) :
      (endpoint.sendFinIfDrained now).endpoint.Refuses := by
    left
    rwa [sendFinIfDrained_keeps Endpoint.closing fun _ _ _ _ => rfl]
  unfold close
  split
  · rw [endpoint_abort]
    exact .inr rfl
  · rw [endpoint_abort]
    exact .inr rfl
  · exact closing _ rfl
  · exact closing _ rfl
  · exact closing _ rfl
  · right
    rw [endpoint_idle]
    cases state : endpoint.state <;> simp_all [State.finished]

theorem refuses_iff : endpoint.Refuses ↔ endpoint.refusal? = some .connectionClosed := by
  unfold Refuses refusal?
  cases closing : endpoint.closing with
  | true => simp
  | false => cases state : endpoint.state <;> simp [State.finished]

theorem Refuses.send (refuses : endpoint.Refuses) (now : Instant) (data : Octets) :
    endpoint.send now data = .error .connectionClosed := by
  rw [Endpoint.send, refuses_iff.mp refuses]

theorem Refuses.perform (refuses : course.closed → endpoint.Refuses) :
    (course.enter endpoint call).closed → (endpoint.perform call).endpoint.Refuses := by
  intro closed
  rcases endpoint.opens_cases call with continues | ⟨opens, opened⟩ | ⟨opens, unopened⟩
  · rw [Course.enter_of_continues continues] at closed
    cases call with
    | close now => exact refuses_close
    | connect | listen => cases continues
    | send | reset | tick | receive =>
        refine (perform_moves endpoint _).keeps (fun move => move.refuses continues) (refuses ?_)
        exact (Bool.or_false _).symm.trans closed
  · rw [Course.enter_of_opened opens opened] at closed
    cases closed
  · rw [Course.enter_of_unopened opens unopened] at closed
    rw [(idle_of_unopened opens unopened).1]
    exact refuses closed

variable {address : Option Address} {port : UInt16} {config : Config}

theorem Records.explains {allowed : Endpoint → Call → Prop}
    (recorded : (create address port config).Records allowed Course.enter {} endpoint course) :
    course.Explains endpoint ∧ (course.closed → endpoint.Refuses) := by
  induction recorded with
  | blank => exact ⟨⟨fun running => absurd rfl running, nofun, nofun, nofun, nofun⟩, nofun⟩
  | call recorded admitted ih =>
      have reached := Reaches.call recorded.reaches admitted
      exact ⟨ih.1.perform reached.begins (reached.settled (.of_open rfl)), Refuses.perform ih.2⟩

theorem Says.bare (spoken : moment.Says call sent) (drained : moment.Drained)
    (carries : moment.state.carriesData = false) : sent.payload = [] := by
  cases spoken with
  | segmentAt => exact payload_eq_nil (.inl (drained carries))

/-- Against any peer, all FINs of a connection carry the number after everything that is handed over
on it. A FIN is sent only after the application has closed its side, at a moment when the ring is
empty, and no data is sent after one; and once the application has closed its side nothing more can
be handed over, and what keeps the FIN back is in the ring. -/
theorem reachable_fin_last
    (recorded : (create address port config).Records (fun _ _ => True) Course.enter {} endpoint
      course) :
    (∀ number ∈ course.fins,
      number = ahead config.initialSequence (1 + course.stream.length)) ∧
    (∀ call early sent late, (endpoint.output call).segments = early ++ sent :: late →
      (sent.header.flags.contains .fin → (course.closed ∨ call.closes) ∧
        ∃ output moment, endpoint.Passes call output moment ∧ output.segments = early ∧
          moment.closing ∧ moment.ring.count = 0) ∧
      (course.fins ≠ [] ∨ (∃ other ∈ early, other.header.flags.contains .fin) →
        sent.payload = [])) ∧
    (course.closed →
      (∀ now data, (endpoint.perform (.send now data)).result = .error .connectionClosed) ∧
      (endpoint.state = .established ∨ endpoint.state = .closeWait →
        endpoint.ring.count ≠ 0)) := by
  obtain ⟨explains, refuses⟩ := recorded.explains
  have reached := recorded.reaches
  have origin : endpoint.config = config := recorded.config
  refine ⟨origin ▸ explains.same, ?_, ?_⟩
  · intro call early sent late parted
    obtain ⟨output, moment, passes, sentEarly, spoken⟩ := output_said parted
    obtain ⟨rest, moves, onwards, whole⟩ := passes
    have drained : moment.Drained := moves.keeps Move.drained reached.drained
    cases opens : call.opens with
    | true =>
        have member : sent ∈ (endpoint.output call).segments := by
          rw [parted]
          exact List.mem_append_right _ List.mem_cons_self
        refine ⟨?_, fun _ => (endpoint.opens_facts opens).1 sent member⟩
        intro fin
        rw [flags_of_opens opens sent member] at fin
        exact absurd fin (by decide)
    | false =>
        have reach := explains.reach opens moves
        refine ⟨?_, ?_⟩
        · intro fin
          obtain ⟨inFlight, _⟩ := spoken.finInFlight fin
          have closing := reach.ending inFlight
          refine ⟨?_, output, moment, ⟨rest, moves, onwards, whole⟩, sentEarly, closing, ?_⟩
          · have closed := reach.asked closing
            rwa [Course.next, Course.pass, Bool.or_eq_true] at closed
          · exact (SendRing.toList_eq_nil_iff _).mp
              (drained (State.carriesData_of_finInFlight inFlight))
        · intro before
          apply spoken.bare drained
          apply State.carriesData_of_finished
          apply reach.last
          rcases before with already | ⟨other, member, fin⟩
          · exact List.append_ne_nil_of_left_ne_nil already _
          · rw [← sentEarly] at member
            exact List.append_ne_nil_of_right_ne_nil _ (Output.fins_ne_nil member fin)
  · intro closed
    refine ⟨?_, ?_⟩
    · intro now data
      rw [perform, (refuses closed).send]
      rfl
    · intro open_
      have carries : endpoint.state.carriesData := by
        rcases open_ with state | state <;> rw [state] <;> rfl
      have closing : endpoint.closing := by
        refine (refuses closed).resolve_right ?_
        rw [State.finished_of_carriesData carries]
        exact Bool.false_ne_true
      have settled : endpoint.Settled := reached.settled (.of_open rfl)
      rw [ne_eq, ← SendRing.toList_eq_nil_iff]
      exact (settled closing).2 carries

def asking : Endpoint := (sending.perform (.close 0)).endpoint

def leaving : Endpoint :=
  (asking.perform (.receive 0
    { nextHeader := .tcp, source := .allRouters, destination := .allNodes }
    { sourcePort := 2, destinationPort := 1, sequence := 8, acknowledgment := 4
      flags := .ack, window := 128 } [])).endpoint

theorem records_asking :
    (create (some .allNodes) 1 {}).Records (fun _ _ => True) Course.enter {} asking
      { stream := [1, 2, 3], closed := true } := by
  have opened : (create (some .allNodes) 1 {}).Records (fun _ _ => True) Course.enter {} waiting
      {} := .call (.call .blank trivial) trivial
  have sent : (create (some .allNodes) 1 {}).Records (fun _ _ => True) Course.enter {} sending
      { stream := [1, 2, 3] } := .call opened trivial
  exact .call sent trivial

theorem records_leaving :
    (create (some .allNodes) 1 {}).Records (fun _ _ => True) Course.enter {} leaving
      { stream := [1, 2, 3], closed := true, fins := [4] } :=
  .call records_asking trivial

/-- The FIN has the number after three octets, and the timer sends it again. -/
theorem leaving_fin_last :
    let due : Call := .tick 2000
    leaving.state = .finWait1 ∧ (4 : UInt32) = ahead 0 (1 + [1, 2, 3].length) ∧
      (∃ sent output moment, (leaving.output due).segments = [sent] ∧
        sent.header.flags.contains .fin ∧ sent.payload = [] ∧
        leaving.Passes due output moment ∧ moment.ring.count = 0) ∧
      (leaving.perform (.send 0 [4])).result = .error .connectionClosed ∧
      asking.state = .established ∧ asking.ring.count ≠ 0 := by
  intro due
  obtain ⟨numbers, segments, closed⟩ := reachable_fin_last records_leaving
  obtain ⟨_, _, closedBefore⟩ := reachable_fin_last records_asking
  obtain ⟨sent, only⟩ : ∃ sent, (leaving.output due).segments = [sent] :=
    List.length_eq_one_iff.mp (by decide)
  have fin : ∀ sent ∈ (leaving.output due).segments, sent.header.flags.contains .fin := by decide
  have repeated := fin sent (by rw [only]; exact List.mem_singleton_self sent)
  obtain ⟨asked, bare⟩ := segments due [] sent [] only
  obtain ⟨_, output, moment, passes, _, _, empty⟩ := asked repeated
  exact ⟨by decide, numbers 4 (List.mem_singleton_self 4),
    ⟨sent, output, moment, only, repeated, bare (.inl (List.cons_ne_nil 4 [])), passes, empty⟩,
    (closed rfl).1 0 [4], by decide, (closedBefore rfl).2 (.inl (by decide))⟩

end Endpoint

end RadioStack.Tcp
