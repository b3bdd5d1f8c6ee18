import Mathlib.Data.List.Induction
import RadioStack.Proofs.Tcp.Stroke

/-!
No timer runs out early. The retransmission timer starts anew whenever numbers are sent or
acknowledged, so it dates the last of these moments, and a tick that sends something comes at least
one interval after all of them. Main statement: `run_never_early`.
-/

namespace RadioStack.Tcp

def Segment.Occupies (sent : Segment) : Prop :=
  sent.header.flags.contains .syn ∨ sent.header.flags.contains .fin ∨ sent.payload ≠ []

theorem Segment.Occupies.span_ne_zero {sent : Segment} (occupies : sent.Occupies)
    (short : sent.payload.length ≤ 128) : sent.header.span sent.payload.length ≠ 0 := by
  refine Endpoint.span_ne_zero ?_ short
  rcases occupies with syn | fin | text
  · exact .inr (.inr syn)
  · exact .inr (.inl fin)
  · exact .inl (mt List.eq_nil_of_length_eq_zero text)

theorem Emission.IsNote.not_segment {emission : Emission} (note : emission.IsNote)
    (sent : Segment) : emission ≠ .segment sent := by
  obtain ⟨record, rfl, _⟩ := note
  rintro ⟨⟩

def Chronological (calls : List Call) : Prop := (calls.filterMap Call.time?).Pairwise (· ≤ ·)

instance (calls : List Call) : Decidable (Chronological calls) :=
  inferInstanceAs (Decidable (List.Pairwise _ _))

theorem Chronological.of_append {early late : List Call}
    (ordered : Chronological (early ++ late)) : Chronological early := by
  rw [Chronological, List.filterMap_append, List.pairwise_append] at ordered
  exact ordered.1

theorem Chronological.after {early late : List Call} {call : Call} {time : Instant}
    (ordered : Chronological (early ++ call :: late)) (timed : call.time? = some time) :
    ∀ later ∈ late, ∀ moment, later.time? = some moment → time ≤ moment := by
  rw [Chronological, List.filterMap_append, List.filterMap_cons_some timed,
    List.pairwise_append, List.pairwise_cons] at ordered
  intro later member moment same
  exact ordered.2.1.1 moment (List.mem_filterMap.mpr ⟨later, member, same⟩)

theorem Chronological.le_tick {early late : List Call} {call : Call} {time now : Instant}
    (ordered : Chronological (early ++ call :: late ++ [.tick now]))
    (timed : call.time? = some time) : time ≤ now := by
  rw [List.append_assoc, List.cons_append] at ordered
  exact ordered.after timed (.tick now) (List.mem_append_right _ List.mem_cons_self) now rfl

namespace Endpoint

def run (endpoint : Endpoint) (calls : List Call) : Endpoint :=
  calls.foldl (fun endpoint call => (endpoint.perform call).endpoint) endpoint

/-- What starts the retransmission timer anew: something that takes numbers is sent, or something
new is acknowledged on a synchronized connection. -/
inductive Restarts (endpoint : Endpoint) (call : Call) : Prop
  | sends {sent : Segment} (member : sent ∈ (endpoint.perform call).segments)
    (occupies : sent.Occupies)
  | advances {now : Instant} {ip : Ip.Header} {header : Header} {payload : Octets}
    (called : call = .receive now ip header payload) (synchronized : endpoint.state.isSynchronized)
    (advanced : (endpoint.perform call).endpoint.unacknowledged ≠ endpoint.unacknowledged)

/-- One of the calls has taken the endpoint to `timeWait` at `since`, and it has stayed there. -/
def LingersSince (endpoint : Endpoint) (calls : List Call) (since : Instant) : Prop :=
  ∃ early call late, calls = early ++ call :: late ∧ call.time? = some since ∧
    (endpoint.run early).state ≠ .timeWait ∧
      ∀ part, part <+: late → (endpoint.run (early ++ call :: part)).state = .timeWait

/-- The timer starts anew now, or it runs on and nothing is sent that takes numbers. -/
def TimesSends (now : Instant) (before : Endpoint) (emitted : List Emission) (after : Endpoint) :
    Prop :=
  after.lastSend = now ∨
    (after.lastSend = before.lastSend ∧ ∀ sent, .segment sent ∈ emitted → ¬ sent.Occupies)

variable {now since time : Instant} {endpoint before middle after : Endpoint} {turn : Turn}
  {emitted rest : List Emission} {call : Call} {calls : List Call}

theorem run_append (endpoint : Endpoint) (early late : List Call) :
    endpoint.run (early ++ late) = (endpoint.run early).run late := List.foldl_append

theorem run_cons (endpoint : Endpoint) (call : Call) (calls : List Call) :
    endpoint.run (call :: calls) = (endpoint.perform call).endpoint.run calls := rfl

theorem TimesSends.trans (first : before.TimesSends now emitted middle)
    (second : middle.TimesSends now rest after) :
    before.TimesSends now (emitted ++ rest) after := by
  rcases second with restarted | ⟨same, silent⟩
  · exact .inl restarted
  · rcases first with restarted | ⟨still, quiet⟩
    · exact .inl (same.trans restarted)
    · refine .inr ⟨same.trans still, ?_⟩
      intro sent member
      exact (List.mem_append.mp member).elim (quiet sent) (silent sent)

theorem timesSends_transmit (sequence : UInt32) (flags : Flags) (length : Nat) :
    endpoint.TimesSends now (endpoint.transmit now sequence flags length).emitted
      (endpoint.transmit now sequence flags length).endpoint := by
  unfold transmit
  split
  · rename_i source destination port _ _ _
    let segment := endpoint.segmentAt source destination port sequence flags length
    have short : segment.payload.length ≤ 128 := by
      rw [length_payload]
      exact Nat.le_trans (Nat.min_le_left _ _) (Nat.min_le_right _ _)
    by_cases free : segment.header.span segment.payload.length = 0
    · refine .inr ⟨if_pos free, ?_⟩
      intro sent member occupies
      rcases List.mem_cons.mp member with record | member
      · cases record
      · cases List.mem_singleton.mp member
        exact occupies.span_ne_zero short free
    · exact .inl (if_neg free)
  · refine .inr ⟨rfl, ?_⟩
    intro sent member
    cases List.mem_singleton.mp member

theorem Stroke.timesSends (stroke : Stroke now before emitted after) :
    before.TimesSends now emitted after := by
  cases stroke with
  | change kept => exact .inr ⟨congrArg (fun bearings => bearings.2.2) kept, nofun⟩
  | note note =>
      refine .inr ⟨rfl, ?_⟩
      intro sent member
      exact absurd (List.mem_singleton.mp member).symm (note.not_segment sent)
  | transmit => exact timesSends_transmit ..
  | acknowledge => exact .inl rfl

theorem Strokes.timesSends (strokes : Strokes now before emitted after) :
    before.TimesSends now emitted after := by
  induction strokes with
  | done => exact .inr ⟨rfl, nofun⟩
  | step stroke _ ih => exact stroke.timesSends.trans ih

theorem Conduct.timesSends (conduct : endpoint.Conduct now turn) :
    endpoint.TimesSends now turn.emitted turn.endpoint := by
  cases conduct with
  | continues _ strikes => exact strikes.timesSends
  | connects _ _ timer strikes =>
      have sends := strikes.timesSends
      rwa [TimesSends, timer] at sends
  | waits _ waits =>
      refine .inr ⟨waits.timer, ?_⟩
      intro sent member
      exact absurd rfl ((waits.notes _ member).not_segment sent)

theorem perform_timesSends (endpoint : Endpoint) (call : Call) (otherwise : Instant) :
    endpoint.TimesSends (call.time?.getD otherwise) (endpoint.perform call).emitted
      (endpoint.perform call).endpoint := (endpoint.perform_conduct call otherwise).timesSends

section Receive

variable {ip : Ip.Header} {header : Header} {payload : Octets}

theorem lastSend_receiveAck (synchronized : endpoint.state.isSynchronized)
    (advanced : (endpoint.receiveAck now header payload).endpoint.unacknowledged ≠
      endpoint.unacknowledged) :
    (endpoint.receiveAck now header payload).endpoint.lastSend = now := by
  obtain ⟨_, _, _, notAnswered⟩ := State.IsSynchronized.ne synchronized
  dsimp only [receiveAck] at advanced ⊢
  rw [if_neg notAnswered] at advanced ⊢
  split at advanced
  · exact absurd rfl advanced
  · rename_i within
    rw [if_neg within]
    split at advanced
    · exact absurd (receiveDuplicateAck_keeps unacknowledged (fun _ _ => rfl) _) advanced
    · rename_i new
      rw [if_neg new]
      rcases (strikes_advance header.acknowledgment).timesSends with restarted | ⟨same, _⟩
      · exact restarted
      · exact same

theorem lastSend_receiveSynchronized (synchronized : endpoint.state.isSynchronized)
    (advanced : (endpoint.receiveSynchronized now header payload).endpoint.unacknowledged ≠
      endpoint.unacknowledged) :
    (endpoint.receiveSynchronized now header payload).endpoint.lastSend = now := by
  unfold receiveSynchronized at advanced ⊢
  split at advanced
  · rw [Turn.toTurn_quiet, receiveRst] at advanced
    split at advanced
    · rw [Turn.endpoint_andThen, endpoint_abort] at advanced
      exact absurd rfl advanced
    · exact absurd rfl advanced
  · rename_i noRst
    rw [if_neg noRst]
    split at advanced
    · rw [Turn.toTurn_quiet, receiveRepeatedSyn] at advanced
      split at advanced
      · exact absurd (transmit_keeps _ unacknowledged (fun _ _ => rfl) _ _ _ _) advanced
      · exact absurd (transmit_keeps _ unacknowledged (fun _ _ => rfl) _ _ _ _) advanced
    · rename_i noSyn
      rw [if_neg noSyn]
      dsimp only at advanced ⊢
      rw [Turn.endpoint_thenReceive] at advanced ⊢
      rw [oldest_receiveText] at advanced
      split at advanced
      · rename_i ack
        rw [if_pos ack]
        have text : Strikes now (endpoint.receiveAck now header payload).endpoint
            (receiveText now header payload _).toTurn := strikes_receiveText
        rcases text.timesSends with restarted | ⟨same, _⟩
        · exact restarted
        · exact same.trans (lastSend_receiveAck synchronized advanced)
      · exact absurd rfl advanced

end Receive

theorem Restarts.lastSend (restarts : endpoint.Restarts call) (timed : call.time? = some time) :
    (endpoint.perform call).endpoint.lastSend = time := by
  cases restarts with
  | sends member occupies =>
      have sends := endpoint.perform_timesSends call time
      rw [timed, Option.getD_some] at sends
      rcases sends with restarted | ⟨_, silent⟩
      · exact restarted
      · exact absurd occupies (silent _ (Turn.mem_segments.mp member))
  | advances called synchronized advanced =>
      subst called
      cases timed
      rw [perform] at advanced ⊢
      rw [(receive_of_known (.inr synchronized)).1] at advanced ⊢
      exact lastSend_receiveSynchronized synchronized advanced

theorem occupies_of_flags {sequence : UInt32} {flags : Flags} {length : Nat} {sent : Segment}
    (member : sent ∈ (endpoint.transmit now sequence flags length).segments)
    (flagged : flags.contains .syn ∨ flags.contains .fin) : sent.Occupies := by
  obtain ⟨_, _, _, rfl⟩ := endpoint.mem_transmit member
  exact flagged.imp_right .inl

theorem occupies_of_retransmit {sent : Segment}
    (member : sent ∈ (endpoint.retransmit now).segments) : sent.Occupies := by
  unfold retransmit at member
  split at member
  · exact occupies_of_flags member (by decide)
  · exact occupies_of_flags member (by decide)
  · exact occupies_of_flags member (by decide)
  · exact occupies_of_flags member (by decide)
  · exact occupies_of_flags member (by decide)
  · dsimp only at member
    split at member
    · cases member
    · rename_i pending
      obtain ⟨_, _, _, rfl⟩ := endpoint.mem_transmit member
      refine .inr (.inr ?_)
      rw [ne_eq, ← List.length_eq_zero_iff, length_payload, UInt32.sub_self, UInt32.toNat_zero,
        SendRing.capacity]
      omega

theorem mem_tick {sent : Segment} (member : sent ∈ (endpoint.tick now).segments) :
    sent.Occupies ∧ endpoint.config.retransmissionInterval ≤ now.since endpoint.lastSend := by
  by_cases repeats : endpoint.RepeatsAt now
  · rw [(tick_of_repeatsAt repeats).1] at member
    exact ⟨occupies_of_retransmit member, repeats.due⟩
  · rw [(tick_of_not_repeatsAt repeats).1] at member
    cases member

theorem tick_expires (lingers : endpoint.state = .timeWait)
    (closed : (endpoint.tick now).endpoint.state = .closed) :
    endpoint.config.timeWait ≤ now.since endpoint.timeWaitSince := by
  unfold tick at closed
  rw [lingers] at closed
  dsimp only at closed
  split at closed
  · assumption
  · rw [endpoint_idle, lingers] at closed
    cases closed

theorem config_run (endpoint : Endpoint) (calls : List Call) :
    (endpoint.run calls).config = endpoint.config := by
  induction calls generalizing endpoint with
  | nil => rfl
  | cons call calls ih => exact (ih _).trans (perform_moves endpoint call).config

theorem le_lastSend_perform (later : ∀ moment, call.time? = some moment → since ≤ moment)
    (first : since ≤ endpoint.lastSend) : since ≤ (endpoint.perform call).endpoint.lastSend := by
  rcases endpoint.perform_timesSends call since with restarted | ⟨same, _⟩
  · rw [restarted]
    cases moment : call.time? with
    | none => exact Nat.le_refl _
    | some moment => exact later _ ‹_›
  · rwa [same]

theorem le_lastSend_run
    (later : ∀ call ∈ calls, ∀ moment, call.time? = some moment → since ≤ moment)
    (first : since ≤ endpoint.lastSend) : since ≤ (endpoint.run calls).lastSend := by
  induction calls generalizing endpoint with
  | nil => exact first
  | cons call calls ih =>
      rw [List.forall_mem_cons] at later
      exact ih later.2 (le_lastSend_perform later.1 first)

/-- Whatever has started the timer anew, the timer dates it or something later. -/
theorem Restarts.le_lastSend {early late : List Call}
    (restarts : (endpoint.run early).Restarts call) (timed : call.time? = some time)
    (ordered : Chronological (early ++ call :: late)) :
    time ≤ (endpoint.run (early ++ call :: late)).lastSend := by
  rw [run_append, run_cons]
  exact le_lastSend_run (ordered.after timed) (Nat.le_of_eq (restarts.lastSend timed).symm)

theorem lingersSince_run (fresh : endpoint.state ≠ .timeWait)
    (lingers : (endpoint.run calls).state = .timeWait) :
    endpoint.LingersSince calls (endpoint.run calls).timeWaitSince := by
  induction calls using List.reverseRecOn with
  | nil => exact absurd lingers fresh
  | append_singleton calls call ih =>
      rw [run_append] at lingers ⊢
      have since := perform_timeWaitSince lingers
      by_cases lasting : (endpoint.run calls).state = .timeWait
      · obtain ⟨early, first, late, whole, timed, other, stays⟩ := ih lasting
        rw [if_pos lasting, Option.some.injEq] at since
        refine ⟨early, first, late ++ [call], ?_, ?_, other, ?_⟩
        · rw [whole, List.append_assoc, List.cons_append]
        · exact timed.trans (congrArg some since.symm)
        · intro part front
          rcases List.prefix_concat_iff.mp front with rfl | front
          · rw [← List.cons_append, ← List.append_assoc, ← whole, run_append]
            exact lingers
          · exact stays part front
      · rw [if_neg lasting] at since
        refine ⟨calls, call, [], rfl, since.symm, lasting, ?_⟩
        intro part front
        rw [List.prefix_nil.mp front, run_append]
        exact lingers

theorem Restarts.interval_le {early late : List Call}
    (restarts : (endpoint.run early).Restarts call) (timed : call.time? = some time)
    (ordered : Chronological (early ++ call :: late ++ [.tick now]))
    (spoken : ((endpoint.run (early ++ call :: late)).tick now).segments ≠ []) :
    .ofMilliseconds time + endpoint.config.retransmissionInterval ≤
      Duration.ofMilliseconds now := by
  obtain ⟨sent, member⟩ := List.exists_mem_of_ne_nil _ spoken
  have due := (mem_tick member).2
  rw [config_run] at due
  have dated := restarts.le_lastSend timed ordered.of_append
  rw [← Instant.le_since_iff (ordered.le_tick timed)]
  exact Nat.le_trans due (Instant.since_le_since dated now)

theorem LingersSince.timeWait_le (entered : endpoint.LingersSince calls since)
    (ordered : Chronological (calls ++ [.tick now]))
    (expired : endpoint.config.timeWait ≤ now.since since) :
    .ofMilliseconds since + endpoint.config.timeWait ≤ Duration.ofMilliseconds now := by
  obtain ⟨early, call, late, rfl, timed, _, _⟩ := entered
  exact (Instant.le_since_iff (ordered.le_tick timed)).mp expired

/-- Whatever has been called before: a tick that sends something comes at least one interval after
everything that has started the timer anew, which earlier ticks that have sent something did too,
and a tick that ends TIME-WAIT comes when it has lasted as long as it is to. -/
theorem run_never_early {address : Option Address} {port : UInt16} {config : Config}
    {calls : List Call} {now : Instant} (ordered : Chronological (calls ++ [.tick now])) :
    let start := create address port config
    let endpoint := start.run calls
    ((endpoint.tick now).segments ≠ [] →
      (∀ early call late time, calls = early ++ call :: late → call.time? = some time →
        (start.run early).Restarts call →
          .ofMilliseconds time + config.retransmissionInterval ≤ Duration.ofMilliseconds now) ∧
      ∀ early late time, calls = early ++ .tick time :: late →
        ((start.run early).tick time).segments ≠ [] →
          .ofMilliseconds time + config.retransmissionInterval ≤ Duration.ofMilliseconds now) ∧
    (endpoint.state = .timeWait → (endpoint.tick now).endpoint.state = .closed →
      ∃ since, start.LingersSince calls since ∧
        .ofMilliseconds since + config.timeWait ≤ Duration.ofMilliseconds now) := by
  intro start endpoint
  refine ⟨fun spoken => ⟨?_, ?_⟩, ?_⟩
  · rintro early call late time rfl timed restarts
    exact restarts.interval_le timed ordered spoken
  · rintro early late time rfl again
    obtain ⟨sent, member⟩ := List.exists_mem_of_ne_nil _ again
    have restarts : (start.run early).Restarts (.tick time) :=
      .sends member (mem_tick member).1
    exact restarts.interval_le rfl ordered spoken
  · intro lingers closed
    have entered : start.LingersSince calls endpoint.timeWaitSince :=
      lingersSince_run (by rintro ⟨⟩) lingers
    have expired := tick_expires lingers closed
    rw [config_run] at expired
    exact ⟨endpoint.timeWaitSince, entered, entered.timeWait_le ordered expired⟩

/-- Three octets are sent, sent again by the timer, and acknowledged, and then both sides close. -/
def lifetime : List Call :=
  let arrives (now : Instant) (sequence acknowledgment : UInt32) (flags : Flags) : Call :=
    .receive now { nextHeader := .tcp, source := .allRouters, destination := .allNodes }
      { sourcePort := 2, destinationPort := 1, sequence, acknowledgment, flags, window := 128 } []
  [.connect 0 .allRouters 2, arrives 1 7 1 (.syn ||| .ack), .send 5 [1, 2, 3], .tick 1005,
    arrives 2006 8 4 .ack, .close 2010, arrives 2011 8 5 (.fin ||| .ack)]

/-- The second tick that sends the octets comes one interval after the first, and the one that ends
TIME-WAIT comes when it has lasted long enough. -/
theorem lifetime_never_early :
    let start := create (some .allNodes) 1 {}
    Chronological (lifetime ++ [.tick 3011]) ∧
      ((start.run (lifetime.take 4)).tick 2005).segments.map Segment.payload = [[1, 2, 3]] ∧
      Duration.ofMilliseconds 1005 + .ofMilliseconds 1000 ≤ .ofMilliseconds 2005 ∧
      ∃ since, start.LingersSince lifetime since ∧
        .ofMilliseconds since + .ofMilliseconds 1000 ≤ Duration.ofMilliseconds 3011 := by
  intro start
  have first := @run_never_early (some .allNodes) 1 {} (lifetime.take 4) 2005 (by decide)
  have last := @run_never_early (some .allNodes) 1 {} lifetime 3011 (by decide)
  have spoken : ((start.run (lifetime.take 4)).tick 2005).segments.map Segment.payload =
      [[1, 2, 3]] := by decide
  refine ⟨by decide, spoken, ?_, last.2 (by decide) (by decide)⟩
  have repeats : ((start.run (lifetime.take 4)).tick 2005).segments ≠ [] := by
    intro silent
    rw [silent] at spoken
    cases spoken
  exact (first.1 repeats).2 (lifetime.take 3) [] 1005 rfl (by decide)

end Endpoint

end RadioStack.Tcp
