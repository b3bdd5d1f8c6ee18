import RadioStack.Proofs.Tcp.Accounting

/-!
Which acknowledgments count. What is acknowledged leaves the ring, and nothing else does; the one
exception is the number half the space away while nothing is in flight, which passes both
comparisons. Main statement: `reachable_exactWindow`.
-/

namespace RadioStack.Tcp

namespace Endpoint

/-- What the acknowledgment of a segment is to do, by its distance from the oldest number that is
not acknowledged and by what is in flight. `after` is what comes of the segment. -/
structure ExactWindow (endpoint : Endpoint) (header : Header) (after : Reception) : Prop where
  covered : 0 < (header.acknowledgment - endpoint.unacknowledged).toNat →
    (header.acknowledgment - endpoint.unacknowledged).toNat ≤
      (endpoint.sendNext - endpoint.unacknowledged).toNat →
    after.endpoint.unacknowledged = header.acknowledgment ∧
      after.endpoint.ring.toList =
        endpoint.ring.toList.drop (endpoint.released header.acknowledgment) ∧
      after.endpoint.ring.count + (header.acknowledgment - endpoint.unacknowledged).toNat =
        endpoint.ring.count + (endpoint.coversFin header.acknowledgment).toNat
  repeated : (header.acknowledgment - endpoint.unacknowledged).toNat = 0 →
    after.endpoint.unacknowledged = endpoint.unacknowledged ∧
      after.endpoint.ring = endpoint.ring
  beyond : (endpoint.sendNext - endpoint.unacknowledged).toNat <
      (header.acknowledgment - endpoint.unacknowledged).toNat →
    after.endpoint.unacknowledged = endpoint.unacknowledged ∧
      after.endpoint.ring = endpoint.ring
  reported : after.unexpectedAck = true ↔
    (endpoint.sendNext - endpoint.unacknowledged).toNat <
      (header.acknowledgment - endpoint.unacknowledged).toNat

variable {endpoint : Endpoint} {dropped stream : Octets} {header : Header}

theorem sendFinIfDrained_keeps {α : Type} (field : Endpoint → α)
    (blind : ∀ (endpoint : Endpoint) state sendNext lastSend,
      field { endpoint with state, sendNext, lastSend } = field endpoint)
    (now : Instant) (endpoint : Endpoint) :
    field (endpoint.sendFinIfDrained now).endpoint = field endpoint := by
  unfold sendFinIfDrained
  split
  · split
    · rfl
    · rw [Turn.endpoint_andThen, endpoint_enter]
      refine (transmit_keeps _ field ?_ _ _ _ _).trans ?_
      · exact fun endpoint lastSend => blind endpoint endpoint.state endpoint.sendNext lastSend
      · exact blind endpoint _ _ endpoint.lastSend
  · rfl

theorem receiveText_keeps {α : Type} (field : Endpoint → α)
    (blind : ∀ (endpoint : Endpoint) state receiveNext lastSend timeWaitSince,
      field { endpoint with state, receiveNext, lastSend, timeWaitSince } = field endpoint)
    (now : Instant) (header : Header) (payload : Octets) (endpoint : Endpoint) :
    field (endpoint.receiveText now header payload).endpoint = field endpoint := by
  have untimed : ∀ (endpoint : Endpoint) lastSend,
      field { endpoint with lastSend } = field endpoint :=
    fun endpoint lastSend => blind endpoint endpoint.state endpoint.receiveNext lastSend
      endpoint.timeWaitSince
  have acknowledged : ∀ endpoint : Endpoint,
      field (endpoint.sendAck now).endpoint = field endpoint :=
    fun endpoint => transmit_keeps endpoint field untimed _ _ _ _
  dsimp only [receiveText]
  split
  · rfl
  · split
    · exact acknowledged endpoint
    · split
      · rfl
      · split
        · exact acknowledged endpoint
        · refine (acknowledged _).trans ?_
          split
          · unfold receiveFin
            split
            · rw [endpoint_enter]
              exact blind endpoint _ _ endpoint.lastSend endpoint.timeWaitSince
            · rw [endpoint_enter]
              exact blind endpoint _ _ endpoint.lastSend endpoint.timeWaitSince
            · rw [endpoint_enterTimeWait]
              exact blind endpoint _ _ endpoint.lastSend now
            · exact blind endpoint endpoint.state _ endpoint.lastSend endpoint.timeWaitSince
          · exact blind endpoint endpoint.state _ endpoint.lastSend endpoint.timeWaitSince

inductive AckEffect (endpoint : Endpoint) (header : Header) (after : Reception) : Prop
  | rejected
    (outside : inWindow endpoint.unacknowledged endpoint.sendNext header.acknowledgment = false)
    (reported : after.unexpectedAck = true)
    (oldest : after.endpoint.unacknowledged = endpoint.unacknowledged)
    (ring : after.endpoint.ring = endpoint.ring)
  | repeated (known : header.acknowledgment = endpoint.unacknowledged)
    (silent : after.unexpectedAck = false)
    (oldest : after.endpoint.unacknowledged = endpoint.unacknowledged)
    (ring : after.endpoint.ring = endpoint.ring)
  | taken (within : inWindow endpoint.unacknowledged endpoint.sendNext header.acknowledgment)
    (new : header.acknowledgment ≠ endpoint.unacknowledged)
    (silent : after.unexpectedAck = false)
    (oldest : after.endpoint.unacknowledged = header.acknowledgment)
    (ring : after.endpoint.ring.toList =
      endpoint.ring.toList.drop (endpoint.released header.acknowledgment))

variable {now : Instant} {ip : Ip.Header} {payload : Octets}

theorem AckEffect.congr {first second : Reception} (effect : endpoint.AckEffect header first)
    (reported : second.unexpectedAck = first.unexpectedAck)
    (oldest : second.endpoint.unacknowledged = first.endpoint.unacknowledged)
    (ring : second.endpoint.ring = first.endpoint.ring) : endpoint.AckEffect header second := by
  cases effect with
  | rejected outside reported' oldest' ring' =>
      exact .rejected outside (reported.trans reported') (oldest.trans oldest') (ring.trans ring')
  | repeated known silent oldest' ring' =>
      exact .repeated known (reported.trans silent) (oldest.trans oldest') (ring.trans ring')
  | taken within new silent oldest' ring' =>
      exact .taken within new (reported.trans silent) (oldest.trans oldest') (by rw [ring, ring'])

theorem advance_taken (now : Instant) (acknowledgment : UInt32) (endpoint : Endpoint)
    (drained : endpoint.state = .lastAck → endpoint.ring.toList = []) :
    (endpoint.advance now acknowledgment).endpoint.unacknowledged = acknowledgment ∧
      (endpoint.advance now acknowledgment).endpoint.ring.toList =
        endpoint.ring.toList.drop (endpoint.released acknowledgment) := by
  dsimp only [advance]
  rw [Turn.endpoint_andThen, sendFinIfDrained_keeps unacknowledged (fun _ _ _ _ => rfl),
    sendFinIfDrained_keeps ring (fun _ _ _ _ => rfl)]
  split
  · unfold finAcknowledged
    split
    · rw [endpoint_enter]
      exact ⟨rfl, SendRing.toList_release _ _⟩
    · rw [endpoint_enterTimeWait]
      exact ⟨rfl, SendRing.toList_release _ _⟩
    · -- The connection ends, which clears the ring, but there is nothing in it any more.
      rename_i state
      rw [endpoint_abort, drained state, List.drop_nil]
      exact ⟨rfl, rfl⟩
    · exact ⟨rfl, SendRing.toList_release _ _⟩
  · exact ⟨rfl, SendRing.toList_release _ _⟩

theorem receiveDuplicateAck_keeps {α : Type} (field : Endpoint → α)
    (untimed : ∀ (endpoint : Endpoint) lastSend, field { endpoint with lastSend } = field endpoint)
    (endpoint : Endpoint) :
    field (endpoint.receiveDuplicateAck now header payload).endpoint = field endpoint := by
  unfold receiveDuplicateAck
  split
  · rw [Turn.endpoint_andThen, endpoint_note]
    exact retransmit_keeps endpoint field untimed now
  · rfl

theorem receiveAck_effect (synchronized : endpoint.state.isSynchronized)
    (drained : endpoint.state = .lastAck → endpoint.ring.toList = []) :
    endpoint.AckEffect header (endpoint.receiveAck now header payload) := by
  dsimp only [receiveAck]
  split
  · rename_i answered
    exact absurd answered (State.IsSynchronized.ne synchronized).2.2.2
  · split
    · rename_i outside
      rw [Bool.not_eq_true'] at outside
      exact .rejected outside rfl rfl rfl
    · rename_i within
      rw [Bool.not_eq_true', Bool.not_eq_false] at within
      split
      · rename_i known
        exact .repeated known rfl (receiveDuplicateAck_keeps unacknowledged (fun _ _ => rfl) _)
          (receiveDuplicateAck_keeps ring (fun _ _ => rfl) _)
      · rename_i new
        obtain ⟨oldest, held⟩ := advance_taken now header.acknowledgment
          { endpoint with sendWindow := header.window } drained
        exact .taken within new rfl oldest held

theorem receive_of_isSynchronized (now : Instant) (ip : Ip.Header) (header : Header)
    (payload : Octets) (synchronized : endpoint.state.isSynchronized) :
    (endpoint.receive now ip header payload).endpoint =
        (endpoint.receiveSynchronized now header payload).endpoint ∧
      (endpoint.receive now ip header payload).unexpectedAck =
        (endpoint.receiveSynchronized now header payload).unexpectedAck := by
  obtain ⟨notClosed, notListen, notSynSent, _⟩ := State.IsSynchronized.ne synchronized
  unfold receive Turn.thenReceive
  dsimp only [endpoint_note]
  split
  · exact absurd ‹_› notClosed
  · exact absurd ‹_› notListen
  · exact absurd ‹_› notSynSent
  · exact ⟨rfl, rfl⟩

theorem receive_effect (synchronized : endpoint.state.isSynchronized)
    (drained : endpoint.state = .lastAck → endpoint.ring.toList = [])
    (ack : header.flags.contains .ack) (noSyn : header.flags.contains .syn = false)
    (noRst : header.flags.contains .rst = false) :
    endpoint.AckEffect header (endpoint.receive now ip header payload) := by
  obtain ⟨after, reported⟩ := receive_of_isSynchronized now ip header payload synchronized
  have acknowledged : endpoint.AckEffect header (endpoint.receiveAck now header payload) :=
    receiveAck_effect synchronized drained
  apply acknowledged.congr
  · rw [reported, receiveSynchronized, noRst, noSyn, ack]
    rfl
  · rw [after, receiveSynchronized, noRst, noSyn, ack]
    exact receiveText_keeps unacknowledged (fun _ _ _ _ _ => rfl) _ _ _ _
  · rw [after, receiveSynchronized, noRst, noSyn, ack]
    exact receiveText_keeps ring (fun _ _ _ _ _ => rfl) _ _ _ _

theorem Ledger.lastAck_drained (ledger : endpoint.Ledger dropped)
    (state : endpoint.state = .lastAck) : endpoint.ring.toList = [] :=
  ledger.drained (by rw [state]; rfl)

theorem Ledger.exactWindow_iff (ledger : endpoint.Ledger dropped) {after : Reception}
    (effect : endpoint.AckEffect header after) (synchronized : endpoint.state.isSynchronized)
    (ack : header.flags.contains .ack) (noSyn : header.flags.contains .syn = false)
    (noRst : header.flags.contains .rst = false) :
    endpoint.ExactWindow header after ↔ ¬ endpoint.Misleads header := by
  have window := ledger.inWindow_iff synchronized ack noSyn noRst
  constructor
  · intro exactWindow misled
    obtain ⟨quiet, half⟩ := (misleads_iff synchronized ack noSyn noRst).mp misled
    have reported := exactWindow.reported.mpr (by omega)
    cases effect with
    | rejected outside => rw [window.mpr (.inr misled)] at outside; cases outside
    | repeated known silent | taken within new silent =>
        rw [silent] at reported
        cases reported
  · intro genuine
    cases effect with
    | rejected outside reported oldest ring =>
        have far : (endpoint.sendNext - endpoint.unacknowledged).toNat <
            (header.acknowledgment - endpoint.unacknowledged).toNat := by
          rw [← Nat.not_le]
          intro near
          rw [window.mpr (.inl near)] at outside
          cases outside
        exact ⟨fun _ near => absurd near (Nat.not_le.mpr far), fun _ => ⟨oldest, ring⟩,
          fun _ => ⟨oldest, ring⟩, iff_of_true reported far⟩
    | repeated known silent oldest ring =>
        have zero : (header.acknowledgment - endpoint.unacknowledged).toNat = 0 := by
          rw [known, UInt32.sub_self]
          rfl
        refine ⟨fun positive => absurd zero (Nat.ne_of_gt positive), fun _ => ⟨oldest, ring⟩,
          fun _ => ⟨oldest, ring⟩, ?_⟩
        rw [silent, zero]
        exact iff_of_false nofun (Nat.not_lt_zero _)
    | taken within new silent oldest ring =>
        have covers : endpoint.Acknowledges header := ⟨ack, noSyn, noRst, within, new⟩
        obtain ⟨positive, near⟩ := ledger.covered_le covers genuine synchronized
        obtain ⟨distance, held⟩ := ledger.released_le covers genuine synchronized
        refine ⟨fun _ _ => ⟨oldest, ring, ?_⟩, fun zero => absurd zero (Nat.ne_of_gt positive),
          fun far => absurd near (Nat.not_le.mpr far), ?_⟩
        · have left := congrArg List.length ring
          rw [SendRing.length_toList] at held
          rw [List.length_drop, SendRing.length_toList, SendRing.length_toList] at left
          omega
        · rw [silent]
          exact iff_of_false nofun (Nat.not_lt.mpr near)

structure Covers (endpoint : Endpoint) (header : Header) : Prop where
  synchronized : endpoint.state.isSynchronized
  ack : header.flags.contains .ack
  noSyn : header.flags.contains .syn = false
  noRst : header.flags.contains .rst = false
  positive : 0 < (header.acknowledgment - endpoint.unacknowledged).toNat
  near : (header.acknowledgment - endpoint.unacknowledged).toNat ≤
    (endpoint.sendNext - endpoint.unacknowledged).toNat

/-- What is in the ring after a step begins with what was in it before, or the step has ended the
connection. -/
def KeepsRing (before after : Endpoint) : Prop :=
  before.ring.toList <+: after.ring.toList ∨ after.state = .closed

theorem Balanced.holding (balanced : endpoint.Balanced stream)
    (held : endpoint.ring.toList ≠ []) :
    ∃ dropped, endpoint.Ledger dropped ∧ endpoint.state.isSynchronized := by
  cases balanced with
  | closed _ drained => exact absurd drained held
  | @running dropped ledger =>
      refine ⟨dropped, ledger, ?_⟩
      cases synchronized : endpoint.state.isSynchronized with
      | true => rfl
      | false => exact absurd (ledger.unsynchronized synchronized).2.1 held

theorem Ledger.drained_of_quiet (ledger : endpoint.Ledger dropped)
    (quiet : endpoint.sendNext = endpoint.unacknowledged) : endpoint.ring.toList = [] := by
  have width := ledger.width
  rw [quiet, UInt32.sub_self, UInt32.toNat_zero] at width
  exact List.eq_nil_of_length_eq_zero (by omega)

inductive Treats (call : Call) (before after : Endpoint) : Prop
  | keeps (ring : before.ring.toList <+: after.ring.toList)
    (window : ∀ now ip header payload, call = .receive now ip header payload →
      after.unacknowledged = before.unacknowledged ∧ after.sendNext = before.sendNext)
  | ends (continues : call.opens = false) (closed : after.state = .closed)
  | covers {now : Instant} {ip : Ip.Header} {header : Header} {payload : Octets}
    (called : call = .receive now ip header payload) (covers : before.Covers header)

section Run

variable {call : Call} {before after : Endpoint} {output : Output}

theorem Ends.continues (ends : before.Ends call) : call.opens = false := by
  cases ends with
  | reset called | close called | expire called | refuse called | resetByPeer called =>
      rw [called]
      rfl

theorem Ledger.covers (ledger : before.Ledger dropped) (acknowledges : before.Acknowledges header)
    (genuine : ¬ before.Misleads header) (synchronized : before.state.isSynchronized) :
    before.Covers header := by
  obtain ⟨positive, near⟩ := ledger.covered_le acknowledges genuine synchronized
  exact ⟨synchronized, acknowledges.ack, acknowledges.noSyn, acknowledges.noRst, positive, near⟩

theorem Move.treats (move : Move call before output after) (ledger : before.Ledger dropped)
    (genuine : before.Genuine call) (held : before.ring.toList ≠ []) :
    Treats call before after := by
  have carries : before.state.carriesData := by
    cases carries : before.state.carriesData with
    | true => rfl
    | false => exact absurd (ledger.drained carries) held
  have synchronized := State.isSynchronized_of_carriesData carries
  cases move with
  | wait | say | intend | take =>
      apply Treats.keeps
      · exact List.prefix_refl _
      · intro _ _ _ _ _
        exact ⟨rfl, rfl⟩
  | connect _ state | listen _ state => exact absurd state ledger.running
  | welcome _ state | establish _ state | cross _ state | confirm _ state =>
      rw [state] at carries
      cases carries
  | queue called _ room =>
      apply Treats.keeps
      · rw [SendRing.toList_enqueue? room]
        exact List.prefix_append _ _
      · intro _ _ _ _ other
        rw [called] at other
        cases other
  | acknowledge called _ acknowledges | finish called _ acknowledges
  | finishLast called _ acknowledges =>
      exact .covers called (ledger.covers acknowledges (genuine _ _ _ _ called) synchronized)
  | sendFin _ drained => exact absurd ((SendRing.isEmpty_iff _).mp drained) held
  | abort ends => exact .ends ends.continues rfl

/-- So does a sequence of moves, by induction: until something is covered, the window stays. -/
theorem Moves.keepsRing (moves : Moves call before output after) (balanced : before.Balanced stream)
    (genuine : before.Genuine call) :
    before.KeepsRing after ∨
      ∃ now ip header payload, call = .receive now ip header payload ∧ before.Covers header := by
  induction moves generalizing stream with
  | done => exact .inl (.inl (List.prefix_refl _))
  | @step before middle after _ _ move moves ih =>
      by_cases empty : before.ring.toList = []
      · left
        left
        rw [empty]
        exact List.nil_prefix
      · obtain ⟨dropped, ledger, synchronized⟩ := balanced.holding empty
        obtain ⟨rest, balancedMiddle, _⟩ := move.balanced genuine balanced
        cases move.treats ledger genuine empty with
        | keeps ring window =>
            rcases ih balancedMiddle (move.genuine genuine balancedMiddle) with
              (longer | closed) | ⟨now, ip, header, payload, called, covers⟩
            · exact .inl (.inl (ring.trans longer))
            · exact .inl (.inr closed)
            · -- What is covered after the move was covered before it, in the same window.
              right
              obtain ⟨oldest, next⟩ := window _ _ _ _ called
              obtain ⟨_, ack, noSyn, noRst, positive, near⟩ := covers
              rw [oldest] at positive
              rw [oldest, next] at near
              exact ⟨now, ip, header, payload, called, synchronized, ack, noSyn, noRst, positive,
                near⟩
        | ends continues closed => exact .inl (.inr (moves.ended continues closed))
        | covers called covers => exact .inr ⟨_, _, _, _, called, covers⟩

end Run

theorem Balanced.perform_keepsRing (balanced : endpoint.Balanced stream) (call : Call) :
    endpoint.KeepsRing (endpoint.perform call).endpoint ∨
      ∃ now ip header payload, call = .receive now ip header payload ∧ endpoint.Covers header := by
  by_cases empty : endpoint.ring.toList = []
  · left
    left
    rw [empty]
    exact List.nil_prefix
  · obtain ⟨dropped, ledger, _⟩ := balanced.holding empty
    apply (perform_moves endpoint call).keepsRing balanced
    intro now ip header payload _ misled
    exact empty (ledger.drained_of_quiet misled.quiet)

/-- Where no misleading segment has come before, the window is exact for all but a misleading
segment, and octets leave the ring only when they are covered or when the connection ends. -/
theorem reachable_exactWindow {address : Option Address} {port : UInt16} {config : Config}
    (reached : (create address port config).Reaches Genuine endpoint) :
    (∀ now ip header payload, endpoint.state.isSynchronized → header.flags.contains .ack →
      header.flags.contains .syn = false → header.flags.contains .rst = false →
        (endpoint.ExactWindow header (endpoint.receive now ip header payload) ↔
          ¬ (endpoint.sendNext = endpoint.unacknowledged ∧
            header.acknowledgment = endpoint.unacknowledged + 0x80000000))) ∧
      ∀ call, endpoint.KeepsRing (endpoint.perform call).endpoint ∨
        ∃ now ip header payload, call = .receive now ip header payload ∧
          endpoint.Covers header := by
  obtain ⟨stream, balanced⟩ := reached.balanced (balanced_create address port config)
  refine ⟨?_, balanced.perform_keepsRing⟩
  intro now ip header payload synchronized ack noSyn noRst
  obtain ⟨dropped, ledger, _⟩ := balanced.ledger (State.IsSynchronized.ne synchronized).1
  have effect : endpoint.AckEffect header (endpoint.receive now ip header payload) :=
    receive_effect synchronized ledger.lastAck_drained ack noSyn noRst
  rw [ledger.exactWindow_iff effect synchronized ack noSyn noRst]
  exact not_congr ⟨fun misled => ⟨misled.quiet, misled.half⟩,
    fun far => ⟨synchronized, ack, noSyn, noRst, far.1, far.2⟩⟩

/-- Of three octets in flight, two are acknowledged. -/
theorem sending_exactWindow :
    let header : Header := {
      sourcePort := 2, destinationPort := 1, sequence := 8, acknowledgment := 3
      flags := .ack, window := 128 }
    let after := sending.receive 0
      { nextHeader := .tcp, source := .allRouters, destination := .allNodes } header []
    sending.ring.count = 3 ∧ sending.ExactWindow header after ∧ after.endpoint.ring.count = 1 ∧
      sending.KeepsRing (sending.perform (.tick 2000)).endpoint := by
  intro header after
  obtain ⟨window, keeps⟩ := reachable_exactWindow reaches_sending
  refine ⟨by decide, (window _ _ _ _ (by decide) (by decide) (by decide) (by decide)).mpr ?_,
    by decide, (keeps _).resolve_right ?_⟩
  · exact fun far => absurd far.1 (by decide)
  · exact fun ⟨_, _, _, _, other, _⟩ => nomatch other

/-- Nothing is in flight, and the number half the space away is taken for an acknowledgment. -/
theorem waiting_not_exactWindow :
    let header : Header := {
      sourcePort := 2, destinationPort := 1, sequence := 8, acknowledgment := 0x80000001
      flags := .ack, window := 128 }
    let after := waiting.receive 0
      { nextHeader := .tcp, source := .allRouters, destination := .allNodes } header []
    (create (some .allNodes) 1 {}).Reaches Genuine waiting ∧ waiting.state = .established ∧
      waiting.unacknowledged = 1 ∧ waiting.sendNext = 1 ∧
      after.endpoint.unacknowledged = 0x80000001 ∧ after.unexpectedAck = false ∧
      ¬ waiting.ExactWindow header after := by
  intro header after
  refine ⟨reaches_waiting, by decide, by decide, by decide, by decide, by decide, ?_⟩
  intro exactWindow
  have reported := exactWindow.reported.mpr (by decide)
  have silent : after.unexpectedAck = false := by decide
  rw [silent] at reported
  cases reported

end Endpoint

end RadioStack.Tcp
