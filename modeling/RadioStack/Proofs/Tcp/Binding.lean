import RadioStack.Proofs.Tcp.Stroke

/-!
The ends of a connection. An endpoint that listens has no peer; whatever else is open is bound at
both ends and stays so until it is closed, so that it accepts segments of one peer only and sends
to no other. Main statement: `reachable_binding`.
-/

namespace RadioStack.Tcp

def Segment.source (sent : Segment) : Socket := ⟨sent.ip.source, sent.header.sourcePort⟩

def Segment.destination (sent : Segment) : Socket :=
  ⟨sent.ip.destination, sent.header.destinationPort⟩

/-- A segment from here to there, or any record but that of a segment without its ends. -/
def Emission.Passes (here there : Socket) : Emission → Prop
  | .segment sent => sent.source = here ∧ sent.destination = there
  | .record entry => ∀ port flags, entry ≠ .unbound port flags

theorem Emission.IsNote.passes {emission : Emission} (note : emission.IsNote)
    (here there : Socket) : emission.Passes here there := by
  obtain ⟨record, rfl, bound⟩ := note
  exact bound

theorem State.unopened_of_path {call : Call} {before : State} (path : Path call before .listen) :
    before = .closed ∨ before = .listen := by
  rcases path.cases_tail with same | ⟨_, front, edge⟩
  · exact .inr same.symm
  · cases edge
    exact .inl (eq_closed_of_path front)

namespace Endpoint

def Unmet (endpoint : Endpoint) : Prop :=
  endpoint.state = .listen → endpoint.ends = (endpoint.boundAddress, none, none)

variable {here there : Socket} {now : Instant} {endpoint before after later : Endpoint}
  {emitted : List Emission} {call : Call} {output : Output}

theorem Joins.congr (joins : before.Joins here there) (same : after.ends = before.ends)
    (door : after.localPort = before.localPort) : after.Joins here there := by
  simp only [ends, Prod.mk.injEq] at same
  obtain ⟨localAddress, remoteAddress, remotePort⟩ := same
  exact ⟨localAddress.trans joins.localAddress, door.trans joins.localPort,
    remoteAddress.trans joins.remoteAddress, remotePort.trans joins.remotePort⟩

theorem Bound.joins (bound : endpoint.Bound)
    (running : endpoint.state ≠ .closed ∧ endpoint.state ≠ .listen) :
    ∃ here there, endpoint.Joins here there := by
  obtain ⟨localAddress, remoteAddress, remotePort⟩ := bound running.1 running.2
  obtain ⟨source, localAddress⟩ := Option.isSome_iff_exists.mp localAddress
  obtain ⟨destination, remoteAddress⟩ := Option.isSome_iff_exists.mp remoteAddress
  obtain ⟨port, remotePort⟩ := Option.isSome_iff_exists.mp remotePort
  exact ⟨⟨source, endpoint.localPort⟩, ⟨destination, port⟩, localAddress, rfl, remoteAddress,
    remotePort⟩

theorem Joins.accepts_iff (joins : endpoint.Joins here there) (ip : Ip.Header) (header : Header) :
    endpoint.accepts ip header ↔
      Socket.mk ip.destination header.destinationPort = here ∧
        Socket.mk ip.source header.sourcePort = there := by
  rw [accepts, joins.localAddress, joins.localPort, joins.remoteAddress, joins.remotePort]
  simp only [Option.all_some, Bool.and_eq_true, beq_iff_eq, Socket.ext_iff]
  constructor
  · rintro ⟨⟨⟨door, port⟩, address⟩, peer⟩
    exact ⟨⟨address.symm, door⟩, peer.symm, port.symm⟩
  · rintro ⟨⟨address, door⟩, peer, port⟩
    exact ⟨⟨⟨door, port.symm⟩, address.symm⟩, peer.symm⟩

theorem Move.unmet (move : Move call before output after) (unmet : before.Unmet) :
    after.Unmet := by
  cases move with
  | wait | say | queue | intend | acknowledge => exact unmet
  | listen => exact fun _ => rfl
  | connect | welcome | establish | cross | confirm | finishLast | abort => rintro ⟨⟩
  | finish _ next => rcases next with ⟨_, rfl⟩ | ⟨_, rfl⟩ <;> rintro ⟨⟩
  | sendFin _ _ next => rcases finState?_eq_some next with ⟨_, rfl⟩ | ⟨_, rfl⟩ <;> rintro ⟨⟩
  | take _ _ _ accepting =>
      obtain ⟨still, finished⟩ := State.isSynchronized_of_acceptsText accepting
      intro listening
      dsimp only at listening
      split at listening
      · rw [listening] at finished
        cases finished
      · rw [listening] at still
        cases still

theorem Joins.transmit (joins : endpoint.Joins here there) (sequence : UInt32) (flags : Flags)
    (length : Nat) :
    ∀ emission ∈ (endpoint.transmit now sequence flags length).emitted,
      emission.Passes here there := by
  unfold Endpoint.transmit
  rw [joins.localAddress, joins.remoteAddress, joins.remotePort]
  intro emission member
  rcases List.mem_cons.mp member with rfl | member
  · intro _ _ same
    cases same
  · rw [List.mem_singleton.mp member]
    exact ⟨Socket.ext rfl joins.localPort, rfl⟩

theorem Stroke.passes (stroke : Stroke now before emitted after)
    (joins : before.Joins here there) :
    after.Joins here there ∧ ∀ emission ∈ emitted, emission.Passes here there := by
  cases stroke with
  | change kept =>
      have ends := congrArg Prod.fst kept
      have door := congrArg (fun bearings => bearings.2.1) kept
      exact ⟨joins.congr ends door, nofun⟩
  | note note => exact ⟨joins, List.forall_mem_singleton.mpr (note.passes here there)⟩
  | transmit sequence flags length =>
      refine ⟨joins.congr ?_ ?_, joins.transmit sequence flags length⟩
      · exact transmit_keeps _ ends (fun _ _ => rfl) _ _ _ _
      · exact transmit_keeps _ Endpoint.localPort (fun _ _ => rfl) _ _ _ _
  | acknowledge => exact ⟨joins.congr rfl rfl, nofun⟩

theorem Strokes.passes (strokes : Strokes now before emitted after)
    (joins : before.Joins here there) :
    after.Joins here there ∧ ∀ emission ∈ emitted, emission.Passes here there := by
  induction strokes with
  | done => exact ⟨joins, nofun⟩
  | step stroke _ ih =>
      obtain ⟨middle, first⟩ := stroke.passes joins
      obtain ⟨last, second⟩ := ih middle
      exact ⟨last, List.forall_mem_append.mpr ⟨first, second⟩⟩

theorem Joins.perform (joins : endpoint.Joins here there)
    (running : endpoint.state ≠ .closed ∧ endpoint.state ≠ .listen) (call : Call) :
    (endpoint.perform call).endpoint.Joins here there ∧
      ∀ emission ∈ (endpoint.perform call).emitted, emission.Passes here there := by
  cases endpoint.perform_conduct call 0 with
  | continues _ strikes => exact strikes.passes joins
  | connects unopened | waits unopened =>
      exact absurd running (Decidable.or_iff_not_not_and_not.mp unopened)

/-- What is not bound yet sends nothing, or it has been bound before it does. -/
theorem Bound.passes (bound : endpoint.Bound) (call : Call) :
    (∀ emission ∈ (endpoint.perform call).emitted, emission.IsNote) ∨
      ∃ here there, (endpoint.perform call).endpoint.Joins here there ∧
        ∀ emission ∈ (endpoint.perform call).emitted, emission.Passes here there := by
  cases endpoint.perform_conduct call 0 with
  | continues running strikes =>
      obtain ⟨here, there, joins⟩ := bound.joins running
      exact .inr ⟨here, there, strikes.passes joins⟩
  | connects _ joins _ strikes => exact .inr ⟨_, _, strikes.passes joins⟩
  | waits _ waits => exact .inl waits.notes

theorem Bound.not_unbound (bound : endpoint.Bound) (call : Call) (port : UInt16) (flags : Flags) :
    .record (.unbound port flags) ∉ (endpoint.perform call).emitted := by
  intro member
  rcases bound.passes call with notes | ⟨here, there, _, passes⟩
  · obtain ⟨entry, same, other⟩ := notes _ member
    cases same
    exact other port flags rfl
  · exact passes _ member port flags rfl

theorem Bound.sent (bound : endpoint.Bound) (call : Call) {sent : Segment}
    (member : sent ∈ (endpoint.perform call).segments) :
    (endpoint.perform call).endpoint.Joins sent.source sent.destination := by
  rw [Turn.mem_segments] at member
  rcases bound.passes call with notes | ⟨here, there, joins, passes⟩
  · obtain ⟨entry, same, _⟩ := notes _ member
    cases same
  · obtain ⟨source, destination⟩ := passes _ member
    rwa [source, destination]

theorem Joins.along (joins : endpoint.Joins here there)
    (running : endpoint.state ≠ .closed ∧ endpoint.state ≠ .listen)
    (continued : endpoint.Reaches (fun moment _ => moment.state ≠ .closed) later) :
    later.Joins here there ∧ later.state ≠ .listen := by
  induction continued with
  | refl => exact ⟨joins, running.2⟩
  | @call moment _ call going ih =>
      obtain ⟨joins, met⟩ := ih
      refine ⟨(joins.perform ⟨going, met⟩ call).1, ?_⟩
      intro listening
      rcases moment.perform_path call with path | closed
      · rw [listening] at path
        exact (State.unopened_of_path path).elim going met
      · rw [listening] at closed
        cases closed

theorem Reaches.unmet {address : Option Address} {port : UInt16} {config : Config}
    {allowed : Endpoint → Call → Prop}
    (reached : (create address port config).Reaches allowed endpoint) : endpoint.Unmet :=
  reached.keeps Move.unmet (by rintro ⟨⟩)

/-- The ends of a connection stay the same as long as calls are made on it before it is closed, also
by the one that closes it, and nothing passes but between them. -/
structure Tied (endpoint : Endpoint) (here there : Socket) : Prop where
  joins : endpoint.Joins here there
  accepts (ip : Ip.Header) (header : Header) : endpoint.accepts ip header ↔
    Socket.mk ip.destination header.destinationPort = here ∧
      Socket.mk ip.source header.sourcePort = there
  sends (running : endpoint.state ≠ .closed) (call : Call) :
    ∀ sent ∈ (endpoint.perform call).segments, sent.source = here ∧ sent.destination = there

/-- Whatever has been called before, with whatever segments: an endpoint that listens has the
address it was created with and no peer, an open one that does not is bound at both ends, and no
segment is dropped for want of them. The ends do not change until the connection is closed, and
segments are accepted and sent between them only. -/
theorem reachable_binding {address : Option Address} {port : UInt16} {config : Config}
    (reached : (create address port config).Reaches (fun _ _ => True) endpoint) :
    (endpoint.state = .listen → endpoint.localAddress = address ∧
      endpoint.remoteAddress = none ∧ endpoint.remotePort = none) ∧
    (endpoint.state ≠ .closed → (endpoint.isConnected = false ↔ endpoint.state = .listen)) ∧
    (∀ call port flags, .record (.unbound port flags) ∉ (endpoint.perform call).emitted) ∧
    (∀ call, ∀ sent ∈ (endpoint.perform call).segments,
      (endpoint.perform call).endpoint.Joins sent.source sent.destination) ∧
    (endpoint.state ≠ .closed → endpoint.state ≠ .listen → ∃ here there, here.port = port ∧
      ∀ later, endpoint.Reaches (fun moment _ => moment.state ≠ .closed) later →
        later.Tied here there) := by
  have met (listening : endpoint.state = .listen) : endpoint.localAddress = address ∧
      endpoint.remoteAddress = none ∧ endpoint.remotePort = none := by
    have ends := reached.unmet listening
    rw [reached.fixed.2.1] at ends
    exact ⟨congrArg Prod.fst ends, congrArg (fun ends => ends.2.1) ends,
      congrArg (fun ends => ends.2.2) ends⟩
  refine ⟨met, ?_, reached.bound.not_unbound, fun call _ => reached.bound.sent call, ?_⟩
  · intro running
    constructor
    · exact reached.bound.listens running
    · intro listening
      rw [Endpoint.isConnected, (met listening).2.1]
      rfl
  · intro running met
    obtain ⟨here, there, joins⟩ := reached.bound.joins ⟨running, met⟩
    refine ⟨here, there, joins.localPort.symm.trans reached.fixed.2.2, ?_⟩
    intro later continued
    obtain ⟨joins, met⟩ := joins.along ⟨running, met⟩ continued
    refine ⟨joins, joins.accepts_iff, ?_⟩
    intro going call sent member
    exact (joins.perform ⟨going, met⟩ call).2 _ (Turn.mem_segments.mp member)

def approach : Call :=
  .receive 0 { nextHeader := .tcp, source := .allRouters, destination := .allNodes }
    { sourcePort := 2, destinationPort := 1, sequence := 7, acknowledgment := 0
      flags := .syn, window := 128 } []

def approached : Endpoint :=
  (((create none 1 {}).perform .listen).endpoint.perform approach).endpoint

/-- The first SYN ties it to its peer, and a reset does not untie it. -/
theorem approached_binding :
    approached.state = .synReceived ∧ approached.Tied ⟨.allNodes, 1⟩ ⟨.allRouters, 2⟩ ∧
      (approached.perform (.reset 5)).endpoint.Tied ⟨.allNodes, 1⟩ ⟨.allRouters, 2⟩ := by
  have reached : (create none 1 {}).Reaches (fun _ _ => True) approached :=
    .call (.call .refl trivial) trivial
  obtain ⟨_, _, _, _, tied⟩ := reachable_binding reached
  obtain ⟨here, there, _, stays⟩ := tied (by decide) (by decide)
  have joins := (stays approached .refl).joins
  have source : here = ⟨.allNodes, 1⟩ := Socket.ext (Option.some.inj joins.localAddress).symm
    joins.localPort.symm
  have destination : there = ⟨.allRouters, 2⟩ := Socket.ext
    (Option.some.inj joins.remoteAddress).symm (Option.some.inj joins.remotePort).symm
  subst source destination
  exact ⟨by decide, stays _ .refl, stays _ (.call .refl (by decide))⟩

end Endpoint

end RadioStack.Tcp
