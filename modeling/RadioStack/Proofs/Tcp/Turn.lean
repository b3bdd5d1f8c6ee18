import RadioStack.Tcp.Call

/-!
What the steps of an endpoint send and what they leave alone. Log records are of no account here:
a turn is its segments and the endpoint after it.
-/

namespace RadioStack.Tcp

def Emission.segment? : Emission → Option Segment
  | .segment sent => some sent
  | .record _ => none

def Turn.segments (turn : Turn) : List Segment := turn.emitted.filterMap Emission.segment?

namespace Turn

@[simp] theorem endpoint_andThen (turn : Turn) (next : Endpoint → Turn) :
    (turn.andThen next).endpoint = (next turn.endpoint).endpoint := rfl

@[simp] theorem segments_andThen (turn : Turn) (next : Endpoint → Turn) :
    (turn.andThen next).segments = turn.segments ++ (next turn.endpoint).segments := by
  simp [segments, andThen]

@[simp] theorem toTurn_quiet (turn : Turn) : turn.quiet.toTurn = turn := rfl

@[simp] theorem toTurn_rejected (turn : Turn) : turn.rejected.toTurn = turn := rfl

@[simp] theorem endpoint_thenReceive (turn : Turn) (next : Endpoint → Reception) :
    (turn.thenReceive next).endpoint = (next turn.endpoint).endpoint := rfl

@[simp] theorem segments_thenReceive (turn : Turn) (next : Endpoint → Reception) :
    (turn.thenReceive next).segments = turn.segments ++ (next turn.endpoint).segments := by
  simp [segments, thenReceive]

end Turn

namespace Endpoint

variable (endpoint : Endpoint)

@[simp] theorem endpoint_idle : endpoint.idle.endpoint = endpoint := rfl

@[simp] theorem segments_idle : endpoint.idle.segments = [] := rfl

@[simp] theorem endpoint_note (record : Log.Record) : (endpoint.note record).endpoint = endpoint :=
  rfl

@[simp] theorem endpoint_enter (state : State) :
    (endpoint.enter state).endpoint = { endpoint with state } := by
  unfold enter
  split
  · rename_i same
    subst same
    rfl
  · rfl

@[simp] theorem segments_enter (state : State) : (endpoint.enter state).segments = [] := by
  unfold enter
  split <;> rfl

@[simp] theorem endpoint_abort :
    endpoint.abort.endpoint =
      { endpoint with state := .closed, ring := endpoint.ring.clear, closing := false } := by
  simp [abort]

@[simp] theorem segments_abort : endpoint.abort.segments = [] := by
  simp [abort]

@[simp] theorem endpoint_enterTimeWait (now : Instant) :
    (endpoint.enterTimeWait now).endpoint =
      { endpoint with timeWaitSince := now, state := .timeWait } := by
  simp [enterTimeWait]

/-- A transmission is one segment between the bound ends, or nothing if an end is missing. It may
start the timer anew; everything else stays. -/
theorem transmit_cases (now : Instant) (sequence : UInt32) (flags : Flags) (length : Nat) :
    (∃ source destination port lastSend,
      endpoint.localAddress = some source ∧ endpoint.remoteAddress = some destination ∧
      endpoint.remotePort = some port ∧
      (endpoint.transmit now sequence flags length).endpoint = { endpoint with lastSend } ∧
      (endpoint.transmit now sequence flags length).segments =
        [endpoint.segmentAt source destination port sequence flags length]) ∨
    ((endpoint.transmit now sequence flags length).endpoint = endpoint ∧
      (endpoint.transmit now sequence flags length).segments = []) := by
  unfold transmit
  split
  · rename_i source destination port here there door
    exact .inl ⟨source, destination, port, _, here, there, door, rfl, rfl⟩
  · exact .inr ⟨rfl, rfl⟩

theorem mem_transmit {now : Instant} {sequence : UInt32} {flags : Flags} {length : Nat}
    {sent : Segment} (member : sent ∈ (endpoint.transmit now sequence flags length).segments) :
    ∃ source destination port,
      sent = endpoint.segmentAt source destination port sequence flags length := by
  rcases endpoint.transmit_cases now sequence flags length with
    ⟨source, destination, port, _, _, _, _, _, spoken⟩ | ⟨_, silent⟩
  · rw [spoken, List.mem_singleton] at member
    exact ⟨source, destination, port, member⟩
  · rw [silent] at member
    cases member

theorem transmit_keeps {α : Type} (field : Endpoint → α)
    (untimed : ∀ (endpoint : Endpoint) lastSend, field { endpoint with lastSend } = field endpoint)
    (now : Instant) (sequence : UInt32) (flags : Flags) (length : Nat) :
    field (endpoint.transmit now sequence flags length).endpoint = field endpoint := by
  rcases endpoint.transmit_cases now sequence flags length with
    ⟨_, _, _, lastSend, _, _, _, timed, _⟩ | ⟨same, _⟩
  · rw [timed, untimed]
  · rw [same]

theorem retransmit_keeps {α : Type} (field : Endpoint → α)
    (untimed : ∀ (endpoint : Endpoint) lastSend, field { endpoint with lastSend } = field endpoint)
    (now : Instant) : field (endpoint.retransmit now).endpoint = field endpoint := by
  unfold retransmit
  split
  all_goals try exact endpoint.transmit_keeps field untimed _ _ _ _
  dsimp only
  split
  · rfl
  · exact endpoint.transmit_keeps field untimed _ _ _ _

end Endpoint

end RadioStack.Tcp
