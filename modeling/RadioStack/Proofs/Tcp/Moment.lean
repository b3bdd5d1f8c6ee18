import RadioStack.Proofs.Tcp.CallMoves
import RadioStack.Proofs.Tcp.Flow

/-!
The moments of a call. What is sent is sent at a moment, by the endpoint as it is then, also where
one call takes it through several states. Main statement: `output_said`.
-/

namespace RadioStack.Tcp

namespace Endpoint

/-- What calls lead to, each of them allowed at the endpoint on which it is made, with a record in
which each of them is entered. -/
inductive Records {Record : Type} (allowed : Endpoint → Call → Prop)
    (enter : Endpoint → Call → Record → Record) (start : Endpoint) (blank : Record) :
    Endpoint → Record → Prop
  | blank : Records allowed enter start blank start blank
  | call {endpoint : Endpoint} {record : Record}
    (recorded : Records allowed enter start blank endpoint record) {call : Call}
    (admitted : allowed endpoint call) :
    Records allowed enter start blank (endpoint.perform call).endpoint
      (enter endpoint call record)

/-- What an endpoint is in the middle of a call, and what has passed through it until then. -/
def Passes (before : Endpoint) (call : Call) (output : Output) (moment : Endpoint) : Prop :=
  ∃ rest, Moves call before output moment ∧
    Moves call moment rest (before.perform call).endpoint ∧ before.output call = output ++ rest

inductive Says (call : Call) (endpoint : Endpoint) : Segment → Prop
  | segmentAt {sequence : UInt32} {flags : Flags} {length : Nat} {source destination : Address}
    {port : UInt16} (may : endpoint.MaySend call sequence flags length)
    (here : endpoint.localAddress = some source)
    (there : endpoint.remoteAddress = some destination) (door : endpoint.remotePort = some port) :
    Says call endpoint (endpoint.segmentAt source destination port sequence flags length)

variable {call : Call} {before middle after moment endpoint : Endpoint} {output : Output}
  {sent : Segment}

theorem MaySend.knowsPeer_of_ack {sequence : UInt32} {flags : Flags} {length : Nat}
    (may : endpoint.MaySend call sequence flags length) (ack : flags.contains .ack) :
    endpoint.state.knowsPeer := by
  cases may with
  | ack synchronized | fresh synchronized | again synchronized =>
      exact State.knowsPeer_of_isSynchronized synchronized
  | syn => exact absurd ack (by decide)
  | synAck state => rw [state]; rfl
  | fin inFlight => exact State.knowsPeer_of_finInFlight inFlight
  | rst => exact absurd ack (by decide)

theorem Says.acknowledgment (spoken : endpoint.Says call sent)
    (ack : sent.header.flags.contains .ack) :
    endpoint.state.knowsPeer ∧ sent.header.acknowledgment = endpoint.receiveNext := by
  cases spoken with
  | segmentAt may => exact ⟨may.knowsPeer_of_ack ack, if_pos ack⟩

theorem passes_end (before : Endpoint) (call : Call) :
    before.Passes call (before.output call) (before.perform call).endpoint :=
  ⟨{}, perform_moves before call, .done, (Output.append_empty _).symm⟩

theorem Moves.said (moves : Moves call before output after) {early late : List Segment}
    (parted : output.segments = early ++ sent :: late) :
    ∃ first moment rest, Moves call before first moment ∧ Moves call moment rest after ∧
      output = first ++ rest ∧ first.segments = early ∧ moment.Says call sent := by
  induction moves generalizing early with
  | done => exact absurd parted (by simp)
  | @step before middle after output rest move moves ih =>
      have onward : ∀ early', output.segments ++ early' = early →
          rest.segments = early' ++ sent :: late →
          ∃ first moment last, Moves call before first moment ∧ Moves call moment last after ∧
            output ++ rest = first ++ last ∧ first.segments = early ∧ moment.Says call sent := by
        intro early' whole parted'
        obtain ⟨first, moment, last, reached, onwards, same, sentEarly, spoken⟩ := ih parted'
        refine ⟨output ++ first, moment, last, .step move reached, onwards, ?_, ?_, spoken⟩
        · rw [same, Output.append_assoc]
        · rw [Output.segments_append, sentEarly, whole]
      cases move with
      | say may here there door =>
          -- The segment is sent by this move, or by one of those that follow.
          cases early with
          | nil =>
              cases parted
              exact ⟨{}, _, _, .done, .step (.say may here there door) moves, rfl, rfl,
                .segmentAt may here there door⟩
          | cons first early' =>
              injection parted with same parted'
              subst same
              exact onward early' rfl parted'
      | wait | connect | listen | welcome | establish | cross | confirm | queue | intend
      | acknowledge | finish | finishLast | sendFin | take | abort => exact onward early rfl parted

/-- Every segment that a call sends is sent at one of its moments, after those before it. -/
theorem output_said {early late : List Segment}
    (parted : (endpoint.output call).segments = early ++ sent :: late) :
    ∃ output moment, endpoint.Passes call output moment ∧ output.segments = early ∧
      moment.Says call sent := by
  obtain ⟨first, moment, rest, reached, onwards, same, sentEarly, spoken⟩ :=
    (perform_moves endpoint call).said parted
  exact ⟨first, moment, ⟨rest, reached, onwards, same⟩, sentEarly, spoken⟩

end Endpoint

end RadioStack.Tcp
