import RadioStack.Proofs.Tcp.Turn

/-!
What an endpoint can do at one stroke. A call is a sequence of moves, and one move keeps whatever
the calls are to keep, also where a single segment takes an endpoint through several states.
-/

namespace RadioStack.Tcp

/-- What has passed through an endpoint: the segments it has sent, the data it has accepted from
its application, and the data it has reported to it. -/
structure Output where
  segments : List Segment := []
  accepted : Octets := []
  reported : Octets := []
  deriving DecidableEq

namespace Output

instance : Append Output where
  append first second :=
    ⟨first.segments ++ second.segments, first.accepted ++ second.accepted,
      first.reported ++ second.reported⟩

variable (first second third : Output)

@[simp] theorem segments_append : (first ++ second).segments = first.segments ++ second.segments :=
  rfl

@[simp] theorem accepted_append : (first ++ second).accepted = first.accepted ++ second.accepted :=
  rfl

@[simp] theorem reported_append : (first ++ second).reported = first.reported ++ second.reported :=
  rfl

theorem append_assoc : first ++ second ++ third = first ++ (second ++ third) := by
  change Output.mk _ _ _ = Output.mk _ _ _
  simp

theorem append_empty : first ++ ({} : Output) = first := by
  change Output.mk _ _ _ = _
  simp

theorem append_segments (segments : List Segment) :
    first ++ { segments } = { first with segments := first.segments ++ segments } := by
  change Output.mk _ _ _ = Output.mk _ _ _
  simp

end Output

namespace State

def afterPeerFin : State → State
  | .established => .closeWait
  | .finWait1 => .closing
  | .finWait2 => .timeWait
  | state => state

def carriesData : State → Bool
  | .established | .closeWait => true
  | _ => false

theorem IsSynchronized.ne {state : State} (synchronized : state.isSynchronized) :
    state ≠ .closed ∧ state ≠ .listen ∧ state ≠ .synSent ∧ state ≠ .synReceived := by
  cases state <;> simp_all [isSynchronized]

theorem isSynchronized_of_carriesData {state : State} (carries : state.carriesData) :
    state.isSynchronized := by
  cases state <;> first | rfl | cases carries

theorem isSynchronized_of_acceptsText {state : State} (accepting : state.acceptsText) :
    state.isSynchronized ∧ state.afterPeerFin.isSynchronized := by
  cases state <;> simp_all [acceptsText, afterPeerFin, isSynchronized]

end State

namespace Endpoint

theorem finState?_eq_some {before after : State} (next : finState? before = some after) :
    (before = .established ∧ after = .finWait1) ∨ (before = .closeWait ∧ after = .lastAck) := by
  cases before <;> simp [finState?] at next <;> simp [next]

theorem carriesData_of_refusal?_eq_none {endpoint : Endpoint} (ready : endpoint.refusal? = none) :
    endpoint.state.carriesData := by
  unfold refusal? at ready
  split at ready
  · cases ready
  · cases state : endpoint.state <;> simp_all [State.carriesData]

/-- What an endpoint may send: the first number, flags and length of each kind of segment. -/
inductive MaySend (call : Call) (endpoint : Endpoint) : UInt32 → Flags → Nat → Prop
  | ack (synchronized : endpoint.state.isSynchronized) :
    MaySend call endpoint endpoint.sendNext .ack 0
  | syn {sequence : UInt32} (state : endpoint.state = .synSent)
    (first : sequence = endpoint.unacknowledged ∨ sequence = endpoint.sendNext - 1) :
    MaySend call endpoint sequence .syn 0
  | synAck {sequence : UInt32} (state : endpoint.state = .synReceived)
    (first : sequence = endpoint.unacknowledged ∨ sequence = endpoint.sendNext - 1) :
    MaySend call endpoint sequence (.syn ||| .ack) 0
  | fin {sequence : UInt32} (inFlight : endpoint.state.finInFlight)
    (last : sequence = endpoint.sendNext - 1) :
    MaySend call endpoint sequence (.fin ||| .ack) 0
  | fresh {sequence : UInt32} {length : Nat} (synchronized : endpoint.state.isSynchronized)
    (held : length ≤ endpoint.ring.count)
    (last : sequence = endpoint.sendNext - length.toUInt32) :
    MaySend call endpoint sequence (.ack ||| .psh) length
  | again {length : Nat} (synchronized : endpoint.state.isSynchronized)
    (held : length ≤ endpoint.ring.count) :
    MaySend call endpoint endpoint.unacknowledged (.ack ||| .psh) length
  | rst {now : Instant} (called : call = .reset now) :
    MaySend call endpoint endpoint.sendNext .rst 0

/-- Why a connection may end before both FINs have been acknowledged. -/
inductive Ends (call : Call) (endpoint : Endpoint) : Prop
  | reset {now : Instant} (called : call = .reset now)
  | close {now : Instant} (called : call = .close now)
    (early : endpoint.state = .listen ∨ endpoint.state = .synSent)
  | expire {now : Instant} (called : call = .tick now) (state : endpoint.state = .timeWait)
    (expired : endpoint.config.timeWait ≤ now.since endpoint.timeWaitSince)
  | refuse {now : Instant} {ip : Ip.Header} {header : Header} {payload : Octets}
    (called : call = .receive now ip header payload) (state : endpoint.state = .synSent)
    (rst : header.flags.contains .rst) (ack : header.flags.contains .ack)
    (matching : header.acknowledgment = endpoint.sendNext)
  | resetByPeer {now : Instant} {ip : Ip.Header} {header : Header} {payload : Octets}
    (called : call = .receive now ip header payload)
    (known : endpoint.state = .synReceived ∨ endpoint.state.isSynchronized)
    (rst : header.flags.contains .rst) (matching : header.sequence = endpoint.receiveNext)

structure Acknowledges (endpoint : Endpoint) (header : Header) : Prop where
  ack : header.flags.contains .ack
  noSyn : header.flags.contains .syn = false
  noRst : header.flags.contains .rst = false
  within : inWindow endpoint.unacknowledged endpoint.sendNext header.acknowledgment
  new : header.acknowledgment ≠ endpoint.unacknowledged

/-- One stroke of an endpoint during a call, with what passes through it. -/
inductive Move (call : Call) : Endpoint → Output → Endpoint → Prop
  | wait {endpoint : Endpoint} (sendWindow : UInt16) (lastSend timeWaitSince : Instant) :
    Move call endpoint {} { endpoint with sendWindow, lastSend, timeWaitSince }
  | say {endpoint : Endpoint} {sequence : UInt32} {flags : Flags} {length : Nat}
    {source destination : Address} {port : UInt16}
    (may : endpoint.MaySend call sequence flags length)
    (here : endpoint.localAddress = some source)
    (there : endpoint.remoteAddress = some destination) (door : endpoint.remotePort = some port) :
    Move call endpoint
      { segments := [endpoint.segmentAt source destination port sequence flags length] } endpoint
  | connect {endpoint : Endpoint} {now : Instant} {address : Address} {port : UInt16}
    (called : call = .connect now address port) (closed : endpoint.state = .closed) :
    Move call endpoint {} { endpoint.restart with
      state := .synSent
      localAddress := endpoint.boundAddress
      remoteAddress := some address
      remotePort := some port
      sendNext := endpoint.config.initialSequence + 1 }
  | listen {endpoint : Endpoint} (called : call = .listen) (closed : endpoint.state = .closed) :
    Move call endpoint {} { endpoint.restart with
      state := .listen
      localAddress := endpoint.boundAddress
      remoteAddress := none
      remotePort := none }
  | welcome {endpoint : Endpoint} {now : Instant} {ip : Ip.Header} {header : Header}
    {payload : Octets} (called : call = .receive now ip header payload)
    (listening : endpoint.state = .listen) (syn : header.flags.contains .syn)
    (noAck : header.flags.contains .ack = false) (noRst : header.flags.contains .rst = false) :
    Move call endpoint {} { endpoint with
      state := .synReceived
      localAddress := endpoint.localAddress.or (some ip.destination)
      remoteAddress := some ip.source
      remotePort := some header.sourcePort
      receiveNext := header.sequence + 1
      sendNext := endpoint.sendNext + 1 }
  | establish {endpoint : Endpoint} {now : Instant} {ip : Ip.Header} {header : Header}
    {payload : Octets} (called : call = .receive now ip header payload)
    (opening : endpoint.state = .synSent) (syn : header.flags.contains .syn)
    (ack : header.flags.contains .ack) (noRst : header.flags.contains .rst = false)
    (matching : header.acknowledgment = endpoint.sendNext) :
    Move call endpoint {} { endpoint with
      state := .established
      unacknowledged := header.acknowledgment
      receiveNext := header.sequence + 1 }
  | cross {endpoint : Endpoint} {now : Instant} {ip : Ip.Header} {header : Header}
    {payload : Octets} (called : call = .receive now ip header payload)
    (opening : endpoint.state = .synSent) (syn : header.flags.contains .syn)
    (noAck : header.flags.contains .ack = false) (noRst : header.flags.contains .rst = false) :
    Move call endpoint {} { endpoint with
      state := .synReceived
      receiveNext := header.sequence + 1 }
  | confirm {endpoint : Endpoint} {now : Instant} {ip : Ip.Header} {header : Header}
    {payload : Octets} (called : call = .receive now ip header payload)
    (answered : endpoint.state = .synReceived) (ack : header.flags.contains .ack)
    (noSyn : header.flags.contains .syn = false) (noRst : header.flags.contains .rst = false)
    (matching : header.acknowledgment = endpoint.sendNext) :
    Move call endpoint {} { endpoint with
      state := .established
      unacknowledged := header.acknowledgment }
  | queue {endpoint : Endpoint} {now : Instant} {data : Octets} {ring : SendRing}
    (called : call = .send now data) (ready : endpoint.refusal? = none)
    (room : endpoint.ring.enqueue? data = some ring) :
    Move call endpoint { accepted := data } { endpoint with
      ring
      sendNext := endpoint.sendNext + data.length.toUInt32 }
  | intend {endpoint : Endpoint} {now : Instant} (called : call = .close now)
    (running : endpoint.state = .synReceived ∨ endpoint.state = .established ∨
      endpoint.state = .closeWait) :
    Move call endpoint {} { endpoint with closing := true }
  | acknowledge {endpoint : Endpoint} {now : Instant} {ip : Ip.Header} {header : Header}
    {payload : Octets} (called : call = .receive now ip header payload)
    (synchronized : endpoint.state.isSynchronized) (covers : endpoint.Acknowledges header)
    (noFin : endpoint.coversFin header.acknowledgment = false) :
    Move call endpoint {} { endpoint with
      ring := endpoint.ring.release (endpoint.released header.acknowledgment)
      unacknowledged := header.acknowledgment }
  | finish {endpoint : Endpoint} {now : Instant} {ip : Ip.Header} {header : Header}
    {payload : Octets} {state : State} (called : call = .receive now ip header payload)
    (next : (endpoint.state = .finWait1 ∧ state = .finWait2) ∨
      (endpoint.state = .closing ∧ state = .timeWait))
    (covers : endpoint.Acknowledges header)
    (fin : endpoint.coversFin header.acknowledgment) :
    Move call endpoint {} { endpoint with
      state
      ring := endpoint.ring.release (endpoint.released header.acknowledgment)
      unacknowledged := header.acknowledgment }
  | finishLast {endpoint : Endpoint} {now : Instant} {ip : Ip.Header} {header : Header}
    {payload : Octets} (called : call = .receive now ip header payload)
    (waiting : endpoint.state = .lastAck) (covers : endpoint.Acknowledges header)
    (fin : endpoint.coversFin header.acknowledgment) :
    Move call endpoint {} { endpoint with
      state := .closed
      ring := endpoint.ring.clear
      closing := false
      unacknowledged := header.acknowledgment }
  /-- Everything queued has been acknowledged, so our FIN goes out. -/
  | sendFin {endpoint : Endpoint} {state : State} (closing : endpoint.closing)
    (drained : endpoint.ring.isEmpty) (next : finState? endpoint.state = some state) :
    Move call endpoint {} { endpoint with state, sendNext := endpoint.sendNext + 1 }
  | take {endpoint : Endpoint} {now : Instant} {ip : Ip.Header} {header : Header}
    {payload : Octets} (called : call = .receive now ip header payload)
    (noSyn : header.flags.contains .syn = false) (noRst : header.flags.contains .rst = false)
    (accepting : endpoint.state.acceptsText) (inOrder : header.sequence = endpoint.receiveNext)
    (occupied : header.span payload.length ≠ 0) :
    Move call endpoint { reported := payload } { endpoint with
      state := if header.flags.contains .fin then endpoint.state.afterPeerFin else endpoint.state
      receiveNext := endpoint.receiveNext + header.span payload.length }
  | abort {endpoint : Endpoint} (ends : endpoint.Ends call) :
    Move call endpoint {} { endpoint with
      state := .closed
      ring := endpoint.ring.clear
      closing := false }

inductive Moves (call : Call) : Endpoint → Output → Endpoint → Prop
  | done {endpoint : Endpoint} : Moves call endpoint {} endpoint
  | step {before middle after : Endpoint} {output rest : Output}
    (move : Move call before output middle) (moves : Moves call middle rest after) :
    Moves call before (output ++ rest) after

namespace Moves

variable {call : Call} {before middle after : Endpoint} {output rest : Output}

theorem single (move : Move call before output after) : Moves call before output after := by
  have moves := Moves.step move .done
  rwa [Output.append_empty] at moves

theorem trans (first : Moves call before output middle) (second : Moves call middle rest after) :
    Moves call before (output ++ rest) after := by
  induction first with
  | done => exact second
  | step move _ ih =>
      rw [Output.append_assoc]
      exact .step move (ih second)

theorem keeps {holds : Endpoint → Prop} (moves : Moves call before output after)
    (kept : ∀ {earlier later passed}, Move call earlier passed later → holds earlier → holds later)
    (start : holds before) : holds after := by
  induction moves with
  | done => exact start
  | step move _ ih => exact ih (kept move start)

theorem brings {holds : Endpoint → Prop} (moves : Moves call before output after)
    (start : ¬ holds before) (finish : holds after) :
    ∃ first passed rest early moment, Moves call before first early ∧
      Move call early passed moment ∧ Moves call moment rest after ∧
      output = first ++ (passed ++ rest) ∧ ¬ holds early ∧ holds moment := by
  induction moves with
  | done => exact absurd finish start
  | @step before middle after output rest move moves ih =>
      by_cases reached : holds middle
      · exact ⟨{}, output, rest, before, middle, .done, move, moves, rfl, start, reached⟩
      · obtain ⟨first, passed, last, early, moment, before_, crossing, after_, whole, apart⟩ :=
          ih reached finish
        refine ⟨output ++ first, passed, last, early, moment, .step move before_, crossing, after_,
          ?_, apart⟩
        rw [whole, Output.append_assoc]

end Moves

end Endpoint

end RadioStack.Tcp
