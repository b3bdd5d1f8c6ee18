import RadioStack.Proofs.Tcp.Ledger

/-!
Two parties and what passes between them. Every segment that one of them has ever sent is a piece
of its own stream at the place that its sequence number says, and acknowledges no more than the
party has taken of the other stream. What is said of a segment stays true while the streams grow.
-/

namespace RadioStack.Tcp

namespace State

def knowsPeer : State → Bool
  | .closed | .listen | .synSent => false
  | _ => true

def peerFinished : State → Bool
  | .closeWait | .lastAck | .closing | .timeWait => true
  | _ => false

def finished : State → Bool
  | .listen | .synSent | .synReceived | .established | .closeWait => false
  | _ => true

theorem knowsPeer_of_acceptsText {state : State} (accepting : state.acceptsText) :
    state.knowsPeer ∧ state.peerFinished = false := by
  cases state <;> first | decide | cases accepting

theorem peerFinished_afterPeerFin {state : State} (accepting : state.acceptsText) :
    state.afterPeerFin.peerFinished = true ∧
      ¬ (state.afterPeerFin = .listen ∨ state.afterPeerFin = .synSent) ∧
      ¬ (state = .listen ∨ state = .synSent) := by
  cases state <;> first | decide | cases accepting

theorem finished_of_finInFlight {state : State} (inFlight : state.finInFlight) :
    state.finished := by
  cases state <;> first | rfl | cases inFlight

theorem knowsPeer_of_isSynchronized {state : State} (synchronized : state.isSynchronized) :
    state.knowsPeer := by
  cases state <;> first | rfl | cases synchronized

theorem knowsPeer_of_finInFlight {state : State} (inFlight : state.finInFlight) :
    state.knowsPeer := by
  cases state <;> first | rfl | cases inFlight

theorem finished_of_carriesData {state : State} (carries : state.carriesData) :
    state.finished = false := by
  cases state <;> first | rfl | cases carries

end State

@[ext] structure Socket where
  address : Address
  port : UInt16
  deriving DecidableEq

/-- An endpoint and everything that has passed through it. -/
structure Party where
  endpoint : Endpoint
  past : Output := {}

/-- One direction of a connection: what has been accepted at one end, and what has been reported at
the other. -/
structure Flow where
  origin : UInt32
  stream : Octets
  ended : Bool
  delivered : Octets

namespace Flow

/-- What can become of a flow. One that has ended takes nothing more. -/
structure Grows (before after : Flow) : Prop where
  origin : after.origin = before.origin
  stream : before.stream <+: after.stream
  ended : before.ended → after.ended ∧ after.stream = before.stream
  delivered : before.delivered <+: after.delivered
  held : after.delivered <+: after.stream

inductive Carries (flow : Flow) (header : Header) (payload : Octets) : Prop
  | syn (syn : header.flags.contains .syn) (first : header.sequence = flow.origin)
  | bare (noSyn : header.flags.contains .syn = false) (noFin : header.flags.contains .fin = false)
    (empty : payload = [])
  | text {before after : Octets} (noSyn : header.flags.contains .syn = false)
    (noFin : header.flags.contains .fin = false)
    (part : flow.stream = before ++ payload ++ after)
    (place : header.sequence = ahead flow.origin (1 + before.length))
  | fin (noSyn : header.flags.contains .syn = false) (fin : header.flags.contains .fin)
    (empty : payload = []) (ended : flow.ended)
    (place : header.sequence = ahead flow.origin (1 + flow.stream.length))

/-- A number acknowledges what has been delivered of a flow, or less; its FIN only after all. -/
def Confirms (flow : Flow) (acknowledgment : UInt32) : Prop :=
  ∃ taken, acknowledgment = ahead flow.origin (1 + taken) ∧
    (taken ≤ flow.delivered.length ∨
      (taken = flow.stream.length + 1 ∧ flow.ended ∧ flow.delivered = flow.stream))

variable {before after : Flow} {header : Header} {payload : Octets}

theorem Carries.mono (carries : before.Carries header payload) (grows : before.Grows after) :
    after.Carries header payload := by
  cases carries with
  | syn syn first => exact .syn syn (first.trans grows.origin.symm)
  | bare noSyn noFin empty => exact .bare noSyn noFin empty
  | text noSyn noFin part place =>
      obtain ⟨more, whole⟩ := grows.stream
      rw [part, List.append_assoc] at whole
      exact .text noSyn noFin whole.symm (by rw [place, grows.origin])
  | fin noSyn fin empty ended place =>
      obtain ⟨still, same⟩ := grows.ended ended
      exact .fin noSyn fin empty still (by rw [place, grows.origin, same])

theorem Confirms.mono {acknowledgment : UInt32} (confirms : before.Confirms acknowledgment)
    (grows : before.Grows after) : after.Confirms acknowledgment := by
  obtain ⟨taken, number, within | ⟨all, ended, delivered⟩⟩ := confirms
  · exact ⟨taken, by rw [number, grows.origin],
      .inl (Nat.le_trans within grows.delivered.length_le)⟩
  · obtain ⟨still, same⟩ := grows.ended ended
    refine ⟨taken, by rw [number, grows.origin], .inr ⟨by rw [all, same], still, ?_⟩⟩
    apply grows.held.eq_of_length_le
    rw [same, ← delivered]
    exact grows.delivered.length_le

end Flow

namespace Party

def flow (sender receiver : Party) : Flow where
  origin := sender.endpoint.config.initialSequence
  stream := sender.past.accepted
  ended := sender.endpoint.state.finished
  delivered := receiver.past.reported

def after (party : Party) (endpoint : Endpoint) (output : Output) : Party :=
  ⟨endpoint, party.past ++ output⟩

variable (party : Party) (endpoint : Endpoint) (output : Output)

@[simp] theorem endpoint_after : (party.after endpoint output).endpoint = endpoint := rfl

@[simp] theorem segments_after : (party.after endpoint output).past.segments =
    party.past.segments ++ output.segments := rfl

@[simp] theorem accepted_after : (party.after endpoint output).past.accepted =
    party.past.accepted ++ output.accepted := rfl

@[simp] theorem reported_after : (party.after endpoint output).past.reported =
    party.past.reported ++ output.reported := rfl

end Party

/-- A segment between two sockets: a piece of one flow that acknowledges the other. -/
structure Labelled (source destination : Socket) (outbound inbound : Flow) (segment : Segment) :
    Prop where
  source : segment.ip.source = source.address ∧ segment.header.sourcePort = source.port
  destination : segment.ip.destination = destination.address ∧
    segment.header.destinationPort = destination.port
  noRst : segment.header.flags.contains .rst = false
  carries : outbound.Carries segment.header segment.payload
  confirms : segment.header.flags.contains .ack → inbound.Confirms segment.header.acknowledgment

theorem Labelled.mono {source destination : Socket} {outbound inbound outbound' inbound' : Flow}
    {segment : Segment} (labelled : Labelled source destination outbound inbound segment)
    (out : outbound.Grows outbound') (back : inbound.Grows inbound') :
    Labelled source destination outbound' inbound' segment where
  source := labelled.source
  destination := labelled.destination
  noRst := labelled.noRst
  carries := labelled.carries.mono out
  confirms ack := (labelled.confirms ack).mono back

structure Delivers (sender receiver : Party) : Prop where
  balanced : sender.endpoint.Balanced sender.past.accepted
  held : receiver.past.reported <+: sender.past.accepted
  kept : sender.endpoint.state ≠ .closed →
    sender.past.accepted.length ≤
      receiver.past.reported.length + sender.endpoint.ring.toList.length
  expected : receiver.endpoint.state.knowsPeer →
    receiver.endpoint.receiveNext = ahead sender.endpoint.config.initialSequence
      (1 + receiver.past.reported.length + receiver.endpoint.state.peerFinished.toNat)
  early : receiver.endpoint.state = .listen ∨ receiver.endpoint.state = .synSent →
    receiver.past.reported = []
  whole : receiver.endpoint.state.peerFinished →
    sender.endpoint.state.finished ∧ receiver.past.reported = sender.past.accepted

/-- A party that is bound to no other sockets than these, and what it has sent between them. -/
structure Speaks (here there : Socket) (party other : Party) : Prop where
  port : party.endpoint.localPort = here.port
  localAddress : ∀ address, party.endpoint.localAddress = some address → address = here.address
  remoteAddress : ∀ address, party.endpoint.remoteAddress = some address → address = there.address
  remotePort : ∀ port, party.endpoint.remotePort = some port → port = there.port
  labelled : ∀ segment ∈ party.past.segments,
    Labelled here there (party.flow other) (other.flow party) segment

structure Safe (here there : Socket) (party other : Party) : Prop where
  sends : Delivers party other
  receives : Delivers other party
  speaks : Speaks here there party other
  hears : Speaks there here other party

theorem Safe.symm {here there : Socket} {party other : Party}
    (safe : Safe here there party other) : Safe there here other party :=
  ⟨safe.receives, safe.sends, safe.hears, safe.speaks⟩

/-- A call that neither begins nor resets a connection, and brings a segment only if the other
party may have sent it. -/
structure Fed (here there : Socket) (party other : Party) (call : Call) : Prop where
  continues : call.opens = false
  noReset : ∀ now, call ≠ .reset now
  labelled : ∀ now ip header payload, call = .receive now ip header payload →
    Labelled there here (other.flow party) (party.flow other) ⟨ip, header, payload⟩

end RadioStack.Tcp
