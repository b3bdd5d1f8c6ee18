import RadioStack.Log
import RadioStack.Tcp.Config
import RadioStack.Tcp.Segment
import RadioStack.Tcp.SendRing

/-!
One end of a TCP connection, and the steps that its calls are made of. A step takes an endpoint to
the next one and says what it emits on the way.
-/

namespace RadioStack.Tcp

structure Endpoint where
  config : Config
  state : State := .closed
  /-- The address the endpoint was created with; without one a passive open accepts any. -/
  boundAddress : Option Address
  localAddress : Option Address
  localPort : UInt16
  remoteAddress : Option Address := none
  remotePort : Option UInt16 := none
  unacknowledged : UInt32
  sendNext : UInt32
  sendWindow : UInt16 := 0
  receiveNext : UInt32 := 0
  ring : SendRing := .empty
  /-- The application has closed its side; the FIN waits until the ring is empty. -/
  closing : Bool := false
  lastSend : Instant := 0
  timeWaitSince : Instant := 0
  deriving DecidableEq

inductive Emission
  | segment (segment : Segment)
  | record (record : Log.Record)
  deriving DecidableEq

structure Turn where
  endpoint : Endpoint
  emitted : List Emission
  deriving DecidableEq

namespace Turn

def andThen (turn : Turn) (next : Endpoint → Turn) : Turn :=
  ⟨(next turn.endpoint).endpoint, turn.emitted ++ (next turn.endpoint).emitted⟩

end Turn

/-- The order of sequence numbers: `first` is `second` or at most 2 ^ 31 before it. -/
def notAfter (first second : UInt32) : Bool :=
  first - second == 0 || decide (0x80000000 ≤ first - second)

def inWindow (oldest next acknowledgment : UInt32) : Bool :=
  notAfter oldest acknowledgment && notAfter acknowledgment next

namespace Endpoint

def create (address : Option Address) (port : UInt16) (config : Config) : Endpoint where
  config
  boundAddress := address
  localAddress := address
  localPort := port
  unacknowledged := config.initialSequence
  sendNext := config.initialSequence

/-- Whether a segment belongs to this connection. What is not bound yet accepts anything. -/
def accepts (endpoint : Endpoint) (ip : Ip.Header) (header : Header) : Bool :=
  header.destinationPort == endpoint.localPort &&
    endpoint.remotePort.all (· == header.sourcePort) &&
    endpoint.localAddress.all (· == ip.destination) &&
    endpoint.remoteAddress.all (· == ip.source)

def isConnected (endpoint : Endpoint) : Bool :=
  endpoint.remoteAddress.isSome && endpoint.remotePort.isSome

def idle (endpoint : Endpoint) : Turn := ⟨endpoint, []⟩

def note (record : Log.Record) (endpoint : Endpoint) : Turn := ⟨endpoint, [.record record]⟩

def enter (state : State) (endpoint : Endpoint) : Turn :=
  if endpoint.state = state then endpoint.idle
  else ⟨{ endpoint with state },
    [.record (.stateChanged endpoint.localPort endpoint.state state)]⟩

def abort (endpoint : Endpoint) : Turn :=
  (endpoint.enter .closed).andThen fun endpoint =>
    idle { endpoint with ring := endpoint.ring.clear, closing := false }

def restart (endpoint : Endpoint) : Endpoint :=
  { endpoint with
    unacknowledged := endpoint.config.initialSequence
    sendNext := endpoint.config.initialSequence
    receiveNext := 0
    ring := endpoint.ring.clear
    closing := false }

def segmentAt (endpoint : Endpoint) (source destination : Address) (port : UInt16)
    (sequence : UInt32) (flags : Flags) (length : Nat) : Segment where
  ip := {
    nextHeader := .tcp
    hopLimit := endpoint.config.hopLimit
    source
    destination }
  header := {
    sourcePort := endpoint.localPort
    destinationPort := port
    sequence
    acknowledgment := if flags.contains .ack then endpoint.receiveNext else 0
    flags
    window := endpoint.config.window }
  payload := endpoint.ring.peek (sequence - endpoint.unacknowledged).toNat
    (min length SendRing.capacity)

/-- Sends a segment. If it occupies sequence numbers the retransmission timer starts anew. -/
def transmit (now : Instant) (sequence : UInt32) (flags : Flags) (length : Nat)
    (endpoint : Endpoint) : Turn :=
  match endpoint.localAddress, endpoint.remoteAddress, endpoint.remotePort with
  | some source, some destination, some port =>
    let segment := endpoint.segmentAt source destination port sequence flags length
    let lastSend :=
      if segment.header.span segment.payload.length = 0 then endpoint.lastSend else now
    ⟨{ endpoint with lastSend },
      [.record (.segmentSent endpoint.localPort flags sequence segment.header.acknowledgment
        segment.payload.length), .segment segment]⟩
  | _, _, _ => endpoint.note (.unbound endpoint.localPort flags)

def sendAck (now : Instant) (endpoint : Endpoint) : Turn :=
  endpoint.transmit now endpoint.sendNext .ack 0

def sendControl (now : Instant) (flags : Flags) (endpoint : Endpoint) : Turn :=
  (endpoint.transmit now endpoint.sendNext flags 0).andThen fun endpoint =>
    idle { endpoint with sendNext := endpoint.sendNext + 1 }

def finState? : State → Option State
  | .established => some .finWait1
  | .closeWait => some .lastAck
  | _ => none

/-- Sends the FIN of a closing endpoint once everything queued has been acknowledged. -/
def sendFinIfDrained (now : Instant) (endpoint : Endpoint) : Turn :=
  if endpoint.closing && endpoint.ring.isEmpty then
    match finState? endpoint.state with
    | none => endpoint.idle
    | some state =>
      (endpoint.enter state).andThen fun endpoint =>
        let sequence := endpoint.sendNext
        transmit now sequence (.fin ||| .ack) 0 { endpoint with sendNext := sequence + 1 }
  else endpoint.idle

def retransmit (now : Instant) (endpoint : Endpoint) : Turn :=
  match endpoint.state with
  | .synSent => endpoint.transmit now endpoint.unacknowledged .syn 0
  | .synReceived => endpoint.transmit now endpoint.unacknowledged (.syn ||| .ack) 0
  | .finWait1 | .closing | .lastAck =>
    endpoint.transmit now (endpoint.sendNext - 1) (.fin ||| .ack) 0
  | _ =>
    let length := min endpoint.ring.count endpoint.config.maxSegmentSize
    if length = 0 then endpoint.idle
    else endpoint.transmit now endpoint.unacknowledged (.ack ||| .psh) length

def enterTimeWait (now : Instant) (endpoint : Endpoint) : Turn :=
  enter .timeWait { endpoint with timeWaitSince := now }

end Endpoint

end RadioStack.Tcp
