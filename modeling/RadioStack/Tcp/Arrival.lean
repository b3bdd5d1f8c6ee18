import RadioStack.Tcp.Endpoint

/-!
What an endpoint does with an arriving segment: the acknowledgment is looked at first, then the
text, which is taken only if it begins with the sequence number expected next.
-/

namespace RadioStack.Tcp

structure Reception extends Turn where
  data : Option Octets := none
  unexpectedAck : Bool := false
  deriving DecidableEq

namespace Turn

def quiet (turn : Turn) : Reception := { turn with }

def rejected (turn : Turn) : Reception := { turn with unexpectedAck := true }

def thenReceive (turn : Turn) (next : Endpoint → Reception) : Reception :=
  let reception := next turn.endpoint
  { reception with emitted := turn.emitted ++ reception.emitted }

end Turn

namespace Endpoint

def receiveInListen (now : Instant) (ip : Ip.Header) (header : Header) (endpoint : Endpoint) :
    Turn :=
  if header.flags.contains .syn && !header.flags.contains .ack && !header.flags.contains .rst then
    (enter .synReceived { endpoint with
      localAddress := endpoint.localAddress.or (some ip.destination)
      remoteAddress := some ip.source
      remotePort := some header.sourcePort
      receiveNext := header.sequence + 1
      sendWindow := header.window }).andThen (sendControl now (.syn ||| .ack))
  else endpoint.idle

/-- A SYN answers ours: with an acknowledgment the connection is established, without one both ends
have opened at the same time. -/
def receiveSyn (now : Instant) (header : Header) (endpoint : Endpoint) : Turn :=
  let opened := { endpoint with
    receiveNext := header.sequence + 1
    sendWindow := header.window }
  if header.flags.contains .ack then
    (enter .established { opened with unacknowledged := header.acknowledgment }).andThen
      (sendAck now)
  else
    (opened.enter .synReceived).andThen fun endpoint =>
      endpoint.transmit now endpoint.unacknowledged (.syn ||| .ack) 0

def receiveInSynSent (now : Instant) (header : Header) (endpoint : Endpoint) : Reception :=
  let hasAck := header.flags.contains .ack
  if hasAck && header.acknowledgment != endpoint.sendNext then
    (endpoint.note
      (.unexpectedAckInSynSent endpoint.localPort header.acknowledgment)).rejected
  else if header.flags.contains .rst then
    if hasAck then
      ((endpoint.note (.connectionRefused endpoint.localPort)).andThen abort).quiet
    else endpoint.idle.quiet
  else if header.flags.contains .syn then (endpoint.receiveSyn now header).quiet
  else endpoint.idle.quiet

def receiveRst (header : Header) (endpoint : Endpoint) : Turn :=
  if header.sequence = endpoint.receiveNext then
    (endpoint.note (.resetByPeer endpoint.localPort)).andThen abort
  else endpoint.idle

/-- A repeated SYN means that our answer was lost. -/
def receiveRepeatedSyn (now : Instant) (endpoint : Endpoint) : Turn :=
  if endpoint.state = .synReceived then
    endpoint.transmit now endpoint.unacknowledged (.syn ||| .ack) 0
  else endpoint.sendAck now

def finAcknowledged (now : Instant) (endpoint : Endpoint) : Turn :=
  match endpoint.state with
  | .finWait1 => endpoint.enter .finWait2
  | .closing => endpoint.enterTimeWait now
  | .lastAck => endpoint.abort
  | _ => endpoint.idle

/-- Whether an acknowledgment covers our FIN, which is then the last thing sent. -/
def coversFin (acknowledgment : UInt32) (endpoint : Endpoint) : Bool :=
  endpoint.state.finInFlight && acknowledgment == endpoint.sendNext

/-- How many octets an acknowledgment covers: our FIN takes a number, but is not in the ring. -/
def released (acknowledgment : UInt32) (endpoint : Endpoint) : Nat :=
  (acknowledgment - endpoint.unacknowledged).toNat - (endpoint.coversFin acknowledgment).toNat

def advance (now : Instant) (acknowledgment : UInt32) (endpoint : Endpoint) : Turn :=
  let advanced := { endpoint with
    ring := endpoint.ring.release (endpoint.released acknowledgment)
    unacknowledged := acknowledgment
    lastSend := now }
  (if endpoint.coversFin acknowledgment then advanced.finAcknowledged now
    else advanced.idle).andThen (sendFinIfDrained now)

/-- An acknowledgment of nothing new. A bare one asks for what is missing. -/
def receiveDuplicateAck (now : Instant) (header : Header) (payload : Octets)
    (endpoint : Endpoint) : Turn :=
  if payload.isEmpty && !header.flags.contains .fin && !endpoint.ring.isEmpty then
    (endpoint.note (.duplicateAck endpoint.localPort header.acknowledgment)).andThen
      (retransmit now)
  else endpoint.idle

def receiveAckOfSyn (now : Instant) (header : Header) (endpoint : Endpoint) : Reception :=
  if header.acknowledgment = endpoint.sendNext then
    ((enter .established { endpoint with
      unacknowledged := header.acknowledgment }).andThen (sendFinIfDrained now)).quiet
  else
    (endpoint.note
      (.unexpectedAckInSynReceived endpoint.localPort header.acknowledgment)).rejected

/-- The acknowledgment of a segment. Its window counts even if the acknowledgment does not. -/
def receiveAck (now : Instant) (header : Header) (payload : Octets) (endpoint : Endpoint) :
    Reception :=
  let endpoint := { endpoint with sendWindow := header.window }
  let acknowledgment := header.acknowledgment
  if endpoint.state = .synReceived then endpoint.receiveAckOfSyn now header
  else if !inWindow endpoint.unacknowledged endpoint.sendNext acknowledgment then
    (endpoint.note (.unexpectedAck endpoint.localPort acknowledgment endpoint.unacknowledged
      endpoint.sendNext)).rejected
  else if acknowledgment = endpoint.unacknowledged then
    (endpoint.receiveDuplicateAck now header payload).quiet
  else (endpoint.advance now acknowledgment).quiet

def receiveFin (now : Instant) (endpoint : Endpoint) : Turn :=
  match endpoint.state with
  | .established => endpoint.enter .closeWait
  | .finWait1 => endpoint.enter .closing
  | .finWait2 => endpoint.enterTimeWait now
  | _ => endpoint.idle

/-- Text and FIN of a segment. What does not come next is answered by saying what does. -/
def receiveText (now : Instant) (header : Header) (payload : Octets) (endpoint : Endpoint) :
    Reception :=
  let span := header.span payload.length
  if endpoint.state = .closed ∨ endpoint.state = .synReceived then endpoint.idle.quiet
  else if header.sequence ≠ endpoint.receiveNext then
    ((endpoint.note (.outOfOrder endpoint.localPort header.sequence
      endpoint.receiveNext)).andThen (sendAck now)).quiet
  else if span = 0 then endpoint.idle.quiet
  else if !endpoint.state.acceptsText then (endpoint.sendAck now).quiet
  else
    let taken := { endpoint with receiveNext := endpoint.receiveNext + span }
    let turn := if header.flags.contains .fin then taken.receiveFin now else taken.idle
    { turn.andThen (sendAck now) with data := if payload.isEmpty then none else some payload }

def receiveSynchronized (now : Instant) (header : Header) (payload : Octets)
    (endpoint : Endpoint) : Reception :=
  if header.flags.contains .rst then (endpoint.receiveRst header).quiet
  else if header.flags.contains .syn then (endpoint.receiveRepeatedSyn now).quiet
  else
    let acknowledged :=
      if header.flags.contains .ack then endpoint.receiveAck now header payload
      else endpoint.idle.quiet
    let reception := acknowledged.toTurn.thenReceive (receiveText now header payload)
    { reception with unexpectedAck := acknowledged.unexpectedAck }

def receive (now : Instant) (ip : Ip.Header) (header : Header) (payload : Octets)
    (endpoint : Endpoint) : Reception :=
  (endpoint.note (.segmentReceived endpoint.localPort header.flags header.sequence
    header.acknowledgment payload.length)).thenReceive fun endpoint =>
    match endpoint.state with
    | .closed => endpoint.idle.quiet
    | .listen => (endpoint.receiveInListen now ip header).quiet
    | .synSent => endpoint.receiveInSynSent now header
    | _ => endpoint.receiveSynchronized now header payload

end Endpoint

end RadioStack.Tcp
