import RadioStack.Tcp.Arrival

/-! The calls on an endpoint: those of its application, the timer, and arriving segments. -/

namespace RadioStack.Tcp

namespace Endpoint

def connect (now : Instant) (address : Address) (port : UInt16) (endpoint : Endpoint) :
    Except Failure Turn :=
  if endpoint.state ≠ .closed then .error .invalidState
  else if endpoint.boundAddress.isNone then .error .unaddressable
  else
    let restarted := restart { endpoint with
      localAddress := endpoint.boundAddress
      remoteAddress := some address
      remotePort := some port }
    .ok ((restarted.enter .synSent).andThen (sendControl now .syn))

def listen (endpoint : Endpoint) : Except Failure Turn :=
  if endpoint.state ≠ .closed then .error .invalidState
  else
    let restarted := restart { endpoint with
      localAddress := endpoint.boundAddress
      remoteAddress := none
      remotePort := none }
    .ok (restarted.enter .listen)

def refusal? (endpoint : Endpoint) : Option Failure :=
  if endpoint.closing then some .connectionClosed
  else
    match endpoint.state with
    | .established | .closeWait => none
    | .listen | .synSent | .synReceived => some .bufferFull
    | _ => some .connectionClosed

def send (now : Instant) (data : Octets) (endpoint : Endpoint) : Except Failure Turn :=
  match endpoint.refusal? with
  | some failure => .error failure
  | none =>
    if data.isEmpty then .ok endpoint.idle
    else
      match endpoint.ring.enqueue? data with
      | none => .error .bufferFull
      | some ring =>
        let sequence := endpoint.sendNext
        .ok (transmit now sequence (.ack ||| .psh) data.length
          { endpoint with ring, sendNext := sequence + data.length.toUInt32 })

/-- Closes our side. The FIN goes out once everything queued has been acknowledged. -/
def close (now : Instant) (endpoint : Endpoint) : Turn :=
  match endpoint.state with
  | .listen | .synSent => endpoint.abort
  | .synReceived | .established | .closeWait =>
    sendFinIfDrained now { endpoint with closing := true }
  | _ => endpoint.idle

def reset (now : Instant) (endpoint : Endpoint) : Turn :=
  match endpoint.state with
  | .closed | .listen => endpoint.abort
  | _ => (endpoint.transmit now endpoint.sendNext .rst 0).andThen abort

def retransmissionDue (now : Instant) (endpoint : Endpoint) : Bool :=
  endpoint.unacknowledged != endpoint.sendNext &&
    decide (endpoint.config.retransmissionInterval ≤ now.since endpoint.lastSend)

def tick (now : Instant) (endpoint : Endpoint) : Turn :=
  match endpoint.state with
  | .closed | .listen => endpoint.idle
  | .timeWait =>
    if endpoint.config.timeWait ≤ now.since endpoint.timeWaitSince then endpoint.abort
    else endpoint.idle
  | _ =>
    if endpoint.retransmissionDue now then
      (endpoint.note (.retransmissionTimeout endpoint.localPort
        endpoint.unacknowledged)).andThen (retransmit now)
    else endpoint.idle

end Endpoint

inductive Call
  | connect (now : Instant) (address : Address) (port : UInt16)
  | listen
  | send (now : Instant) (data : Octets)
  | close (now : Instant)
  | reset (now : Instant)
  | tick (now : Instant)
  | receive (now : Instant) (ip : Ip.Header) (header : Header) (payload : Octets)
  deriving DecidableEq

structure Response extends Reception where
  result : Except Failure Unit := .ok ()

namespace Endpoint

def respond (endpoint : Endpoint) : Except Failure Turn → Response
  | .ok turn => { turn.quiet with }
  | .error failure => { endpoint.idle.quiet with result := .error failure }

def perform (endpoint : Endpoint) : Call → Response
  | .connect now address port => endpoint.respond (endpoint.connect now address port)
  | .listen => endpoint.respond endpoint.listen
  | .send now data => endpoint.respond (endpoint.send now data)
  | .close now => { (endpoint.close now).quiet with }
  | .reset now => { (endpoint.reset now).quiet with }
  | .tick now => { (endpoint.tick now).quiet with }
  | .receive now ip header payload => { endpoint.receive now ip header payload with }

end Endpoint

end RadioStack.Tcp
