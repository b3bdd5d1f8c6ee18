/-! The states of a connection and the ways a call on it can fail. -/

namespace RadioStack.Tcp

inductive State
  | closed
  | listen
  | synSent
  | synReceived
  | established
  | closeWait
  | lastAck
  | finWait1
  | finWait2
  | closing
  | timeWait
  deriving DecidableEq, Repr

namespace State

def isSynchronized : State → Bool
  | .closed | .listen | .synSent | .synReceived => false
  | _ => true

def finInFlight : State → Bool
  | .finWait1 | .closing | .lastAck => true
  | _ => false

def acceptsText : State → Bool
  | .established | .finWait1 | .finWait2 => true
  | _ => false

def name : State → String
  | .closed => "Closed"
  | .listen => "Listen"
  | .synSent => "SynSent"
  | .synReceived => "SynReceived"
  | .established => "Established"
  | .closeWait => "CloseWait"
  | .lastAck => "LastAck"
  | .finWait1 => "FinWait1"
  | .finWait2 => "FinWait2"
  | .closing => "Closing"
  | .timeWait => "TimeWait"

end State

inductive Failure
  | connectionClosed
  /-- The send ring has no room for the data, or the handshake is not complete. -/
  | bufferFull
  | unexpectedAck
  | timedOut
  | invalidState
  /-- There is no local address to send from. -/
  | unaddressable
  deriving DecidableEq, Repr

namespace Failure

def all : List Failure :=
  [.connectionClosed, .bufferFull, .unexpectedAck, .timedOut, .invalidState, .unaddressable]

def name : Failure → String
  | .connectionClosed => "ConnectionClosed"
  | .bufferFull => "BufferFull"
  | .unexpectedAck => "UnexpectedAck"
  | .timedOut => "TimedOut"
  | .invalidState => "InvalidState"
  | .unaddressable => "Unaddressable"

def message : Failure → String
  | .connectionClosed => "connection closed"
  | .bufferFull => "send buffer full"
  | .unexpectedAck => "unexpected acknowledgment"
  | .timedOut => "timed out"
  | .invalidState => "invalid state"
  | .unaddressable => "no local address"

end Failure

end RadioStack.Tcp
