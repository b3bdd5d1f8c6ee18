import RadioStack.Address
import RadioStack.Compression.Buffer
import RadioStack.Tcp.Flags
import RadioStack.Tcp.State

/-! Log records and their wording. -/

namespace RadioStack.Log

open Compression Tcp

inductive Level
  | trace
  | debug
  | warning
  deriving DecidableEq, Repr

def Level.name : Level → String
  | .trace => "TRACE"
  | .debug => "DEBUG"
  | .warning => "WARN"

inductive Record
  | compressed (first second : UInt8) (length : Nat)
  | contextNotFound (context : ContextNumber)
  | unsupportedDispatch (dispatch : UInt8)
  | frameSent (length : Nat) (destination : Address)
  | packetDropped (destination : Address) (error : EncodeError)
  | segmentReceived (port : UInt16) (flags : Flags) (sequence acknowledgment : UInt32)
      (length : Nat)
  | segmentSent (port : UInt16) (flags : Flags) (sequence acknowledgment : UInt32) (length : Nat)
  | outOfOrder (port : UInt16) (sequence receiveNext : UInt32)
  | stateChanged (port : UInt16) (before after : State)
  | resetByPeer (port : UInt16)
  | connectionRefused (port : UInt16)
  | retransmissionTimeout (port : UInt16) (unacknowledged : UInt32)
  | duplicateAck (port : UInt16) (acknowledgment : UInt32)
  | unexpectedAckInSynSent (port : UInt16) (acknowledgment : UInt32)
  | unexpectedAckInSynReceived (port : UInt16) (acknowledgment : UInt32)
  | unexpectedAck (port : UInt16) (acknowledgment unacknowledged sendNext : UInt32)
  | unbound (port : UInt16) (flags : Flags)
  | sendTimedOut (port : UInt16)
  | badChecksum (source : Address)
  | malformedSegment (source : Address)
  | noConnection (destination : Address) (port : UInt16)
  | receiveFailed (port : UInt16) (failure : Failure)
  deriving DecidableEq, Repr

namespace Record

def level : Record → Level
  | .compressed .. | .contextNotFound .. | .unsupportedDispatch .. | .frameSent .. => .trace
  | .segmentReceived .. | .segmentSent .. | .outOfOrder .. => .trace
  | .stateChanged .. | .resetByPeer .. | .connectionRefused .. => .debug
  | .retransmissionTimeout .. | .duplicateAck .. | .sendTimedOut .. => .debug
  | .noConnection .. | .receiveFailed .. => .debug
  | .packetDropped .. | .unbound .. | .badChecksum .. | .malformedSegment .. => .warning
  | .unexpectedAckInSynSent .. | .unexpectedAckInSynReceived .. | .unexpectedAck .. => .warning

def onPort (port : UInt16) (message : String) : String := s!"tcp:{port.toNat}: {message}"

def segmentText (direction : String) (flags : Flags) (sequence acknowledgment : UInt32)
    (length : Nat) : String :=
  s!"{direction} {flags.text} seq={sequence.toNat} ack={acknowledgment.toNat} len={length}"

def message : Record → String
  | .compressed first second length =>
    s!"compressed: enc1={Numeral.binaryOctet first} enc2={Numeral.binaryOctet second} " ++
      s!"len={length}"
  | .contextNotFound context => s!"context {context.val} not found"
  | .unsupportedDispatch dispatch => s!"unsupported dispatch: 0x{Numeral.hex 2 dispatch.toNat}"
  | .frameSent length destination => s!"tx: {length} bytes to {destination.text}"
  | .packetDropped destination error => s!"dropped packet to {destination.text}: {error.message}"
  | .segmentReceived port flags sequence acknowledgment length =>
    onPort port (segmentText "rx" flags sequence acknowledgment length)
  | .segmentSent port flags sequence acknowledgment length =>
    onPort port (segmentText "tx" flags sequence acknowledgment length)
  | .outOfOrder port sequence receiveNext =>
    onPort port s!"out of order: seq={sequence.toNat} RCV.NXT={receiveNext.toNat}"
  | .stateChanged port before after => onPort port s!"{before.name} -> {after.name}"
  | .resetByPeer port => onPort port "reset by peer"
  | .connectionRefused port => onPort port "connection refused"
  | .retransmissionTimeout port unacknowledged =>
    onPort port s!"retransmission timeout, SND.UNA={unacknowledged.toNat}"
  | .duplicateAck port acknowledgment => onPort port s!"duplicate ACK {acknowledgment.toNat}"
  | .unexpectedAckInSynSent port acknowledgment =>
    onPort port s!"unexpected ACK {acknowledgment.toNat} in SYN-SENT"
  | .unexpectedAckInSynReceived port acknowledgment =>
    onPort port s!"unexpected ACK {acknowledgment.toNat} in SYN-RECEIVED"
  | .unexpectedAck port acknowledgment unacknowledged sendNext =>
    onPort port (s!"unexpected ACK {acknowledgment.toNat}, " ++
      s!"SND.UNA={unacknowledged.toNat} SND.NXT={sendNext.toNat}")
  | .unbound port flags => onPort port s!"unbound, dropped {flags.text}"
  | .sendTimedOut port => onPort port "send timed out"
  | .badChecksum source => s!"tcp: bad checksum from {source.text}"
  | .malformedSegment source => s!"tcp: malformed segment from {source.text}"
  | .noConnection destination port =>
    s!"tcp: no connection for [{destination.text}]:{port.toNat}"
  | .receiveFailed port failure => onPort port failure.message

def text (record : Record) : String := s!"{record.level.name} {record.message}"

end Record

def ofEncoded (octets : Octets) : List Record :=
  match octets with
  | first :: second :: _ => [.compressed first second octets.length]
  | _ => []

def ofEncoding (result : Except EncodeError Buffer) : List Record :=
  match result with
  | .ok buffer => ofEncoded buffer.written
  | .error _ => []

def ofDecodeError : DecodeError → List Record
  | .contextNotFound context => [.contextNotFound context]
  | _ => []

end RadioStack.Log
