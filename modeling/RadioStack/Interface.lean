import RadioStack.Compression.Encoding
import RadioStack.Compression.Packet
import RadioStack.Log

/-!
A network interface: packets are compressed, given a dispatch octet and sent as frames; frames with
that octet are decompressed.
-/

namespace RadioStack

open Compression

structure Interface where
  contexts : ContextTable
  /-- The link addresses of every frame sent; by default the packet's addresses imply them. -/
  fixedLinks : Option LinkPair := none
  deriving DecidableEq, Repr

namespace Interface

def dispatch : UInt8 := 0x03

def frameSize : Nat := 256

inductive Emission
  | record (record : Log.Record)
  | frame (octets : Octets)
  deriving DecidableEq, Repr

def links (interface : Interface) (header : Ip.Header) : LinkPair :=
  interface.fixedLinks.getD
    ⟨.ofIdentifier header.source.identifier, .ofIdentifier header.destination.identifier⟩

def frame (interface : Interface) (header : Ip.Header) (transport : Transport) :
    Except EncodeError Octets := do
  let packet ← encode interface.contexts header transport (interface.links header)
    (.replicate (frameSize - 1) 0)
  return dispatch :: packet.written

def emissions (header : Ip.Header) (frame : Octets) : List Emission :=
  (Log.ofEncoded frame.tail).map .record ++
    [.record (.frameSent frame.length header.destination), .frame frame]

def sendUdp (interface : Interface) (header : Ip.Header) (source destination : UInt16)
    (payload : Octets) : Except EncodeError (List Emission) := do
  let frame ← interface.frame header (.udp source destination payload)
  return emissions header frame

/-- As `sendUdp`; nothing comes of it where the accumulator of the checksum is exceeded. -/
def sendUdp? (interface : Interface) (header : Ip.Header) (source destination : UInt16)
    (payload : Octets) : Option (Except EncodeError (List Emission)) :=
  if (Transport.udp source destination payload).isSummable header then
    some (interface.sendUdp header source destination payload)
  else none

def sendPacket (interface : Interface) (header : Ip.Header) (payload : Octets) : List Emission :=
  match interface.frame header (.other payload) with
  | .ok frame => emissions header frame
  | .error error => [.record (.packetDropped header.destination error)]

def receive (interface : Interface) (frame : Octets) (links : LinkPair) :
    Except DecodeError Packet :=
  match frame with
  | [] => .error .shortPacket
  | first :: packet =>
    if first = dispatch then decode interface.contexts packet links
    else .error .unsupportedCompression

def receiveRecords (interface : Interface) (frame : Octets) (links : LinkPair) :
    List Log.Record :=
  match frame with
  | [] => []
  | first :: _ =>
    if first = dispatch then
      match interface.receive frame links with
      | .ok _ => []
      | .error error => Log.ofDecodeError error
    else [.unsupportedDispatch first]

end Interface

end RadioStack
