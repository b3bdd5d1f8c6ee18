import RadioStack.Compression.AddressForm
import RadioStack.Compression.Buffer
import RadioStack.Compression.UdpHeader

/-!
Compressing a packet: two control octets, the fields of the IPv6 header that are not implied, for
UDP its compressed header, and the payload.
-/

namespace RadioStack.Compression

inductive Transport
  | udp (source destination : UInt16) (payload : Octets)
  | other (payload : Octets)
  deriving DecidableEq, Repr

namespace Transport

def payload : Transport → Octets
  | .udp _ _ payload => payload
  | .other payload => payload

def udpHeader? (ip : Ip.Header) : Transport → Option Udp.Header
  | .udp source destination payload => some (.ofPayload ip source destination payload)
  | .other _ => none

def isUdp : Transport → Bool
  | .udp .. => true
  | .other _ => false

end Transport

namespace Encoding

/-- Traffic class and flow label, each left out if zero. A flow label has the version in front. -/
def trafficOctets (trafficClass : UInt8) (flow : Nat) : Octets :=
  if flow = 0 then
    if trafficClass = 0 then [] else [trafficClass]
  else if trafficClass = 0 then Octets.bigEndian 3 (6 * 0x100000 + flow)
  else Octets.bigEndian 4 (6 * 0x10000000 + trafficClass.toNat * 0x100000 + flow)

def hopLimitOctets (hopLimit : UInt8) : Octets :=
  match HopLimitMode.ofHopLimit hopLimit with
  | .stated => [hopLimit]
  | _ => []

def control (header : Ip.Header) (transport : Transport) (source destination : AddressForm) :
    Control where
  zeroTrafficClass := header.trafficClass == 0
  zeroFlow := header.flow == 0
  compressedUdp := transport.isUdp
  hopLimit := .ofHopLimit header.hopLimit
  sourceMode := source.mode
  sourceContext := source.context
  destinationMode := destination.mode
  destinationContext := destination.context

def fields (contexts : ContextTable) (header : Ip.Header) (transport : Transport)
    (links : LinkPair) : List Octets :=
  let source := AddressForm.ofUnicast contexts links.source header.source
  let destination := AddressForm.ofDestination contexts links.destination header.destination
  [(control header transport source destination).octets,
    trafficOctets header.trafficClass header.flow,
    if transport.isUdp then [] else [header.nextHeader.number],
    hopLimitOctets header.hopLimit,
    source.octets header.source,
    destination.octets header.destination,
    ((transport.udpHeader? header).map UdpHeader.octets).getD [],
    transport.payload]

end Encoding

def encode (contexts : ContextTable) (header : Ip.Header) (transport : Transport)
    (links : LinkPair) (buffer : Octets) : Except EncodeError Buffer :=
  (Buffer.ofOctets buffer).putAll (Encoding.fields contexts header transport links)

def Transport.isSummable (ip : Ip.Header) : Transport → Bool
  | .udp source destination payload => (Udp.Header.ofPayload? ip source destination payload).isSome
  | .other _ => true

/-- As `encode`. The checksum comes first, and there is no result where its accumulator is exceeded,
whatever the buffer. -/
def encode? (contexts : ContextTable) (header : Ip.Header) (transport : Transport)
    (links : LinkPair) (buffer : Octets) : Option (Except EncodeError Buffer) :=
  if transport.isSummable header then some (encode contexts header transport links buffer)
  else none

def Transport.ofPayload? (next : Ip.NextHeader) (payload : Octets) : Option Transport :=
  if next = .udp then
    (Udp.parse? payload).map fun (header, payload) =>
      .udp header.source header.destination payload
  else some (.other payload)

def compress (contexts : ContextTable) (packet : Octets) (links : LinkPair) (buffer : Octets) :
    Except EncodeError Buffer :=
  match Ip.parse? packet with
  | none => .error .malformed
  | some (header, payload) =>
    match Transport.ofPayload? header.nextHeader payload with
    | none => .error .malformed
    | some transport => encode contexts header transport links buffer

def compress? (contexts : ContextTable) (packet : Octets) (links : LinkPair) (buffer : Octets) :
    Option (Except EncodeError Buffer) :=
  match Ip.parse? packet with
  | none => some (.error .malformed)
  | some (header, payload) =>
    match Transport.ofPayload? header.nextHeader payload with
    | none => some (.error .malformed)
    | some transport => encode? contexts header transport links buffer

end RadioStack.Compression
