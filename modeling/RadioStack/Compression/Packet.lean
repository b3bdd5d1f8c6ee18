import RadioStack.Compression.AddressForm
import RadioStack.Compression.Buffer
import RadioStack.Compression.UdpHeader

/-! Decompressed packets: reading the headers of a compressed packet and writing them in full. -/

namespace RadioStack.Compression

structure Packet where
  octets : Octets
  header : Ip.Header
  udp : Option Udp.Header
  /-- How many octets the compressed headers occupy. -/
  headerLength : Nat
  deriving DecidableEq, Repr

namespace Reader

def requireVersion (version : Nat) : Reader Unit :=
  if version = 6 then pure () else throw .badVersion

def traffic (control : Control) : Reader (UInt8 × UInt32) :=
  match control.zeroTrafficClass, control.zeroFlow with
  | false, false => do
    let word ← number 4
    requireVersion (word / 0x10000000)
    return ((word / 0x100000).toUInt8, (word % 0x100000).toUInt32)
  | true, false => do
    let word ← number 3
    requireVersion (word / 0x100000)
    return (0, (word % 0x100000).toUInt32)
  | false, true => do
    let trafficClass ← octet
    return (trafficClass, 0)
  | true, true => return (0, 0)

/-- The next header, or nothing for one that is UDP and compressed. -/
def nextHeader? (control : Control) : Reader (Option Ip.NextHeader) :=
  if control.compressedUdp then return none
  else do
    let number ← octet
    return some ⟨number⟩

def hopLimit (control : Control) : Reader UInt8 :=
  match control.hopLimit.value? with
  | some hopLimit => return hopLimit
  | none => octet

def headers (contexts : ContextTable) (links : LinkPair) :
    Reader (Ip.Header × Option Udp.Header) := do
  let first ← octet
  let second ← octet
  let control := Control.ofOctets first second
  let (trafficClass, flowLabel) ← traffic control
  let next ← nextHeader? control
  let hopLimit ← hopLimit control
  let source ← address contexts control.sourceMode control.sourceContext links.source
  let destination ←
    address contexts control.destinationMode control.destinationContext links.destination
  let header (nextHeader : Ip.NextHeader) : Ip.Header :=
    ⟨trafficClass, flowLabel, nextHeader, hopLimit, source, destination⟩
  match next with
  | some next => return (header next, none)
  | none =>
    let udp ← UdpHeader.read
    return (header .udp, some udp)

end Reader

def decode (contexts : ContextTable) (octets : Octets) (links : LinkPair) :
    Except DecodeError Packet :=
  match (Reader.headers contexts links).run octets with
  | .ok ((header, udp), rest) => .ok ⟨octets, header, udp, octets.length - rest.length⟩
  | .error error => .error error

namespace Packet

def payload (packet : Packet) : Octets := packet.octets.drop packet.headerLength

def payloadLength (packet : Packet) : Nat :=
  packet.payload.length + if packet.udp.isSome then Udp.Header.size else 0

def udpVerifies (packet : Packet) : Bool :=
  packet.udp.any fun udp => udp.verifies packet.header packet.payload

def udpVerifies? (packet : Packet) : Option Bool :=
  match packet.udp with
  | some udp => udp.verifies? packet.header packet.payload
  | none => some false

def decompress (packet : Packet) (buffer : Octets) : Except EncodeError Buffer :=
  if buffer.length < Ip.Header.size + packet.payloadLength then .error .bufferTooSmall
  else if 0xffff < packet.payloadLength then .error .malformed
  else
    (Buffer.ofOctets buffer).putAll
      [packet.header.octets packet.payloadLength.toUInt16,
        (packet.udp.map fun udp => udp.octets packet.payload.length).getD [],
        packet.payload]

def text (packet : Packet) : String :=
  let controls := ["enc1: ", ", enc2: "].zipWith (fun label octet =>
    label ++ Numeral.binaryOctet octet) packet.octets
  let udp := (packet.udp.map fun udp => s!", udp: {udp.text}").getD ""
  s!"iphc::Packet \x7b {String.join controls}, header: {packet.header.summary}{udp} \x7d"

end Packet

end RadioStack.Compression
