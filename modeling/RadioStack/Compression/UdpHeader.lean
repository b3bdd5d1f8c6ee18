import RadioStack.Compression.Buffer
import RadioStack.Compression.Reader
import RadioStack.Udp

/-!
The compressed UDP header: a format octet, the ports in one octet or in four, and the checksum. The
length is left out, because it follows from the size of the frame.
-/

namespace RadioStack.Compression

/-- The first of the sixteen ports that are given by four bits. -/
def shortPortBase : UInt16 := 0xf0b0

def isShortPort (port : UInt16) : Bool := port / 16 == shortPortBase / 16

namespace UdpHeader

def portsInFull : UInt8 := 0xf8
def portsPacked : UInt8 := 0xfb

def hasShortPorts (header : Udp.Header) : Bool :=
  isShortPort header.source && isShortPort header.destination

def size (header : Udp.Header) : Nat := if hasShortPorts header then 4 else 7

def octets (header : Udp.Header) : Octets :=
  (if hasShortPorts header then
    [portsPacked, (16 * (header.source.toNat % 16) + header.destination.toNat % 16).toUInt8]
  else
    portsInFull :: Octets.bigEndian 2 header.source.toNat ++
      Octets.bigEndian 2 header.destination.toNat) ++
    Octets.bigEndian 2 header.checksum.toNat

def write (header : Udp.Header) (buffer : Buffer) : Except EncodeError Buffer :=
  buffer.put (octets header)

/-- The ports, in the way the format octet tells. Forms with one short port are not in use. -/
def readPorts (format : UInt8) : Reader (UInt16 × UInt16) :=
  if format = portsPacked then do
    let packed ← Reader.octet
    return (shortPortBase + (packed / 16).toUInt16, shortPortBase + (packed % 16).toUInt16)
  else if format = portsInFull then do
    let source ← Reader.number 2
    let destination ← Reader.number 2
    return (source.toUInt16, destination.toUInt16)
  else throw .unsupportedCompression

def read : Reader Udp.Header := do
  let format ← Reader.octet
  let (source, destination) ← readPorts format
  let checksum ← Reader.number 2
  return ⟨source, destination, checksum.toUInt16⟩

end UdpHeader

end RadioStack.Compression
