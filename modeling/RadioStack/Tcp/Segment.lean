import RadioStack.Ip.Header
import RadioStack.Tcp.Flags

/-! TCP segments: the header, its octets, the checksum over a whole segment, and reading it. -/

namespace RadioStack.Tcp

/-- The fields in use. Options are skipped when reading and never written; the urgent pointer is
always zero. -/
structure Header where
  sourcePort : UInt16
  destinationPort : UInt16
  sequence : UInt32
  acknowledgment : UInt32
  flags : Flags
  window : UInt16
  deriving DecidableEq, Repr

namespace Header

def size : Nat := 20

/-- The header with a data offset of five words and a checksum of zero. -/
def octets (header : Header) : Octets :=
  Octets.bigEndian 2 header.sourcePort.toNat ++ Octets.bigEndian 2 header.destinationPort.toNat ++
    Octets.bigEndian 4 header.sequence.toNat ++ Octets.bigEndian 4 header.acknowledgment.toNat ++
    [0x50, header.flags.bits] ++ Octets.bigEndian 2 header.window.toNat ++ [0, 0, 0, 0]

def emit? (header : Header) (buffer : Octets) : Option Octets :=
  Octets.overwrite? header.octets buffer

/-- How many sequence numbers a segment occupies: its payload, and one each for SYN and FIN. -/
def span (header : Header) (payloadLength : Nat) : UInt32 :=
  payloadLength.toUInt32 + (if header.flags.contains .syn then 1 else 0) +
    (if header.flags.contains .fin then 1 else 0)

def text (header : Header) : String :=
  s!"tcp::Repr \x7b source_port: {header.sourcePort.toNat}, " ++
    s!"destination_port: {header.destinationPort.toNat}, " ++
    s!"seq_number: {header.sequence.toNat}, ack_number: {header.acknowledgment.toNat}, " ++
    s!"flags: {header.flags.text}, window: {header.window.toNat} \x7d"

@[simp] theorem length_octets (header : Header) : header.octets.length = size := by
  simp [octets, size]

end Header

/-- Reads a header and what follows its options. The checksum is not looked at. -/
def parse? (octets : Octets) : Option (Header × Octets) :=
  match octets with
  | s0 :: s1 :: d0 :: d1 :: q0 :: q1 :: q2 :: q3 :: a0 :: a1 :: a2 :: a3 ::
      offset :: flags :: w0 :: w1 :: _ :: _ :: _ :: _ :: _ =>
    let headerLength := 4 * (offset.toNat / 16)
    if Header.size ≤ headerLength ∧ headerLength ≤ octets.length then
      some ({
        sourcePort := (Octets.value [s0, s1]).toUInt16
        destinationPort := (Octets.value [d0, d1]).toUInt16
        sequence := (Octets.value [q0, q1, q2, q3]).toUInt32
        acknowledgment := (Octets.value [a0, a1, a2, a3]).toUInt32
        flags := ⟨flags &&& 0x3f⟩
        window := (Octets.value [w0, w1]).toUInt16
      }, octets.drop headerLength)
    else none
  | _ => none

def checksumStart : Nat := 16
def checksumEnd : Nat := 18

def withChecksumField (segment : Octets) (sum : UInt16) : Octets :=
  segment.take checksumStart ++ Octets.bigEndian 2 sum.toNat ++ segment.drop checksumEnd

/-- Puts the checksum, computed with its own field at zero, into a complete segment. -/
def fillChecksum (source destination : Address) (segment : Octets) : Octets :=
  let blank := withChecksumField segment 0
  withChecksumField blank (Ip.checksum source destination .tcp [blank])

/-- As `fillChecksum`, for a segment that may be too short to have a checksum, or so heavy that the
accumulator is exceeded. -/
def fillChecksum? (source destination : Address) (segment : Octets) : Option Octets :=
  if checksumEnd ≤ segment.length then do
    let blank := withChecksumField segment 0
    let sum ← Ip.checksum? source destination .tcp [blank]
    return withChecksumField blank sum
  else none

def checksumVerifies (source destination : Address) (segment : Octets) : Bool :=
  decide (Header.size ≤ segment.length) && Ip.checksum source destination .tcp [segment] == 0

def checksumVerifies? (source destination : Address) (segment : Octets) : Option Bool :=
  if Header.size ≤ segment.length then do
    let sum ← Ip.checksum? source destination .tcp [segment]
    return sum == 0
  else some false

structure Segment where
  ip : Ip.Header
  header : Header
  payload : Octets
  deriving DecidableEq, Repr

namespace Segment

def octets (segment : Segment) : Octets :=
  fillChecksum segment.ip.source segment.ip.destination (segment.header.octets ++ segment.payload)

end Segment

end RadioStack.Tcp
