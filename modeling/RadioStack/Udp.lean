import RadioStack.Ip.Header

/-!
UDP datagrams: the header, its checksum over the IPv6 pseudo-header, and reading it. What is named
with a question mark has no result where the accumulator of the checksum is exceeded.
-/

namespace RadioStack.Udp

structure Header where
  source : UInt16
  destination : UInt16
  checksum : UInt16
  deriving DecidableEq, Repr

namespace Header

def size : Nat := 8

/-- The length field of a datagram; it stays at its maximum for a payload too long for it. -/
def lengthField (payloadLength : Nat) : Nat := min (payloadLength + size) 0xffff

def octets (header : Header) (payloadLength : Nat) : Octets :=
  Octets.bigEndian 2 header.source.toNat ++ Octets.bigEndian 2 header.destination.toNat ++
    Octets.bigEndian 2 (lengthField payloadLength) ++ Octets.bigEndian 2 header.checksum.toNat

def emit? (header : Header) (payloadLength : Nat) (buffer : Octets) : Option Octets :=
  Octets.overwrite? (header.octets payloadLength) buffer

@[simp] theorem length_octets (header : Header) (payloadLength : Nat) :
    (header.octets payloadLength).length = size := by
  simp [octets, size]

end Header

/-- Zero would mean that there is no checksum, so its complement is sent. -/
def nonzero : UInt16 → UInt16
  | 0 => 0xffff
  | sum => sum

/-- What is summed up for a datagram: its header with the checksum left out, and its payload. -/
def blankParts (sourcePort destinationPort : UInt16) (payload : Octets) : List Octets :=
  [(⟨sourcePort, destinationPort, 0⟩ : Header).octets payload.length, payload]

def checksum (source destination : Address) (sourcePort destinationPort : UInt16)
    (payload : Octets) : UInt16 :=
  nonzero (Ip.checksum source destination .udp (blankParts sourcePort destinationPort payload))

def checksum? (source destination : Address) (sourcePort destinationPort : UInt16)
    (payload : Octets) : Option UInt16 :=
  (Ip.checksum? source destination .udp (blankParts sourcePort destinationPort payload)).map nonzero

namespace Header

def ofPayload (ip : Ip.Header) (source destination : UInt16) (payload : Octets) : Header :=
  ⟨source, destination, Udp.checksum ip.source ip.destination source destination payload⟩

def ofPayload? (ip : Ip.Header) (source destination : UInt16) (payload : Octets) :
    Option Header := do
  let checksum ← Udp.checksum? ip.source ip.destination source destination payload
  return ⟨source, destination, checksum⟩

def verifies (header : Header) (ip : Ip.Header) (payload : Octets) : Bool :=
  (ofPayload ip header.source header.destination payload).checksum == header.checksum

def verifies? (header : Header) (ip : Ip.Header) (payload : Octets) : Option Bool := do
  let made ← ofPayload? ip header.source header.destination payload
  return made.checksum == header.checksum

def text (header : Header) : String :=
  s!"nhc::UdpHeader \x7b source: {header.source.toNat}, " ++
    s!"destination: {header.destination.toNat}, " ++
    s!"checksum: 0x{Numeral.hex 4 header.checksum.toNat} \x7d"

end Header

def parse? (octets : Octets) : Option (Header × Octets) :=
  match octets with
  | s0 :: s1 :: d0 :: d1 :: l0 :: l1 :: c0 :: c1 :: rest =>
    let length := Octets.value [l0, l1]
    if Header.size ≤ length ∧ length ≤ octets.length then
      some (⟨(Octets.value [s0, s1]).toUInt16, (Octets.value [d0, d1]).toUInt16,
        (Octets.value [c0, c1]).toUInt16⟩, rest.take (length - Header.size))
    else none
  | _ => none

end RadioStack.Udp
