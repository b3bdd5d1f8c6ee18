import RadioStack.Ip.Checksum

/-! The uncompressed IPv6 header: its fields, its forty octets, and reading them back. -/

namespace RadioStack.Ip

/-- The version is always 6 and the payload length comes from the payload, so neither is kept. -/
structure Header where
  trafficClass : UInt8 := 0
  flowLabel : UInt32 := 0
  nextHeader : NextHeader
  hopLimit : UInt8 := 64
  source : Address
  destination : Address
  deriving DecidableEq, Repr

namespace Header

def size : Nat := 40

/-- The low twenty bits of the flow label; the others have no place in a header. -/
def flow (header : Header) : Nat := header.flowLabel.toNat % 0x100000

def octets (header : Header) (payloadLength : UInt16) : Octets :=
  Octets.bigEndian 4 (6 * 0x10000000 + header.trafficClass.toNat * 0x100000 + header.flow) ++
    Octets.bigEndian 2 payloadLength.toNat ++
    [header.nextHeader.number, header.hopLimit] ++
    header.source.octets ++ header.destination.octets

def emit? (header : Header) (payloadLength : UInt16) (buffer : Octets) : Option Octets :=
  Octets.overwrite? (header.octets payloadLength) buffer

def summary (header : Header) : String :=
  s!"ipv6::Repr \x7b next_header: {header.nextHeader.text}, " ++
    s!"hop_limit: {header.hopLimit.toNat}, source: \"{header.source.text}\", " ++
    s!"destination: \"{header.destination.text}\" \x7d"

@[simp] theorem length_octets (header : Header) (payloadLength : UInt16) :
    (header.octets payloadLength).length = size := by
  simp [octets, size]

end Header

/-- Reads a header and the payload it announces; octets after that payload are dropped. -/
def parse? : Octets → Option (Header × Octets)
  | v0 :: v1 :: v2 :: v3 :: l0 :: l1 :: next :: hopLimit :: rest =>
    let first := Octets.value [v0, v1, v2, v3]
    let payloadLength := Octets.value [l0, l1]
    if first / 0x10000000 = 6 ∧ 32 + payloadLength ≤ rest.length then
      some ({
        trafficClass := (first / 0x100000).toUInt8
        flowLabel := (first % 0x100000).toUInt32
        nextHeader := ⟨next⟩
        hopLimit
        source := Address.ofOctets rest
        destination := Address.ofOctets (rest.drop 16)
      }, (rest.drop 32).take payloadLength)
    else none
  | _ => none

end RadioStack.Ip
