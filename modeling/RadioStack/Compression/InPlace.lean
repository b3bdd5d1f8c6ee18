import RadioStack.Compression.Packet

/-!
Decompression as it goes on in the buffer of its caller: once both checks have passed, the headers
and the payload are written one behind the other, each into a part of the buffer. A part that does
not lie inside the buffer, or whose length does not suit what is written into it, leaves an
operation without a result.
-/

namespace RadioStack

namespace Octets

def within? (first last : Nat) (write? : Octets → Option Octets) (buffer : Octets) :
    Option Octets :=
  if first ≤ last ∧ last ≤ buffer.length then
    (write? ((buffer.take last).drop first)).map fun part =>
      buffer.take first ++ part ++ buffer.drop last
  else none

def replace? (octets buffer : Octets) : Option Octets :=
  if octets.length = buffer.length then some octets else none

end Octets

namespace Compression.Packet

def writeUdp? (packet : Packet) (buffer : Octets) : Option Octets :=
  match packet.udp with
  | some udp =>
    Octets.within? Ip.Header.size buffer.length (udp.emit? packet.payload.length) buffer
  | none => some buffer

def payloadStart (packet : Packet) : Nat :=
  Ip.Header.size + if packet.udp.isSome then Udp.Header.size else 0

def writeAll? (packet : Packet) (buffer : Octets) : Option Octets := do
  let buffer ← packet.header.emit? packet.payloadLength.toUInt16 buffer
  let buffer ← packet.writeUdp? buffer
  Octets.within? packet.payloadStart (Ip.Header.size + packet.payloadLength)
    (Octets.replace? packet.payload) buffer

/-- What is answered, and what the buffer holds afterwards. -/
def decompressInPlace? (packet : Packet) (buffer : Octets) :
    Option (Except EncodeError Nat × Octets) :=
  let length := Ip.Header.size + packet.payloadLength
  -- The payload cannot be taken from behind the end of the packet.
  if packet.octets.length < packet.headerLength then none
  else if buffer.length < length then some (.error .bufferTooSmall, buffer)
  else if 0xffff < packet.payloadLength then some (.error .malformed, buffer)
  else (packet.writeAll? buffer).map fun filled => (.ok length, filled)

end Compression.Packet

end RadioStack
