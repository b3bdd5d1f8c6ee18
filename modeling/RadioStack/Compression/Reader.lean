import RadioStack.Compression.Error
import RadioStack.Octets

/-! Reading a packet from its front; what is left to read is the state. -/

namespace RadioStack.Compression

abbrev Reader := StateT Octets (Except DecodeError)

namespace Reader

def octet : Reader UInt8
  | [] => .error .shortPacket
  | octet :: rest => .ok (octet, rest)

def take (count : Nat) : Reader Octets := fun octets =>
  if count ≤ octets.length then .ok (octets.take count, octets.drop count)
  else .error .shortPacket

def number (count : Nat) : Reader Nat := Octets.value <$> take count

theorem take_append (octets rest : Octets) :
    (take octets.length).run (octets ++ rest) = .ok (octets, rest) := by
  simp [take, StateT.run]

end Reader

end RadioStack.Compression
