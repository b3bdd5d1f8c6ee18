import RadioStack.Address

/-!
The checksum that TCP and UDP share: the complement of the end-around-carry sum of a pseudo-header
and of the segment, computed in a 32-bit accumulator that is folded at the end. The data may be too
heavy for the accumulator. With checked arithmetic there is then no checksum (`checksum?`), and
without the accumulator wraps around (`checksum`).
-/

namespace RadioStack.Ip

structure NextHeader where
  number : UInt8
  deriving DecidableEq, Repr

namespace NextHeader

def tcp : NextHeader := ⟨6⟩
def udp : NextHeader := ⟨17⟩
def icmp : NextHeader := ⟨58⟩

def text (next : NextHeader) : String :=
  if next = tcp then "Tcp"
  else if next = udp then "Udp"
  else if next = icmp then "Ipv6Icmp"
  else s!"Unknown({next.number.toNat})"

end NextHeader

namespace Checksum

/-- Adds the 16-bit words of an octet string; a last odd octet is a high half. -/
def addWords (sum : UInt32) : Octets → UInt32
  | high :: low :: rest => addWords (sum + (256 * high.toUInt32 + low.toUInt32)) rest
  | [last] => sum + 256 * last.toUInt32
  | [] => sum

/-- Adds to the accumulator; there is no result if the sum does not fit in it. -/
def add? (sum : UInt32) (word : Nat) : Option UInt32 :=
  if sum.toNat + word < 0x100000000 then some (sum + word.toUInt32) else none

def addWords? (sum : UInt32) : Octets → Option UInt32
  | high :: low :: rest => do
    let sum ← add? sum (256 * high.toNat + low.toNat)
    addWords? sum rest
  | [last] => add? sum (256 * last.toNat)
  | [] => some sum

def pseudoHeader (source destination : Address) (next : NextHeader) (length : UInt32) : UInt32 :=
  addWords 0 (source.octets ++ destination.octets) + length / 0x10000 + length % 0x10000 +
    next.number.toUInt32

def pseudoHeader? (source destination : Address) (next : NextHeader) (length : UInt32) :
    Option UInt32 := do
  let sum ← addWords? 0 (source.octets ++ destination.octets)
  let sum ← add? sum (length / 0x10000).toNat
  let sum ← add? sum (length % 0x10000).toNat
  add? sum next.number.toNat

/-- Adds the carries to the low half until none is left. -/
def fold (sum : UInt32) : UInt16 :=
  if sum < 0x10000 then sum.toUInt16 else fold (sum % 0x10000 + sum / 0x10000)
termination_by sum.toNat
decreasing_by
  rename_i large
  have base : (0x10000 : UInt32).toNat = 65536 := rfl
  rw [UInt32.lt_iff_toNat_lt, base] at large
  rw [UInt32.toNat_add, UInt32.toNat_mod, UInt32.toNat_div, base]
  exact Nat.lt_of_le_of_lt (Nat.mod_le _ _) (by omega)

end Checksum

/-- The checksum of a segment given in parts. Each part is cut into words on its own, so only the
last one may have an odd length. -/
def checksum (source destination : Address) (next : NextHeader) (parts : List Octets) : UInt16 :=
  let length := parts.flatten.length.toUInt32
  ~~~ Checksum.fold
    (parts.foldl Checksum.addWords (Checksum.pseudoHeader source destination next length))

def checksum? (source destination : Address) (next : NextHeader) (parts : List Octets) :
    Option UInt16 := do
  let length := parts.flatten.length.toUInt32
  let sum ← Checksum.pseudoHeader? source destination next length
  let sum ← parts.foldlM Checksum.addWords? sum
  return ~~~ Checksum.fold sum

end RadioStack.Ip
