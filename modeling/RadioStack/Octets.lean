/-! Octet strings and the numbers they hold, most significant octet first. -/

namespace RadioStack

abbrev Octets := List UInt8

namespace Octets

def bigEndian : Nat → Nat → Octets
  | 0, _ => []
  | width + 1, number => bigEndian width (number / 256) ++ [number.toUInt8]

def value (octets : Octets) : Nat :=
  octets.foldl (fun total octet => 256 * total + octet.toNat) 0

/-- The 16-bit words of an octet string; a last odd octet is the high half of its word. -/
def words : Octets → List Nat
  | high :: low :: rest => value [high, low] :: words rest
  | [last] => [value [last, 0]]
  | [] => []

/-- Replaces the front of `buffer`, which has to be long enough. -/
def overwrite? (octets buffer : Octets) : Option Octets :=
  if octets.length ≤ buffer.length then some (octets ++ buffer.drop octets.length) else none

@[simp] theorem length_bigEndian (width number : Nat) :
    (bigEndian width number).length = width := by
  induction width generalizing number with
  | zero => rfl
  | succ width ih => simp [bigEndian, ih]

@[simp] theorem value_nil : value [] = 0 := rfl

theorem value_concat (octets : Octets) (last : UInt8) :
    value (octets ++ [last]) = 256 * value octets + last.toNat := by
  simp [value]

end Octets

end RadioStack
