import Mathlib.Algebra.Group.Nat.Defs
import Mathlib.Data.List.Induction
import RadioStack.Address

/-! Numbers and addresses are read back from the octets that are written for them. -/

namespace RadioStack

namespace Octets

theorem value_bigEndian (width number : Nat) :
    value (bigEndian width number) = number % 256 ^ width := by
  induction width generalizing number with
  | zero => simp [bigEndian, Nat.mod_one]
  | succ width ih =>
      have last : number.toUInt8.toNat = number % 256 := by simp
      rw [bigEndian, value_concat, ih, last, Nat.pow_succ', Nat.mod_mul, Nat.add_comm]

theorem value_bigEndian_of_lt (width number : Nat) (fits : number < 256 ^ width) :
    value (bigEndian width number) = number := by
  rw [value_bigEndian, Nat.mod_eq_of_lt fits]

theorem value_lt (octets : Octets) : value octets < 256 ^ octets.length := by
  induction octets using List.reverseRecOn with
  | nil => exact Nat.one_pos
  | append_singleton front last ih =>
      have := last.toNat_lt
      rw [value_concat, List.length_append, List.length_singleton, Nat.pow_succ]
      omega

theorem bigEndian_value (octets : Octets) : bigEndian octets.length (value octets) = octets := by
  induction octets using List.reverseRecOn with
  | nil => rfl
  | append_singleton front last ih =>
      have small := last.toNat_lt
      have high : (256 * value front + last.toNat) / 256 = value front := by omega
      have low : (256 * value front + last.toNat).toUInt8 = last := by
        apply UInt8.toNat_inj.mp
        rw [Nat.toUInt8_eq, UInt8.toNat_ofNat']
        omega
      rw [value_concat, List.length_append, List.length_singleton, bigEndian, high, low, ih]

theorem value_pair (high low : UInt8) : value [high, low] = 256 * high.toNat + low.toNat := by
  simp [value]

theorem value_pair_lt (high low : UInt8) : value [high, low] < 65536 := by
  have := high.toNat_lt
  have := low.toNat_lt
  rw [value_pair]
  omega

theorem bigEndian_pair (high low : UInt8) : bigEndian 2 (value [high, low]) = [high, low] :=
  bigEndian_value [high, low]

end Octets

theorem Address.ofOctets_octets (address : Address) : ofOctets address.octets = address := by
  have network := address.network.toNat_lt
  have identifier := address.identifier.toNat_lt
  have front : address.octets.take 8 = Octets.bigEndian 8 address.network.toNat :=
    List.take_left' (Octets.length_bigEndian _ _)
  have back : (address.octets.drop 8).take 8 = Octets.bigEndian 8 address.identifier.toNat := by
    rw [octets, List.drop_left' (Octets.length_bigEndian _ _), List.take_of_length_le (by simp)]
  rw [ofOctets, front, back, Octets.value_bigEndian_of_lt _ _ (by omega),
    Octets.value_bigEndian_of_lt _ _ (by omega)]
  simp

theorem Address.ofOctets_append (address : Address) (rest : Octets) :
    ofOctets (address.octets ++ rest) = address := by
  have long := address.length_octets
  have front : (address.octets ++ rest).take 8 = address.octets.take 8 :=
    List.take_append_of_le_length (by omega)
  have back : ((address.octets ++ rest).drop 8).take 8 = (address.octets.drop 8).take 8 := by
    rw [List.drop_append_of_le_length (by omega),
      List.take_append_of_le_length (by rw [List.length_drop]; omega)]
  rw [ofOctets, front, back, ← ofOctets, ofOctets_octets]

theorem Address.octets_ofOctets (octets : Octets) (long : 16 ≤ octets.length) :
    (ofOctets octets).octets = octets.take 16 := by
  have network := Octets.value_lt (octets.take 8)
  have identifier := Octets.value_lt ((octets.drop 8).take 8)
  have front : (octets.take 8).length = 8 := by
    rw [List.length_take]
    omega
  have back : ((octets.drop 8).take 8).length = 8 := by
    rw [List.length_take, List.length_drop]
    omega
  rw [front] at network
  rw [back] at identifier
  rw [Address.octets, ofOctets, Nat.toUInt64_eq, Nat.toUInt64_eq, UInt64.toNat_ofNat',
    UInt64.toNat_ofNat', Nat.mod_eq_of_lt (by omega), Nat.mod_eq_of_lt (by omega)]
  have first := Octets.bigEndian_value (octets.take 8)
  have second := Octets.bigEndian_value ((octets.drop 8).take 8)
  rw [front] at first
  rw [back] at second
  rw [first, second, ← List.take_add]

end RadioStack
