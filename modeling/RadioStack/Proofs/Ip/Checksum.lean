import Mathlib
import RadioStack.Ip.Checksum
import RadioStack.Proofs.Octets

/-!
The checksum as a number: the words add up as natural numbers do, and what folding leaves of a sum
is that sum modulo 65535, where a sum that is not zero does not become zero.
Main statement: `toNat_checksum`.
-/

namespace RadioStack

namespace Octets

def wordSum (octets : Octets) : Nat := (words octets).sum

theorem wordSum_cons_cons (high low : UInt8) (rest : Octets) :
    wordSum (high :: low :: rest) = value [high, low] + wordSum rest := by
  simp [wordSum, words]

theorem wordSum_singleton (last : UInt8) : wordSum [last] = 256 * last.toNat := by
  simp [wordSum, words, value]

theorem wordSum_append (front back : Octets) (even : front.length % 2 = 0) :
    wordSum (front ++ back) = wordSum front + wordSum back := by
  induction front using words.induct with
  | case1 high low rest ih =>
      rw [List.length_cons, List.length_cons] at even
      rw [List.cons_append, List.cons_append, wordSum_cons_cons, wordSum_cons_cons,
        ih (by omega), Nat.add_assoc]
  | case2 last => cases even
  | case3 => simp [wordSum, words]

theorem wordSum_flatten (parts : List Octets)
    (even : ∀ part ∈ parts.dropLast, part.length % 2 = 0) :
    wordSum parts.flatten = (parts.map wordSum).sum := by
  induction parts with
  | nil => rfl
  | cons part parts ih =>
      cases parts with
      | nil => simp
      | cons next parts =>
          rw [List.dropLast_cons_cons] at even
          rw [List.flatten_cons, wordSum_append _ _ (even part List.mem_cons_self),
            ih fun part member => even part (List.mem_cons_of_mem _ member)]
          rfl

theorem wordSum_bigEndian_mod (number : Nat) : wordSum (bigEndian 2 number) = number % 65536 := by
  have whole := value_bigEndian 2 number
  change value [(number / 256).toUInt8, number.toUInt8] + 0 = number % 65536
  exact whole

theorem wordSum_bigEndian {number : Nat} (fits : number < 65536) :
    wordSum (bigEndian 2 number) = number := by
  rw [wordSum_bigEndian_mod, Nat.mod_eq_of_lt fits]

def ones (length : Nat) : Octets := List.replicate length 0xff

@[simp] theorem length_ones (length : Nat) : (ones length).length = length := List.length_replicate

theorem wordSum_ones_add_two (length : Nat) :
    (ones (length + 2)).wordSum = 65535 + (ones length).wordSum := by
  change wordSum (0xff :: 0xff :: ones length) = _
  rw [wordSum_cons_cons]
  rfl

theorem wordSum_ones (length : Nat) :
    (ones length).wordSum = 65535 * (length / 2) + 65280 * (length % 2) := by
  induction length using Nat.twoStepInduction with
  | zero => rfl
  | one => rfl
  | more length ih _ =>
      rw [wordSum_ones_add_two, ih]
      omega

theorem wordSum_le_ones (octets : Octets) : octets.wordSum ≤ (ones octets.length).wordSum := by
  induction octets using words.induct with
  | case1 high low rest ih =>
      have word := value_pair_lt high low
      rw [wordSum_cons_cons, List.length_cons, List.length_cons, wordSum_ones_add_two]
      omega
  | case2 last =>
      have octet := last.toNat_lt
      rw [wordSum_singleton, List.length_singleton, wordSum_ones]
      omega
  | case3 => exact Nat.zero_le _

theorem wordSum_le (octets : Octets) : wordSum octets ≤ 65535 * ((octets.length + 1) / 2) := by
  have most := wordSum_le_ones octets
  rw [wordSum_ones] at most
  omega

end Octets

namespace Ip

namespace Checksum

theorem toNat_addWords (sum : UInt32) (octets : Octets) :
    (addWords sum octets).toNat = (sum.toNat + octets.wordSum) % 2 ^ 32 := by
  induction octets using Octets.words.induct generalizing sum with
  | case1 high low rest ih =>
      have word : (256 * high.toUInt32 + low.toUInt32).toNat = Octets.value [high, low] := by
        have := high.toNat_lt
        have := low.toNat_lt
        rw [Octets.value_pair, UInt32.toNat_add, UInt32.toNat_mul, UInt8.toNat_toUInt32,
          UInt8.toNat_toUInt32]
        change (256 * _ % 4294967296 + _) % 4294967296 = _
        omega
      rw [addWords, ih, UInt32.toNat_add, word, Octets.wordSum_cons_cons, Nat.mod_add_mod,
        Nat.add_assoc]
  | case2 last =>
      rw [addWords, Octets.wordSum_singleton, UInt32.toNat_add, UInt32.toNat_mul,
        UInt8.toNat_toUInt32]
      change (_ + 256 * _ % 2 ^ 32) % 2 ^ 32 = _
      rw [Nat.add_mod_mod]
  | case3 => exact (Nat.mod_eq_of_lt sum.toNat_lt).symm

theorem toNat_foldl_addWords (sum : UInt32) (parts : List Octets) :
    (parts.foldl addWords sum).toNat =
      (sum.toNat + (parts.map Octets.wordSum).sum) % 2 ^ 32 := by
  induction parts generalizing sum with
  | nil => exact (Nat.mod_eq_of_lt sum.toNat_lt).symm
  | cons part parts ih =>
      rw [List.foldl_cons, ih, toNat_addWords, List.map_cons, List.sum_cons, Nat.mod_add_mod,
        Nat.add_assoc]

/-- What is left of a sum whose carries have been added to its low half. -/
def residue (sum : Nat) : Nat := if sum = 0 then 0 else (sum - 1) % 65535 + 1

theorem residue_le (sum : Nat) : residue sum ≤ 65535 := by
  unfold residue
  split <;> omega

theorem residue_of_lt {sum : Nat} (small : sum < 65536) : residue sum = sum := by
  unfold residue
  split <;> omega

/-- Moving a carry to the low half takes a multiple of 65535 away, but never all of the sum. -/
theorem residue_carry {sum : Nat} (large : 65536 ≤ sum) :
    residue (sum % 65536 + sum / 65536) = residue sum := by
  unfold residue
  rw [if_neg (by omega), if_neg (by omega)]
  omega

theorem toNat_fold (sum : UInt32) : (fold sum).toNat = residue sum.toNat := by
  have base : (0x10000 : UInt32).toNat = 65536 := rfl
  induction sum using fold.induct with
  | case1 sum small =>
      rw [fold, if_pos small]
      rw [UInt32.lt_iff_toNat_lt, base] at small
      rw [UInt32.toNat_toUInt16, Nat.mod_eq_of_lt small, residue_of_lt small]
  | case2 sum large ih =>
      have bounded := sum.toNat_lt
      rw [fold, if_neg large, ih]
      rw [UInt32.lt_iff_toNat_lt, base] at large
      rw [UInt32.toNat_add, UInt32.toNat_mod, UInt32.toNat_div, base, Nat.mod_eq_of_lt (by omega),
        residue_carry (by omega)]

theorem residue_add_complement (sum : Nat) : residue (sum + (65535 - residue sum)) = 65535 := by
  unfold residue
  split <;> split <;> omega

theorem residue_add_eq_iff {sum field : Nat} (bounded : field ≤ 65535) :
    0 < field ∧ residue (sum + field) = 65535 ↔
      field = if residue sum = 65535 then 65535 else 65535 - residue sum := by
  unfold residue
  split <;> split <;> split <;> omega

def total (source destination : Address) (next : NextHeader) (segment : Octets) : Nat :=
  (source.octets ++ destination.octets).wordSum + segment.length + next.number.toNat +
    segment.wordSum

theorem total_lt (source destination : Address) (next : NextHeader) {segment : Octets}
    (short : segment.length ≤ 65535) : total source destination next segment < 2 ^ 32 := by
  have addresses := Octets.wordSum_le (source.octets ++ destination.octets)
  have words := Octets.wordSum_le segment
  have := next.number.toNat_lt
  rw [List.length_append, Address.length_octets, Address.length_octets] at addresses
  unfold total
  omega

variable {source destination : Address} {next : NextHeader}

def accumulated (source destination : Address) (next : NextHeader) (parts : List Octets) :
    UInt32 :=
  parts.foldl addWords (pseudoHeader source destination next parts.flatten.length.toUInt32)

/-- The accumulator keeps 32 bits of the sum. The length has 32 bits as well, and counts as two
words. -/
theorem toNat_accumulated_mod (parts : List Octets) :
    let length := parts.flatten.length % 2 ^ 32
    (accumulated source destination next parts).toNat =
      ((source.octets ++ destination.octets).wordSum + length / 65536 + length % 65536 +
        next.number.toNat + (parts.map Octets.wordSum).sum) % 2 ^ 32 := by
  intro length
  have counted : parts.flatten.length.toUInt32.toNat = length := by
    rw [Nat.toUInt32_eq, UInt32.toNat_ofNat']
  rw [accumulated, toNat_foldl_addWords]
  unfold pseudoHeader
  rw [UInt32.toNat_add, UInt32.toNat_add, UInt32.toNat_add, toNat_addWords, UInt32.toNat_div,
    UInt32.toNat_mod, counted, UInt8.toNat_toUInt32]
  change (((((0 + _) % 2 ^ 32 + _ / 65536) % 2 ^ 32 + _ % 65536) % 2 ^ 32 + _) % 2 ^ 32 + _) %
    2 ^ 32 = _
  omega

theorem toNat_accumulated {parts : List Octets}
    (even : ∀ part ∈ parts.dropLast, part.length % 2 = 0)
    (short : parts.flatten.length ≤ 65535) :
    (accumulated source destination next parts).toNat =
      total source destination next parts.flatten := by
  have bounded := total_lt source destination next short
  rw [toNat_accumulated_mod, ← Octets.wordSum_flatten parts even]
  unfold total at bounded ⊢
  omega

end Checksum

open Checksum

variable {source destination : Address} {next : NextHeader}

/-- The checksum is the complement of what folding leaves of the sum of all words. -/
theorem toNat_checksum {parts : List Octets}
    (even : ∀ part ∈ parts.dropLast, part.length % 2 = 0)
    (short : parts.flatten.length ≤ 65535) :
    (checksum source destination next parts).toNat =
      65535 - residue (total source destination next parts.flatten) := by
  change (~~~ fold (accumulated source destination next parts)).toNat = _
  rw [UInt16.toNat_not, toNat_fold, toNat_accumulated even short]
  rfl

theorem checksum_eq_zero_iff {segment : Octets} (short : segment.length ≤ 65535) :
    checksum source destination next [segment] = 0 ↔
      residue (total source destination next segment) = 65535 := by
  have bounded := residue_le (total source destination next segment)
  have whole : (checksum source destination next [segment]).toNat = _ :=
    toNat_checksum (by simp) (by simpa using short)
  rw [List.flatten_singleton] at whole
  rw [← UInt16.toNat_inj, whole]
  change _ = 0 ↔ _
  omega

end Ip

end RadioStack
