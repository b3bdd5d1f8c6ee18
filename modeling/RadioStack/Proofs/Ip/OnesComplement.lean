import Mathlib
import RadioStack.Proofs.Ip.Checksum

/-!
The checksum as it is defined: the complement of the one's complement sum of the 16-bit words of a
pseudo-header and of the segment. It is computed in a wide accumulator that is folded at the end.
Nothing that is added for a packet makes the accumulator overflow, and at most two passes fold it.
Main statement: `checksum_eq_reference`.
-/

namespace RadioStack

namespace Ip

namespace Checksum

/-- One's complement addition: a carry out of the high end comes in again at the low end. -/
def plus (first second : UInt16) : UInt16 :=
  if first.toNat + second.toNat < 0x10000 then first + second else first + second + 1

def onesSum (octets : Octets) : UInt16 := (octets.words.map Nat.toUInt16).foldl plus 0

/-- The pseudo-header as octets: both addresses, the length in 32 bits and the next header. -/
def pseudoOctets (source destination : Address) (next : NextHeader) (length : Nat) : Octets :=
  source.octets ++ destination.octets ++ Octets.bigEndian 4 length ++ [0, 0, 0, next.number]

def reference (source destination : Address) (next : NextHeader) (segment : Octets) : UInt16 :=
  ~~~ onesSum (pseudoOctets source destination next segment.length ++ segment)

theorem words_lt (octets : Octets) : ∀ word ∈ octets.words, word < 65536 := by
  induction octets using Octets.words.induct with
  | case1 high low rest ih => exact List.forall_mem_cons.mpr ⟨Octets.value_pair_lt high low, ih⟩
  | case2 last => exact List.forall_mem_singleton.mpr (Octets.value_pair_lt last 0)
  | case3 => exact List.forall_mem_nil _

theorem toNat_plus (first second : UInt16) :
    (plus first second).toNat = residue (first.toNat + second.toNat) := by
  have low := first.toNat_lt
  have high := second.toNat_lt
  unfold plus
  split
  · rename_i small
    rw [residue_of_lt small, UInt16.toNat_add, Nat.mod_eq_of_lt small]
  · rw [UInt16.toNat_add, UInt16.toNat_add, residue, if_neg (by omega)]
    change ((first.toNat + second.toNat) % 65536 + 1) % 65536 = _
    omega

theorem residue_residue_add (sum more : Nat) :
    residue (residue sum + more) = residue (sum + more) := by
  unfold residue
  split <;> split <;> split <;> omega

theorem toNat_foldl_plus (words : List Nat) (small : ∀ word ∈ words, word < 65536)
    (sum : UInt16) :
    ((words.map Nat.toUInt16).foldl plus sum).toNat = residue (sum.toNat + words.sum) := by
  induction words generalizing sum with
  | nil => exact (residue_of_lt sum.toNat_lt).symm
  | cons word words ih =>
      have fits : word.toUInt16.toNat = word := by
        rw [Nat.toUInt16_eq, UInt16.toNat_ofNat',
          Nat.mod_eq_of_lt (small word List.mem_cons_self)]
      rw [List.map_cons, List.foldl_cons,
        ih (fun other member => small other (List.mem_cons_of_mem _ member)), toNat_plus, fits,
        residue_residue_add, List.sum_cons, Nat.add_assoc]

theorem toNat_onesSum (octets : Octets) : (onesSum octets).toNat = residue octets.wordSum := by
  have sum := toNat_foldl_plus octets.words (words_lt octets) 0
  rw [UInt16.toNat_zero, Nat.zero_add] at sum
  exact sum

theorem wordSum_pseudoOctets_mod (source destination : Address) (next : NextHeader) (length : Nat) :
    (pseudoOctets source destination next length).wordSum =
      (source.octets ++ destination.octets).wordSum + length % 2 ^ 32 / 65536 + length % 65536 +
        next.number.toNat := by
  have addresses : (source.octets ++ destination.octets).length % 2 = 0 := by
    rw [List.length_append, Address.length_octets, Address.length_octets]
  have lengths : (source.octets ++ destination.octets ++ Octets.bigEndian 4 length).length % 2 =
      0 := by
    rw [List.length_append, Octets.length_bigEndian]
    omega
  have halves : Octets.bigEndian 4 length =
    Octets.bigEndian 2 (length / 256 / 256) ++ Octets.bigEndian 2 length := rfl
  have last : Octets.wordSum [0, 0, 0, next.number] = next.number.toNat := by
    rw [Octets.wordSum_cons_cons, Octets.wordSum_cons_cons, Octets.value_pair, Octets.value_pair]
    change 0 + (0 + next.number.toNat + 0) = _
    omega
  have high : (Octets.bigEndian 2 (length / 256 / 256)).length % 2 = 0 := by
    rw [Octets.length_bigEndian]
  rw [pseudoOctets, Octets.wordSum_append _ _ lengths, Octets.wordSum_append _ _ addresses, halves,
    Octets.wordSum_append _ _ high, Octets.wordSum_bigEndian_mod, Octets.wordSum_bigEndian_mod,
    last]
  omega

theorem wordSum_pseudoOctets (source destination : Address) (next : NextHeader) {length : Nat}
    (short : length ≤ 65535) :
    (pseudoOctets source destination next length).wordSum =
      (source.octets ++ destination.octets).wordSum + length + next.number.toNat := by
  rw [wordSum_pseudoOctets_mod]
  omega

theorem toNat_onesSum_segment (source destination : Address) (next : NextHeader) {segment : Octets}
    (short : segment.length ≤ 65535) :
    (onesSum (pseudoOctets source destination next segment.length ++ segment)).toNat =
      residue (total source destination next segment) := by
  have even : (pseudoOctets source destination next segment.length).length % 2 = 0 := by
    simp [pseudoOctets]
  rw [toNat_onesSum, Octets.wordSum_append _ _ even, wordSum_pseudoOctets _ _ _ short, total]

def addends (source destination : Address) (next : NextHeader) (parts : List Octets) : List Nat :=
  let length := parts.flatten.length % 2 ^ 32
  (source.octets ++ destination.octets).words ++
    [length / 0x10000, length % 0x10000, next.number.toNat] ++ parts.flatMap Octets.words

theorem addWords?_eq (sum : UInt32) (octets : Octets) :
    addWords? sum octets = octets.words.foldlM add? sum := by
  induction octets using Octets.words.induct generalizing sum with
  | case1 high low rest ih =>
      rw [addWords?, Octets.words, Octets.value_pair, List.foldlM_cons]
      exact congrArg _ (funext ih)
  | case2 last =>
      have word : Octets.value [last, 0] = 256 * last.toNat := by
        rw [Octets.value_pair]
        rfl
      rw [addWords?, Octets.words, word, List.foldlM_cons, Option.bind_eq_bind]
      cases add? sum (256 * last.toNat) <;> rfl
  | case3 => rfl

theorem foldlM_addWords? (sum : UInt32) (parts : List Octets) :
    parts.foldlM addWords? sum = (parts.flatMap Octets.words).foldlM add? sum := by
  induction parts generalizing sum with
  | nil => rfl
  | cons part parts ih =>
      rw [List.foldlM_cons, List.flatMap_cons, List.foldlM_append, addWords?_eq]
      exact congrArg _ (funext ih)

theorem pseudoHeader?_eq (source destination : Address) (next : NextHeader) (length : UInt32) :
    pseudoHeader? source destination next length =
      ((source.octets ++ destination.octets).words ++
        [(length / 0x10000).toNat, (length % 0x10000).toNat, next.number.toNat]).foldlM add? 0 := by
  rw [pseudoHeader?, addWords?_eq, List.foldlM_append]
  simp only [List.foldlM_cons, List.foldlM_nil, bind_pure]

theorem checksum?_eq (source destination : Address) (next : NextHeader) (parts : List Octets) :
    checksum? source destination next parts =
      ((addends source destination next parts).foldlM add? 0).map fun sum => ~~~ fold sum := by
  have length : parts.flatten.length.toUInt32.toNat = parts.flatten.length % 2 ^ 32 := by
    rw [Nat.toUInt32_eq, UInt32.toNat_ofNat']
  rw [addends, List.foldlM_append, ← length]
  change (pseudoHeader? source destination next parts.flatten.length.toUInt32).bind
    (fun sum => (parts.foldlM addWords? sum).bind fun sum => some (~~~ fold sum)) = _
  simp only [pseudoHeader?_eq, foldlM_addWords?, UInt32.toNat_div, UInt32.toNat_mod]
  rw [Option.bind_eq_bind, Option.map_bind]
  exact congrArg (Option.bind _) (funext fun sum => Option.map_eq_bind.symm)

theorem toNat_add_word {sum : UInt32} {word : Nat} (room : sum.toNat + word < 2 ^ 32) :
    (sum + word.toUInt32).toNat = sum.toNat + word := by
  rw [UInt32.toNat_add, Nat.toUInt32_eq, UInt32.toNat_ofNat', Nat.add_mod_mod,
    Nat.mod_eq_of_lt room]

theorem foldlM_add?_of_lt {words : List Nat} {sum : UInt32}
    (fits : sum.toNat + words.sum < 2 ^ 32) :
    words.foldlM add? sum = some (sum + words.sum.toUInt32) := by
  induction words generalizing sum with
  | nil => simp
  | cons word words ih =>
      rw [List.sum_cons] at fits ⊢
      have whole : (sum + word.toUInt32).toNat = sum.toNat + word := toNat_add_word (by omega)
      have first : add? sum word = some (sum + word.toUInt32) := if_pos (by omega)
      rw [List.foldlM_cons, first, Option.bind_eq_bind, Option.bind_some,
        ih (by rw [whole]; omega), UInt32.add_assoc, Nat.toUInt32_eq, Nat.toUInt32_eq,
        Nat.toUInt32_eq, UInt32.ofNat_add]

theorem sum_addends_parts (source destination : Address) (next : NextHeader)
    (parts : List Octets) :
    let length := parts.flatten.length % 2 ^ 32
    (addends source destination next parts).sum =
      (source.octets ++ destination.octets).wordSum + length / 65536 + length % 65536 +
        next.number.toNat + (parts.map Octets.wordSum).sum := by
  intro length
  have text : (parts.flatMap Octets.words).sum = (parts.map Octets.wordSum).sum := by
    rw [List.flatMap_def, List.sum_flatten, List.map_map]
    rfl
  have addresses : (source.octets ++ destination.octets).words.sum =
    (source.octets ++ destination.octets).wordSum := rfl
  rw [addends, List.sum_append, List.sum_append, text, addresses]
  simp only [List.sum_cons, List.sum_nil]
  omega

theorem sum_addends (source destination : Address) (next : NextHeader) {parts : List Octets}
    (even : ∀ part ∈ parts.dropLast, part.length % 2 = 0)
    (short : parts.flatten.length ≤ 65535) :
    (addends source destination next parts).sum =
      total source destination next parts.flatten := by
  rw [sum_addends_parts, ← Octets.wordSum_flatten parts even, total]
  omega

theorem toNat_accumulated_addends (source destination : Address) (next : NextHeader)
    (parts : List Octets) :
    (accumulated source destination next parts).toNat =
      (addends source destination next parts).sum % 2 ^ 32 := by
  rw [toNat_accumulated_mod, sum_addends_parts]

theorem foldlM_addends_of_lt {source destination : Address} {next : NextHeader}
    {parts : List Octets} (fits : (addends source destination next parts).sum < 2 ^ 32) :
    (addends source destination next parts).foldlM add? 0 =
      some (accumulated source destination next parts) := by
  have same : (addends source destination next parts).sum.toUInt32 =
      accumulated source destination next parts := by
    apply UInt32.toNat_inj.mp
    rw [toNat_accumulated_addends, Nat.toUInt32_eq, UInt32.toNat_ofNat']
  rw [foldlM_add?_of_lt (by rwa [UInt32.toNat_zero, Nat.zero_add]), same, UInt32.zero_add]

theorem foldlM_addends (source destination : Address) (next : NextHeader) {parts : List Octets}
    (even : ∀ part ∈ parts.dropLast, part.length % 2 = 0)
    (short : parts.flatten.length ≤ 65535) :
    (addends source destination next parts).foldlM add? 0 =
      some (accumulated source destination next parts) := by
  apply foldlM_addends_of_lt
  rw [sum_addends source destination next even short]
  exact total_lt source destination next short

def carry (sum : UInt32) : UInt32 := sum % 0x10000 + sum / 0x10000

theorem toNat_carry (sum : UInt32) :
    (carry sum).toNat = sum.toNat % 65536 + sum.toNat / 65536 := by
  have bounded := sum.toNat_lt
  rw [carry, UInt32.toNat_add, UInt32.toNat_mod, UInt32.toNat_div]
  change (sum.toNat % 65536 + sum.toNat / 65536) % 2 ^ 32 = _
  omega

theorem fold_of_lt {sum : UInt32} (small : sum < 0x10000) : fold sum = sum.toUInt16 := by
  rw [fold, if_pos small]

theorem fold_carry {sum : UInt32} (large : ¬ sum < 0x10000) : fold (carry sum) = fold sum := by
  rw [fold.eq_def sum, if_neg large]
  rfl

/-- The folding stops when no carry is left, which is so after two passes at most. -/
theorem fold_passes (sum : UInt32) :
    ∃ passes ≤ 2, (∀ earlier < passes, 0x10000 ≤ carry^[earlier] sum) ∧
      carry^[passes] sum < 0x10000 ∧ fold sum = (carry^[passes] sum).toUInt16 := by
  by_cases small : sum < 0x10000
  · exact ⟨0, by decide, nofun, small, fold_of_lt small⟩
  · by_cases one : carry sum < 0x10000
    · refine ⟨1, by decide, ?_, one, ?_⟩
      · intro earlier before
        rw [Nat.lt_one_iff.mp before]
        exact UInt32.not_lt.mp small
      · rw [← fold_carry small]
        exact fold_of_lt one
    · -- A carry out of the first pass leaves a low half that has room for the second.
      have two : carry (carry sum) < 0x10000 := by
        have bounded := sum.toNat_lt
        have base : (0x10000 : UInt32).toNat = 65536 := rfl
        rw [UInt32.lt_iff_toNat_lt, base, toNat_carry] at one ⊢
        rw [toNat_carry]
        omega
      refine ⟨2, Nat.le_refl 2, ?_, two, ?_⟩
      · intro earlier before
        obtain rfl | rfl : earlier = 0 ∨ earlier = 1 := by omega
        · exact UInt32.not_lt.mp small
        · exact UInt32.not_lt.mp one
      · rw [← fold_carry small, ← fold_carry one]
        exact fold_of_lt two

end Checksum

open Checksum

variable {source destination : Address} {next : NextHeader}

theorem checksum_eq_complement (source destination : Address) (next : NextHeader)
    {parts : List Octets}
    (even : ∀ part ∈ parts.dropLast, part.length % 2 = 0)
    (short : parts.flatten.length ≤ 65535) :
    checksum source destination next parts = reference source destination next parts.flatten := by
  apply UInt16.toNat_inj.mp
  rw [toNat_checksum even short, reference, UInt16.toNat_not,
    toNat_onesSum_segment source destination next short]
  rfl

theorem checksum_eq_zero_iff_onesSum {segment : Octets} (short : segment.length ≤ 65535) :
    checksum source destination next [segment] = 0 ↔
      onesSum (pseudoOctets source destination next segment.length ++ segment) = 0xffff := by
  rw [checksum_eq_zero_iff short, ← toNat_onesSum_segment source destination next short,
    ← UInt16.toNat_inj]
  rfl

/-- The checksum of a segment is the one that is defined for its octets, however they are cut into
parts. The sums that it takes all fit into the accumulator, and folding it comes to an end. -/
theorem checksum_eq_reference (source destination : Address) (next : NextHeader)
    {parts : List Octets}
    (even : ∀ part ∈ parts.dropLast, part.length % 2 = 0)
    (short : parts.flatten.length ≤ 65535) :
    let sum := accumulated source destination next parts
    checksum source destination next parts = reference source destination next parts.flatten ∧
    (∀ others : List Octets, (∀ part ∈ others.dropLast, part.length % 2 = 0) →
      others.flatten = parts.flatten →
      checksum source destination next others = checksum source destination next parts) ∧
    (addends source destination next parts).foldlM add? 0 = some sum ∧
    ∃ passes ≤ 2, (∀ earlier < passes, 0x10000 ≤ carry^[earlier] sum) ∧
      carry^[passes] sum < 0x10000 ∧
      checksum source destination next parts = ~~~ (carry^[passes] sum).toUInt16 := by
  intro sum
  have defined := checksum_eq_complement source destination next even short
  refine ⟨defined, ?_, foldlM_addends source destination next even short, ?_⟩
  · intro others evenToo same
    rw [defined, checksum_eq_complement _ _ _ evenToo (by rwa [same]), same]
  · obtain ⟨passes, few, before, small, folded⟩ := fold_passes sum
    refine ⟨passes, few, before, small, ?_⟩
    rw [← folded]
    rfl

/-- These words add up to 0x1ffff, so that the first pass leaves another carry. -/
theorem twofold_eq_reference :
    let parts : List Octets := [[0, 0xe2], [0, 0, 1]]
    (∀ part ∈ parts.dropLast, part.length % 2 = 0) ∧ parts.flatten.length ≤ 65535 ∧
      reference .allRouters .allNodes .udp parts.flatten = 0xfffe ∧
      checksum .allRouters .allNodes .udp parts = 0xfffe ∧
      checksum .allRouters .allNodes .udp [[0, 0xe2, 0, 0], [], [1]] = 0xfffe ∧
      (addends .allRouters .allNodes .udp parts).foldlM add? 0 = some 0x1ffff ∧
      ¬ carry 0x1ffff < 0x10000 := by
  intro parts
  have even : ∀ part ∈ parts.dropLast, part.length % 2 = 0 := by decide
  have short : parts.flatten.length ≤ 65535 := by decide
  have value : reference .allRouters .allNodes .udp parts.flatten = 0xfffe := by
    decide +kernel
  have sum : accumulated .allRouters .allNodes .udp parts = 0x1ffff := by decide
  obtain ⟨defined, cut, added, -⟩ := checksum_eq_reference .allRouters .allNodes .udp even short
  rw [value] at defined
  refine ⟨even, short, value, defined, ?_, added.trans (congrArg some sum), by decide⟩
  exact (cut [[0, 0xe2, 0, 0], [], [1]] (by decide) rfl).trans defined

end Ip

end RadioStack
