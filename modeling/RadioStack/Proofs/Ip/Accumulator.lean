import RadioStack.Proofs.Ip.OnesComplement

/-!
What the accumulator of a checksum has room for. No sum on the way exceeds it if and only if all
that is added to it fits together, and where a sum exceeds it the checksum comes out wrong. Main
statements: `hasRoom_iff`, `checksum_eq_reference_iff_hasRoom` and `forall_hasRoom_iff`.
-/

namespace RadioStack

def Address.ones : Address := ⟨0xffffffffffffffff, 0xffffffffffffffff⟩

theorem Address.wordSum_pair_le (source destination : Address) :
    (source.octets ++ destination.octets).wordSum ≤ (ones.octets ++ ones.octets).wordSum := by
  have full : ones.octets ++ ones.octets = Octets.ones 32 := by decide
  have most := Octets.wordSum_le_ones (source.octets ++ destination.octets)
  rwa [List.length_append, length_octets, length_octets, ← full] at most

namespace Ip

namespace Checksum

variable {source destination : Address} {next : NextHeader} {parts : List Octets}

/-- No sum that is taken on the way exceeds the accumulator. -/
def HasRoom (source destination : Address) (next : NextHeader) (parts : List Octets) : Prop :=
  ((addends source destination next parts).foldlM add? 0).isSome

instance (source destination : Address) (next : NextHeader) (parts : List Octets) :
    Decidable (HasRoom source destination next parts) :=
  inferInstanceAs (Decidable (_ = true))

theorem foldlM_add?_of_le {words : List Nat} {sum : UInt32}
    (large : 2 ^ 32 ≤ sum.toNat + words.sum) : words.foldlM add? sum = none := by
  induction words generalizing sum with
  | nil =>
      have bounded := sum.toNat_lt
      rw [List.sum_nil] at large
      omega
  | cons word words ih =>
      rw [List.sum_cons] at large
      rw [List.foldlM_cons, Option.bind_eq_bind]
      by_cases room : sum.toNat + word < 2 ^ 32
      · have first : add? sum word = some (sum + word.toUInt32) := if_pos room
        rw [first, Option.bind_some]
        exact ih (by rw [toNat_add_word room]; omega)
      · have first : add? sum word = none := if_neg room
        rw [first, Option.bind_none]

/-- The sums only grow, so the last one decides. -/
theorem hasRoom_iff :
    HasRoom source destination next parts ↔
      (addends source destination next parts).sum < 2 ^ 32 := by
  constructor
  · intro room
    by_contra large
    rw [HasRoom, foldlM_add?_of_le (by rw [UInt32.toNat_zero]; omega)] at room
    cases room
  · intro small
    rw [HasRoom, foldlM_addends_of_lt small]
    rfl

theorem HasRoom.of_short (even : ∀ part ∈ parts.dropLast, part.length % 2 = 0)
    (short : parts.flatten.length ≤ 65535) : HasRoom source destination next parts := by
  rw [hasRoom_iff, sum_addends source destination next even short]
  exact total_lt source destination next short

theorem checksum?_eq_ite (source destination : Address) (next : NextHeader)
    (parts : List Octets) :
    checksum? source destination next parts =
      if HasRoom source destination next parts then some (checksum source destination next parts)
      else none := by
  rw [checksum?_eq]
  split
  · rename_i room
    rw [foldlM_addends_of_lt (hasRoom_iff.mp room)]
    rfl
  · rename_i room
    rw [HasRoom, Option.not_isSome_iff_eq_none] at room
    rw [room, Option.map_none]

theorem sum_addends_eq_wordSum (source destination : Address) (next : NextHeader)
    (even : ∀ part ∈ parts.dropLast, part.length % 2 = 0) :
    (addends source destination next parts).sum =
      (pseudoOctets source destination next parts.flatten.length ++ parts.flatten).wordSum := by
  have whole : (pseudoOctets source destination next parts.flatten.length).length % 2 = 0 := by
    simp [pseudoOctets]
  rw [Octets.wordSum_append _ _ whole, wordSum_pseudoOctets_mod, Octets.wordSum_flatten parts even,
    sum_addends_parts]
  omega

theorem toNat_reference (even : ∀ part ∈ parts.dropLast, part.length % 2 = 0) :
    (reference source destination next parts.flatten).toNat =
      65535 - residue (addends source destination next parts).sum := by
  rw [reference, UInt16.toNat_not, toNat_onesSum,
    sum_addends_eq_wordSum source destination next even]
  rfl

theorem toNat_checksum_addends (source destination : Address) (next : NextHeader)
    (parts : List Octets) :
    (checksum source destination next parts).toNat =
      65535 - residue ((addends source destination next parts).sum % 2 ^ 32) := by
  change (~~~ fold (accumulated source destination next parts)).toNat = _
  rw [UInt16.toNat_not, toNat_fold, toNat_accumulated_addends]
  rfl

theorem sum_addends_lt (even : ∀ part ∈ parts.dropLast, part.length % 2 = 0)
    (defined : parts.flatten.length < 2 ^ 32) :
    (addends source destination next parts).sum < 65535 * 2 ^ 32 := by
  have most := Octets.wordSum_le
    (pseudoOctets source destination next parts.flatten.length ++ parts.flatten)
  have length : (pseudoOctets source destination next parts.flatten.length).length = 40 := by
    simp [pseudoOctets]
  rw [List.length_append, length] at most
  rw [sum_addends_eq_wordSum source destination next even]
  omega

/-- Each time the accumulator is exceeded a carry is lost, and fewer than 65535 lost ones show. -/
theorem residue_mod_eq_iff {sum : Nat} (bounded : sum < 65535 * 2 ^ 32) :
    residue (sum % 2 ^ 32) = residue sum ↔ sum < 2 ^ 32 := by
  unfold residue
  split <;> split <;> omega

/-- Of a sum that folds to all ones, an accumulator that has been exceeded still holds something. -/
theorem residue_mod_ne_zero {sum : Nat} (positive : 0 < sum) (bounded : sum < 65535 * 2 ^ 32)
    (full : residue sum = 65535) : residue (sum % 2 ^ 32) ≠ 0 := by
  intro empty
  unfold residue at full empty
  rw [if_neg (Nat.ne_of_gt positive)] at full
  split at empty <;> omega

theorem checksum_eq_reference_iff_hasRoom (even : ∀ part ∈ parts.dropLast, part.length % 2 = 0)
    (defined : parts.flatten.length < 2 ^ 32) :
    checksum source destination next parts = reference source destination next parts.flatten ↔
      HasRoom source destination next parts := by
  have computed := residue_le ((addends source destination next parts).sum % 2 ^ 32)
  have exactly := residue_le (addends source destination next parts).sum
  rw [hasRoom_iff, ← residue_mod_eq_iff (sum_addends_lt even defined), ← UInt16.toNat_inj,
    toNat_checksum_addends, toNat_reference even]
  omega

theorem checksum_segment_eq_reference_iff (source destination : Address) (next : NextHeader)
    {segment : Octets} (defined : segment.length < 2 ^ 32) :
    checksum source destination next [segment] = reference source destination next segment ↔
      HasRoom source destination next [segment] := by
  have whole : [segment].flatten = segment := List.flatten_singleton
  rw [← checksum_eq_reference_iff_hasRoom (by simp) (by rwa [whole]), whole]

def halves (length : Nat) : Nat := length % 2 ^ 32 / 65536 + length % 2 ^ 32 % 65536

theorem halves_cases (length : Nat) :
    length < 65536 ∧ halves length = length ∨
      (65536 ≤ length ∧ length < 131072) ∧ halves length + 65535 = length ∨
        131072 ≤ length := by
  by_cases small : length < 131072
  · rw [halves, Nat.mod_eq_of_lt (by omega)]
    omega
  · omega

theorem HasRoom.of_heavier {heavier : NextHeader} {heaviest : List Octets}
    (room : HasRoom .ones .ones heavier heaviest)
    (number : next.number.toNat ≤ heavier.number.toNat)
    (length : parts.flatten.length = heaviest.flatten.length)
    (words : (parts.map Octets.wordSum).sum ≤ (heaviest.map Octets.wordSum).sum) :
    HasRoom source destination next parts := by
  have addresses := Address.wordSum_pair_le source destination
  rw [hasRoom_iff, sum_addends_parts] at room ⊢
  rw [length]
  omega

theorem hasRoom_ones_iff :
    HasRoom .ones .ones next parts ↔
      65535 * 16 + halves parts.flatten.length + next.number.toNat +
        (parts.map Octets.wordSum).sum < 2 ^ 32 := by
  have addresses : (Address.ones.octets ++ Address.ones.octets).wordSum = 65535 * 16 := by decide
  rw [hasRoom_iff, sum_addends_parts, addresses, halves, ← Nat.add_assoc]

theorem hasRoom_heaviest_iff (length : Nat) :
    HasRoom .ones .ones ⟨0xff⟩ [.ones length] ↔ length ≤ 131039 := by
  have number : (0xff : UInt8).toNat = 255 := rfl
  rw [hasRoom_ones_iff, List.flatten_singleton, Octets.length_ones, List.map_singleton,
    List.sum_singleton, Octets.wordSum_ones, number]
  rcases halves_cases length with low | middle | high <;> omega

theorem forall_hasRoom_iff (length : Nat) :
    (∀ (source destination : Address) (next : NextHeader) (parts : List Octets),
      (∀ part ∈ parts.dropLast, part.length % 2 = 0) → parts.flatten.length = length →
        HasRoom source destination next parts) ↔ length ≤ 131039 := by
  rw [← hasRoom_heaviest_iff]
  constructor
  · intro room
    exact room .ones .ones ⟨0xff⟩ [.ones length] (by simp) (by simp)
  · rintro room source destination next parts even rfl
    have most := Octets.wordSum_le_ones parts.flatten
    refine room.of_heavier (Nat.le_of_lt_succ next.number.toNat_lt) (by simp) ?_
    rwa [← Octets.wordSum_flatten parts even, List.map_singleton, List.sum_singleton]

end Checksum

end Ip

end RadioStack
