import RadioStack.Proofs.Ip.Checksum

/-!
Octets that are replaced word by word, and what this does to the sum of all words. Main statements:
`total_withWord` and `residue_replaced_iff`.
-/

namespace RadioStack

namespace Octets

/-- The octets of a word; the last word of an odd string has only one. -/
def wordAt (octets : Octets) (index : Nat) : Octets := (octets.drop (2 * index)).take 2

def withWord (octets : Octets) (index : Nat) (word : Octets) : Octets :=
  octets.take (2 * index) ++ word ++ octets.drop (2 * index + 2)

variable {octets word : Octets} {index : Nat}

theorem length_wordAt (octets : Octets) (index : Nat) :
    (octets.wordAt index).length = min 2 (octets.length - 2 * index) := by
  rw [wordAt, List.length_take, List.length_drop]

theorem withWord_wordAt (octets : Octets) (index : Nat) :
    octets.withWord index (octets.wordAt index) = octets := by
  rw [withWord, wordAt, ← List.drop_drop, List.append_assoc, List.take_append_drop,
    List.take_append_drop]

theorem length_withWord (fits : word.length = (octets.wordAt index).length) :
    (octets.withWord index word).length = octets.length := by
  rw [length_wordAt] at fits
  simp only [withWord, List.length_append, List.length_take, List.length_drop]
  omega

theorem wordSum_withWord (inside : 2 * index < octets.length)
    (fits : word.length = (octets.wordAt index).length) :
    (octets.withWord index word).wordSum =
      Octets.wordSum (octets.take (2 * index)) + word.wordSum +
        Octets.wordSum (octets.drop (2 * index + 2)) := by
  have front : (octets.take (2 * index)).length = 2 * index := by
    rw [List.length_take]
    omega
  rw [length_wordAt] at fits
  rw [withWord, List.append_assoc, wordSum_append _ _ (by omega), Nat.add_assoc]
  congr 1
  by_cases last : octets.length = 2 * index + 1
  · -- Nothing follows the last octet of an odd string.
    rw [List.drop_of_length_le (by omega), List.append_nil]
    rfl
  · exact wordSum_append _ _ (by omega)

theorem wordSum_eq_wordAt (inside : 2 * index < octets.length) :
    octets.wordSum = Octets.wordSum (octets.take (2 * index)) + (octets.wordAt index).wordSum +
      Octets.wordSum (octets.drop (2 * index + 2)) := by
  conv_lhs => rw [← withWord_wordAt octets index]
  exact wordSum_withWord inside rfl

theorem eq_of_wordSum_eq {first second : Octets} (same : first.length = second.length)
    (short : first.length ≤ 2) (count : first.wordSum = second.wordSum) : first = second := by
  match first, second, same, short with
  | [], [], _, _ => rfl
  | [first], [second], _, _ =>
      rw [wordSum_singleton, wordSum_singleton] at count
      have octet : first = second := UInt8.toNat_inj.mp (by omega)
      rw [octet]
  | [high, low], [high', low'], _, _ =>
      rw [wordSum_cons_cons, wordSum_cons_cons] at count
      have pair : value [high, low] = value [high', low'] := Nat.add_right_cancel count
      rw [← bigEndian_pair high low, pair, bigEndian_pair]

theorem eq_of_wordSum_full (short : word.length ≤ 2) (full : word.wordSum = 65535) :
    word = [0xff, 0xff] := by
  have two : word.length = 2 := by
    have most := wordSum_le word
    match word, short with
    | [], _ => cases full
    | [last], _ =>
        rw [wordSum_singleton] at full
        omega
    | [_, _], _ => rfl
  exact eq_of_wordSum_eq two short full

theorem getElem?_withWord_of_ne {position : Nat} (outside : position / 2 ≠ index)
    (inside : 2 * index < octets.length) (fits : word.length = (octets.wordAt index).length) :
    (octets.withWord index word)[position]? = octets[position]? := by
  have length := length_withWord fits
  rw [length_wordAt] at fits
  by_cases beyond : octets.length ≤ position
  · rw [List.getElem?_eq_none beyond, List.getElem?_eq_none (by omega)]
  · have front : (octets.take (2 * index)).length = 2 * index := by
      rw [List.length_take]
      omega
    rw [withWord, List.append_assoc]
    by_cases before : position < 2 * index
    · rw [List.getElem?_append_left (by omega), List.getElem?_take_of_lt before]
    · rw [List.getElem?_append_right (by omega), List.getElem?_append_right (by omega), front,
        List.getElem?_drop]
      congr 1
      omega

theorem set_eq_withWord {position : Nat} (inside : position < octets.length) (octet : UInt8) :
    octets.set position octet = octets.withWord (position / 2)
      ((octets.wordAt (position / 2)).set (position % 2) octet) := by
  have front : (octets.take (2 * (position / 2))).length = 2 * (position / 2) := by
    rw [List.length_take]
    omega
  have word := length_wordAt octets (position / 2)
  conv_lhs => rw [← withWord_wordAt octets (position / 2)]
  rw [withWord, withWord, List.append_assoc, List.set_append_right _ _ (by omega), front,
    List.set_append_left _ _ (by omega), List.append_assoc]
  congr 4
  omega

end Octets

namespace Ip.Checksum

variable {segment word : Octets} {index : Nat}

theorem total_withWord (source destination : Address) (next : NextHeader)
    (inside : 2 * index < segment.length)
    (fits : word.length = (segment.wordAt index).length) :
    total source destination next (segment.withWord index word) +
        (segment.wordAt index).wordSum =
      total source destination next segment + word.wordSum := by
  have whole := Octets.wordSum_eq_wordAt inside
  rw [total, total, Octets.length_withWord fits, Octets.wordSum_withWord inside fits, whole]
  omega

/-- When one number of a full sum is replaced, the sum stays full only if the numbers are the same
or both of them stand for zero. -/
theorem residue_replaced_iff {before after old new : Nat} (balanced : after + old = before + new)
    (part : old < before) (small : old ≤ 65535) (small' : new ≤ 65535)
    (full : residue before = 65535) :
    residue after = 65535 ↔ new = old ∨ old = 0 ∧ new = 65535 ∨ old = 65535 ∧ new = 0 := by
  unfold residue at *
  split at full <;> split <;> omega

end Ip.Checksum

end RadioStack
