import RadioStack.Proofs.Tcp.Demultiplexing

/-!
What the checksum of a segment notices. A segment that verifies stops to verify when one of its
words is replaced, except that all zeros and all ones count alike, so one octet that is damaged on
the way keeps a segment from every connection. Main statement: `checksum_detects_damage`.
-/

namespace RadioStack.Tcp

open Ip.Checksum

variable {source destination : Address} {segment word : Octets} {index : Nat}

theorem verifies_withWord_iff (short : segment.length ≤ 65535)
    (verified : checksumVerifies source destination segment)
    (inside : 2 * index < segment.length) (fits : word.length = (segment.wordAt index).length) :
    checksumVerifies source destination (segment.withWord index word) ↔
      word = segment.wordAt index ∨ segment.wordAt index = [0, 0] ∧ word = [0xff, 0xff] ∨
        segment.wordAt index = [0xff, 0xff] ∧ word = [0, 0] := by
  obtain ⟨long, full⟩ := (checksumVerifies_iff source destination short).mp verified
  have length := Octets.length_withWord fits
  have balanced := total_withWord source destination .tcp inside fits
  have two : (segment.wordAt index).length ≤ 2 := by
    rw [Octets.length_wordAt]
    exact Nat.min_le_left _ _
  have small {word : Octets} (two : word.length ≤ 2) : word.wordSum ≤ 65535 := by
    have := Octets.wordSum_le word
    omega
  have part : (segment.wordAt index).wordSum < total source destination .tcp segment := by
    have whole := Octets.wordSum_eq_wordAt inside
    rw [total]
    omega
  have zeros : Octets.wordSum [0, 0] = 0 := rfl
  have ones : Octets.wordSum [0xff, 0xff] = 65535 := rfl
  rw [checksumVerifies_iff source destination (by rwa [length]), length, and_iff_right long,
    residue_replaced_iff balanced part (small two) (small (fits.trans_le two)) full]
  constructor
  · rintro (same | ⟨blank, full⟩ | ⟨full, blank⟩)
    · exact .inl (Octets.eq_of_wordSum_eq fits (fits.trans_le two) same)
    · have word := Octets.eq_of_wordSum_full (fits.trans_le two) full
      rw [word] at fits
      exact .inr (.inl ⟨Octets.eq_of_wordSum_eq fits.symm two (blank.trans zeros.symm), word⟩)
    · have old := Octets.eq_of_wordSum_full two full
      rw [old] at fits
      exact .inr (.inr ⟨old, Octets.eq_of_wordSum_eq fits fits.le (blank.trans zeros.symm)⟩)
  · rintro (rfl | ⟨blank, rfl⟩ | ⟨full, rfl⟩)
    · exact .inl rfl
    · exact .inr (.inl ⟨by rw [blank, zeros], ones⟩)
    · exact .inr (.inr ⟨by rw [full, ones], zeros⟩)

theorem not_verifies_set (short : segment.length ≤ 65535)
    (verified : checksumVerifies source destination segment) {position : Nat} {old octet : UInt8}
    (there : segment[position]? = some old) (other : octet ≠ old) :
    ¬ checksumVerifies source destination (segment.set position octet) := by
  intro again
  obtain ⟨inside, _⟩ := List.getElem?_eq_some_iff.mp there
  have word : (segment.wordAt (position / 2))[position % 2]? = some old := by
    rw [Octets.wordAt, List.getElem?_take_of_lt (Nat.mod_lt _ (by decide)), List.getElem?_drop,
      Nat.div_add_mod, there]
  have half (first : UInt8) {second : UInt8} (apart : second ≠ first) :
      [first, first].set (position % 2) octet ≠ [second, second] := by
    rcases Nat.mod_two_eq_zero_or_one position with even | odd
    · rw [even]
      rintro ⟨⟩
      exact apart rfl
    · rw [odd]
      rintro ⟨⟩
      exact apart rfl
  rw [Octets.set_eq_withWord inside] at again
  rcases (verifies_withWord_iff short verified (by omega) (List.length_set ..)).mp again with
    same | ⟨blank, full⟩ | ⟨full, blank⟩
  · have altered := congrArg (·[position % 2]?) same
    rw [List.getElem?_set_self', word] at altered
    exact other (Option.some.inj altered)
  · rw [blank] at full
    exact half 0 (by decide) full
  · rw [full] at blank
    exact half 0xff (by decide) blank

theorem getElem?_fillChecksum (long : Header.size ≤ segment.length) {position : Nat}
    (first : position ≠ 16) (second : position ≠ 17) :
    (fillChecksum source destination segment)[position]? = segment[position]? := by
  have room : 18 ≤ segment.length := Nat.le_trans (by decide) long
  rw [fillChecksum_eq source destination room, withChecksumField_eq]
  exact Octets.getElem?_withWord_of_ne (by omega) (by omega) (length_field room _)

theorem length_fillChecksum (long : Header.size ≤ segment.length) :
    (fillChecksum source destination segment).length = segment.length := by
  have room : checksumEnd ≤ segment.length := Nat.le_trans (by decide) long
  rw [fillChecksum_eq source destination room, length_withChecksumField room]

/-- Filling in the checksum touches nothing but its field, and makes the segment verify. Where a
segment verifies, another word in the place of one of its words is noticed, unless these are the two
words that stand for zero; so a segment in which one octet has been altered is not delivered, and
changes neither the connections nor the table. -/
theorem checksum_detects_damage (source destination : Address) (long : 20 ≤ segment.length)
    (short : segment.length ≤ 65535) :
    (∃ filled, fillChecksum? source destination segment = some filled ∧
      filled.length = segment.length ∧
      (∀ position, position ≠ 16 → position ≠ 17 → filled[position]? = segment[position]?) ∧
      checksumVerifies source destination filled) ∧
    (checksumVerifies source destination segment → ∀ (index : Nat) (word : Octets),
      2 * index < segment.length → word.length = (segment.wordAt index).length →
      (checksumVerifies source destination (segment.withWord index word) ↔
        word = segment.wordAt index ∨ segment.wordAt index = [0, 0] ∧ word = [0xff, 0xff] ∨
          segment.wordAt index = [0xff, 0xff] ∧ word = [0, 0])) ∧
    ∀ (routing : Routing) (time : Instant) (ip : Ip.Header),
      checksumVerifies ip.source ip.destination segment →
      ∀ (position : Nat) (old octet : UInt8), segment[position]? = some old → octet ≠ old →
      ∃ after, routing.dispatch time ip (segment.set position octet) = (after, false) ∧
        after.connections = routing.connections ∧ after.table = routing.table := by
  have filled := fillChecksum?_of_short source destination (Nat.le_trans (by decide) long) short
  refine ⟨⟨_, filled, length_fillChecksum long,
    fun _ first second => getElem?_fillChecksum long first second,
    checksumVerifies_fillChecksum source destination long short⟩, ?_, ?_⟩
  · intro verified index word inside fits
    exact verifies_withWord_iff short verified inside fits
  · intro routing time ip verified position old octet there other
    have damaged := not_verifies_set short verified there other
    rcases routing.dispatch_cases time ip (segment.set position octet) with
      ⟨_, records, dropped⟩ | ⟨_, _, _, takes, _⟩
    · exact ⟨_, dropped, rfl, rfl⟩
    · exact absurd takes.2.1 damaged

/-- The last octet, which is half a word, has been altered on the way. -/
theorem doors_detect_damage :
    let sent : Segment :=
      ⟨{ nextHeader := .tcp, source := .allRouters, destination := .allNodes },
        { sourcePort := 2, destinationPort := 1, sequence := 8, acknowledgment := 1, flags := .ack
          window := 128 }, [1, 2, 3]⟩
    20 ≤ sent.octets.length ∧ sent.octets.length ≤ 65535 ∧
      checksumVerifies sent.ip.source sent.ip.destination sent.octets ∧
      sent.octets[22]? = some 3 ∧
      ¬ checksumVerifies sent.ip.source sent.ip.destination (sent.octets.withWord 11 [0x83]) ∧
      ∃ after, Routing.doors.dispatch 0 sent.ip (sent.octets.set 22 0x83) = (after, false) ∧
        after.connections = Routing.doors.connections ∧ after.table = [0, 1] := by
  intro sent
  have length : sent.octets.length = 23 := sent.length_octets
  have long : 20 ≤ sent.octets.length := by omega
  have short : sent.octets.length ≤ 65535 := by omega
  have verified := sent.checksumVerifies_octets (by decide)
  have last : sent.octets[22]? = some 3 := by
    have written : (sent.header.octets ++ sent.payload)[22]? = some 3 := by decide
    rw [← written]
    exact getElem?_fillChecksum (by decide) (by decide) (by decide)
  obtain ⟨-, words, octets⟩ := checksum_detects_damage sent.ip.source
    sent.ip.destination long short
  have half : (sent.octets.wordAt 11).length = 1 := by
    rw [Octets.length_wordAt, length]
    rfl
  have word : sent.octets.wordAt 11 = [3] := by
    obtain ⟨octet, alone⟩ := List.length_eq_one_iff.mp half
    have first : (sent.octets.wordAt 11)[0]? = some 3 := by
      rw [Octets.wordAt, List.getElem?_take_of_lt (by decide), List.getElem?_drop]
      exact last
    rw [alone] at first ⊢
    rw [Option.some.inj first]
  refine ⟨long, short, verified, last, ?_, octets Routing.doors 0 sent.ip verified 22 3 0x83 last
    (by decide)⟩
  rw [words verified 11 [0x83] (by omega) half.symm, word]
  decide

end RadioStack.Tcp
