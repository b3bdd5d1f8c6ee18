import RadioStack.Proofs.Compression.Size
import RadioStack.Proofs.Ip.Accumulator
import RadioStack.Proofs.Tcp.Segment
import RadioStack.Proofs.Udp

/-!
How long the data of a checksum may be. Nothing bounds the data for which a checksum is asked, but
the accumulator has room for about 128 KiB of the heaviest octets only. Longer data can exceed it,
and then a datagram or a segment has no checksum if the arithmetic is checked, and else a wrong one.
Main statement: `accumulator_fits_by_length`.
-/

namespace RadioStack

open Ip Ip.Checksum

namespace Udp

/-- The checksum of a datagram by its definition, with the complement of zero in place of zero. -/
def reference (source destination : Address) (sourcePort destinationPort : UInt16)
    (payload : Octets) : UInt16 :=
  nonzero (Checksum.reference source destination .udp
    (blankParts sourcePort destinationPort payload).flatten)

/-- Whatever asks for the checksum of a datagram, with checked arithmetic it gets the same answer as
without if there is `room`, and else none. -/
structure AnsweredIff (room : Prop) [Decidable room] (ip : Ip.Header)
    (sourcePort destinationPort : UInt16) (payload : Octets) : Prop where
  computed : Udp.checksum? ip.source ip.destination sourcePort destinationPort payload =
    if room then some (Udp.checksum ip.source ip.destination sourcePort destinationPort payload)
    else none
  made : Header.ofPayload? ip sourcePort destinationPort payload =
    if room then some (Header.ofPayload ip sourcePort destinationPort payload) else none
  compared : ∀ sum, (⟨sourcePort, destinationPort, sum⟩ : Header).verifies? ip payload =
    if room then some ((⟨sourcePort, destinationPort, sum⟩ : Header).verifies ip payload) else none
  compressed : ∀ contexts links buffer,
    Compression.encode? contexts ip (.udp sourcePort destinationPort payload) links buffer =
      if room then
        some (Compression.encode contexts ip (.udp sourcePort destinationPort payload) links buffer)
      else none

/-- Wherever the checksum of a datagram is computed, to be sent or to be compared, it comes out as
it is defined if and only if there is `room`. -/
structure RightIff (room : Prop) (ip : Ip.Header) (sourcePort destinationPort : UInt16)
    (payload : Octets) : Prop where
  made : (Header.ofPayload ip sourcePort destinationPort payload).checksum =
    reference ip.source ip.destination sourcePort destinationPort payload ↔ room
  accepted : (⟨sourcePort, destinationPort,
    reference ip.source ip.destination sourcePort destinationPort payload⟩ : Header).verifies
      ip payload ↔ room
  compressed : ∀ contexts links buffer,
    Compression.Encoding.size contexts ip (.udp sourcePort destinationPort payload) links ≤
      buffer.length →
    ∃ result packet udp,
      Compression.encode contexts ip (.udp sourcePort destinationPort payload) links buffer =
        .ok result ∧
      Compression.decode contexts result.written links = .ok packet ∧ packet.udp = some udp ∧
      (udp.checksum = reference ip.source ip.destination sourcePort destinationPort payload ↔ room)

variable {source destination : Address} {sourcePort destinationPort : UInt16} {payload : Octets}

theorem even_blankParts :
    ∀ part ∈ (blankParts sourcePort destinationPort payload).dropLast, part.length % 2 = 0 := by
  simp [blankParts, Header.size]

theorem length_blankParts :
    (blankParts sourcePort destinationPort payload).flatten.length =
      Header.size + payload.length := by
  simp [blankParts]

theorem wordSum_blankParts :
    ((blankParts sourcePort destinationPort payload).map Octets.wordSum).sum =
      sourcePort.toNat + destinationPort.toNat + Header.lengthField payload.length +
        payload.wordSum := by
  simp [blankParts, wordSum_octets]

theorem hasRoom_heaviest_iff (length : Nat) :
    HasRoom .ones .ones .udp (blankParts 0xffff 0xffff (.ones length)) ↔ length ≤ 131034 := by
  have port : (0xffff : UInt16).toNat = 65535 := rfl
  have number : NextHeader.udp.number.toNat = 17 := rfl
  rw [hasRoom_ones_iff, length_blankParts, wordSum_blankParts, Octets.length_ones,
    Octets.wordSum_ones, port, number, Header.lengthField, Header.size]
  rcases halves_cases (8 + length) with low | middle | high <;> omega

theorem forall_hasRoom_iff (length : Nat) :
    (∀ (source destination : Address) (sourcePort destinationPort : UInt16) (payload : Octets),
      payload.length = length →
        HasRoom source destination .udp (blankParts sourcePort destinationPort payload)) ↔
      length ≤ 131034 := by
  rw [← hasRoom_heaviest_iff]
  constructor
  · intro room
    exact room .ones .ones 0xffff 0xffff (.ones length) (Octets.length_ones length)
  · rintro room source destination sourcePort destinationPort payload rfl
    have first := sourcePort.toNat_lt
    have second := destinationPort.toNat_lt
    have port : (0xffff : UInt16).toNat = 65535 := rfl
    have most := payload.wordSum_le_ones
    refine room.of_heavier (Nat.le_refl _) ?_ ?_
    · rw [length_blankParts, length_blankParts, Octets.length_ones]
    · rw [wordSum_blankParts, wordSum_blankParts, Octets.length_ones, port]
      omega

/-- Zero and its complement stand for one another, so both sides take the same one. -/
theorem filled_eq_iff {sum : Nat} (positive : 0 < sum) (bounded : sum < 65535 * 2 ^ 32) :
    (if residue (sum % 2 ^ 32) = 65535 then 65535 else 65535 - residue (sum % 2 ^ 32)) =
        (if residue sum = 65535 then 65535 else 65535 - residue sum) ↔ sum < 2 ^ 32 := by
  have computed := residue_le (sum % 2 ^ 32)
  have exactly := residue_le sum
  have positiveToo := residue_mod_ne_zero positive bounded
  have remains : residue sum ≠ 0 := by
    unfold residue
    split <;> omega
  rw [← residue_mod_eq_iff bounded]
  split <;> split <;> omega

theorem toNat_checksum_addends (source destination : Address)
    (sourcePort destinationPort : UInt16) (payload : Octets) :
    let sum := (addends source destination .udp
      (blankParts sourcePort destinationPort payload)).sum % 2 ^ 32
    (Udp.checksum source destination sourcePort destinationPort payload).toNat =
      if residue sum = 65535 then 65535 else 65535 - residue sum := by
  intro sum
  exact toNat_nonzero (residue_le sum) (Checksum.toNat_checksum_addends source destination .udp _)

theorem toNat_reference (source destination : Address) (sourcePort destinationPort : UInt16)
    (payload : Octets) :
    let sum := (addends source destination .udp
      (blankParts sourcePort destinationPort payload)).sum
    (reference source destination sourcePort destinationPort payload).toNat =
      if residue sum = 65535 then 65535 else 65535 - residue sum := by
  intro sum
  exact toNat_nonzero (residue_le sum) (Checksum.toNat_reference even_blankParts)

theorem checksum_eq_reference_iff (defined : Header.size + payload.length < 2 ^ 32) :
    Udp.checksum source destination sourcePort destinationPort payload =
        reference source destination sourcePort destinationPort payload ↔
      HasRoom source destination .udp (blankParts sourcePort destinationPort payload) := by
  have number : NextHeader.udp.number.toNat = 17 := rfl
  have bounded : (addends source destination .udp
      (blankParts sourcePort destinationPort payload)).sum < 65535 * 2 ^ 32 :=
    sum_addends_lt even_blankParts (by rwa [length_blankParts])
  have positive : 0 < (addends source destination .udp
      (blankParts sourcePort destinationPort payload)).sum := by
    rw [sum_addends_parts, number]
    omega
  rw [hasRoom_iff, ← filled_eq_iff positive bounded, ← UInt16.toNat_inj, toNat_checksum_addends,
    toNat_reference]

theorem checksum?_eq_ite (source destination : Address) (sourcePort destinationPort : UInt16)
    (payload : Octets) :
    Udp.checksum? source destination sourcePort destinationPort payload =
      if HasRoom source destination .udp (blankParts sourcePort destinationPort payload) then
        some (Udp.checksum source destination sourcePort destinationPort payload)
      else none := by
  rw [Udp.checksum?, Checksum.checksum?_eq_ite]
  split <;> rfl

theorem answeredIff_hasRoom (ip : Ip.Header) (sourcePort destinationPort : UInt16)
    (payload : Octets) :
    AnsweredIff (HasRoom ip.source ip.destination .udp
      (blankParts sourcePort destinationPort payload)) ip sourcePort destinationPort payload := by
  have computed := checksum?_eq_ite ip.source ip.destination sourcePort destinationPort payload
  have made : Header.ofPayload? ip sourcePort destinationPort payload =
      if HasRoom ip.source ip.destination .udp (blankParts sourcePort destinationPort payload) then
        some (Header.ofPayload ip sourcePort destinationPort payload)
      else none := by
    rw [Header.ofPayload?, computed]
    split <;> rfl
  refine ⟨computed, made, fun sum => ?_, fun contexts links buffer => ?_⟩
  · rw [Header.verifies?, made]
    split <;> rfl
  · rw [Compression.encode?, Compression.Transport.isSummable, made]
    split <;> rfl

theorem rightIff_hasRoom (ip : Ip.Header) (sourcePort destinationPort : UInt16)
    (defined : Header.size + payload.length < 2 ^ 32) :
    RightIff (HasRoom ip.source ip.destination .udp (blankParts sourcePort destinationPort payload))
      ip sourcePort destinationPort payload where
  made := checksum_eq_reference_iff defined
  accepted := by
    rw [Header.verifies, beq_iff_eq]
    exact checksum_eq_reference_iff defined
  compressed contexts links buffer room := by
    have encoded := Compression.encode_eq contexts ip (.udp sourcePort destinationPort payload)
      links buffer
    rw [if_pos room] at encoded
    exact ⟨_, _, _, encoded, Compression.decode_delivered contexts ip _ links, rfl,
      checksum_eq_reference_iff defined⟩

end Udp

namespace Tcp

variable {source destination : Address} {segment : Octets}

theorem wordSum_withChecksumField (long : checksumEnd ≤ segment.length) (sum : UInt16) :
    (withChecksumField segment sum).wordSum =
      (withChecksumField segment 0).wordSum + sum.toNat := by
  have total := total_withChecksumField .unspecified .unspecified long sum
  rw [Checksum.total, Checksum.total, length_withChecksumField long,
    length_withChecksumField long] at total
  omega

theorem withChecksumField_ones {length : Nat} (long : checksumEnd ≤ length) :
    withChecksumField (.ones length) 0xffff = .ones length := by
  have two : min 2 (length - 2 * 8) = 2 := by
    unfold checksumEnd at long
    omega
  have word : (Octets.ones length).wordAt 8 = Octets.bigEndian 2 (0xffff : UInt16).toNat := by
    rw [Octets.wordAt, Octets.ones, List.drop_replicate, List.take_replicate, two]
    rfl
  rw [withChecksumField_eq, ← word, Octets.withWord_wordAt]

theorem hasRoom_heaviest_iff (length : Nat) :
    HasRoom .ones .ones .tcp [.ones length] ↔ length ≤ 131040 := by
  have number : NextHeader.tcp.number.toNat = 6 := rfl
  rw [hasRoom_ones_iff, List.flatten_singleton, Octets.length_ones, List.map_singleton,
    List.sum_singleton, Octets.wordSum_ones, number]
  rcases halves_cases length with low | middle | high <;> omega

theorem hasRoom_blank_heaviest_iff {length : Nat} (long : checksumEnd ≤ length) :
    HasRoom .ones .ones .tcp [withChecksumField (.ones length) 0] ↔ length ≤ 131042 := by
  have number : NextHeader.tcp.number.toNat = 6 := rfl
  have room : checksumEnd ≤ (Octets.ones length).length := by rwa [Octets.length_ones]
  have field := wordSum_withChecksumField room 0xffff
  change _ = _ + 65535 at field
  rw [withChecksumField_ones long, Octets.wordSum_ones] at field
  rw [hasRoom_ones_iff, List.flatten_singleton, length_withChecksumField room, Octets.length_ones,
    List.map_singleton, List.sum_singleton, number]
  rcases halves_cases length with low | middle | high <;> omega

theorem forall_hasRoom_iff (length : Nat) :
    (∀ (source destination : Address) (segment : Octets), segment.length = length →
      Header.size ≤ length → HasRoom source destination .tcp [segment]) ↔ length ≤ 131040 := by
  rw [← hasRoom_heaviest_iff]
  constructor
  · intro room
    by_cases long : Header.size ≤ length
    · exact room .ones .ones (.ones length) (Octets.length_ones length) long
    · rw [hasRoom_heaviest_iff]
      unfold Header.size at long
      omega
  · rintro room source destination segment rfl -
    have most := segment.wordSum_le_ones
    exact room.of_heavier (Nat.le_refl _) (by simp) (by simpa using most)

theorem forall_hasRoom_blank_iff (length : Nat) :
    (∀ (source destination : Address) (segment : Octets), segment.length = length →
      checksumEnd ≤ length → HasRoom source destination .tcp [withChecksumField segment 0]) ↔
      length ≤ 131042 := by
  constructor
  · intro room
    by_cases long : checksumEnd ≤ length
    · exact (hasRoom_blank_heaviest_iff long).mp
        (room .ones .ones (.ones length) (Octets.length_ones length) long)
    · unfold checksumEnd at long
      omega
  · rintro short source destination segment rfl long
    have room : checksumEnd ≤ (Octets.ones segment.length).length := by rwa [Octets.length_ones]
    have most := (withChecksumField segment 0xffff).wordSum_le_ones
    rw [length_withChecksumField long, ← withChecksumField_ones long,
      wordSum_withChecksumField long, wordSum_withChecksumField room] at most
    refine ((hasRoom_blank_heaviest_iff long).mpr short).of_heavier (Nat.le_refl _) ?_ ?_
    · rw [List.flatten_singleton, List.flatten_singleton, length_withChecksumField long,
        length_withChecksumField room, Octets.length_ones]
    · rw [List.map_singleton, List.map_singleton, List.sum_singleton, List.sum_singleton]
      exact Nat.le_of_add_le_add_right most

theorem withChecksumField_inj (long : checksumEnd ≤ segment.length) {first second : UInt16} :
    withChecksumField segment first = withChecksumField segment second ↔ first = second := by
  constructor
  · intro same
    have sums := congrArg Octets.wordSum same
    rw [wordSum_withChecksumField long first, wordSum_withChecksumField long second] at sums
    exact UInt16.toNat_inj.mp (Nat.add_left_cancel sums)
  · exact congrArg _

theorem fillChecksum_eq_iff (source destination : Address) (long : checksumEnd ≤ segment.length)
    (defined : segment.length < 2 ^ 32) :
    fillChecksum source destination segment = withChecksumField segment
        (Checksum.reference source destination .tcp (withChecksumField segment 0)) ↔
      HasRoom source destination .tcp [withChecksumField segment 0] := by
  have blank : (withChecksumField segment 0).length < 2 ^ 32 := by
    rwa [length_withChecksumField long]
  rw [fillChecksum_eq source destination long, withChecksumField_inj long,
    checksum_segment_eq_reference_iff source destination .tcp blank]

theorem checksumVerifies_of_reference (long : Header.size ≤ segment.length)
    (defined : segment.length < 2 ^ 32)
    (correct : Checksum.reference source destination .tcp segment = 0) :
    checksumVerifies source destination segment ↔ HasRoom source destination .tcp [segment] := by
  rw [checksumVerifies_iff_checksum, and_iff_right long, ← correct,
    checksum_segment_eq_reference_iff source destination .tcp defined]

theorem checksumVerifies_of_hasRoom (defined : segment.length < 2 ^ 32)
    (room : HasRoom source destination .tcp [segment]) :
    checksumVerifies source destination segment ↔
      Header.size ≤ segment.length ∧ Checksum.reference source destination .tcp segment = 0 := by
  rw [checksumVerifies_iff_checksum,
    (checksum_segment_eq_reference_iff source destination .tcp defined).mpr room]

end Tcp

/-- The accumulator has room for every sum that a checksum of data of one length takes if and only
if that length is within a bound: in general, for the payload of a datagram, for a segment into
which the checksum is filled and for one whose checksum is verified. A single sum has room where
all its addends together do. Checked arithmetic gives an answer exactly where the sum has room.
Without it, as long as the pseudo-header can tell the length, what comes out is the checksum as it
is defined exactly where the sum has room; so datagrams and segments carry a right checksum, and
those with a right one are accepted, exactly then. -/
theorem accumulator_fits_by_length (length : Nat) :
    ((∀ (source destination : Address) (next : NextHeader) (parts : List Octets),
      (∀ part ∈ parts.dropLast, part.length % 2 = 0) → parts.flatten.length = length →
        HasRoom source destination next parts) ↔ length ≤ 131039) ∧
    ((∀ (source destination : Address) (sourcePort destinationPort : UInt16) (payload : Octets),
      payload.length = length →
        HasRoom source destination .udp (Udp.blankParts sourcePort destinationPort payload)) ↔
      length ≤ 131034) ∧
    ((∀ (source destination : Address) (segment : Octets), segment.length = length →
      Tcp.checksumEnd ≤ length →
        HasRoom source destination .tcp [Tcp.withChecksumField segment 0]) ↔ length ≤ 131042) ∧
    ((∀ (source destination : Address) (segment : Octets), segment.length = length →
      Tcp.Header.size ≤ length → HasRoom source destination .tcp [segment]) ↔ length ≤ 131040) ∧
    (∀ (source destination : Address) (next : NextHeader) (parts : List Octets),
      parts.flatten.length = length →
        (HasRoom source destination next parts ↔
          (addends source destination next parts).sum < 2 ^ 32) ∧
        (checksum? source destination next parts =
          if HasRoom source destination next parts then
            some (checksum source destination next parts)
          else none) ∧
        ((∀ part ∈ parts.dropLast, part.length % 2 = 0) → length < 2 ^ 32 →
          (checksum source destination next parts =
              reference source destination next parts.flatten ↔
            HasRoom source destination next parts))) ∧
    (∀ (ip : Header) (sourcePort destinationPort : UInt16) (payload : Octets),
      payload.length = length →
        let room := HasRoom ip.source ip.destination .udp
          (Udp.blankParts sourcePort destinationPort payload)
        Udp.AnsweredIff room ip sourcePort destinationPort payload ∧
        (Udp.Header.size + length < 2 ^ 32 →
          Udp.RightIff room ip sourcePort destinationPort payload)) ∧
    ∀ (source destination : Address) (segment : Octets), segment.length = length →
      let blank := Tcp.withChecksumField segment 0
      (Tcp.fillChecksum? source destination segment =
        if Tcp.checksumEnd ≤ length ∧ HasRoom source destination .tcp [blank] then
          some (Tcp.fillChecksum source destination segment)
        else none) ∧
      (Tcp.checksumVerifies? source destination segment =
        if Tcp.Header.size ≤ length → HasRoom source destination .tcp [segment] then
          some (Tcp.checksumVerifies source destination segment)
        else none) ∧
      (length < 2 ^ 32 →
        (Tcp.checksumEnd ≤ length →
          (Tcp.fillChecksum source destination segment =
              Tcp.withChecksumField segment (reference source destination .tcp blank) ↔
            HasRoom source destination .tcp [blank])) ∧
        (Tcp.Header.size ≤ length → reference source destination .tcp segment = 0 →
          (Tcp.checksumVerifies source destination segment ↔
            HasRoom source destination .tcp [segment])) ∧
        (HasRoom source destination .tcp [segment] →
          (Tcp.checksumVerifies source destination segment ↔
            Tcp.Header.size ≤ length ∧ reference source destination .tcp segment = 0))) := by
  refine ⟨forall_hasRoom_iff length, Udp.forall_hasRoom_iff length,
    Tcp.forall_hasRoom_blank_iff length, Tcp.forall_hasRoom_iff length, ?_, ?_, ?_⟩
  · rintro source destination next parts rfl
    exact ⟨hasRoom_iff, checksum?_eq_ite source destination next parts,
      checksum_eq_reference_iff_hasRoom⟩
  · rintro ip sourcePort destinationPort payload rfl
    exact ⟨Udp.answeredIff_hasRoom ip sourcePort destinationPort payload,
      Udp.rightIff_hasRoom ip sourcePort destinationPort⟩
  · rintro source destination segment rfl
    refine ⟨Tcp.fillChecksum?_eq_ite source destination segment,
      Tcp.checksumVerifies?_eq_ite source destination segment, fun defined => ⟨?_, ?_, ?_⟩⟩
    · intro long
      exact Tcp.fillChecksum_eq_iff source destination long defined
    · intro long correct
      exact Tcp.checksumVerifies_of_reference long defined correct
    · exact Tcp.checksumVerifies_of_hasRoom defined

/-- A datagram of ones that is just short enough, and one that is one octet longer; and the longest
segments of ones. -/
theorem longest_fits_by_length :
    let right := Udp.reference .ones .ones 0xffff 0xffff
    let blank := Tcp.withChecksumField (.ones 131042) 0
    (Octets.ones 131034).length = 131034 ∧
      Udp.checksum? .ones .ones 0xffff 0xffff (.ones 131034) = some (right (.ones 131034)) ∧
      (Octets.ones 131035).length = 131035 ∧
      Udp.checksum? .ones .ones 0xffff 0xffff (.ones 131035) = none ∧
      Udp.checksum .ones .ones 0xffff 0xffff (.ones 131035) ≠ right (.ones 131035) ∧
      (Octets.ones 131042).length = 131042 ∧
      Tcp.fillChecksum? .ones .ones (.ones 131042) =
        some (Tcp.withChecksumField (.ones 131042) (reference .ones .ones .tcp blank)) ∧
      (Octets.ones 131040).length = 131040 ∧
      Tcp.checksumVerifies? .ones .ones (.ones 131040) =
        some (Tcp.checksumVerifies .ones .ones (.ones 131040)) ∧
      checksum? .ones .ones ⟨0xff⟩ [.ones 131039] =
        some (reference .ones .ones ⟨0xff⟩ (.ones 131039)) := by
  intro right blank
  have sized (length : Nat) : (Octets.ones length).length = length := Octets.length_ones length
  let ip : Header := { nextHeader := .udp, source := .ones, destination := .ones }
  have long : ¬ HasRoom .ones .ones .udp (Udp.blankParts 0xffff 0xffff (.ones 131035)) := by
    rw [Udp.hasRoom_heaviest_iff]
    decide
  refine ⟨sized _, ?_, sized _, ?_, ?_, sized _, ?_, sized _, ?_, ?_⟩
  · obtain ⟨-, datagrams, -, -, -, datagram, -⟩ := accumulator_fits_by_length 131034
    have room := datagrams.mpr (Nat.le_refl _) .ones .ones 0xffff 0xffff _ (sized _)
    obtain ⟨answered, correct⟩ := datagram ip 0xffff 0xffff _ (sized _)
    exact (answered.computed.trans (if_pos room)).trans
      (congrArg some ((correct (by decide)).made.mpr room))
  · obtain ⟨-, -, -, -, -, datagram, -⟩ := accumulator_fits_by_length 131035
    exact (datagram ip 0xffff 0xffff _ (sized _)).1.computed.trans (if_neg long)
  · obtain ⟨-, -, -, -, -, datagram, -⟩ := accumulator_fits_by_length 131035
    exact mt ((datagram ip 0xffff 0xffff _ (sized _)).2 (by decide)).made.mp long
  · obtain ⟨-, -, segments, -, -, -, segment⟩ := accumulator_fits_by_length 131042
    have room := segments.mpr (Nat.le_refl _) .ones .ones _ (sized _) (by decide)
    obtain ⟨filled, -, correct⟩ := segment .ones .ones _ (sized _)
    rw [filled, if_pos ⟨by decide, room⟩, ((correct (by decide)).1 (by decide)).mpr room]
  · obtain ⟨-, -, -, segments, -, -, segment⟩ := accumulator_fits_by_length 131040
    have room := segments.mpr (Nat.le_refl _) .ones .ones _ (sized _) (by decide)
    obtain ⟨-, verified, -⟩ := segment .ones .ones _ (sized _)
    rw [verified, if_pos fun _ => room]
  · obtain ⟨all, -, -, -, data, -, -⟩ := accumulator_fits_by_length 131039
    have whole : [Octets.ones 131039].flatten = Octets.ones 131039 := List.flatten_singleton
    have length : [Octets.ones 131039].flatten.length = 131039 := by rw [whole, sized]
    have room := all.mpr (Nat.le_refl _) .ones .ones ⟨0xff⟩ _ (by simp) length
    obtain ⟨-, answered, correct⟩ := data .ones .ones ⟨0xff⟩ _ length
    rw [answered, if_pos room, (correct (by simp) (by decide)).mpr room, whole]

/-- The accumulator is exceeded by 65563. There is no checksum, or the carry that is lost is missing
in it. -/
theorem heavy_datagram_exceeds :
    let payload := Octets.ones 131074
    ¬ HasRoom .unspecified .unspecified .udp (Udp.blankParts 0 0 payload) ∧
      Udp.checksum? .unspecified .unspecified 0 0 payload = none ∧
      Udp.checksum .unspecified .unspecified 0 0 payload = 65507 ∧
      Udp.reference .unspecified .unspecified 0 0 payload = 65506 := by
  intro payload
  have addresses : (Address.unspecified.octets ++ Address.unspecified.octets).wordSum = 0 := by
    decide
  have number : NextHeader.udp.number.toNat = 17 := rfl
  have sum : (addends .unspecified .unspecified .udp (Udp.blankParts 0 0 payload)).sum =
      4295032859 := by
    rw [sum_addends_parts, Udp.length_blankParts, Udp.wordSum_blankParts, addresses, number,
      Octets.length_ones, Octets.wordSum_ones]
    decide
  have computed := Udp.toNat_checksum_addends .unspecified .unspecified 0 0 payload
  have exactly := Udp.toNat_reference .unspecified .unspecified 0 0 payload
  rw [sum] at computed exactly
  have long : ¬ HasRoom .unspecified .unspecified .udp (Udp.blankParts 0 0 payload) := by
    rw [hasRoom_iff, sum]
    decide
  refine ⟨long, ?_, UInt16.toNat_inj.mp computed, UInt16.toNat_inj.mp exactly⟩
  rw [Udp.checksum?_eq_ite, if_neg long]

end RadioStack
