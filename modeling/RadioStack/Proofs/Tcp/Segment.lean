import RadioStack.Proofs.Ip.Accumulator
import RadioStack.Proofs.Ip.Words
import RadioStack.Tcp.Segment

/-!
A segment whose checksum has been filled in verifies, and is read as it was written. Main
statements: `checksumVerifies_fillChecksum`, `Segment.parse?_octets` and, with the octet strings
that are read, `segment_codec_inverse`.
-/

namespace RadioStack.Tcp

variable {segment : Octets}

theorem length_beforeChecksum (long : checksumEnd ≤ segment.length) :
    (segment.take checksumStart).length = checksumStart := by
  rw [List.length_take]
  exact Nat.min_eq_left (Nat.le_trans (by decide) long)

theorem withChecksumField_twice (long : checksumEnd ≤ segment.length) (first second : UInt16) :
    withChecksumField (withChecksumField segment first) second =
      withChecksumField segment second := by
  have front := length_beforeChecksum long
  have field : (segment.take checksumStart ++ Octets.bigEndian 2 first.toNat).length =
      checksumEnd := by
    rw [List.length_append, front, Octets.length_bigEndian]
    rfl
  rw [withChecksumField, withChecksumField, withChecksumField, List.drop_left' field,
    List.append_assoc (segment.take checksumStart), List.take_left' front]

theorem withChecksumField_eq (segment : Octets) (sum : UInt16) :
    withChecksumField segment sum = segment.withWord 8 (Octets.bigEndian 2 sum.toNat) := rfl

theorem length_field (long : checksumEnd ≤ segment.length) (sum : UInt16) :
    (Octets.bigEndian 2 sum.toNat).length = (segment.wordAt 8).length := by
  unfold checksumEnd at long
  rw [Octets.length_bigEndian, Octets.length_wordAt]
  omega

theorem length_withChecksumField (long : checksumEnd ≤ segment.length) (sum : UInt16) :
    (withChecksumField segment sum).length = segment.length :=
  Octets.length_withWord (length_field long sum)

theorem fillChecksum_eq (source destination : Address) (long : checksumEnd ≤ segment.length) :
    fillChecksum source destination segment = withChecksumField segment
      (Ip.checksum source destination .tcp [withChecksumField segment 0]) :=
  withChecksumField_twice long _ _

theorem fillChecksum?_eq_ite (source destination : Address) (segment : Octets) :
    fillChecksum? source destination segment =
      if checksumEnd ≤ segment.length ∧
          Ip.Checksum.HasRoom source destination .tcp [withChecksumField segment 0] then
        some (fillChecksum source destination segment)
      else none := by
  rw [fillChecksum?]
  by_cases long : checksumEnd ≤ segment.length
  · simp only [long, true_and, if_true, Ip.Checksum.checksum?_eq_ite]
    split <;> rfl
  · rw [if_neg long, if_neg fun both => long both.1]

theorem fillChecksum?_of_short (source destination : Address)
    (long : checksumEnd ≤ segment.length) (short : segment.length ≤ 65535) :
    fillChecksum? source destination segment = some (fillChecksum source destination segment) := by
  have blank : [withChecksumField segment 0].flatten.length ≤ 65535 := by
    rwa [List.flatten_singleton, length_withChecksumField long]
  rw [fillChecksum?_eq_ite, if_pos ⟨long, .of_short (by simp) blank⟩]

theorem total_withChecksumField (source destination : Address)
    (long : checksumEnd ≤ segment.length) (sum : UInt16) :
    Ip.Checksum.total source destination .tcp (withChecksumField segment sum) =
      Ip.Checksum.total source destination .tcp (withChecksumField segment 0) + sum.toNat := by
  have inside : 2 * 8 < segment.length := Nat.lt_of_lt_of_le (by decide) long
  have filled := Ip.Checksum.total_withWord source destination .tcp inside (length_field long sum)
  have blank := Ip.Checksum.total_withWord source destination .tcp inside (length_field long 0)
  rw [Octets.wordSum_bigEndian sum.toNat_lt] at filled
  rw [Octets.wordSum_bigEndian (0 : UInt16).toNat_lt] at blank
  have zero : (0 : UInt16).toNat = 0 := rfl
  rw [withChecksumField_eq, withChecksumField_eq]
  omega

theorem checksumVerifies_iff_checksum (source destination : Address) (segment : Octets) :
    checksumVerifies source destination segment ↔
      Header.size ≤ segment.length ∧ Ip.checksum source destination .tcp [segment] = 0 := by
  rw [checksumVerifies, Bool.and_eq_true, decide_eq_true_eq, beq_iff_eq]

theorem checksumVerifies?_eq_ite (source destination : Address) (segment : Octets) :
    checksumVerifies? source destination segment =
      if Header.size ≤ segment.length → Ip.Checksum.HasRoom source destination .tcp [segment] then
        some (checksumVerifies source destination segment)
      else none := by
  rw [checksumVerifies?, checksumVerifies]
  by_cases long : Header.size ≤ segment.length
  · simp only [long, true_imp_iff, if_true, decide_true, Bool.true_and,
      Ip.Checksum.checksum?_eq_ite]
    split <;> rfl
  · rw [if_neg long, if_pos fun long' => absurd long' long, decide_eq_false long, Bool.false_and]

theorem checksumVerifies?_of_short (source destination : Address)
    (short : segment.length ≤ 65535) :
    checksumVerifies? source destination segment =
      some (checksumVerifies source destination segment) := by
  rw [checksumVerifies?_eq_ite, if_pos fun _ => .of_short (by simp) (by simpa using short)]

theorem checksumVerifies_iff (source destination : Address) (short : segment.length ≤ 65535) :
    checksumVerifies source destination segment ↔ Header.size ≤ segment.length ∧
      Ip.Checksum.residue (Ip.Checksum.total source destination .tcp segment) = 65535 := by
  rw [checksumVerifies_iff_checksum, Ip.checksum_eq_zero_iff short]

theorem checksumVerifies_fillChecksum (source destination : Address)
    (long : Header.size ≤ segment.length) (short : segment.length ≤ 65535) :
    checksumVerifies source destination (fillChecksum source destination segment) := by
  have room : checksumEnd ≤ segment.length := Nat.le_trans (by decide) long
  have length (sum : UInt16) := length_withChecksumField room sum
  have blank : (withChecksumField segment 0).length ≤ 65535 := by
    rw [length]
    exact short
  have computed : (Ip.checksum source destination .tcp [withChecksumField segment 0]).toNat = _ :=
    Ip.toNat_checksum (by simp) (by simpa using blank)
  rw [List.flatten_singleton] at computed
  rw [fillChecksum_eq source destination room,
    checksumVerifies_iff source destination (by rw [length]; exact short), length,
    total_withChecksumField source destination room, computed]
  exact ⟨long, Ip.Checksum.residue_add_complement _⟩

def Flags.inUse (flags : Flags) : Prop := flags.bits &&& 0x3f = flags.bits

theorem parse?_withChecksumField (header : Header) (payload : Octets) (sum : UInt16) :
    parse? (withChecksumField (header.octets ++ payload) sum) =
      some ({ header with flags := ⟨header.flags.bits &&& 0x3f⟩ }, payload) := by
  have source := Octets.value_bigEndian_of_lt 2 _ header.sourcePort.toNat_lt
  have destination := Octets.value_bigEndian_of_lt 2 _ header.destinationPort.toNat_lt
  have sequence := Octets.value_bigEndian_of_lt 4 _ header.sequence.toNat_lt
  have acknowledgment := Octets.value_bigEndian_of_lt 4 _ header.acknowledgment.toNat_lt
  have window := Octets.value_bigEndian_of_lt 2 _ header.window.toNat_lt
  have written : parse? (withChecksumField (header.octets ++ payload) sum) =
      if Header.size ≤ 20 ∧ 20 ≤ payload.length + 20 then
        some (⟨(Octets.value (Octets.bigEndian 2 header.sourcePort.toNat)).toUInt16,
          (Octets.value (Octets.bigEndian 2 header.destinationPort.toNat)).toUInt16,
          (Octets.value (Octets.bigEndian 4 header.sequence.toNat)).toUInt32,
          (Octets.value (Octets.bigEndian 4 header.acknowledgment.toNat)).toUInt32,
          ⟨header.flags.bits &&& 0x3f⟩,
          (Octets.value (Octets.bigEndian 2 header.window.toNat)).toUInt16⟩, payload)
      else none := by
    simp only [withChecksumField, Header.octets, Octets.bigEndian, List.cons_append,
      List.nil_append, checksumStart, checksumEnd, List.take_succ_cons, List.drop_succ_cons,
      List.take_zero, List.drop_zero]
    rfl
  rw [written, if_pos ⟨Nat.le_refl _, Nat.le_add_left _ _⟩, source, destination, sequence,
    acknowledgment, window]
  simp only [Nat.toUInt16_eq, Nat.toUInt32_eq, UInt16.ofNat_toNat, UInt32.ofNat_toNat]

theorem Header.checksumEnd_le (header : Header) (payload : Octets) :
    checksumEnd ≤ (header.octets ++ payload).length := by
  rw [List.length_append, length_octets]
  exact Nat.le_trans (by decide) (Nat.le_add_right _ _)

theorem parse?_fillChecksum (source destination : Address) (header : Header) (payload : Octets) :
    parse? (fillChecksum source destination (header.octets ++ payload)) =
      some ({ header with flags := ⟨header.flags.bits &&& 0x3f⟩ }, payload) := by
  rw [fillChecksum_eq _ _ (header.checksumEnd_le payload), parse?_withChecksumField]

namespace Segment

theorem length_octets (segment : Segment) :
    segment.octets.length = Header.size + segment.payload.length := by
  have long := segment.header.checksumEnd_le segment.payload
  rw [octets, fillChecksum_eq _ _ long, length_withChecksumField long, List.length_append,
    Header.length_octets]

theorem checksumVerifies_octets (segment : Segment) (short : segment.payload.length ≤ 65515) :
    checksumVerifies segment.ip.source segment.ip.destination segment.octets := by
  apply checksumVerifies_fillChecksum
  · rw [List.length_append, Header.length_octets]
    exact Nat.le_add_right _ _
  · rw [List.length_append, Header.length_octets, Header.size]
    omega

theorem parse?_octets (segment : Segment) (used : segment.header.flags.inUse) :
    parse? segment.octets = some (segment.header, segment.payload) := by
  rw [octets, parse?_fillChecksum, used]

end Segment

/-- The high half of the thirteenth octet: how many words of four octets a header takes. -/
def dataOffset (octets : Octets) : Nat := (octets.getD 12 0).toNat / 16

theorem parse?_isSome_iff (octets : Octets) :
    (parse? octets).isSome ↔ Header.size ≤ octets.length ∧ 5 ≤ dataOffset octets ∧
      4 * dataOffset octets ≤ octets.length := by
  unfold parse?
  split
  · rename_i s0 s1 d0 d1 q0 q1 q2 q3 a0 a1 a2 a3 offset flags w0 w1 c0 c1 u0 u1 rest
    rw [Option.isSome_ite]
    change 20 ≤ 4 * (offset.toNat / 16) ∧ 4 * (offset.toNat / 16) ≤ rest.length + 20 ↔
      20 ≤ rest.length + 20 ∧ 5 ≤ offset.toNat / 16 ∧ 4 * (offset.toNat / 16) ≤ rest.length + 20
    omega
  · rename_i short
    constructor
    · rintro ⟨⟩
    · rintro ⟨long, -, -⟩
      obtain ⟨front, behind, rfl, twenty⟩ :
          ∃ front behind, front ++ behind = octets ∧ front.length = 20 :=
        ⟨_, _, octets.take_append_drop 20, List.length_take_of_le long⟩
      match front, twenty, short with
      | [_, _, _, _, _, _, _, _, _, _, _, _, _, _, _, _, _, _, _, _], _, short =>
          exact absurd rfl (short _ _ _ _ _ _ _ _ _ _ _ _ _ _ _ _ _ _ _ _ _)

theorem payload_of_parse? {octets payload : Octets} {header : Header}
    (parsed : parse? octets = some (header, payload)) :
    payload = octets.drop (4 * dataOffset octets) := by
  unfold parse? at parsed
  split at parsed
  · dsimp only at parsed
    split at parsed
    · cases parsed
      rfl
    · cases parsed
  · cases parsed

theorem Header.emit?_eq (header : Header) {buffer : Octets} (room : size ≤ buffer.length) :
    header.emit? buffer = some (header.octets ++ buffer.drop size) := by
  rw [emit?, Octets.overwrite?, length_octets, if_pos room]

/-- A segment that was put together in a buffer, whatever that held before, verifies and is read
again, but for flags that are not in use; and what is read is known by its length and the offset it
announces. -/
theorem segment_codec_inverse :
    (∀ (header : Header) (payload buffer : Octets) (source destination : Address),
      payload.length ≤ 65515 → buffer.length = Header.size + payload.length →
      ∃ emitted segment, header.emit? buffer = some emitted ∧
        fillChecksum? source destination (emitted.take Header.size ++ payload) = some segment ∧
        segment.length = buffer.length ∧
        checksumVerifies source destination segment ∧
        parse? segment = some ({ header with flags := ⟨header.flags.bits &&& 0x3f⟩ }, payload) ∧
        (parse? segment = some (header, payload) ↔ header.flags.inUse)) ∧
    ∀ octets : Octets,
      ((parse? octets).isSome ↔ Header.size ≤ octets.length ∧ 5 ≤ dataOffset octets ∧
        4 * dataOffset octets ≤ octets.length) ∧
      ∀ header payload, parse? octets = some (header, payload) →
        payload = octets.drop (4 * dataOffset octets) := by
  constructor
  · intro header payload buffer source destination short sized
    let segment : Segment := ⟨⟨0, 0, .tcp, 64, source, destination⟩, header, payload⟩
    have parsed := parse?_fillChecksum source destination header payload
    refine ⟨_, segment.octets, header.emit?_eq (by omega), ?_, ?_,
      segment.checksumVerifies_octets short, parsed, ?_⟩
    · rw [List.take_left' header.length_octets]
      apply fillChecksum?_of_short _ _ (header.checksumEnd_le payload)
      rw [List.length_append, header.length_octets, Header.size]
      omega
    · rw [segment.length_octets, sized]
    · constructor
      · intro whole
        have same := Option.some.inj (parsed.symm.trans whole)
        exact congrArg (fun read => read.1.flags.bits) same
      · exact segment.parse?_octets
  · intro octets
    exact ⟨parse?_isSome_iff octets, fun header payload parsed => payload_of_parse? parsed⟩

/-- Three octets of data with PSH, put together over octets that are all set. -/
theorem pushed_codec_inverse :
    let header : Header := ⟨0xf0b1, 80, 0xdeadbeef, 1, .ack ||| .psh, 128⟩
    ∃ emitted segment, header.emit? (List.replicate 23 0xff) = some emitted ∧
      fillChecksum? .unspecified .allNodes (emitted.take Header.size ++ [1, 2, 3]) =
        some segment ∧
      checksumVerifies .unspecified .allNodes segment ∧
      parse? segment = some (header, [1, 2, 3]) ∧
      [1, 2, 3] = segment.drop (4 * dataOffset segment) := by
  intro header
  obtain ⟨emitted, segment, written, filled, -, verified, -, whole⟩ :=
    segment_codec_inverse.1 header [1, 2, 3] (List.replicate 23 0xff) .unspecified .allNodes
      (by decide) (by decide)
  have used : header.flags.bits &&& 0x3f = header.flags.bits := by decide
  have parsed := whole.mpr used
  exact ⟨emitted, segment, written, filled, verified, parsed,
    (segment_codec_inverse.2 segment).2 header [1, 2, 3] parsed⟩

/-- A seventh flag is written and summed up, but not read. -/
theorem reserved_flag_unread :
    let header : Header := ⟨0xf0b1, 80, 0xdeadbeef, 1, ⟨0x50⟩, 128⟩
    let segment : Octets :=
      [0xf0, 0xb1, 0, 80, 0xde, 0xad, 0xbe, 0xef, 0, 0, 0, 1, 0x50, 0x50, 0, 128, 0x23, 0x70, 0, 0]
    let source := Address.linkLocal 1
    let destination := Address.linkLocal 2
    ∃ emitted, header.emit? (List.replicate 20 0xff) = some emitted ∧
      fillChecksum? source destination emitted = some segment ∧
      checksumVerifies source destination segment ∧
      parse? segment = some ({ header with flags := .ack }, []) ∧
      parse? segment ≠ some (header, []) := by
  intro header segment source destination
  exact ⟨header.octets, by decide, by decide +kernel, by decide +kernel, by decide, by decide⟩

end RadioStack.Tcp
