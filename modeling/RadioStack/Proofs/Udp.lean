import RadioStack.Proofs.Ip.OnesComplement
import RadioStack.Udp

/-!
A UDP datagram that has been read is written as it was, and one that has been written is read again.
A checksum is the one that would be computed for its datagram if and only if there is one and the
datagram sums up to nothing with it. Main statement: `verifies_iff_sums`.
-/

namespace RadioStack.Udp

theorem octets_of_parse? {datagram payload : Octets} {header : Header}
    (parsed : parse? datagram = some (header, payload))
    (whole : Octets.value ((datagram.drop 4).take 2) = datagram.length) :
    header.octets payload.length ++ payload = datagram := by
  unfold parse? at parsed
  split at parsed
  · rename_i s0 s1 d0 d1 l0 l1 c0 c1 rest
    change Octets.value [l0, l1] = rest.length + 8 at whole
    have small := Octets.value_pair_lt l0 l1
    have word (high low : UInt8) : (Octets.value [high, low]).toUInt16.toNat =
        Octets.value [high, low] := by
      rw [Nat.toUInt16_eq, UInt16.toNat_ofNat', Nat.mod_eq_of_lt (Octets.value_pair_lt high low)]
    dsimp only at parsed
    rw [whole, Header.size, Nat.add_sub_cancel, List.take_of_length_le (Nat.le_refl _)] at parsed
    split at parsed
    · cases parsed
      have field : Header.lengthField payload.length = Octets.value [l0, l1] := by
        rw [Header.lengthField, Header.size]
        omega
      rw [Header.octets, field, word, word, word, Octets.bigEndian_pair, Octets.bigEndian_pair,
        Octets.bigEndian_pair, Octets.bigEndian_pair]
      rfl
    · cases parsed
  · cases parsed

theorem parse?_octets (header : Header) {payload : Octets} (short : payload.length ≤ 65527) :
    parse? (header.octets payload.length ++ payload) = some (header, payload) := by
  have word (number : UInt16) :
      (Octets.value (Octets.bigEndian 2 number.toNat)).toUInt16 = number := by
    rw [Octets.value_bigEndian_of_lt 2 _ number.toNat_lt, Nat.toUInt16_eq, UInt16.ofNat_toNat]
  have field : Header.lengthField payload.length = payload.length + Header.size := by
    rw [Header.lengthField, Header.size]
    omega
  have length : Octets.value (Octets.bigEndian 2 (payload.length + Header.size)) =
      payload.length + Header.size :=
    Octets.value_bigEndian_of_lt 2 _ (by rw [Header.size]; omega)
  have opened : parse? (header.octets payload.length ++ payload) =
      if Header.size ≤ Octets.value (Octets.bigEndian 2 (Header.lengthField payload.length)) ∧
          Octets.value (Octets.bigEndian 2 (Header.lengthField payload.length)) ≤
            payload.length + Header.size then
        some (⟨(Octets.value (Octets.bigEndian 2 header.source.toNat)).toUInt16,
          (Octets.value (Octets.bigEndian 2 header.destination.toNat)).toUInt16,
          (Octets.value (Octets.bigEndian 2 header.checksum.toNat)).toUInt16⟩,
          payload.take (Octets.value (Octets.bigEndian 2 (Header.lengthField payload.length)) -
            Header.size))
      else none := rfl
  rw [opened, field, length, if_pos ⟨Nat.le_add_left _ _, Nat.le_refl _⟩, word, word, word,
    Nat.add_sub_cancel, List.take_of_length_le (Nat.le_refl _)]

/-- A datagram that fills its packet and whose checksum is there and right. -/
structure Intact (ip : Ip.Header) (datagram : Octets) : Prop where
  parsed : ∃ header payload, parse? datagram = some (header, payload) ∧ header.checksum ≠ 0
  whole : Octets.value ((datagram.drop 4).take 2) = datagram.length
  verified : Ip.checksum ip.source ip.destination .udp [datagram] = 0

theorem wordSum_octets (header : Header) (length : Nat) :
    (header.octets length).wordSum = header.source.toNat + header.destination.toNat +
      Header.lengthField length + header.checksum.toNat := by
  have field : Header.lengthField length < 65536 := by
    rw [Header.lengthField]
    omega
  rw [Header.octets, Octets.wordSum_append _ _ (by simp), Octets.wordSum_append _ _ (by simp),
    Octets.wordSum_append _ _ (by simp), Octets.wordSum_bigEndian header.source.toNat_lt,
    Octets.wordSum_bigEndian header.destination.toNat_lt, Octets.wordSum_bigEndian field,
    Octets.wordSum_bigEndian header.checksum.toNat_lt]

theorem total_octets (source destination : Address) (header : Header) (payload : Octets) :
    Ip.Checksum.total source destination .udp (header.octets payload.length ++ payload) =
      Ip.Checksum.total source destination .udp
          (({ header with checksum := 0 } : Header).octets payload.length ++ payload) +
        header.checksum.toNat := by
  have zero : (0 : UInt16).toNat = 0 := rfl
  have sum (header : Header) : (header.octets payload.length ++ payload).wordSum =
      (header.octets payload.length).wordSum + payload.wordSum :=
    Octets.wordSum_append _ _ (by simp [Header.size])
  rw [Ip.Checksum.total, Ip.Checksum.total, List.length_append, List.length_append,
    Header.length_octets, Header.length_octets, sum, sum, wordSum_octets, wordSum_octets]
  dsimp only
  rw [zero]
  omega

theorem nonzero_eq (sum : UInt16) : nonzero sum = if sum = 0 then 0xffff else sum := by
  unfold nonzero
  split <;> simp_all

theorem length_datagram_le (header : Header) {payload : Octets} (short : payload.length ≤ 65527) :
    (header.octets payload.length ++ payload).length ≤ 65535 := by
  rw [List.length_append, Header.length_octets, Header.size]
  omega

theorem toNat_nonzero {sum : UInt16} {residue : Nat} (bounded : residue ≤ 65535)
    (whole : sum.toNat = 65535 - residue) :
    (nonzero sum).toNat = if residue = 65535 then 65535 else 65535 - residue := by
  have zero : sum = 0 ↔ residue = 65535 := by
    rw [← UInt16.toNat_inj, whole]
    change 65535 - residue = 0 ↔ _
    omega
  rw [nonzero_eq]
  by_cases full : residue = 65535
  · rw [if_pos (zero.mpr full), if_pos full]
    rfl
  · rw [if_neg (mt zero.mp full), if_neg full, whole]

theorem toNat_checksum (source destination : Address) (sourcePort destinationPort : UInt16)
    {payload : Octets} (short : payload.length ≤ 65527) :
    let sum := Ip.Checksum.residue (Ip.Checksum.total source destination .udp
      ((⟨sourcePort, destinationPort, 0⟩ : Header).octets payload.length ++ payload))
    (Udp.checksum source destination sourcePort destinationPort payload).toNat =
      if sum = 65535 then 65535 else 65535 - sum := by
  intro sum
  let blank : Header := ⟨sourcePort, destinationPort, 0⟩
  have bounded : sum ≤ 65535 := Ip.Checksum.residue_le _
  have computed : (Ip.checksum source destination .udp
      (blankParts sourcePort destinationPort payload)).toNat = 65535 - sum := by
    rw [blankParts, Ip.toNat_checksum (by simp [Header.size])
        (by simpa using length_datagram_le blank short),
      List.flatten_cons, List.flatten_singleton]
  exact toNat_nonzero bounded computed

theorem checksum_eq_iff {source destination : Address} (header : Header) {payload : Octets}
    (short : payload.length ≤ 65527) :
    Udp.checksum source destination header.source header.destination payload = header.checksum ↔
      header.checksum ≠ 0 ∧
        Ip.checksum source destination .udp [header.octets payload.length ++ payload] = 0 := by
  have positive : header.checksum ≠ 0 ↔ 0 < header.checksum.toNat := by
    rw [Nat.pos_iff_ne_zero, ne_eq, ← UInt16.toNat_inj]
    rfl
  rw [Ip.checksum_eq_zero_iff (length_datagram_le header short), total_octets, positive,
    Ip.Checksum.residue_add_eq_iff (Nat.le_of_lt_succ header.checksum.toNat_lt), eq_comm,
    ← UInt16.toNat_inj, toNat_checksum source destination _ _ short]

theorem Intact.ofPayload {ip : Ip.Header} {datagram : Octets} (intact : Intact ip datagram) :
    ∃ header payload, parse? datagram = some (header, payload) ∧
      Header.ofPayload ip header.source header.destination payload = header ∧
      header.octets payload.length ++ payload = datagram := by
  obtain ⟨header, payload, parsed, present⟩ := intact.parsed
  have written := octets_of_parse? parsed intact.whole
  have short : payload.length ≤ 65527 := by
    have field := Octets.value_lt ((datagram.drop 4).take 2)
    have pair : 256 ^ ((datagram.drop 4).take 2).length ≤ 256 ^ 2 :=
      Nat.pow_le_pow_right (by decide) (List.length_take_le _ _)
    have length := congrArg List.length written
    rw [List.length_append, Header.length_octets, Header.size] at length
    rw [intact.whole] at field
    omega
  have verified := intact.verified
  rw [← written] at verified
  have computed := (checksum_eq_iff header short).mpr ⟨present, verified⟩
  refine ⟨header, payload, parsed, ?_, written⟩
  rw [Header.ofPayload, computed]

/-- A checksum can be computed again and compared, or summed together with the datagram that carries
it: unless there is none, both tell the same. The computed one is there, and right in both ways. -/
theorem verifies_iff_sums (ip : Ip.Header) (header : Header) {payload : Octets}
    (short : payload.length ≤ 65527) :
    let datagram := header.octets payload.length ++ payload
    (header.verifies ip payload ↔ header.checksum ≠ 0 ∧
      Ip.Checksum.onesSum (Ip.Checksum.pseudoOctets ip.source ip.destination .udp datagram.length ++
        datagram) = 0xffff) ∧
    (header.verifies ip payload ↔ header.checksum ≠ 0 ∧
      Ip.checksum ip.source ip.destination .udp [datagram] = 0) ∧
    ∀ source destination : UInt16,
      let made := Header.ofPayload ip source destination payload
      made.checksum ≠ 0 ∧ made.verifies ip payload ∧
        Ip.checksum ip.source ip.destination .udp [made.octets payload.length ++ payload] = 0 := by
  intro datagram
  have summed (header : Header) : header.verifies ip payload ↔ header.checksum ≠ 0 ∧
      Ip.checksum ip.source ip.destination .udp [header.octets payload.length ++ payload] = 0 := by
    rw [Header.verifies, beq_iff_eq]
    exact checksum_eq_iff header short
  refine ⟨?_, summed header, ?_⟩
  · rw [summed, Ip.checksum_eq_zero_iff_onesSum (length_datagram_le header short)]
  · intro source destination made
    have verified : made.verifies ip payload := beq_self_eq_true _
    obtain ⟨present, nothing⟩ := (summed made).mp verified
    exact ⟨present, verified, nothing⟩

/-- A datagram whose checksum is computed as zero: it carries 65535, and zero does not verify though
it sums up to the same. -/
theorem full_verifies_iff_sums :
    let ip : Ip.Header := { nextHeader := .udp, source := .allRouters, destination := .allNodes }
    let full : Header := ⟨0xd0, 4, 0xffff⟩
    let empty : Header := ⟨0xd0, 4, 0⟩
    [(1 : UInt8)].length ≤ 65527 ∧ full.verifies ip [1] ∧
      Ip.checksum ip.source ip.destination .udp [full.octets 1 ++ [1]] = 0 ∧
      ¬ empty.verifies ip [1] ∧
      Ip.checksum ip.source ip.destination .udp [empty.octets 1 ++ [1]] = 0 := by
  intro ip full empty
  have short : [(1 : UInt8)].length ≤ 65527 := by decide
  obtain ⟨folds, sums, -⟩ := verifies_iff_sums ip full short
  have verified : full.verifies ip [1] := folds.mpr ⟨by decide, by decide +kernel⟩
  refine ⟨short, verified, (sums.mp verified).2, ?_, ?_⟩
  · intro absent
    exact ((verifies_iff_sums ip empty short).1.mp absent).1 rfl
  · exact (Ip.checksum_eq_zero_iff_onesSum (length_datagram_le empty short)).mpr (by decide +kernel)

end RadioStack.Udp
