import RadioStack.Ip.Header
import RadioStack.Proofs.Octets

/-!
An IPv6 header that has been read is written as it stood in the packet, and one that has been
written is read again. Main statement: `header_codec_inverse`.
-/

namespace RadioStack.Ip

def versionField (packet : Octets) : Nat := (packet.headD 0).toNat / 16

def lengthField (packet : Octets) : Nat := Octets.value ((packet.drop 4).take 2)

theorem value_word_div (v0 v1 v2 v3 : UInt8) :
    Octets.value [v0, v1, v2, v3] / 0x10000000 = v0.toNat / 16 := by
  have := v1.toNat_lt
  have := v2.toNat_lt
  have := v3.toNat_lt
  simp only [Octets.value, List.foldl_cons, List.foldl_nil]
  omega

theorem parse?_isSome_iff (packet : Octets) :
    (parse? packet).isSome ↔ Header.size ≤ packet.length ∧ versionField packet = 6 ∧
      Header.size + lengthField packet ≤ packet.length := by
  unfold parse?
  split
  · rename_i v0 v1 v2 v3 l0 l1 next hopLimit rest
    rw [Option.isSome_ite, value_word_div]
    change v0.toNat / 16 = 6 ∧ 32 + Octets.value [l0, l1] ≤ rest.length ↔
      40 ≤ rest.length + 8 ∧ v0.toNat / 16 = 6 ∧ 40 + Octets.value [l0, l1] ≤ rest.length + 8
    omega
  · rename_i short
    constructor
    · rintro ⟨⟩
    · rintro ⟨long, -, -⟩
      -- Forty octets have a first eight.
      match packet, long with
      | _ :: _ :: _ :: _ :: _ :: _ :: _ :: _ :: _, _ => exact absurd rfl (short _ _ _ _ _ _ _ _ _)

theorem parse?_some {packet payload : Octets} {header : Header}
    (parsed : parse? packet = some (header, payload)) :
    ∃ first rest : Octets, ∃ announced : Nat, first.length = 4 ∧
      packet = first ++ Octets.bigEndian 2 announced ++
        [header.nextHeader.number, header.hopLimit] ++ rest ∧
      announced < 65536 ∧ 32 + announced ≤ rest.length ∧
      Octets.value first / 0x10000000 = 6 ∧
      header.trafficClass = (Octets.value first / 0x100000).toUInt8 ∧
      header.flowLabel = (Octets.value first % 0x100000).toUInt32 ∧
      header.source = Address.ofOctets rest ∧
      header.destination = Address.ofOctets (rest.drop 16) ∧
      payload = (rest.drop 32).take announced := by
  unfold parse? at parsed
  split at parsed
  · rename_i v0 v1 v2 v3 l0 l1 next hopLimit rest
    dsimp only at parsed
    split at parsed
    · rename_i wellFormed
      cases parsed
      refine ⟨[v0, v1, v2, v3], rest, Octets.value [l0, l1], rfl, ?_, Octets.value_pair_lt l0 l1,
        wellFormed.2, wellFormed.1, rfl, rfl, rfl, rfl, rfl⟩
      rw [Octets.bigEndian_pair]
      rfl
    · cases parsed
  · cases parsed

theorem flowLabel_of_parse? {packet payload : Octets} {header : Header}
    (parsed : parse? packet = some (header, payload)) : header.flowLabel.toNat < 0x100000 := by
  obtain ⟨first, -, -, -, -, -, -, -, -, flow, -⟩ := parse?_some parsed
  rw [flow, Nat.toUInt32_eq, UInt32.toNat_ofNat']
  omega

theorem length_of_parse? {packet payload : Octets} {header : Header}
    (parsed : parse? packet = some (header, payload)) :
    payload.length ≤ 65535 ∧ Header.size + payload.length ≤ packet.length := by
  obtain ⟨first, rest, announced, four, rfl, small, long, -, -, -, -, -, rfl⟩ :=
    parse?_some parsed
  simp only [Header.size, List.length_append, List.length_take, List.length_drop,
    Octets.length_bigEndian, List.length_cons, List.length_nil, four]
  omega

theorem length_eq_lengthField {packet payload : Octets} {header : Header}
    (parsed : parse? packet = some (header, payload)) : payload.length = lengthField packet := by
  obtain ⟨first, rest, announced, four, rfl, small, long, -, -, -, -, -, rfl⟩ :=
    parse?_some parsed
  rw [lengthField, List.append_assoc, List.append_assoc, List.drop_left' four,
    List.take_left' (Octets.length_bigEndian 2 announced),
    Octets.value_bigEndian_of_lt 2 announced small, List.length_take, List.length_drop]
  omega

theorem octets_of_parse? {packet payload : Octets} {header : Header}
    (parsed : parse? packet = some (header, payload)) :
    header.octets payload.length.toUInt16 ++ payload =
      packet.take (Header.size + payload.length) := by
  obtain ⟨first, rest, announced, four, rfl, small, long, version, traffic, flow, source,
    destination, rfl⟩ := parse?_some parsed
  have whole := Octets.value_lt first
  have written := Octets.bigEndian_value first
  rw [four] at whole written
  have word : 6 * 0x10000000 + header.trafficClass.toNat * 0x100000 + header.flow =
      Octets.value first := by
    rw [Header.flow, traffic, flow, Nat.toUInt8_eq, Nat.toUInt32_eq, UInt8.toNat_ofNat',
      UInt32.toNat_ofNat']
    omega
  have length : ((rest.drop 32).take announced).length = announced := by
    rw [List.length_take, List.length_drop]
    omega
  have announces : announced.toUInt16.toNat = announced := by
    rw [Nat.toUInt16_eq, UInt16.toNat_ofNat', Nat.mod_eq_of_lt small]
  have addresses : rest.take 16 ++ (rest.drop 16).take 16 ++ (rest.drop 32).take announced =
      rest.take (32 + announced) := by
    rw [← List.take_add, ← List.take_add]
  have front : (first ++ Octets.bigEndian 2 announced ++
      [header.nextHeader.number, header.hopLimit]).length = 8 := by
    simp [four]
  have taken : (first ++ Octets.bigEndian 2 announced ++
      [header.nextHeader.number, header.hopLimit] ++ rest).take (_ + (32 + announced)) = _ :=
    List.take_length_add_append _
  have size : Header.size + announced = 8 + (32 + announced) := by
    rw [Header.size]
    omega
  rw [front] at taken
  rw [length, size, taken, ← addresses, Header.octets, word, announces, written, source,
    destination, Address.octets_ofOctets _ (by omega),
    Address.octets_ofOctets _ (by rw [List.length_drop]; omega)]
  simp only [List.append_assoc]

theorem parse?_append {first : Octets} (four : first.length = 4) {announced : Nat}
    (small : announced < 65536) (next hopLimit : UInt8) (rest : Octets) :
    parse? (first ++ (Octets.bigEndian 2 announced ++ (next :: hopLimit :: rest))) =
      if Octets.value first / 0x10000000 = 6 ∧ 32 + announced ≤ rest.length then
        some ({
          trafficClass := (Octets.value first / 0x100000).toUInt8
          flowLabel := (Octets.value first % 0x100000).toUInt32
          nextHeader := ⟨next⟩
          hopLimit
          source := Address.ofOctets rest
          destination := Address.ofOctets (rest.drop 16)
        }, (rest.drop 32).take announced)
      else none := by
  have field := Octets.value_bigEndian_of_lt 2 announced small
  match first, four with
  | [v0, v1, v2, v3], _ =>
      change Octets.value [(announced / 256).toUInt8, announced.toUInt8] = announced at field
      change parse? (v0 :: v1 :: v2 :: v3 :: (announced / 256).toUInt8 :: announced.toUInt8 ::
        next :: hopLimit :: rest) = _
      rw [parse?, field]

/-- A packet is read as it was written, and what comes after it is left. Of the flow label there are
twenty bits. -/
theorem parse?_octets (header : Header) {payload : Octets} (short : payload.length ≤ 65535)
    (rest : Octets) :
    parse? (header.octets payload.length.toUInt16 ++ (payload ++ rest)) =
      some ({ header with flowLabel := header.flowLabel % 0x100000 }, payload) := by
  have traffic := header.trafficClass.toNat_lt
  have flow : header.flow < 0x100000 := Nat.mod_lt _ (by decide)
  have announced : payload.length.toUInt16.toNat = payload.length := by
    rw [Nat.toUInt16_eq, UInt16.toNat_ofNat', Nat.mod_eq_of_lt (by omega)]
  let word := 6 * 0x10000000 + header.trafficClass.toNat * 0x100000 + header.flow
  have first : Octets.value (Octets.bigEndian 4 word) = word :=
    Octets.value_bigEndian_of_lt 4 word (by omega)
  have trafficClass : (word / 0x100000).toUInt8 = header.trafficClass := by
    apply UInt8.toNat_inj.mp
    rw [Nat.toUInt8_eq, UInt8.toNat_ofNat']
    omega
  have flowLabel : (word % 0x100000).toUInt32 = header.flowLabel % 0x100000 := by
    apply UInt32.toNat_inj.mp
    rw [Nat.toUInt32_eq, UInt32.toNat_ofNat', UInt32.toNat_mod]
    change _ = header.flow
    omega
  have parted : header.octets payload.length.toUInt16 ++ (payload ++ rest) =
      Octets.bigEndian 4 word ++ (Octets.bigEndian 2 payload.length ++
        (header.nextHeader.number :: header.hopLimit ::
          (header.source.octets ++ (header.destination.octets ++ (payload ++ rest))))) := by
    rw [Header.octets, announced]
    simp only [List.append_assoc, List.cons_append, List.nil_append]
    rfl
  have read : word / 0x10000000 = 6 ∧ 32 + payload.length ≤
      (header.source.octets ++ (header.destination.octets ++ (payload ++ rest))).length := by
    simp only [List.length_append, Address.length_octets]
    omega
  have behind : (header.source.octets ++
      (header.destination.octets ++ (payload ++ rest))).drop 32 = payload ++ rest := by
    rw [← List.append_assoc, List.drop_left' (by simp)]
  rw [parted, parse?_append (Octets.length_bigEndian 4 word) (by omega), first, if_pos read,
    trafficClass, flowLabel, behind, List.take_left' rfl, Address.ofOctets_append,
    List.drop_left' (Address.length_octets _), Address.ofOctets_append]

theorem Header.emit?_eq (header : Header) (payloadLength : UInt16) {buffer : Octets}
    (room : size ≤ buffer.length) :
    header.emit? payloadLength buffer =
      some (header.octets payloadLength ++ buffer.drop size) := by
  rw [emit?, Octets.overwrite?, length_octets, if_pos room]

theorem emit?_of_parse? {packet payload : Octets} {header : Header}
    (parsed : parse? packet = some (header, payload)) {buffer : Octets}
    (room : Header.size ≤ buffer.length) :
    header.emit? payload.length.toUInt16 buffer =
      some (packet.take Header.size ++ buffer.drop Header.size) := by
  have front := congrArg (List.take Header.size) (octets_of_parse? parsed)
  rw [List.take_left' (Header.length_octets _ _), List.take_take,
    Nat.min_eq_left (Nat.le_add_right _ _)] at front
  rw [header.emit?_eq _ room, front]

theorem payload_of_parse? {packet payload : Octets} {header : Header}
    (parsed : parse? packet = some (header, payload)) :
    payload = (packet.drop Header.size).take (lengthField packet) := by
  have behind := congrArg (List.drop Header.size) (octets_of_parse? parsed)
  rw [List.drop_left' (Header.length_octets _ _), List.drop_take, Nat.add_sub_cancel_left,
    length_eq_lengthField parsed] at behind
  exact behind

/-- Reading and writing are inverse to each other, whatever a buffer held before: on every octet
string that is read, and on every header up to the twelve bits of the flow label that have no place
in it. -/
theorem header_codec_inverse :
    (∀ packet : Octets,
      ((parse? packet).isSome ↔ Header.size ≤ packet.length ∧ versionField packet = 6 ∧
        Header.size + lengthField packet ≤ packet.length) ∧
      ∀ header payload, parse? packet = some (header, payload) →
        payload = (packet.drop Header.size).take (lengthField packet) ∧
        payload.length = lengthField packet ∧
        ∀ buffer : Octets, Header.size ≤ buffer.length →
          header.emit? payload.length.toUInt16 buffer =
            some (packet.take Header.size ++ buffer.drop Header.size)) ∧
    ∀ (header : Header) (payload rest buffer : Octets), payload.length ≤ 65535 →
      Header.size ≤ buffer.length →
      ∃ emitted, header.emit? payload.length.toUInt16 buffer = some emitted ∧
        parse? (emitted.take Header.size ++ (payload ++ rest)) =
          some ({ header with flowLabel := header.flowLabel % 0x100000 }, payload) := by
  constructor
  · intro packet
    refine ⟨parse?_isSome_iff packet, ?_⟩
    intro header payload parsed
    exact ⟨payload_of_parse? parsed, length_eq_lengthField parsed,
      fun buffer room => emit?_of_parse? parsed room⟩
  · intro header payload rest buffer short room
    refine ⟨_, header.emit?_eq _ room, ?_⟩
    rw [List.take_left' (Header.length_octets _ _)]
    exact parse?_octets header short rest

/-- A flow label of thirty-two bits, written over octets that are all set and read with two octets
behind the payload, and the packet read back. -/
theorem labelled_codec_inverse :
    let header : Header := ⟨0xab, 0xfff12345, ⟨0x11⟩, 64, ⟨1, 2⟩, ⟨3, 4⟩⟩
    let read : Header := ⟨0xab, 0x12345, ⟨0x11⟩, 64, ⟨1, 2⟩, ⟨3, 4⟩⟩
    let stale : Octets := List.replicate 41 0xff
    let packet := header.octets 3 ++ [7, 8, 9, 0, 0]
    header.emit? 3 stale = some (header.octets 3 ++ [0xff]) ∧
      parse? packet = some (read, [7, 8, 9]) ∧
      read.emit? 3 stale = some (packet.take Header.size ++ [0xff]) := by
  intro header read stale packet
  obtain ⟨emitted, written, parsed⟩ :=
    header_codec_inverse.2 header [7, 8, 9] [0, 0] stale (by decide) (by decide)
  have front : header.emit? 3 stale = some (header.octets 3 ++ [0xff]) :=
    header.emit?_eq 3 (by decide)
  cases written.symm.trans front
  have label : header.flowLabel % 0x100000 = read.flowLabel := by decide
  rw [List.take_left' (Header.length_octets _ _), label] at parsed
  exact ⟨front, parsed,
    ((header_codec_inverse.1 packet).2 read [7, 8, 9] parsed).2.2 stale (by decide)⟩

end RadioStack.Ip
