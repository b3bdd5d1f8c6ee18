import RadioStack.Compression.InPlace
import RadioStack.Proofs.Compression.Restore
import RadioStack.Proofs.Compression.Shortest

/-!
A packet that has been read is written in full or not at all, whatever was read: a buffer in which
it does not fit stays as it was, and no write goes past the end of one in which it does. Main
statement: `decompress_exact`.
-/

namespace RadioStack

namespace Octets

variable {written field room : Octets}

theorem within?_overwrite? (fits : field.length ≤ room.length) :
    within? written.length (written ++ room).length (overwrite? field) (written ++ room) =
      some (written ++ field ++ room.drop field.length) := by
  have inside : written.length ≤ (written ++ room).length ∧
      (written ++ room).length ≤ (written ++ room).length := by simp
  rw [within?, if_pos inside, List.take_length, List.drop_left' rfl, overwrite?, if_pos fits,
    Option.map_some, List.take_left' rfl, List.drop_length, List.append_nil, List.append_assoc]

theorem within?_replace? (fits : field.length ≤ room.length) :
    within? written.length (written.length + field.length) (replace? field) (written ++ room) =
      some (written ++ field ++ room.drop field.length) := by
  have inside : written.length ≤ written.length + field.length ∧
      written.length + field.length ≤ (written ++ room).length := by
    rw [List.length_append]
    omega
  have part : ((written ++ room).take (written.length + field.length)).drop written.length =
      room.take field.length := by
    rw [List.take_length_add_append, List.drop_left' rfl]
  have same : field.length = (room.take field.length).length := by
    rw [List.length_take, Nat.min_eq_left fits]
  rw [within?, if_pos inside, part, replace?, if_pos same, Option.map_some, List.take_left' rfl,
    List.drop_length_add_append]

end Octets

namespace Compression

variable {contexts : ContextTable} {links : LinkPair} {octets : Octets} {packet : Packet}

namespace Packet

/-- What decompression in place comes to: an error leaves the buffer as it was. -/
def inPlace (buffer : Octets) : Except EncodeError Buffer → Except EncodeError Nat × Octets
  | .ok result => (.ok result.written.length, result.octets)
  | .error error => (.error error, buffer)

def udpOctets (packet : Packet) : Octets :=
  (packet.udp.map fun udp => udp.octets packet.payload.length).getD []

theorem length_udpOctets (packet : Packet) :
    packet.udpOctets.length = if packet.udp.isSome then Udp.Header.size else 0 := by
  unfold udpOctets
  cases packet.udp with
  | none => rfl
  | some udp => simp

theorem payloadStart_eq (packet : Packet) :
    packet.payloadStart = Ip.Header.size + packet.udpOctets.length := by
  rw [payloadStart, length_udpOctets]

theorem payloadLength_eq (packet : Packet) :
    packet.payloadLength = packet.udpOctets.length + packet.payload.length := by
  rw [payloadLength, length_udpOctets, Nat.add_comm]

def fullOctets (packet : Packet) : Octets :=
  packet.header.octets packet.payloadLength.toUInt16 ++ (packet.udpOctets ++ packet.payload)

theorem length_fullOctets (packet : Packet) :
    packet.fullOctets.length = Ip.Header.size + packet.payloadLength := by
  rw [fullOctets, List.length_append, List.length_append, Ip.Header.length_octets,
    payloadLength_eq]

theorem writeUdp?_eq {written room : Octets} (behind : written.length = Ip.Header.size)
    (fits : packet.udpOctets.length ≤ room.length) :
    packet.writeUdp? (written ++ room) =
      some (written ++ packet.udpOctets ++ room.drop packet.udpOctets.length) := by
  unfold writeUdp?
  unfold udpOctets at fits ⊢
  cases known : packet.udp with
  | none => simp
  | some udp =>
      rw [known] at fits
      rw [← behind]
      exact Octets.within?_overwrite? fits

theorem writeAll?_eq {buffer : Octets}
    (fits : Ip.Header.size + packet.payloadLength ≤ buffer.length) :
    packet.writeAll? buffer =
      some (packet.fullOctets ++ buffer.drop (Ip.Header.size + packet.payloadLength)) := by
  let written := packet.header.octets packet.payloadLength.toUInt16
  have size : written.length = Ip.Header.size := Ip.Header.length_octets _ _
  have counted := packet.payloadLength_eq
  have emitted : packet.header.emit? packet.payloadLength.toUInt16 buffer =
      some (written ++ buffer.drop Ip.Header.size) :=
    packet.header.emit?_eq _ (Nat.le_trans (Nat.le_add_right _ _) fits)
  have start : packet.payloadStart = (written ++ packet.udpOctets).length := by
    rw [List.length_append, size, payloadStart_eq]
  have finish : Ip.Header.size + packet.payloadLength =
      (written ++ packet.udpOctets).length + packet.payload.length := by
    rw [List.length_append, size, counted, Nat.add_assoc]
  rw [writeAll?, emitted, Option.bind_eq_bind, Option.bind_some,
    writeUdp?_eq size (by rw [List.length_drop]; omega), Option.bind_some, start, finish,
    Octets.within?_replace? (by rw [List.length_drop, List.length_drop]; omega), List.drop_drop,
    List.drop_drop, ← finish, ← counted, List.append_assoc written]
  rfl

/-- No write goes past the end of the buffer, and all of them together are the decompression. -/
theorem decompressInPlace?_eq (parted : packet.headerLength ≤ packet.octets.length)
    (buffer : Octets) :
    packet.decompressInPlace? buffer = some (inPlace buffer (packet.decompress buffer)) := by
  unfold decompressInPlace?
  dsimp only
  rw [if_neg (Nat.not_lt.mpr parted)]
  by_cases short : buffer.length < Ip.Header.size + packet.payloadLength
  · rw [decompress, if_pos short, if_pos short]
    rfl
  by_cases long : 0xffff < packet.payloadLength
  · rw [decompress, if_neg short, if_neg short, if_pos long, if_pos long]
    rfl
  · have fits := Nat.not_lt.mp short
    rw [if_neg short, if_neg long, writeAll?_eq fits,
      decompress_eq packet buffer fits (Nat.not_lt.mp long), inPlace, Option.map_some]
    exact congrArg some (Prod.ext (congrArg Except.ok packet.length_fullOctets.symm) rfl)

/-- Octets that are read as what the packet says: its header, and behind it the payload, or a
datagram with the UDP header and the payload. -/
def Uncompressed (packet : Packet) (written : Octets) : Prop :=
  ∃ carried, Ip.parse? written = some (packet.header, carried) ∧
    carried.length = packet.payloadLength ∧ (packet.udp = none → carried = packet.payload) ∧
    ∀ udp, packet.udp = some udp → Udp.parse? carried = some (udp, packet.payload)

theorem uncompressed_fullOctets (flow : packet.header.flowLabel.toNat < 0x100000)
    (short : packet.payloadLength ≤ 0xffff) : packet.Uncompressed packet.fullOctets := by
  have label : packet.header.flowLabel % 0x100000 = packet.header.flowLabel := by
    apply UInt32.toNat_inj.mp
    rw [UInt32.toNat_mod]
    exact Nat.mod_eq_of_lt flow
  have counted : (packet.udpOctets ++ packet.payload).length = packet.payloadLength := by
    rw [List.length_append, payloadLength_eq]
  have read := Ip.parse?_octets packet.header (Nat.le_trans (Nat.le_of_eq counted) short) []
  rw [List.append_nil, counted, label] at read
  refine ⟨_, read, counted, fun plain => ?_, fun udp datagram => ?_⟩
  · rw [udpOctets, plain]
    rfl
  · have size : packet.payloadLength = packet.payload.length + Udp.Header.size := by
      rw [payloadLength, datagram]
      rfl
    rw [udpOctets, datagram]
    exact Udp.parse?_octets udp (by rw [size, Udp.Header.size] at short; omega)

end Packet

/-- Each packet that could be read is written in full or not at all, and is then read as it was
before. -/
theorem decompress_exact (decoded : decode contexts octets links = .ok packet) (buffer : Octets) :
    let length := Ip.Header.size + packet.payloadLength
    packet.decompressInPlace? buffer = some (Packet.inPlace buffer (packet.decompress buffer)) ∧
    (buffer.length < length →
      packet.decompressInPlace? buffer = some (.error .bufferTooSmall, buffer)) ∧
    (length ≤ buffer.length → 65535 < packet.payloadLength →
      packet.decompressInPlace? buffer = some (.error .malformed, buffer)) ∧
    (length ≤ buffer.length → packet.payloadLength ≤ 65535 → ∃ written,
      packet.decompressInPlace? buffer = some (.ok length, written ++ buffer.drop length) ∧
        written.length = length ∧ packet.Uncompressed written) := by
  intro length
  obtain ⟨front, -, same, headers, parted⟩ := exists_front decoded
  have within : packet.headerLength ≤ packet.octets.length := by
    rw [same, headers, parted, List.length_append]
    exact Nat.le_add_right _ _
  obtain ⟨_, economical, -⟩ := economical_of_decode decoded
  have run := Packet.decompressInPlace?_eq within buffer
  refine ⟨run, fun few => ?_, fun fits long => ?_, fun fits short => ?_⟩
  · rw [run, Packet.decompress, if_pos few]
    rfl
  · rw [run, Packet.decompress, if_neg (Nat.not_lt.mpr fits), if_pos long]
    rfl
  · refine ⟨packet.fullOctets, ?_, packet.length_fullOctets,
      Packet.uncompressed_fullOctets economical.flow short⟩
    rw [run, Packet.decompress_eq packet buffer fits short, Packet.inPlace]
    exact congrArg some (Prod.ext (congrArg Except.ok packet.length_fullOctets) rfl)

theorem decompress_exact_datagram :
    let links : LinkPair := ⟨⟨1⟩, ⟨2⟩⟩
    let stated : Octets := [0x20, 0x00, 0x60, 0, 0, 0, 64] ++
      (Address.linkLocal links.source.identifier).octets ++
      (Address.linkLocal links.destination.identifier).octets ++
      [0xf8, 0xf0, 0xb1, 0xf0, 0xb2, 0xab, 0xcd, 1, 2, 3]
    ∃ packet written,
      decode .standard stated links = .ok packet ∧
        packet.decompressInPlace? (List.replicate 50 0xff) =
          some (.error .bufferTooSmall, List.replicate 50 0xff) ∧
        packet.decompressInPlace? (List.replicate 60 0xff) =
          some (.ok 51, written ++ List.replicate 9 0xff) ∧
        packet.Uncompressed written := by
  intro links stated
  let header : Ip.Header := {
    nextHeader := .udp
    source := .linkLocal links.source.identifier
    destination := .linkLocal links.destination.identifier }
  let packet : Packet := ⟨stated, header, some ⟨0xf0b1, 0xf0b2, 0xabcd⟩, 46⟩
  have decoded : decode .standard stated links = .ok packet := by decide
  obtain ⟨-, few, -, -⟩ := decompress_exact decoded (List.replicate 50 0xff)
  obtain ⟨-, -, -, full⟩ := decompress_exact decoded (List.replicate 60 0xff)
  obtain ⟨written, filled, -, same⟩ := full (by decide) (by decide)
  have length : Ip.Header.size + packet.payloadLength = 51 := by decide
  rw [length, List.drop_replicate] at filled
  exact ⟨packet, written, decoded, few (by decide), filled, same⟩

end Compression

end RadioStack
