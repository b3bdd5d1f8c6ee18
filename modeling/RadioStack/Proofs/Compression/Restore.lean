import RadioStack.Proofs.Compression.RoundTrip
import RadioStack.Proofs.Ip.Header
import RadioStack.Proofs.Udp

/-!
A whole IPv6 packet that is compressed and sent is written again as it was, up to the end that its
header announces. Main statement: `decompress_compress`.
-/

namespace RadioStack.Compression

variable {contexts : ContextTable} {header : Ip.Header} {transport : Transport} {links : LinkPair}

theorem Packet.decompress_eq (packet : Packet) (room : Octets)
    (fits : Ip.Header.size + packet.payloadLength ≤ room.length)
    (short : packet.payloadLength ≤ 0xffff) :
    packet.decompress room = .ok
      ⟨packet.header.octets packet.payloadLength.toUInt16 ++
        ((packet.udp.map fun udp => udp.octets packet.payload.length).getD [] ++ packet.payload),
        room.drop (Ip.Header.size + packet.payloadLength)⟩ := by
  have length : [packet.header.octets packet.payloadLength.toUInt16,
      (packet.udp.map fun udp => udp.octets packet.payload.length).getD [],
      packet.payload].flatten.length = Ip.Header.size + packet.payloadLength := by
    unfold payloadLength
    cases packet.udp with
    | none => simp
    | some udp =>
        simp
        omega
  have available :
      Ip.Header.size + packet.payloadLength ≤ (Buffer.ofOctets room).room.length := fits
  rw [decompress, if_neg (Nat.not_lt.mpr fits), if_neg (Nat.not_lt.mpr short), Buffer.putAll_eq,
    length, if_pos available]
  simp [Buffer.ofOctets]

def Transport.octets (ip : Ip.Header) (transport : Transport) : Octets :=
  ((transport.udpHeader? ip).map fun udp => udp.octets transport.payload.length).getD [] ++
    transport.payload

theorem payloadLength_delivered :
    (delivered contexts header transport links).payloadLength =
      (transport.octets header).length := by
  unfold Packet.payloadLength Transport.octets
  rw [payload_delivered, delivered]
  cases transport with
  | udp source destination payload => simp [Transport.udpHeader?]; omega
  | other payload => simp [Transport.udpHeader?]

theorem Transport.octets_of_ofPayload? {payload : Octets}
    (carried : Transport.ofPayload? header.nextHeader payload = some transport)
    (intact : header.nextHeader = .udp → Udp.Intact header payload) :
    transport.octets header = payload ∧ (transport.isUdp → header.nextHeader = .udp) := by
  unfold Transport.ofPayload? at carried
  split at carried
  · rename_i udp
    obtain ⟨datagram, body, parsed, same, written⟩ := (intact udp).ofPayload
    rw [parsed] at carried
    cases carried
    refine ⟨?_, fun _ => udp⟩
    rw [Transport.octets, Transport.udpHeader?, same]
    exact written
  · cases carried
    exact ⟨rfl, fun impossible => nomatch impossible⟩

/-- A packet that has been compressed is restored in any buffer that has room for it. -/
theorem decompress_compress {packet payload buffer : Octets} {result : Buffer}
    (parsed : Ip.parse? packet = some (header, payload))
    (intact : header.nextHeader = .udp → Udp.Intact header payload)
    (compressed : compress contexts packet links buffer = .ok result) :
    ∃ received, decode contexts (result.octets.take result.written.length) links = .ok received ∧
      ∀ room : Octets, Ip.Header.size + payload.length ≤ room.length →
        ∃ restored, received.decompress room = .ok restored ∧
          restored.written.length = Ip.Header.size + payload.length ∧
          restored.octets = packet.take (Ip.Header.size + payload.length) ++
            room.drop (Ip.Header.size + payload.length) := by
  have front : result.octets.take result.written.length = result.written := List.take_left' rfl
  have announced := Ip.length_of_parse? parsed
  have written := Ip.octets_of_parse? parsed
  rw [compress, parsed] at compressed
  dsimp only at compressed
  split at compressed
  · cases compressed
  · rename_i transport carried
    obtain ⟨behind, udp⟩ := Transport.octets_of_ofPayload? carried intact
    have length : (delivered contexts header transport links).payloadLength = payload.length := by
      rw [payloadLength_delivered, behind]
    rw [front, written_encode compressed, decode_delivered]
    refine ⟨_, rfl, fun room fits => ?_⟩
    rw [← length] at fits
    refine ⟨_, Packet.decompress_eq _ room fits (by rw [length]; exact announced.1), ?_⟩
    have same : (delivered contexts header transport links).header = header :=
      received_eq (Ip.flowLabel_of_parse? parsed) udp
    have restored : ((delivered contexts header transport links).udp.map fun udp =>
        udp.octets (delivered contexts header transport links).payload.length).getD [] ++
        (delivered contexts header transport links).payload = payload := by
      rw [payload_delivered]
      exact behind
    rw [same, restored, length, written]
    refine ⟨?_, rfl⟩
    rw [List.length_take]
    omega

theorem decompress_compress_datagram :
    let links : LinkPair := ⟨⟨1⟩, ⟨2⟩⟩
    let datagram : Octets := [0xf0, 0xb1, 0x16, 0x33, 0, 11, 0xf3, 0xec, 1, 2, 3]
    let packet : Octets := [0x6a, 0xb1, 0x23, 0x45, 0, 11, 17, 63] ++
      (Address.linkLocal links.source.identifier).octets ++
      (Address.linkLocal links.destination.identifier).octets ++ datagram ++ [0xff]
    ∃ result received restored,
      compress .standard packet links (List.replicate 64 0) = .ok result ∧
        decode .standard (result.octets.take result.written.length) links = .ok received ∧
        received.decompress (List.replicate 60 0) = .ok restored ∧
        restored.octets = packet.take 51 ++ List.replicate 9 0 := by
  intro links datagram packet
  let header : Ip.Header := {
    trafficClass := 0xab
    flowLabel := 0x12345
    nextHeader := .udp
    hopLimit := 63
    source := .linkLocal links.source.identifier
    destination := .linkLocal links.destination.identifier }
  have parsed : Ip.parse? packet = some (header, datagram) := by decide
  have read : Udp.parse? datagram = some (⟨0xf0b1, 0x1633, 0xf3ec⟩, [1, 2, 3]) := by decide
  have verified : Ip.checksum header.source header.destination .udp [datagram] = 0 :=
    (Ip.checksum_eq_zero_iff (by decide)).mpr (by decide)
  have intact : Udp.Intact header datagram := ⟨⟨_, _, read, by decide⟩, by decide, verified⟩
  have fits : (Encoding.fields .standard header (.udp 0xf0b1 0x1633 [1, 2, 3])
      links).flatten.length ≤ (Buffer.ofOctets (List.replicate 64 0)).room.length := by
    decide
  obtain ⟨result, compressed⟩ : ∃ result,
      compress .standard packet links (List.replicate 64 0) = .ok result := by
    rw [compress, parsed]
    dsimp only
    rw [Transport.ofPayload?, if_pos rfl, read]
    exact ⟨_, (Buffer.putAll_eq _ _).trans (if_pos fits)⟩
  obtain ⟨received, decoded, restores⟩ := decompress_compress parsed (fun _ => intact) compressed
  obtain ⟨restored, written, -, same⟩ := restores (List.replicate 60 0) (by decide)
  exact ⟨result, received, restored, compressed, decoded, written, same⟩

end RadioStack.Compression
