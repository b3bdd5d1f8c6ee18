import RadioStack.Proofs.Compression.Reads

/-!
What is compressed is decompressed to the same packet, with any contexts and from any link
addresses. Main statement: `decode_encode`.
-/

namespace RadioStack.Compression

/-- What decompression makes of a header: the flow label has twenty bits, and the next header is
UDP if the header of that was compressed. -/
def received (header : Ip.Header) (transport : Transport) : Ip.Header :=
  { header with
    flowLabel := header.flowLabel % 0x100000
    nextHeader := if transport.isUdp then .udp else header.nextHeader }

def Transport.ports? : Transport → Option (UInt16 × UInt16)
  | .udp source destination _ => some (source, destination)
  | .other _ => none

variable {contexts : ContextTable} {header : Ip.Header} {transport : Transport} {links : LinkPair}

theorem Transport.ports_udpHeader? (header : Ip.Header) (transport : Transport) :
    (transport.udpHeader? header).map (fun udp => (udp.source, udp.destination)) =
      transport.ports? := by
  cases transport <;> rfl

theorem toUInt32_flow (header : Ip.Header) :
    header.flow.toUInt32 = header.flowLabel % 0x100000 := by
  apply UInt32.toNat_inj.mp
  have bounded := header.flowLabel.toNat_lt
  rw [Ip.Header.flow, Nat.toUInt32_eq, UInt32.toNat_ofNat', UInt32.toNat_mod]
  change header.flowLabel.toNat % 1048576 % 4294967296 = header.flowLabel.toNat % 1048576
  omega

theorem received_eq (flow : header.flowLabel.toNat < 0x100000)
    (udp : transport.isUdp → header.nextHeader = .udp) : received header transport = header := by
  have label : header.flowLabel % 0x100000 = header.flowLabel := by
    apply UInt32.toNat_inj.mp
    rw [UInt32.toNat_mod]
    exact Nat.mod_eq_of_lt flow
  have next : (if transport.isUdp then .udp else header.nextHeader) = header.nextHeader := by
    split
    · rename_i compressed
      exact (udp compressed).symm
    · rfl
  rw [received, label, next]

def headerOctets (contexts : ContextTable) (header : Ip.Header) (transport : Transport)
    (links : LinkPair) : Octets :=
  let source := AddressForm.ofUnicast contexts links.source header.source
  let destination := AddressForm.ofDestination contexts links.destination header.destination
  (Encoding.control header transport source destination).octets ++
    (Encoding.trafficOctets header.trafficClass header.flow ++
      ((if transport.isUdp then [] else [header.nextHeader.number]) ++
        (Encoding.hopLimitOctets header.hopLimit ++
          (source.octets header.source ++
            (destination.octets header.destination ++
              ((transport.udpHeader? header).map UdpHeader.octets).getD [])))))

theorem flatten_fields :
    (Encoding.fields contexts header transport links).flatten =
      headerOctets contexts header transport links ++ transport.payload := by
  simp [Encoding.fields, headerOctets, List.append_assoc]

theorem reads_headers (contexts : ContextTable) (header : Ip.Header) (transport : Transport)
    (links : LinkPair) :
    (Reader.headers contexts links).Reads (headerOctets contexts header transport links)
      (received header transport, transport.udpHeader? header) := by
  have bounded : header.flow < 0x100000 := Nat.mod_lt _ (by decide)
  unfold Reader.headers headerOctets
  refine (Reader.reads_octet _).bind ((Reader.reads_octet _).bind ?_)
  rw [Control.ofOctets_octets]
  refine (Reader.reads_traffic rfl rfl bounded).bind
    ((Reader.reads_nextHeader header.nextHeader).bind
      ((Reader.reads_hopLimit rfl).bind
        ((Reader.reads_unicast contexts links.source header.source).bind
          ((Reader.reads_destination contexts links.destination header.destination).bind ?_))))
  rw [toUInt32_flow]
  cases transport with
  | udp source destination payload =>
      -- The last step is a read followed by a return, so its octets are a sum as well.
      rw [← List.append_nil (Option.getD _ _)]
      exact (Reader.reads_udp _).bind (.pure _)
  | other payload => exact .pure _

theorem written_encode {buffer : Octets} {result : Buffer}
    (encoded : encode contexts header transport links buffer = .ok result) :
    result.written = headerOctets contexts header transport links ++ transport.payload := by
  rw [encode, Buffer.putAll_eq, flatten_fields] at encoded
  split at encoded
  · cases encoded
    rfl
  · cases encoded

def delivered (contexts : ContextTable) (header : Ip.Header) (transport : Transport)
    (links : LinkPair) : Packet where
  octets := headerOctets contexts header transport links ++ transport.payload
  header := received header transport
  udp := transport.udpHeader? header
  headerLength := (headerOctets contexts header transport links).length

@[simp] theorem payload_delivered :
    (delivered contexts header transport links).payload = transport.payload :=
  List.drop_left' rfl

theorem decode_delivered (contexts : ContextTable) (header : Ip.Header) (transport : Transport)
    (links : LinkPair) :
    decode contexts (headerOctets contexts header transport links ++ transport.payload) links =
      .ok (delivered contexts header transport links) := by
  have read := reads_headers contexts header transport links transport.payload
  rw [decode, read, delivered]
  dsimp only
  rw [List.length_append, Nat.add_sub_cancel]

/-- The checksum covers nothing that compression changes. -/
theorem udpVerifies_received (octets : Octets) (length : Nat)
    (payload : octets.drop length = transport.payload) :
    Packet.udpVerifies ⟨octets, received header transport, transport.udpHeader? header, length⟩ =
      transport.isUdp := by
  rw [Packet.udpVerifies, Packet.payload, payload]
  cases transport with
  | udp source destination payload => exact beq_self_eq_true _
  | other payload => rfl

/-- A packet that has been compressed is decompressed to what it was: its header but for what is not
sent of it, the ports of a datagram with a checksum that is right, and the payload. -/
theorem decode_encode {buffer : Octets} {result : Buffer}
    (encoded : encode contexts header transport links buffer = .ok result) :
    ∃ packet, decode contexts (result.octets.take result.written.length) links = .ok packet ∧
      packet.header = received header transport ∧
      packet.udp.map (fun udp => (udp.source, udp.destination)) = transport.ports? ∧
      packet.udpVerifies = transport.isUdp ∧
      packet.payload = transport.payload := by
  have front : result.octets.take result.written.length = result.written :=
    List.take_left' rfl
  have read := reads_headers contexts header transport links transport.payload
  have payload : (headerOctets contexts header transport links ++ transport.payload).drop
      ((headerOctets contexts header transport links ++ transport.payload).length -
        transport.payload.length) = transport.payload := by
    rw [List.length_append, Nat.add_sub_cancel, List.drop_left' rfl]
  rw [front, written_encode encoded, decode, read]
  exact ⟨_, rfl, rfl, transport.ports_udpHeader? header, udpVerifies_received _ _ payload, payload⟩

theorem decode_encode_datagram :
    let links : LinkPair := ⟨⟨1⟩, ⟨2⟩⟩
    let header : Ip.Header := {
      flowLabel := 0x12345678
      nextHeader := .tcp
      source := .linkLocal links.source.identifier
      destination := .linkLocal links.destination.identifier }
    ∃ result packet,
      encode .standard header (.udp 0xf0b1 0xf0b2 [1, 2, 3]) links (List.replicate 64 0) =
          .ok result ∧
        decode .standard (result.octets.take result.written.length) links = .ok packet ∧
        packet.header = { header with flowLabel := 0x45678, nextHeader := .udp } ∧
        packet.udp.map (fun udp => (udp.source, udp.destination)) = some (0xf0b1, 0xf0b2) ∧
        packet.udpVerifies ∧ packet.payload = [1, 2, 3] := by
  intro links header
  have fits : (Encoding.fields .standard header (.udp 0xf0b1 0xf0b2 [1, 2, 3])
      links).flatten.length ≤ (Buffer.ofOctets (List.replicate 64 0)).room.length := by
    decide
  have encoded := Buffer.putAll_eq (Buffer.ofOctets (List.replicate 64 0))
    (Encoding.fields .standard header (.udp 0xf0b1 0xf0b2 [1, 2, 3]) links)
  rw [if_pos fits] at encoded
  obtain ⟨packet, decoded, same, ports, verifies, payload⟩ := decode_encode encoded
  have low : (0x12345678 : UInt32) % 0x100000 = 0x45678 := by decide
  rw [received, low] at same
  exact ⟨_, packet, encoded, decoded, same, ports, verifies, payload⟩

end RadioStack.Compression
