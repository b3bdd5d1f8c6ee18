import RadioStack.Proofs.Compression.Restore
import RadioStack.Proofs.Compression.Size

/-!
A packet that has been compressed, decompressed and compressed again comes out as it was compressed
first, octet by octet. Main statement: `compress_decompress`.
-/

namespace RadioStack.Compression

variable {contexts : ContextTable} {header : Ip.Header} {transport : Transport} {links : LinkPair}

/-- Its length has room in the field for it, and a datagram is not given as something else. -/
def Transport.IsReadable (header : Ip.Header) : Transport → Prop
  | .udp _ _ payload => payload.length ≤ 65527
  | .other payload => payload.length ≤ 65535 ∧ header.nextHeader ≠ .udp

theorem Transport.IsReadable.length (readable : transport.IsReadable header) :
    (transport.octets header).length ≤ 65535 := by
  cases transport with
  | udp source destination payload =>
      have room : payload.length ≤ 65527 := readable
      simp only [octets, udpHeader?, Transport.payload, Option.map_some, Option.getD_some,
        List.length_append, Udp.Header.length_octets, Udp.Header.size]
      omega
  | other payload => exact readable.1

theorem Transport.IsReadable.ofPayload? (readable : transport.IsReadable header) :
    Transport.ofPayload? (received header transport).nextHeader (transport.octets header) =
      some transport := by
  cases transport with
  | udp source destination payload =>
      have read : Udp.parse? ((Transport.udp source destination payload).octets header) =
          some (.ofPayload header source destination payload, payload) :=
        Udp.parse?_octets _ readable
      have announced : (received header (.udp source destination payload)).nextHeader = .udp := rfl
      rw [Transport.ofPayload?, if_pos announced, read, Option.map_some]
      rfl
  | other payload => exact if_neg readable.2

theorem flow_received : (received header transport).flow = header.flow := by
  rw [Ip.Header.flow, Ip.Header.flow, received, UInt32.toNat_mod]
  exact Nat.mod_mod _ _

/-- Compression does not see what has been lost of a header on the first way. -/
theorem encode_received (contexts : ContextTable) (header : Ip.Header) (transport : Transport)
    (links : LinkPair) :
    encode contexts (received header transport) transport links =
      encode contexts header transport links := by
  have next : (if transport.isUdp then []
      else [(received header transport).nextHeader.number]) =
        if transport.isUdp then [] else [header.nextHeader.number] := by
    cases transport <;> rfl
  have udp : transport.udpHeader? (received header transport) = transport.udpHeader? header := by
    cases transport <;> rfl
  have fields : Encoding.fields contexts (received header transport) transport links =
      Encoding.fields contexts header transport links := by
    simp only [Encoding.fields, Encoding.control, flow_received, next, udp]
    rfl
  funext buffer
  rw [encode, encode, fields]

theorem compress_restored (contexts : ContextTable) (links : LinkPair)
    (readable : transport.IsReadable header) (behind : Octets) :
    compress contexts ((received header transport).octets
        (transport.octets header).length.toUInt16 ++ (transport.octets header ++ behind)) links =
      encode contexts header transport links := by
  have label : (received header transport).flowLabel % 0x100000 =
      (received header transport).flowLabel := by
    apply UInt32.toNat_inj.mp
    rw [received, UInt32.toNat_mod, UInt32.toNat_mod]
    exact Nat.mod_mod _ _
  have parsed := Ip.parse?_octets (received header transport) readable.length behind
  rw [label] at parsed
  funext buffer
  rw [compress, parsed]
  dsimp only
  rw [readable.ofPayload?]
  exact congrFun (encode_received contexts header transport links) buffer

/-- However the decompressed packet lies in its buffer, compressing it gives the octets it came
from, in every buffer that has room for them. -/
theorem compress_decompress {buffer : Octets} {result : Buffer}
    (readable : transport.IsReadable header)
    (encoded : encode contexts header transport links buffer = .ok result) :
    ∃ packet, decode contexts (result.octets.take result.written.length) links = .ok packet ∧
      ∀ room : Octets, Ip.Header.size + packet.payloadLength ≤ room.length →
        ∃ restored, packet.decompress room = .ok restored ∧
          ∀ behind again : Octets, result.written.length ≤ again.length →
            compress contexts (restored.written ++ behind) links again =
              .ok ⟨result.written, again.drop result.written.length⟩ := by
  have front : result.octets.take result.written.length = result.written := List.take_left' rfl
  have written := written_encode encoded
  have length : (delivered contexts header transport links).payloadLength =
      (transport.octets header).length := payloadLength_delivered
  rw [front, written, decode_delivered]
  refine ⟨_, rfl, fun room enough => ?_⟩
  have short : (delivered contexts header transport links).payloadLength ≤ 0xffff := by
    rw [length]
    exact readable.length
  refine ⟨_, Packet.decompress_eq _ room enough short, fun behind again long => ?_⟩
  have same := compress_restored contexts links readable behind
  rw [length_encoded] at long ⊢
  rw [length, payload_delivered, List.append_assoc]
  exact (congrFun same again).trans
    ((encode_eq contexts header transport links again).trans (if_pos long))

theorem compress_decompress_datagram :
    let links : LinkPair := ⟨⟨1⟩, ⟨2⟩⟩
    let header : Ip.Header := {
      flowLabel := 0x12345678
      nextHeader := .tcp
      source := .linkLocal links.source.identifier
      destination := .linkLocal links.destination.identifier }
    let transport : Transport := .udp 0xf0b1 0xf0b2 [1, 2, 3]
    ∃ result packet restored again,
      transport.IsReadable header ∧
        encode .standard header transport links (List.replicate 64 0) = .ok result ∧
        decode .standard (result.octets.take result.written.length) links = .ok packet ∧
        packet.decompress (List.replicate 60 0xff) = .ok restored ∧
        compress .standard restored.octets links (List.replicate 32 0) = .ok again ∧
        again.written = result.written := by
  intro links header transport
  have readable : transport.IsReadable header := (by decide : [(1 : UInt8), 2, 3].length ≤ 65527)
  have size : Encoding.size .standard header transport links ≤
      (List.replicate 64 (0 : UInt8)).length := by decide
  have encoded := (encode_eq .standard header transport links (List.replicate 64 0)).trans
    (if_pos size)
  obtain ⟨packet, decoded, restores⟩ := compress_decompress readable encoded
  have known := decode_delivered .standard header transport links
  have read := decoded.symm.trans
    ((congrArg (decode .standard · links) (List.take_left' rfl)).trans known)
  cases read
  obtain ⟨restored, written, compresses⟩ := restores (List.replicate 60 0xff) (by decide)
  exact ⟨_, _, restored, _, readable, encoded, decoded, written,
    compresses restored.room (List.replicate 32 0) (by decide), rfl⟩

end RadioStack.Compression
