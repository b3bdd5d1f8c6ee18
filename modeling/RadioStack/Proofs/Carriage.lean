import RadioStack.Proofs.Framing
import RadioStack.Proofs.Tcp.Answer
import RadioStack.Proofs.Tcp.Demultiplexing
import RadioStack.Proofs.Tcp.Pair

/-!
What an endpoint sends fits into a frame and is found in it again, whatever the contexts and the
link addresses. Main statement: `performed_carried`.
-/

namespace RadioStack

namespace Compression

theorem Encoding.size_other_le (contexts : ContextTable) (header : Ip.Header) (payload : Octets)
    (links : LinkPair) :
    size contexts header (.other payload) links ≤ Ip.Header.size + payload.length := by
  have source := (AddressForm.ofUnicast contexts links.source header.source).mode.size_le
  have destination :=
    (AddressForm.ofDestination contexts links.destination header.destination).mode.size_le
  have traffic := trafficSize_le header.trafficClass header.flow
  have hopLimit := hopLimitSize_le header.hopLimit
  simp only [size, Transport.isUdp, Bool.false_eq_true, if_false, Transport.headerSize,
    Transport.payload, Ip.Header.size]
  omega

end Compression

namespace Interface

open Compression

def frameOf (interface : Interface) (header : Ip.Header) (payload : Octets) : Octets :=
  dispatch :: (headerOctets interface.contexts header (.other payload) (interface.links header) ++
    payload)

variable {interface : Interface} {header : Ip.Header} {payload : Octets}

theorem length_frameOf_le (interface : Interface) (header : Ip.Header) (payload : Octets) :
    (interface.frameOf header payload).length ≤ 1 + Ip.Header.size + payload.length := by
  have bounded := Encoding.size_other_le interface.contexts header payload (interface.links header)
  have counted := length_encoded interface.contexts header (.other payload) (interface.links header)
  simp only [Transport.payload] at counted
  rw [frameOf, List.length_cons, counted]
  omega

theorem frame_eq (fits : 1 + Ip.Header.size + payload.length ≤ frameSize) :
    interface.frame header (.other payload) = .ok (interface.frameOf header payload) := by
  have bounded := Encoding.size_other_le interface.contexts header payload (interface.links header)
  exact (interface.frame_eq_ite header (.other payload)).trans (if_pos (by omega))

theorem sendPacket_eq (fits : 1 + Ip.Header.size + payload.length ≤ frameSize) :
    interface.sendPacket header payload = emissions header (interface.frameOf header payload) := by
  unfold sendPacket
  rw [frame_eq fits]

theorem receive_frameOf {peer : Interface} (same : peer.contexts = interface.contexts) :
    peer.receive (interface.frameOf header payload) (interface.links header) =
      .ok (delivered interface.contexts header (.other payload) (interface.links header)) := by
  rw [frameOf, ← same, ← decode_delivered]
  simp [receive, Transport.payload]

theorem not_dropped_emissions (header : Ip.Header) (frame : Octets) (destination : Address)
    (error : EncodeError) :
    .record (.packetDropped destination error) ∉ emissions header frame := by
  intro dropped
  rw [emissions, List.mem_append] at dropped
  rcases dropped with logged | sent
  · unfold Log.ofEncoded at logged
    split at logged <;> simp at logged
  · simp at sent

end Interface

namespace Tcp

structure Segment.Ordinary (segment : Segment) : Prop where
  next : segment.ip.nextHeader = .tcp
  flow : segment.ip.flowLabel = 0
  flags : segment.header.flags.inUse
  short : segment.payload.length ≤ SendRing.capacity

theorem Endpoint.MaySend.inUse {call : Call} {endpoint : Endpoint} {sequence : UInt32}
    {flags : Flags} {length : Nat} (may : endpoint.MaySend call sequence flags length) :
    flags.inUse := by
  cases may <;> rfl

theorem Endpoint.Says.ordinary {call : Call} {endpoint : Endpoint} {sent : Segment}
    (spoken : endpoint.Says call sent) : sent.Ordinary := by
  cases spoken with
  | segmentAt may =>
      refine ⟨rfl, rfl, may.inUse, ?_⟩
      rw [length_payload]
      exact Nat.le_trans (Nat.min_le_left _ _) (Nat.min_le_right _ _)

theorem Endpoint.ordinary_of_mem {endpoint : Endpoint} {call : Call} {segment : Segment}
    (sent : segment ∈ (endpoint.perform call).segments) : segment.Ordinary := by
  obtain ⟨early, late, parted⟩ := List.append_of_mem sent
  obtain ⟨_, moment, _, _, spoken⟩ := output_said parted
  exact spoken.ordinary

namespace Segment.Ordinary

variable {segment : Segment} {packet : Compression.Packet}

theorem length_octets_le (ordinary : segment.Ordinary) :
    1 + Ip.Header.size + segment.octets.length ≤ Interface.frameSize := by
  have short := ordinary.short
  rw [segment.length_octets]
  unfold Ip.Header.size Header.size Interface.frameSize
  unfold SendRing.capacity at short
  omega

theorem receive_frameOf (ordinary : segment.Ordinary) {interface peer : Interface}
    (same : peer.contexts = interface.contexts) :
    ∃ packet, peer.receive (interface.frameOf segment.ip segment.octets)
        (interface.links segment.ip) = .ok packet ∧
      packet.udp = none ∧ packet.header = segment.ip ∧ packet.payload = segment.octets := by
  have small : segment.ip.flowLabel.toNat < 0x100000 := by
    rw [ordinary.flow]
    decide
  exact ⟨_, Interface.receive_frameOf same, rfl, Compression.received_eq small nofun,
    Compression.payload_delivered⟩

theorem checksumVerifies (ordinary : segment.Ordinary) :
    Tcp.checksumVerifies segment.ip.source segment.ip.destination segment.octets :=
  segment.checksumVerifies_octets (Nat.le_trans ordinary.short (by decide))

theorem dispatchPacket (ordinary : segment.Ordinary) (plain : packet.udp = none)
    (header : packet.header = segment.ip) (payload : packet.payload = segment.octets)
    (routing : Routing) (time : Instant) :
    routing.dispatchPacket time packet =
      match routing.lookup? segment.ip segment.header with
      | none =>
        (routing.note (.noConnection segment.ip.destination segment.header.destinationPort), false)
      | some number =>
        (routing.deliver time number segment.ip segment.header segment.payload, true) := by
  rw [Routing.dispatchPacket, plain, header, payload, Routing.dispatch, ordinary.next,
    ordinary.checksumVerifies, segment.parse?_octets ordinary.flags]
  rfl

theorem dispatchPacket? (ordinary : segment.Ordinary) (payload : packet.payload = segment.octets)
    (routing : Routing) (time : Instant) :
    routing.dispatchPacket? time packet = some (routing.dispatchPacket time packet) := by
  have short := ordinary.length_octets_le
  unfold Interface.frameSize at short
  apply routing.dispatchPacket?_of_short time
  rw [payload]
  omega

theorem delivers (ordinary : segment.Ordinary) (plain : packet.udp = none)
    (header : packet.header = segment.ip) (payload : packet.payload = segment.octets)
    (time : Instant) {routing : Routing} {number : Nat}
    (found : routing.lookup? segment.ip segment.header = some number) :
    ∃ connection, routing.connections[number]? = some connection ∧
      let received := connection.receive time segment.ip segment.header segment.payload
      routing.Delivers number received.1 (Routing.complaints segment.header received.2)
        (routing.dispatchPacket time packet).1 := by
  obtain ⟨connection, offers, -⟩ := Routing.lookup?_eq_some found
  refine ⟨connection, offers.known, ?_⟩
  rw [ordinary.dispatchPacket plain header payload, found]
  exact Routing.deliver_delivers offers.known

end Segment.Ordinary

/-- Every segment that a call of an endpoint sends, whatever the endpoint, is sent by an interface
in one frame; any interface with the same contexts finds the same packet in it, and of all that a
table knows only the connection that it belongs to goes on, with the header and the payload that
were sent. -/
theorem Endpoint.performed_carried {endpoint : Endpoint} {call : Call} {segment : Segment}
    (sent : segment ∈ (endpoint.perform call).segments) {interface peer : Interface}
    (same : peer.contexts = interface.contexts) :
    ∃ frame,
      (interface.sendPacket segment.ip segment.octets).filterMap Interface.Emission.frame? =
          [frame] ∧
        (∀ destination error, .record (.packetDropped destination error) ∉
          interface.sendPacket segment.ip segment.octets) ∧
        frame.length ≤ Interface.frameSize ∧
        ∃ packet, peer.receive frame (interface.links segment.ip) = .ok packet ∧
          packet.udp = none ∧ packet.header = segment.ip ∧ packet.payload = segment.octets ∧
          checksumVerifies packet.header.source packet.header.destination packet.payload ∧
          parse? packet.payload = some (segment.header, segment.payload) ∧
          ∀ (routing : Routing) (time : Instant),
            (routing.dispatchPacket time packet =
              match routing.lookup? segment.ip segment.header with
              | none =>
                (routing.note
                  (.noConnection segment.ip.destination segment.header.destinationPort), false)
              | some number =>
                (routing.deliver time number segment.ip segment.header segment.payload, true)) ∧
            routing.dispatchPacket? time packet = some (routing.dispatchPacket time packet) ∧
            ∀ number, routing.lookup? segment.ip segment.header = some number →
              ∃ connection, routing.connections[number]? = some connection ∧
                let received :=
                  connection.receive time segment.ip segment.header segment.payload
                routing.Delivers number received.1
                  (Routing.complaints segment.header received.2)
                  (routing.dispatchPacket time packet).1 := by
  have ordinary := ordinary_of_mem sent
  have fits := ordinary.length_octets_le
  have bounded := interface.length_frameOf_le segment.ip segment.octets
  obtain ⟨packet, received, plain, header, payload⟩ := ordinary.receive_frameOf same
  refine ⟨interface.frameOf segment.ip segment.octets, ?_, ?_, Nat.le_trans bounded fits, packet,
    received, plain, header, payload, ?_, ?_,
    fun routing time => ⟨ordinary.dispatchPacket plain header payload routing time,
      ordinary.dispatchPacket? payload routing time,
      fun number => ordinary.delivers plain header payload time⟩⟩
  · rw [Interface.sendPacket_eq fits, Interface.frames_emissions]
  · rw [Interface.sendPacket_eq fits]
    exact Interface.not_dropped_emissions _ _
  · rw [header, payload]
    exact ordinary.checksumVerifies
  · rw [payload]
    exact segment.parse?_octets ordinary.flags

/-- An endpoint whose connection is established sends three octets, and its peer takes them. -/
theorem sent_carried :
    let endpoint := (Pair.opened .opener).endpoint
    let interface : Interface := ⟨.standard, none⟩
    let routing : Routing := {
      connections := [{ endpoint := (Pair.opened .listener).endpoint }], table := [0] }
    ∃ segment frame packet after,
      (endpoint.perform (.send 0 [1, 2, 3])).segments = [segment] ∧
        (interface.sendPacket segment.ip segment.octets).filterMap Interface.Emission.frame? =
          [frame] ∧
        interface.receive frame (interface.links segment.ip) = .ok packet ∧
        parse? packet.payload = some (segment.header, [1, 2, 3]) ∧
        routing.dispatchPacket? 0 packet = some (after, true) ∧
        after.connections.map (·.endpoint.receiveNext) = [endpoint.sendNext + 3] := by
  intro endpoint interface routing
  let segment := (endpoint.perform (.send 0 [1, 2, 3])).endpoint.segmentAt .allNodes .allRouters 2 1
    (.ack ||| .psh) 3
  have alone : (endpoint.perform (.send 0 [1, 2, 3])).segments = [segment] := by decide
  have data : segment.payload = [1, 2, 3] := by decide
  have sent : segment ∈ (endpoint.perform (.send 0 [1, 2, 3])).segments := by
    rw [alone]
    exact List.mem_singleton_self segment
  obtain ⟨frame, frames, -, -, packet, received, -, -, -, -, parsed, routed⟩ :=
    Endpoint.performed_carried sent (rfl : interface.contexts = interface.contexts)
  obtain ⟨same, answered, delivers⟩ := routed routing 0
  have found : routing.lookup? segment.ip segment.header = some 0 := by decide
  obtain ⟨_, known, delivered⟩ := delivers 0 found
  have taken : (routing.dispatchPacket 0 packet).2 = true := by
    rw [same, found]
  rw [data] at parsed
  refine ⟨segment, frame, packet, (routing.dispatchPacket 0 packet).1, alone, frames, received,
    parsed, ?_, ?_⟩
  · rw [answered, ← taken]
  · cases known
    rw [delivered.connections]
    decide

end Tcp

end RadioStack
