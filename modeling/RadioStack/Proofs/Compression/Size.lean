import RadioStack.Proofs.Compression.RoundTrip

/-!
How many octets a packet takes when it is compressed, counted from its fields, and that a buffer
has to be just that long.
-/

namespace RadioStack.Compression

def AddressMode.size : AddressMode → Nat
  | .full => 16
  | .long => 8
  | .short => 2
  | .elided => 0

theorem AddressMode.size_le (mode : AddressMode) : mode.size ≤ 16 := by
  cases mode <;> decide

/-- The size of a compressed UDP header: the ports take one octet if both are among the sixteen
short ones, else four. -/
def UdpHeader.sizeOfPorts (source destination : UInt16) : Nat :=
  if (0xf0b0 ≤ source ∧ source ≤ 0xf0bf) ∧ 0xf0b0 ≤ destination ∧ destination ≤ 0xf0bf then 4
  else 7

def Transport.headerSize : Transport → Nat
  | .udp source destination _ => UdpHeader.sizeOfPorts source destination
  | .other _ => 0

namespace Encoding

def trafficSize (trafficClass : UInt8) (flow : Nat) : Nat :=
  if flow = 0 then if trafficClass = 0 then 0 else 1
  else if trafficClass = 0 then 3 else 4

def hopLimitSize (hopLimit : UInt8) : Nat :=
  if hopLimit = 1 ∨ hopLimit = 64 ∨ hopLimit = 255 then 0 else 1

def size (contexts : ContextTable) (header : Ip.Header) (transport : Transport)
    (links : LinkPair) : Nat :=
  2 + trafficSize header.trafficClass header.flow + (if transport.isUdp then 0 else 1) +
    hopLimitSize header.hopLimit +
    (AddressForm.ofUnicast contexts links.source header.source).mode.size +
    (AddressForm.ofDestination contexts links.destination header.destination).mode.size +
    transport.headerSize + transport.payload.length

theorem trafficSize_le (trafficClass : UInt8) (flow : Nat) :
    trafficSize trafficClass flow ≤ 4 := by
  unfold trafficSize
  split <;> split <;> decide

theorem hopLimitSize_le (hopLimit : UInt8) : hopLimitSize hopLimit ≤ 1 := by
  unfold hopLimitSize
  split <;> decide

theorem length_trafficOctets (trafficClass : UInt8) (flow : Nat) :
    (trafficOctets trafficClass flow).length = trafficSize trafficClass flow := by
  unfold trafficOctets trafficSize
  split <;> split <;> simp

theorem length_hopLimitOctets (hopLimit : UInt8) :
    (hopLimitOctets hopLimit).length = hopLimitSize hopLimit := by
  unfold hopLimitOctets HopLimitMode.ofHopLimit hopLimitSize
  by_cases one : hopLimit = 1
  · simp [one]
  by_cases sixtyFour : hopLimit = 64
  · simp [sixtyFour]
  by_cases maximal : hopLimit = 255
  · simp [maximal]
  · simp [one, sixtyFour, maximal]

end Encoding

theorem AddressForm.length_octets (form : AddressForm) (address : Address) :
    (form.octets address).length = form.mode.size := by
  cases form <;> simp [octets, mode, AddressMode.size]

theorem isShortPort_iff (port : UInt16) :
    isShortPort port ↔ 0xf0b0 ≤ port ∧ port ≤ 0xf0bf := by
  have base : (shortPortBase / 16).toNat = 3851 := rfl
  have sixteen : (16 : UInt16).toNat = 16 := rfl
  have least : (0xf0b0 : UInt16).toNat = 61616 := rfl
  have greatest : (0xf0bf : UInt16).toNat = 61631 := rfl
  rw [isShortPort, beq_iff_eq, ← UInt16.toNat_inj, UInt16.toNat_div, base, sixteen,
    UInt16.le_iff_toNat_le, UInt16.le_iff_toNat_le, least, greatest]
  omega

theorem UdpHeader.length_octets (header : Udp.Header) :
    (octets header).length = sizeOfPorts header.source header.destination := by
  have short : hasShortPorts header ↔ (0xf0b0 ≤ header.source ∧ header.source ≤ 0xf0bf) ∧
      0xf0b0 ≤ header.destination ∧ header.destination ≤ 0xf0bf := by
    rw [hasShortPorts, Bool.and_eq_true, isShortPort_iff, isShortPort_iff]
  unfold octets sizeOfPorts
  by_cases packed : hasShortPorts header
  · rw [if_pos packed, if_pos (short.mp packed)]
    simp
  · rw [if_neg packed, if_neg (mt short.mpr packed)]
    simp

variable (contexts : ContextTable) (header : Ip.Header) (transport : Transport) (links : LinkPair)

theorem length_encoded :
    (headerOctets contexts header transport links ++ transport.payload).length =
      Encoding.size contexts header transport links := by
  have next : (if transport.isUdp then [] else [header.nextHeader.number]).length =
      if transport.isUdp then 0 else 1 := by
    split <;> rfl
  have udp : (((transport.udpHeader? header).map UdpHeader.octets).getD []).length =
      transport.headerSize := by
    cases transport with
    | udp source destination payload => exact UdpHeader.length_octets _
    | other payload => rfl
  simp only [headerOctets, Encoding.size, List.length_append, Control.octets, List.length_cons,
    List.length_nil, Encoding.length_trafficOctets, Encoding.length_hopLimitOctets,
    AddressForm.length_octets, next, udp]
  omega

/-- A packet is written into every buffer that is as long as its size, and into no other; what
comes after it in the buffer stays. -/
theorem encode_eq (buffer : Octets) :
    encode contexts header transport links buffer =
      if Encoding.size contexts header transport links ≤ buffer.length then
        .ok ⟨headerOctets contexts header transport links ++ transport.payload,
          buffer.drop (Encoding.size contexts header transport links)⟩
      else .error .bufferTooSmall := by
  rw [encode, Buffer.putAll_eq, flatten_fields, length_encoded]
  rfl

end RadioStack.Compression
