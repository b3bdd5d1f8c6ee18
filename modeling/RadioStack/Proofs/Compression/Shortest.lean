import RadioStack.Proofs.Compression.Front
import RadioStack.Proofs.Compression.Size

/-!
No packet between unicast addresses can be compressed further: among all octet strings that are
decompressed to it, none is shorter than the one compression gives. Main statement:
`encode_shortest`.
-/

namespace RadioStack.Compression

namespace Reader

/-- What holds of each value that is read and of the number of octets it took. -/
def Yields {α : Type} (reader : Reader α) (fact : α → Nat → Prop) : Prop :=
  ∀ ⦃octets value rest⦄, reader.run octets = .ok (value, rest) →
    ∃ count, octets.length = count + rest.length ∧ fact value count

variable {α β : Type} {reader : Reader α} {fact : α → Nat → Prop}

theorem yields_pure {value : α} (holds : fact value 0) : (pure value : Reader α).Yields fact := by
  rintro octets value rest ⟨⟩
  exact ⟨0, (Nat.zero_add _).symm, holds⟩

theorem yields_throw (error : DecodeError) : (throw error : Reader α).Yields fact := by
  rintro octets value rest ⟨⟩

theorem Yields.bind {next : α → Reader β} {goal : β → Nat → Prop} (first : reader.Yields fact)
    (second : ∀ value count, fact value count →
      (next value).Yields fun result more => goal result (count + more)) :
    (reader >>= next).Yields goal := by
  intro octets result rest read
  obtain ⟨value, middle, read, later⟩ := bind_eq_ok read
  obtain ⟨count, length, holds⟩ := first read
  obtain ⟨more, lengthLater, holdsLater⟩ := second value count holds later
  exact ⟨count + more, by omega, holdsLater⟩

theorem Yields.imp {goal : α → Nat → Prop} (read : reader.Yields fact)
    (weaker : ∀ value count, fact value count → goal value count) : reader.Yields goal := by
  intro octets value rest done
  obtain ⟨count, length, holds⟩ := read done
  exact ⟨count, length, weaker value count holds⟩

theorem yields_octet : Reader.octet.Yields fun _ count => count = 1 := by
  intro octets value rest read
  cases octets with
  | nil => cases read
  | cons =>
      cases read
      exact ⟨1, Nat.add_comm _ _, rfl⟩

theorem yields_take (width : Nat) :
    (take width).Yields fun octets count => octets.length = width ∧ count = width := by
  intro octets value rest read
  simp only [take, StateT.run] at read
  split at read
  · rename_i long
    cases read
    have counted : octets.length = width + (octets.drop width).length := by
      rw [List.length_drop]
      omega
    exact ⟨width, counted, List.length_take_of_le long, rfl⟩
  · cases read

theorem yields_number (width : Nat) :
    (number width).Yields fun value count => value < 256 ^ width ∧ count = width := by
  rw [number, map_eq_pure_bind]
  refine (yields_take width).bind ?_
  rintro octets count ⟨long, rfl⟩
  have bounded := Octets.value_lt octets
  rw [long] at bounded
  exact yields_pure ⟨bounded, rfl⟩

theorem yields_requireVersion (version : Nat) :
    (requireVersion version).Yields fun _ count => count = 0 := by
  unfold requireVersion
  split
  · exact yields_pure rfl
  · exact yields_throw _

theorem yields_traffic (control : Control) :
    (traffic control).Yields fun (trafficClass, flow) count => flow.toNat < 0x100000 ∧
      Encoding.trafficSize trafficClass flow.toNat ≤ count := by
  have label (word : Nat) : (word % 0x100000).toUInt32.toNat < 0x100000 := by
    rw [Nat.toUInt32_eq, UInt32.toNat_ofNat']
    omega
  unfold traffic
  split
  · refine (yields_number 4).bind ?_
    rintro word _ ⟨-, rfl⟩
    refine (yields_requireVersion _).bind ?_
    rintro _ _ rfl
    exact yields_pure ⟨label word, Encoding.trafficSize_le _ _⟩
  · refine (yields_number 3).bind ?_
    rintro word _ ⟨-, rfl⟩
    refine (yields_requireVersion _).bind ?_
    rintro _ _ rfl
    refine yields_pure ⟨label word, ?_⟩
    unfold Encoding.trafficSize
    split <;> decide
  · refine yields_octet.bind ?_
    rintro trafficClass _ rfl
    refine yields_pure ⟨by decide, ?_⟩
    unfold Encoding.trafficSize
    split
    · split <;> decide
    · contradiction
  · exact yields_pure ⟨by decide, Nat.le_refl 0⟩

theorem yields_nextHeader (control : Control) :
    (nextHeader? control).Yields fun next count => count = if next.isSome then 1 else 0 := by
  unfold nextHeader?
  split
  · exact yields_pure rfl
  · refine yields_octet.bind ?_
    rintro number _ rfl
    exact yields_pure rfl

theorem yields_hopLimit (control : Control) :
    (hopLimit control).Yields fun limit count => Encoding.hopLimitSize limit ≤ count := by
  unfold hopLimit
  cases control.hopLimit with
  | stated =>
      refine yields_octet.imp ?_
      rintro limit _ rfl
      exact Encoding.hopLimitSize_le limit
  | one | sixtyFour | maximal => exact yields_pure (by decide)

variable {contexts : ContextTable} {context : ContextNumber} {link : LinkAddress}
  {stated : Address}

theorem exists_find?_of_get? (held : contexts.get? context = some stated.network) :
    ∃ first, contexts.find? stated = some first := by
  rw [ContextTable.get?, Vector.getElem?_eq_getElem context.isLt, Option.join_some] at held
  apply Option.isSome_iff_exists.mp
  rw [ContextTable.find?, List.find?_isSome]
  exact ⟨context, List.mem_finRange context, beq_iff_eq.mpr held⟩

theorem size_ofUnicast (held : contexts.get? context = some stated.network) :
    (AddressForm.ofUnicast contexts link stated).mode.size =
      if stated.identifier = link.identifier then 0
      else if stated.identifier < AddressForm.shortBound then 2 else 8 := by
  obtain ⟨first, found⟩ := exists_find?_of_get? held
  rw [AddressForm.ofUnicast, found]
  dsimp only
  split
  · rfl
  · split <;> rfl

theorem isMulticast_group (high : UInt8) (identifier : UInt64) :
    Address.isMulticast ⟨Address.multicastNetwork ((high / 2) % 16).toUInt64, identifier⟩ := by
  have scopes : ∀ scope : Fin 16,
      Address.multicastNetwork (UInt64.ofNat scope.val) >>> 56 == 0xff := by decide
  have bounded : (high / 2 % 16).toNat < 16 := by
    rw [UInt8.toNat_mod]
    exact Nat.mod_lt _ (by decide)
  have same : UInt64.ofNat (high / 2 % 16).toNat = (high / 2 % 16).toUInt64 := by
    apply UInt64.toNat_inj.mp
    rw [UInt64.toNat_ofNat', UInt8.toNat_toUInt64]
    omega
  have group := scopes ⟨_, bounded⟩
  rwa [same] at group

theorem value_lt_shortBound {high : UInt8} (small : high < 0x80) (low : UInt8) :
    (Octets.value [high, low]).toUInt64 < AddressForm.shortBound := by
  have top : high.toNat < 128 := UInt8.lt_iff_toNat_lt.mp small
  have bottom := low.toNat_lt
  have bound : AddressForm.shortBound.toNat = 32768 := rfl
  rw [UInt64.lt_iff_toNat_lt, Nat.toUInt64_eq, UInt64.toNat_ofNat', Octets.value_pair, bound]
  omega

theorem yields_network :
    (network contexts context).Yields fun half count =>
      contexts.get? context = some half ∧ count = 0 := by
  unfold network
  split
  · rename_i held
    exact yields_pure ⟨held, rfl⟩
  · exact yields_throw _

theorem yields_address (mode : AddressMode) :
    (address contexts mode context link).Yields fun stated count => ¬ stated.isMulticast →
      (AddressForm.ofUnicast contexts link stated).mode.size ≤ count := by
  unfold address
  cases mode with
  | full =>
      dsimp only
      rw [map_eq_pure_bind]
      refine (yields_take 16).bind ?_
      rintro octets _ ⟨-, rfl⟩
      exact yields_pure fun _ => AddressMode.size_le _
  | long =>
      refine yields_network.bind ?_
      rintro half _ ⟨held, rfl⟩
      refine (yields_number 8).bind ?_
      rintro identifier _ ⟨-, rfl⟩
      refine yields_pure fun _ => ?_
      rw [size_ofUnicast held]
      split
      · decide
      · split <;> decide
  | short =>
      refine yields_octet.bind ?_
      rintro high _ rfl
      refine yields_octet.bind ?_
      rintro low _ rfl
      split
      · rename_i small
        refine yields_network.bind ?_
        rintro half _ ⟨held, rfl⟩
        refine yields_pure fun _ => ?_
        rw [size_ofUnicast held, if_pos (value_lt_shortBound small low)]
        split <;> decide
      · exact yields_pure fun unicast => absurd (isMulticast_group high low.toUInt64) unicast
  | elided =>
      refine yields_network.bind ?_
      rintro half _ ⟨held, rfl⟩
      exact yields_pure fun _ => Nat.le_of_eq ((size_ofUnicast held).trans (if_pos rfl))

theorem shortPort_bounds {bits : UInt8} (few : bits.toNat < 16) :
    0xf0b0 ≤ shortPortBase + bits.toUInt16 ∧ shortPortBase + bits.toUInt16 ≤ 0xf0bf := by
  have port : (shortPortBase + bits.toUInt16).toNat = 61616 + bits.toNat := by
    rw [UInt16.toNat_add, UInt8.toNat_toUInt16]
    change (61616 + bits.toNat) % 65536 = _
    omega
  rw [UInt16.le_iff_toNat_le, UInt16.le_iff_toNat_le, port]
  change 61616 ≤ _ ∧ _ ≤ 61631
  omega

theorem yields_readPorts (format : UInt8) :
    (UdpHeader.readPorts format).Yields fun (source, destination) count =>
      UdpHeader.sizeOfPorts source destination ≤ 1 + count + 2 := by
  unfold UdpHeader.readPorts
  split
  · refine yields_octet.bind ?_
    rintro packed _ rfl
    have high : (packed / 16).toNat < 16 := by
      have := packed.toNat_lt
      rw [UInt8.toNat_div]
      change packed.toNat / 16 < 16
      omega
    have low : (packed % 16).toNat < 16 := by
      rw [UInt8.toNat_mod]
      exact Nat.mod_lt _ (by decide)
    exact yields_pure (Nat.le_of_eq (if_pos ⟨shortPort_bounds high, shortPort_bounds low⟩))
  · split
    · refine (yields_number 2).bind ?_
      rintro source _ ⟨-, rfl⟩
      refine (yields_number 2).bind ?_
      rintro destination _ ⟨-, rfl⟩
      refine yields_pure ?_
      dsimp only
      unfold UdpHeader.sizeOfPorts
      split <;> decide
    · exact yields_throw _

theorem yields_udp :
    UdpHeader.read.Yields fun header count =>
      UdpHeader.sizeOfPorts header.source header.destination ≤ count := by
  refine yields_octet.bind ?_
  rintro format _ rfl
  refine (yields_readPorts format).bind ?_
  rintro ⟨source, destination⟩ count ports
  refine (yields_number 2).bind ?_
  rintro checksum _ ⟨-, rfl⟩
  refine yields_pure ?_
  dsimp only at ports ⊢
  omega

end Reader

def Transport.behind (udp : Option Udp.Header) (payload : Octets) : Transport :=
  match udp with
  | some udp => .udp udp.source udp.destination payload
  | none => .other payload

def Packet.transport (packet : Packet) : Transport := .behind packet.udp packet.payload

/-- Headers as they are read from `count` octets: compressing them again loses nothing of them, and
between unicast addresses it takes no more octets. -/
structure Economical (contexts : ContextTable) (links : LinkPair) (header : Ip.Header)
    (udp : Option Udp.Header) (count : Nat) : Prop where
  flow : header.flowLabel.toNat < 0x100000
  next : udp.isSome → header.nextHeader = .udp
  size : ¬ header.source.isMulticast → ¬ header.destination.isMulticast → ∀ payload,
    Encoding.size contexts header (.behind udp payload) links ≤ count + payload.length

variable {contexts : ContextTable} {links : LinkPair} {octets : Octets} {packet : Packet}

theorem Encoding.size_behind {header : Ip.Header} (udp : Option Udp.Header) (payload : Octets)
    (unicast : ¬ header.destination.isMulticast) :
    size contexts header (.behind udp payload) links =
      2 + trafficSize header.trafficClass header.flow + (if udp.isSome then 0 else 1) +
        hopLimitSize header.hopLimit +
        (AddressForm.ofUnicast contexts links.source header.source).mode.size +
        (AddressForm.ofUnicast contexts links.destination header.destination).mode.size +
        udp.elim 0 (fun udp => UdpHeader.sizeOfPorts udp.source udp.destination) +
        payload.length := by
  rw [size, AddressForm.ofDestination, if_neg unicast]
  cases udp <;> rfl

/-- The size is a sum, and each field has taken its part of it at least. -/
theorem Economical.of_counts {header : Ip.Header} {udp : Option Udp.Header}
    {traffic next limit source destination ports : Nat}
    (small : header.flowLabel.toNat < 0x100000) (announced : udp.isSome → header.nextHeader = .udp)
    (trafficFits :
      Encoding.trafficSize header.trafficClass header.flowLabel.toNat ≤ traffic)
    (nextFits : (if udp.isSome then 0 else 1) ≤ next)
    (limitFits : Encoding.hopLimitSize header.hopLimit ≤ limit)
    (sourceFits : ¬ header.source.isMulticast →
      (AddressForm.ofUnicast contexts links.source header.source).mode.size ≤ source)
    (destinationFits : ¬ header.destination.isMulticast →
      (AddressForm.ofUnicast contexts links.destination header.destination).mode.size ≤ destination)
    (portsFit : udp.elim 0 (fun udp => UdpHeader.sizeOfPorts udp.source udp.destination) ≤ ports) :
    Economical contexts links header udp
      (1 + (1 + (traffic + (next + (limit + (source + (destination + ports))))))) := by
  have flow : header.flow = header.flowLabel.toNat := Nat.mod_eq_of_lt small
  refine ⟨small, announced, fun fromOne toOne payload => ?_⟩
  have sourceSize := sourceFits fromOne
  have destinationSize := destinationFits toOne
  rw [Encoding.size_behind udp payload toOne, flow]
  omega

theorem Reader.yields_headers :
    (Reader.headers contexts links).Yields fun (header, udp) count =>
      Economical contexts links header udp count := by
  refine yields_octet.bind ?_
  rintro first _ rfl
  refine yields_octet.bind ?_
  rintro second _ rfl
  refine (yields_traffic _).bind ?_
  rintro ⟨trafficClass, flowLabel⟩ trafficCount ⟨small, traffic⟩
  refine (yields_nextHeader _).bind ?_
  rintro next _ rfl
  refine (yields_hopLimit _).bind ?_
  intro limit limitCount hopLimit
  refine (yields_address _).bind ?_
  intro source sourceCount unicastSource
  refine (yields_address _).bind ?_
  intro destination destinationCount unicastDestination
  cases next with
  | some next =>
      exact yields_pure (.of_counts small nofun traffic (Nat.le_refl 1) hopLimit unicastSource
        unicastDestination (Nat.le_refl 0))
  | none =>
      refine yields_udp.bind ?_
      intro udp udpCount ports
      exact yields_pure (.of_counts small (fun _ => rfl) traffic (Nat.le_refl 0) hopLimit
        unicastSource unicastDestination ports)

theorem economical_of_decode (decoded : decode contexts octets links = .ok packet) :
    ∃ count, Economical contexts links packet.header packet.udp count ∧
      octets.length = count + packet.payload.length := by
  obtain ⟨front, taken, -, -, parted⟩ := exists_front decoded
  obtain ⟨count, length, economical⟩ := Reader.yields_headers (taken.reads [])
  rw [List.append_nil, List.length_nil, Nat.add_zero] at length
  refine ⟨count, economical, ?_⟩
  rw [← length, ← List.length_append, ← parted]

theorem size_le_of_decode (decoded : decode contexts octets links = .ok packet)
    (source : ¬ packet.header.source.isMulticast)
    (destination : ¬ packet.header.destination.isMulticast) :
    Encoding.size contexts packet.header packet.transport links ≤ octets.length := by
  obtain ⟨count, economical, length⟩ := economical_of_decode decoded
  calc
    Encoding.size contexts packet.header packet.transport links ≤
        count + packet.payload.length := economical.size source destination packet.payload
    _ = octets.length := length.symm

theorem received_of_decode (decoded : decode contexts octets links = .ok packet) :
    received packet.header packet.transport = packet.header := by
  obtain ⟨count, economical, -⟩ := economical_of_decode decoded
  refine received_eq economical.flow fun udp => economical.next ?_
  cases known : packet.udp with
  | some udp => rfl
  | none =>
      rw [Packet.transport, known] at udp
      cases udp

theorem transport_delivered (header : Ip.Header) (transport : Transport) :
    (delivered contexts header transport links).transport = transport := by
  rw [Packet.transport, payload_delivered, delivered]
  cases transport <;> rfl

end RadioStack.Compression
