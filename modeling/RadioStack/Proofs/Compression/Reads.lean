import RadioStack.Compression.Encoding
import RadioStack.Compression.Packet
import RadioStack.Proofs.Octets

/-!
Each field of a compressed packet is read back from the octets that are written for it, whatever
comes after them. Readers of several fields follow from those of each.
-/

namespace RadioStack.Compression

namespace Reader

/-- From these octets, and whatever follows them, a value is read. -/
def Reads {α : Type} (reader : Reader α) (octets : Octets) (value : α) : Prop :=
  ∀ rest, reader.run (octets ++ rest) = .ok (value, rest)

namespace Reads

variable {α β : Type} {reader : Reader α} {octets more : Octets} {value : α}

theorem pure (value : α) : Reads (Pure.pure value) [] value := fun _ => rfl

theorem bind {next : α → Reader β} {result : β} (first : reader.Reads octets value)
    (second : (next value).Reads more result) :
    Reads (reader >>= next) (octets ++ more) result := by
  intro rest
  rw [StateT.run_bind, List.append_assoc, first]
  exact second rest

theorem map (function : α → β) (first : reader.Reads octets value) :
    Reads (function <$> reader) octets (function value) := by
  intro rest
  rw [StateT.run_map, first]
  rfl

theorem skip {next : α → Reader β} {result : β} (first : reader.Reads [] value)
    (second : (next value).Reads more result) : Reads (reader >>= next) more result :=
  first.bind second

end Reads

theorem reads_octet (octet : UInt8) : Reads Reader.octet [octet] octet := fun _ => rfl

theorem reads_take (octets : Octets) : Reads (take octets.length) octets octets :=
  take_append octets

theorem reads_number (width number : Nat) (fits : number < 256 ^ width) :
    Reads (Reader.number width) (Octets.bigEndian width number) number := by
  have taken := (reads_take (Octets.bigEndian width number)).map Octets.value
  rwa [Octets.value_bigEndian_of_lt _ _ fits, Octets.length_bigEndian] at taken

theorem reads_requireVersion {version : Nat} (six : version = 6) :
    Reads (requireVersion version) [] () := by
  subst six
  exact .pure ()

end Reader

theorem AddressMode.number_lt (mode : AddressMode) : mode.number < 4 := by
  cases mode <;> decide

theorem AddressMode.ofNumber_eq {mode : AddressMode} {number : Nat}
    (same : number % 4 = mode.number) : ofNumber number = mode := by
  rw [ofNumber, same]
  cases mode <;> rfl

theorem HopLimitMode.number_lt (mode : HopLimitMode) : mode.number < 4 := by
  cases mode <;> decide

theorem HopLimitMode.ofNumber_eq {mode : HopLimitMode} {number : Nat}
    (same : number % 4 = mode.number) : ofNumber number = mode := by
  rw [ofNumber, same]
  cases mode <;> rfl

theorem HopLimitMode.value?_ofHopLimit (limit implied : UInt8)
    (mode : (ofHopLimit limit).value? = some implied) : limit = implied := by
  unfold ofHopLimit at mode
  split at mode
  · rename_i one
    cases mode
    exact one
  · split at mode
    · rename_i sixtyFour
      cases mode
      exact sixtyFour
    · split at mode
      · rename_i maximal
        cases mode
        exact maximal
      · cases mode

theorem ContextNumber.ofNat_eq {context : ContextNumber} {number : Nat}
    (same : number % 4 = context.val) : ofNat number = context :=
  Fin.ext same

namespace Control

theorem toNat_first (control : Control) :
    control.first.toNat = 128 * control.zeroTrafficClass.toNat + 64 * control.zeroFlow.toNat +
      32 * control.compressedUdp.toNat + 8 * control.hopLimit.number := by
  have := control.zeroTrafficClass.toNat_le
  have := control.zeroFlow.toNat_le
  have := control.compressedUdp.toNat_le
  have := control.hopLimit.number_lt
  rw [first, Nat.toUInt8_eq, UInt8.toNat_ofNat', Nat.mod_eq_of_lt (by omega)]

theorem toNat_second (control : Control) :
    control.second.toNat = 64 * control.sourceMode.number + 16 * control.sourceContext.val +
      4 * control.destinationMode.number + control.destinationContext.val := by
  have := control.sourceMode.number_lt
  have := control.sourceContext.isLt
  have := control.destinationMode.number_lt
  have := control.destinationContext.isLt
  rw [second, Nat.toUInt8_eq, UInt8.toNat_ofNat', Nat.mod_eq_of_lt (by omega)]

theorem testBit_eq {number index : Nat} {bit : Bool} (same : number / 2 ^ index % 2 = bit.toNat) :
    number.testBit index = bit := by
  rw [Nat.testBit_eq_decide_div_mod_eq, same]
  cases bit <;> rfl

theorem ofOctets_octets (control : Control) :
    ofOctets control.first control.second = control := by
  have := control.zeroTrafficClass.toNat_le
  have := control.zeroFlow.toNat_le
  have := control.compressedUdp.toNat_le
  have := control.hopLimit.number_lt
  have := control.sourceMode.number_lt
  have := control.sourceContext.isLt
  have := control.destinationMode.number_lt
  have := control.destinationContext.isLt
  rw [ofOctets, toNat_first, toNat_second]
  congr 1
  · exact testBit_eq (by omega)
  · exact testBit_eq (by omega)
  · exact testBit_eq (by omega)
  · exact HopLimitMode.ofNumber_eq (by omega)
  · exact AddressMode.ofNumber_eq (by omega)
  · exact ContextNumber.ofNat_eq (by omega)
  · exact AddressMode.ofNumber_eq (by omega)
  · exact ContextNumber.ofNat_eq (by omega)

end Control

namespace Reader

theorem reads_traffic {control : Control} {trafficClass : UInt8} {flow : Nat}
    (zeroTrafficClass : control.zeroTrafficClass = (trafficClass == 0))
    (zeroFlow : control.zeroFlow = (flow == 0)) (bounded : flow < 0x100000) :
    (traffic control).Reads (Encoding.trafficOctets trafficClass flow)
      (trafficClass, flow.toUInt32) := by
  have classed := trafficClass.toNat_lt
  unfold traffic Encoding.trafficOctets
  rw [zeroTrafficClass, zeroFlow]
  -- Four forms, as each of the two may be left out.
  by_cases zero : flow = 0
  · subst zero
    by_cases plain : trafficClass = 0
    · subst plain
      exact .pure _
    · rw [beq_false_of_ne plain, if_pos rfl, if_neg plain]
      exact (reads_octet trafficClass).bind (.pure _)
  · rw [beq_false_of_ne zero, if_neg zero]
    by_cases plain : trafficClass = 0
    · subst plain
      rw [if_pos rfl]
      have word := reads_number 3 (6 * 0x100000 + flow) (by omega)
      rw [← List.append_nil (Octets.bigEndian _ _)]
      refine word.bind (.skip (reads_requireVersion (by omega)) ?_)
      have low : (6 * 0x100000 + flow) % 0x100000 = flow := by omega
      rw [low]
      exact .pure _
    · rw [beq_false_of_ne plain, if_neg plain]
      have word := reads_number 4
        (6 * 0x10000000 + trafficClass.toNat * 0x100000 + flow) (by omega)
      rw [← List.append_nil (Octets.bigEndian _ _)]
      refine word.bind (.skip (reads_requireVersion (by omega)) ?_)
      have high : ((6 * 0x10000000 + trafficClass.toNat * 0x100000 + flow) / 0x100000).toUInt8 =
          trafficClass := by
        apply UInt8.toNat_inj.mp
        rw [Nat.toUInt8_eq, UInt8.toNat_ofNat']
        omega
      have low : (6 * 0x10000000 + trafficClass.toNat * 0x100000 + flow) % 0x100000 = flow := by
        omega
      rw [high, low]
      exact .pure _

theorem reads_nextHeader {control : Control} (next : Ip.NextHeader) :
    (nextHeader? control).Reads (if control.compressedUdp then [] else [next.number])
      (if control.compressedUdp then none else some next) := by
  unfold nextHeader?
  split
  · exact .pure _
  · exact (reads_octet next.number).bind (.pure _)

theorem reads_hopLimit {control : Control} {limit : UInt8}
    (mode : control.hopLimit = .ofHopLimit limit) :
    (hopLimit control).Reads (Encoding.hopLimitOctets limit) limit := by
  have implied := HopLimitMode.value?_ofHopLimit limit
  unfold hopLimit Encoding.hopLimitOctets
  rw [mode]
  cases known : HopLimitMode.ofHopLimit limit with
  | stated => exact reads_octet limit
  | one | sixtyFour | maximal =>
      rw [implied _ (by rw [known]; rfl)]
      exact .pure _

theorem get?_of_find? {contexts : ContextTable} {address : Address} {context : ContextNumber}
    (found : contexts.find? address = some context) :
    contexts.get? context = some address.network := by
  have held := List.find?_some found
  rw [beq_iff_eq] at held
  rw [ContextTable.get?, Vector.getElem?_eq_getElem context.isLt]
  exact congrArg Option.join (congrArg some held)

theorem reads_network {contexts : ContextTable} {context : ContextNumber} {half : UInt64}
    (held : contexts.get? context = some half) :
    (network contexts context).Reads [] half := by
  rw [network, held]
  exact .pure half

theorem reads_full (contexts : ContextTable) (context : ContextNumber) (link : LinkAddress)
    (stated : Address) :
    (Reader.address contexts .full context link).Reads stated.octets stated := by
  have taken := (reads_take stated.octets).map Address.ofOctets
  rwa [Address.length_octets, Address.ofOctets_octets] at taken

theorem reads_long {contexts : ContextTable} {context : ContextNumber} {stated : Address}
    (held : contexts.get? context = some stated.network) (link : LinkAddress) :
    (Reader.address contexts .long context link).Reads
      (Octets.bigEndian 8 stated.identifier.toNat) stated := by
  have fits := stated.identifier.toNat_lt
  have identifier := reads_number 8 stated.identifier.toNat (by omega)
  rw [← List.append_nil (Octets.bigEndian _ _)]
  refine .skip (reads_network held) (identifier.bind ?_)
  have same : stated.identifier.toNat.toUInt64 = stated.identifier := by simp
  rw [same]
  exact .pure stated

theorem reads_elided {contexts : ContextTable} {context : ContextNumber} {stated : Address}
    {link : LinkAddress} (held : contexts.get? context = some stated.network)
    (same : stated.identifier = link.identifier) :
    (Reader.address contexts .elided context link).Reads [] stated := by
  apply Reads.skip (reads_network held)
  rw [← same]
  exact .pure stated

theorem reads_short {contexts : ContextTable} {context : ContextNumber} {stated : Address}
    (held : contexts.get? context = some stated.network)
    (small : stated.identifier < AddressForm.shortBound) (link : LinkAddress) :
    (Reader.address contexts .short context link).Reads
      (Octets.bigEndian 2 stated.identifier.toNat) stated := by
  rw [UInt64.lt_iff_toNat_lt] at small
  change stated.identifier.toNat < 32768 at small
  have low : (stated.identifier.toNat / 256).toUInt8 < 0x80 := by
    rw [UInt8.lt_iff_toNat_lt, Nat.toUInt8_eq, UInt8.toNat_ofNat']
    change _ < 128
    omega
  have whole := Octets.value_bigEndian_of_lt 2 stated.identifier.toNat (by omega)
  change Octets.value [(stated.identifier.toNat / 256).toUInt8, stated.identifier.toNat.toUInt8] =
    stated.identifier.toNat at whole
  refine (reads_octet (stated.identifier.toNat / 256).toUInt8).bind
    ((reads_octet stated.identifier.toNat.toUInt8).bind ?_)
  -- The network is asked for only after both octets, but takes none.
  rw [if_pos low, whole]
  apply Reads.skip (reads_network held)
  have same : stated.identifier.toNat.toUInt64 = stated.identifier := by simp
  rw [same]
  exact .pure stated

theorem scope_lt (stated : Address) : stated.scope.toNat < 16 := by
  rw [Address.scope, UInt64.toNat_and]
  exact Nat.lt_succ_of_le Nat.and_le_right

theorem reads_group {stated : Address} (group : stated.isWellKnownGroup)
    (contexts : ContextTable) (context : ContextNumber) (link : LinkAddress) :
    (Reader.address contexts .short context link).Reads
      [(160 + 2 * stated.scope.toNat).toUInt8, stated.identifier.toUInt8] stated := by
  have bounded := scope_lt stated
  simp only [Address.isWellKnownGroup, Bool.and_eq_true, Bool.or_eq_true, beq_iff_eq] at group
  obtain ⟨network, known⟩ := group
  have high : (160 + 2 * stated.scope.toNat).toUInt8.toNat = 160 + 2 * stated.scope.toNat := by
    rw [Nat.toUInt8_eq, UInt8.toNat_ofNat', Nat.mod_eq_of_lt (by omega)]
  have marked : ¬ (160 + 2 * stated.scope.toNat).toUInt8 < 0x80 := by
    rw [UInt8.lt_iff_toNat_lt, high]
    change ¬ _ < 128
    omega
  have scope : ((160 + 2 * stated.scope.toNat).toUInt8 / 2 % 16).toUInt64 = stated.scope := by
    apply UInt64.toNat_inj.mp
    rw [UInt8.toNat_toUInt64, UInt8.toNat_mod, UInt8.toNat_div, high]
    change (160 + 2 * stated.scope.toNat) / 2 % 16 = _
    omega
  have number : stated.identifier.toUInt8.toUInt64 = stated.identifier := by
    rcases known with one | two
    · rw [one]
      rfl
    · rw [two]
      rfl
  refine (reads_octet _).bind ((reads_octet _).bind ?_)
  rw [if_neg marked, scope, number, ← network]
  exact .pure stated

theorem reads_unicast (contexts : ContextTable) (link : LinkAddress) (stated : Address) :
    let form := AddressForm.ofUnicast contexts link stated
    (Reader.address contexts form.mode form.context link).Reads (form.octets stated) stated := by
  unfold AddressForm.ofUnicast
  cases found : contexts.find? stated with
  | none => exact reads_full contexts _ link stated
  | some context =>
      have held := get?_of_find? found
      dsimp only
      split
      · rename_i same
        exact reads_elided held same
      · split
        · rename_i small
          exact reads_short held small link
        · exact reads_long held link

theorem reads_destination (contexts : ContextTable) (link : LinkAddress) (stated : Address) :
    let form := AddressForm.ofDestination contexts link stated
    (Reader.address contexts form.mode form.context link).Reads (form.octets stated) stated := by
  unfold AddressForm.ofDestination
  split
  · split
    · rename_i group
      exact reads_group group contexts _ link
    · exact reads_full contexts _ link stated
  · exact reads_unicast contexts link stated

theorem shortPort_eq {port : UInt16} {bits : UInt8} (short : isShortPort port)
    (low : bits.toNat = port.toNat % 16) : shortPortBase + bits.toUInt16 = port := by
  rw [isShortPort, beq_iff_eq, ← UInt16.toNat_inj, UInt16.toNat_div, UInt16.toNat_div] at short
  change port.toNat / 16 = 3851 at short
  apply UInt16.toNat_inj.mp
  rw [UInt16.toNat_add, UInt8.toNat_toUInt16, low]
  change (61616 + port.toNat % 16) % 65536 = port.toNat
  omega

theorem reads_word (word : UInt16) :
    (Reader.number 2).Reads (Octets.bigEndian 2 word.toNat) word.toNat :=
  reads_number 2 word.toNat word.toNat_lt

theorem toUInt16_toNat (word : UInt16) : word.toNat.toUInt16 = word := by
  rw [Nat.toUInt16_eq, UInt16.ofNat_toNat]

theorem reads_packed {source destination : UInt16} (shortSource : isShortPort source)
    (shortDestination : isShortPort destination) :
    (UdpHeader.readPorts UdpHeader.portsPacked).Reads
      [(16 * (source.toNat % 16) + destination.toNat % 16).toUInt8] (source, destination) := by
  have packed : (16 * (source.toNat % 16) + destination.toNat % 16).toUInt8.toNat =
      16 * (source.toNat % 16) + destination.toNat % 16 := by
    rw [Nat.toUInt8_eq, UInt8.toNat_ofNat', Nat.mod_eq_of_lt (by omega)]
  have high : ((16 * (source.toNat % 16) + destination.toNat % 16).toUInt8 / 16).toNat =
      source.toNat % 16 := by
    rw [UInt8.toNat_div, packed]
    change _ / 16 = _
    omega
  have low : ((16 * (source.toNat % 16) + destination.toNat % 16).toUInt8 % 16).toNat =
      destination.toNat % 16 := by
    rw [UInt8.toNat_mod, packed]
    change _ % 16 = _
    omega
  apply (reads_octet _).bind
  rw [shortPort_eq shortSource high, shortPort_eq shortDestination low]
  exact .pure _

theorem reads_inFull (source destination : UInt16) :
    (UdpHeader.readPorts UdpHeader.portsInFull).Reads
      (Octets.bigEndian 2 source.toNat ++ Octets.bigEndian 2 destination.toNat)
      (source, destination) := by
  rw [← List.append_nil (Octets.bigEndian 2 destination.toNat)]
  refine (reads_word source).bind ((reads_word destination).bind ?_)
  rw [toUInt16_toNat, toUInt16_toNat]
  exact .pure _

theorem reads_checksum (source destination checksum : UInt16) :
    (do let field ← Reader.number 2; return ⟨source, destination, field.toUInt16⟩ :
      Reader Udp.Header).Reads (Octets.bigEndian 2 checksum.toNat)
      ⟨source, destination, checksum⟩ := by
  rw [← List.append_nil (Octets.bigEndian _ _)]
  apply (reads_word checksum).bind
  rw [toUInt16_toNat]
  exact .pure _

theorem reads_udp (header : Udp.Header) :
    UdpHeader.read.Reads (UdpHeader.octets header) header := by
  unfold UdpHeader.octets
  split
  · rename_i short
    rw [UdpHeader.hasShortPorts, Bool.and_eq_true] at short
    exact (reads_octet UdpHeader.portsPacked).bind
      ((reads_packed short.1 short.2).bind (reads_checksum _ _ _))
  · exact (reads_octet UdpHeader.portsInFull).bind
      ((reads_inFull _ _).bind (reads_checksum _ _ _))

end Reader

end RadioStack.Compression
