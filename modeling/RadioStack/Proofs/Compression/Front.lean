import RadioStack.Proofs.Compression.Reads

/-!
The headers at the front of a packet decide alone how it is decompressed: what follows them is the
payload, whatever it is, and a packet that ends within them is reported as too short. Main
statement: `decode_front`.
-/

namespace RadioStack.Compression

namespace Reader

/-- A value is read from these octets, whatever follows them, and from no fewer of them. -/
structure Takes {α : Type} (reader : Reader α) (front : Octets) (value : α) : Prop where
  reads : reader.Reads front value
  short : ∀ length < front.length, reader.run (front.take length) = .error .shortPacket

/-- Each value is read from a front of the octets, and what follows is not looked at. -/
def NoLookahead {α : Type} (reader : Reader α) : Prop :=
  ∀ ⦃octets value rest⦄, reader.run octets = .ok (value, rest) →
    ∃ front, octets = front ++ rest ∧ reader.Takes front value

variable {α β : Type} {reader : Reader α}

theorem bind_eq_ok {next : α → Reader β} {octets rest : Octets} {result : β}
    (read : (reader >>= next).run octets = .ok (result, rest)) :
    ∃ value middle, reader.run octets = .ok (value, middle) ∧
      (next value).run middle = .ok (result, rest) := by
  rw [StateT.run_bind] at read
  cases first : reader.run octets with
  | error => rw [first] at read; cases read
  | ok pair =>
      rw [first] at read
      exact ⟨pair.1, pair.2, rfl, read⟩

theorem Takes.bind {next : α → Reader β} {front more : Octets} {value : α} {result : β}
    (first : reader.Takes front value) (second : (next value).Takes more result) :
    (reader >>= next).Takes (front ++ more) result := by
  refine ⟨first.reads.bind second.reads, fun length less => ?_⟩
  rw [List.length_append] at less
  rw [StateT.run_bind]
  -- The octets end within those of the first reader, or within those of the second.
  rcases Nat.lt_or_ge length front.length with within | beyond
  · rw [List.take_append_of_le_length (Nat.le_of_lt within), first.short length within]
    rfl
  · rw [List.take_append, List.take_of_length_le beyond, first.reads]
    exact second.short _ (by omega)

theorem NoLookahead.bind {next : α → Reader β} (first : reader.NoLookahead)
    (second : ∀ value, (next value).NoLookahead) : (reader >>= next).NoLookahead := by
  intro octets result rest read
  obtain ⟨value, middle, read, later⟩ := bind_eq_ok read
  obtain ⟨front, rfl, taken⟩ := first read
  obtain ⟨more, rfl, takenLater⟩ := second value later
  exact ⟨front ++ more, (List.append_assoc ..).symm, taken.bind takenLater⟩

theorem noLookahead_pure (value : α) : (pure value : Reader α).NoLookahead := by
  rintro octets value rest ⟨⟩
  exact ⟨[], rfl, .pure value, by simp⟩

theorem noLookahead_throw (error : DecodeError) : (throw error : Reader α).NoLookahead := by
  rintro octets value rest ⟨⟩

theorem NoLookahead.map (function : α → β) (first : reader.NoLookahead) :
    (function <$> reader).NoLookahead := by
  rw [map_eq_pure_bind]
  exact first.bind fun value => noLookahead_pure (function value)

theorem noLookahead_octet : Reader.octet.NoLookahead := by
  intro octets value rest read
  match octets with
  | [] => cases read
  | _ :: _ =>
      cases read
      refine ⟨[value], rfl, reads_octet value, fun length less => ?_⟩
      rw [Nat.lt_one_iff.mp less]
      rfl

theorem noLookahead_take (count : Nat) : (take count).NoLookahead := by
  intro octets value rest read
  simp only [take, StateT.run] at read
  split at read
  · rename_i long
    cases read
    have counted : (octets.take count).length = count := by simp [long]
    refine ⟨octets.take count, (List.take_append_drop count octets).symm, ?_, fun length less => ?_⟩
    · have taken := reads_take (octets.take count)
      rwa [counted] at taken
    · rw [counted] at less
      have few : ¬ count ≤ ((octets.take count).take length).length := by
        rw [List.length_take]
        omega
      exact if_neg few
  · cases read

theorem noLookahead_number (count : Nat) : (number count).NoLookahead :=
  (noLookahead_take count).map Octets.value

theorem noLookahead_requireVersion (version : Nat) : (requireVersion version).NoLookahead := by
  unfold requireVersion
  split
  · exact noLookahead_pure _
  · exact noLookahead_throw _

theorem noLookahead_traffic (control : Control) : (traffic control).NoLookahead := by
  unfold traffic
  split
  · exact (noLookahead_number 4).bind fun word =>
      (noLookahead_requireVersion _).bind fun _ => noLookahead_pure _
  · exact (noLookahead_number 3).bind fun word =>
      (noLookahead_requireVersion _).bind fun _ => noLookahead_pure _
  · exact noLookahead_octet.bind fun trafficClass => noLookahead_pure _
  · exact noLookahead_pure _

theorem noLookahead_nextHeader (control : Control) : (nextHeader? control).NoLookahead := by
  unfold nextHeader?
  split
  · exact noLookahead_pure _
  · exact noLookahead_octet.bind fun number => noLookahead_pure _

theorem noLookahead_hopLimit (control : Control) : (hopLimit control).NoLookahead := by
  unfold hopLimit
  split
  · exact noLookahead_pure _
  · exact noLookahead_octet

variable {contexts : ContextTable} {links : LinkPair}

theorem noLookahead_network (context : ContextNumber) :
    (network contexts context).NoLookahead := by
  unfold network
  split
  · exact noLookahead_pure _
  · exact noLookahead_throw _

theorem noLookahead_address (mode : AddressMode) (context : ContextNumber) (link : LinkAddress) :
    (address contexts mode context link).NoLookahead := by
  unfold address
  cases mode with
  | full => exact (noLookahead_take 16).map Address.ofOctets
  | long =>
      exact (noLookahead_network context).bind fun network =>
        (noLookahead_number 8).bind fun identifier => noLookahead_pure _
  | short =>
      refine noLookahead_octet.bind fun high => noLookahead_octet.bind fun low => ?_
      split
      · exact (noLookahead_network context).bind fun network => noLookahead_pure _
      · exact noLookahead_pure _
  | elided => exact (noLookahead_network context).bind fun network => noLookahead_pure _

theorem noLookahead_readPorts (format : UInt8) : (UdpHeader.readPorts format).NoLookahead := by
  unfold UdpHeader.readPorts
  split
  · exact noLookahead_octet.bind fun packed => noLookahead_pure _
  · split
    · exact (noLookahead_number 2).bind fun source =>
        (noLookahead_number 2).bind fun destination => noLookahead_pure _
    · exact noLookahead_throw _

theorem noLookahead_udp : UdpHeader.read.NoLookahead :=
  noLookahead_octet.bind fun format => (noLookahead_readPorts format).bind fun _ =>
    (noLookahead_number 2).bind fun _ => noLookahead_pure _

theorem noLookahead_headers : (headers contexts links).NoLookahead := by
  refine noLookahead_octet.bind fun first => noLookahead_octet.bind fun second =>
    (noLookahead_traffic _).bind fun _ => (noLookahead_nextHeader _).bind fun next =>
      (noLookahead_hopLimit _).bind fun limit => (noLookahead_address _ _ _).bind fun source =>
        (noLookahead_address _ _ _).bind fun destination => ?_
  cases next with
  | some next => exact noLookahead_pure _
  | none => exact noLookahead_udp.bind fun udp => noLookahead_pure _

theorem two_le_length {front : Octets} {value : Ip.Header × Option Udp.Header}
    (read : (headers contexts links).Reads front value) : 2 ≤ front.length := by
  match front with
  | [] => cases read []
  | [_] => cases read []
  | _ :: _ :: rest => exact Nat.le_add_left 2 rest.length

end Reader

variable {contexts : ContextTable} {links : LinkPair} {octets : Octets} {packet : Packet}

theorem decode_of_takes {front : Octets} {header : Ip.Header} {udp : Option Udp.Header}
    (taken : (Reader.headers contexts links).Takes front (header, udp)) (rest : Octets) :
    decode contexts (front ++ rest) links = .ok ⟨front ++ rest, header, udp, front.length⟩ := by
  rw [decode, taken.reads rest]
  simp

theorem exists_front (decoded : decode contexts octets links = .ok packet) :
    ∃ front, (Reader.headers contexts links).Takes front (packet.header, packet.udp) ∧
      packet.octets = octets ∧ packet.headerLength = front.length ∧
      octets = front ++ packet.payload := by
  unfold decode at decoded
  split at decoded
  · rename_i header udp rest read
    obtain ⟨front, rfl, taken⟩ := Reader.noLookahead_headers read
    cases decoded
    have length : (front ++ rest).length - rest.length = front.length := by simp
    refine ⟨front, taken, rfl, length, ?_⟩
    rw [Packet.payload, length, List.drop_left' rfl]
  · cases decoded

/-- What is in front of the payload decides what a packet is decompressed to: with another payload,
also a shortened one, the headers are the same, and a packet that ends within them is too short. -/
theorem decode_front (decoded : decode contexts octets links = .ok packet) :
    2 ≤ packet.headerLength ∧ packet.headerLength ≤ octets.length ∧
      packet.payload = octets.drop packet.headerLength ∧
      (∀ length, packet.headerLength ≤ length →
        decode contexts (octets.take length) links =
          .ok { packet with octets := octets.take length }) ∧
      (∀ other : Octets, other.take packet.headerLength = octets.take packet.headerLength →
        decode contexts other links = .ok { packet with octets := other }) ∧
      ∀ length < packet.headerLength,
        decode contexts (octets.take length) links = .error .shortPacket := by
  obtain ⟨front, taken, same, length, parted⟩ := exists_front decoded
  have headers : octets.take packet.headerLength = front := by
    rw [parted, length, List.take_left' rfl]
  have behind (other : Octets) (shared : other.take packet.headerLength = front) :
      decode contexts other links = .ok { packet with octets := other } := by
    have whole : other = front ++ other.drop packet.headerLength := by
      rw [← shared, List.take_append_drop]
    have decoded := decode_of_takes taken (other.drop packet.headerLength)
    rw [← whole, ← length] at decoded
    exact decoded
  refine ⟨?_, ?_, ?_, fun count long => behind _ ?_, fun other shared => behind other ?_,
    fun count less => ?_⟩
  · rw [length]
    exact Reader.two_le_length taken.reads
  · rw [length, parted, List.length_append]
    exact Nat.le_add_right _ _
  · rw [Packet.payload, same]
  · rw [List.take_take, Nat.min_eq_left long, headers]
  · rw [shared, headers]
  · have cut : octets.take count = front.take count := by
      rw [← headers, List.take_take, Nat.min_eq_left (Nat.le_of_lt less)]
    rw [length] at less
    rw [cut, decode, taken.short count less]

/-- The headers take seventeen octets: a flow label, a hop limit, half of the source address and
two octets of the destination address. -/
theorem decode_front_segment :
    let links : LinkPair := ⟨⟨1⟩, ⟨2⟩⟩
    let front : Octets :=
      [0x80, 0x48, 0x61, 0x23, 0x45, 6, 63, 0, 0, 0, 0, 0, 0, 0xaa, 0xbb, 0x12, 0x34]
    ∃ packet, decode .standard (front ++ [1, 2, 3]) links = .ok packet ∧
      packet.headerLength = 17 ∧
      decode .standard (front ++ [4]) links = .ok { packet with octets := front ++ [4] } ∧
      ∀ length < 17,
        decode .standard ((front ++ [1, 2, 3]).take length) links = .error .shortPacket := by
  intro links front
  let header : Ip.Header := {
    flowLabel := 0x12345
    nextHeader := .tcp
    hopLimit := 63
    source := .linkLocal 0xaabb
    destination := .linkLocal 0x1234 }
  have decoded : decode .standard (front ++ [1, 2, 3]) links =
      .ok ⟨front ++ [1, 2, 3], header, none, 17⟩ := by decide
  obtain ⟨-, -, -, -, others, short⟩ := decode_front decoded
  exact ⟨_, decoded, rfl, others (front ++ [4]) rfl, short⟩

end RadioStack.Compression
