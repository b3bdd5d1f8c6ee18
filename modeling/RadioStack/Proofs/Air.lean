import RadioStack.Network
import RadioStack.Proofs.Carriage
import RadioStack.Proofs.Compression.Front

/-!
What stations have on the air. What happens at a station adds frames to it, none of which is too
long, and takes none away; so a segment that an endpoint has sent reaches any station with the same
contexts as it was sent, whatever happens before its frame is delivered. Frames that are not too
long are always delivered, and two stations have none left when they stop for want of frames. Main
statements: `emitted_delivered` and `pump_ends`.
-/

namespace RadioStack

open Tcp

namespace Interface

variable {interface : Interface} {header : Ip.Header} {payload : Octets}

theorem length_of_mem_sendPacket {octets : Octets}
    (sent : .frame octets ∈ interface.sendPacket header payload) : octets.length ≤ frameSize := by
  unfold sendPacket at sent
  split at sent
  · rename_i frame framed
    rw [emissions, List.mem_append] at sent
    rcases sent with logged | sent
    · obtain ⟨_, _, ⟨⟩⟩ := List.mem_map.mp logged
    · simp only [List.mem_cons, reduceCtorEq, List.not_mem_nil, or_false, false_or,
        Emission.frame.injEq] at sent
      rw [sent]
      exact length_frame_le framed
  · simp at sent

theorem receiveRecords_of_ok {frame : Octets} {links : LinkPair} {packet : Compression.Packet}
    (received : interface.receive frame links = .ok packet) :
    interface.receiveRecords frame links = [] := by
  unfold receiveRecords
  split
  · rfl
  · split
    · rw [received]
    · rename_i other
      rw [receive, if_neg other] at received
      cases received

theorem length_payload_le {frame : Octets} {links : LinkPair} {packet : Compression.Packet}
    (received : interface.receive frame links = .ok packet) :
    packet.payload.length ≤ frame.length := by
  unfold receive at received
  split at received
  · cases received
  · split at received
    · obtain ⟨-, -, payload, -⟩ := Compression.decode_front received
      rw [payload, List.length_drop, List.length_cons]
      omega
    · cases received

end Interface

def AreShort (frames : List Octets) : Prop :=
  ∀ frame ∈ frames, frame.length ≤ Interface.frameSize

def Node.emitting (frames : List Octets) (node : Node) : Node :=
  { node with air := node.air ++ frames }

namespace Network

/-- Stations have put frames on the air, and something may have been noted. Nothing else has
changed. -/
structure Radiates (before after : Network) : Prop where
  nodes : ∀ number : Nat, ∃ frames, AreShort frames ∧
    after.nodes[number]? = before.nodes[number]?.map (Node.emitting frames)
  rest : after = { before with nodes := after.nodes, journal := after.journal }

/-- A step that always has an answer, and only puts frames on the air. -/
def Emits (step : Step Unit) : Prop :=
  ∀ network, ∃ after, step.run network = some ((), after) ∧ network.Radiates after

variable {network before between after : Network} {number : Nat}

theorem map_emitting_nil (station : Option Node) : station.map (Node.emitting []) = station := by
  cases station with
  | none => rfl
  | some station =>
      rw [Option.map_some, Node.emitting, List.append_nil]

theorem radiates_note (network : Network) (journal : List Happening) :
    network.Radiates { network with journal } :=
  ⟨fun _ => ⟨[], nofun, (map_emitting_nil _).symm⟩, rfl⟩

theorem Radiates.trans (first : before.Radiates between) (second : between.Radiates after) :
    before.Radiates after := by
  refine ⟨fun number => ?_, ?_⟩
  · obtain ⟨early, shortEarly, between⟩ := first.nodes number
    obtain ⟨late, shortLate, after⟩ := second.nodes number
    refine ⟨early ++ late, List.forall_mem_append.mpr ⟨shortEarly, shortLate⟩, ?_⟩
    rw [after, between, Option.map_map]
    refine congrFun (congrArg Option.map (funext fun station => ?_)) _
    rw [Function.comp_apply, Node.emitting, Node.emitting, Node.emitting, List.append_assoc]
  · rw [second.rest, first.rest]

theorem emits_pure : Emits (pure ()) :=
  fun network => ⟨network, rfl, network.radiates_note network.journal⟩

theorem emits_get {next : Network → Step Unit} (emits : ∀ network, Emits (next network)) :
    Emits (do next (← get)) :=
  fun network => emits network network

theorem Emits.andThen {first second : Step Unit} (early : Emits first) (late : Emits second) :
    Emits (do first; second) := by
  intro network
  obtain ⟨between, answers, radiates⟩ := early network
  obtain ⟨after, answersToo, radiatesToo⟩ := late between
  refine ⟨after, ?_, radiates.trans radiatesToo⟩
  rw [StateT.run_bind, answers]
  exact answersToo

theorem emits_forM {α : Type} {step : α → Step Unit} (items : List α)
    (emits : ∀ item ∈ items, Emits (step item)) : Emits (items.forM step) := by
  induction items with
  | nil => exact emits_pure
  | cons item items ih =>
      rw [List.forall_mem_cons] at emits
      exact emits.1.andThen (ih emits.2)

theorem emits_note (happening : Happening) : Emits (note happening) :=
  fun network => ⟨_, rfl, network.radiates_note _⟩

theorem radiates_modify {frames : List Octets} (short : AreShort frames) (node : Nat)
    (journal : List Happening) (network : Network) :
    network.Radiates
      { network with nodes := network.nodes.modify node (Node.emitting frames), journal } := by
  refine ⟨fun number => ?_, rfl⟩
  dsimp only
  rw [List.getElem?_modify]
  by_cases same : node = number
  · refine ⟨frames, short, ?_⟩
    simp only [if_pos same]
    rfl
  · refine ⟨[], nofun, ?_⟩
    simp only [if_neg same, map_emitting_nil]
    exact congrFun Option.map_id _

theorem run_emissions (node : Nat) (emissions : List Interface.Emission) (network : Network) :
    ∃ journal, (emissions.forM (emitFromInterface node)).run network = some ((), { network with
      nodes := network.nodes.modify node
        (Node.emitting (emissions.filterMap Interface.Emission.frame?))
      journal }) := by
  induction emissions generalizing network with
  | nil =>
      have same : Node.emitting [] = id := by
        funext station
        rw [Node.emitting, List.append_nil, id]
      refine ⟨network.journal, ?_⟩
      rw [List.filterMap_nil, same, List.modify_id]
      rfl
  | cons emission emissions ih =>
      cases emission with
      | record record =>
          obtain ⟨journal, run⟩ :=
            ih { network with journal := network.journal ++ [.record record] }
          exact ⟨journal, run⟩
      | frame octets =>
          obtain ⟨journal, run⟩ := ih { network with
            nodes := network.nodes.modify node (Node.emitting [octets])
            journal := network.journal ++ [.frame node octets] }
          have twice : Node.emitting (emissions.filterMap Interface.Emission.frame?) ∘
              Node.emitting [octets] =
              Node.emitting (octets :: emissions.filterMap Interface.Emission.frame?) := by
            funext station
            rw [Function.comp_apply, Node.emitting, Node.emitting, Node.emitting, List.append_assoc]
            rfl
          rw [List.modify_modify_eq, twice] at run
          exact ⟨journal, run⟩

theorem emits_emitSegment (node : Nat) (segment : Segment) : Emits (emitSegment node segment) := by
  refine emits_get fun _ => ?_
  split
  · exact emits_note _
  · split
    · exact emits_pure
    · rename_i station _
      intro network
      obtain ⟨journal, run⟩ :=
        network.run_emissions node (station.interface.sendPacket segment.ip segment.octets)
      refine ⟨_, run, network.radiates_modify (fun frame member => ?_) node journal⟩
      obtain ⟨emission, sent, emitted⟩ := List.mem_filterMap.mp member
      cases emission with
      | record record => cases emitted
      | frame octets =>
          cases emitted
          exact Interface.length_of_mem_sendPacket sent

theorem run_emitSegment {segment : Segment} (ordinary : segment.Ordinary) {source : Node}
    (known : network.nodes[number]? = some source) (framed : network.direct = false) :
    ∃ after, (emitSegment number segment).run network = some ((), after) ∧
      network.Radiates after ∧ after.nodes[number]? =
        some (source.emitting [source.interface.frameOf segment.ip segment.octets]) := by
  have emits : (emitSegment number segment).run network =
      ((Interface.emissions segment.ip (source.interface.frameOf segment.ip segment.octets)).forM
        (emitFromInterface number)).run network := by
    rw [emitSegment, StateT.run_bind, StateT.run_get]
    simp only [Option.pure_def, Option.bind_eq_bind, Option.bind_some, framed, known,
      Bool.false_eq_true, if_false, Interface.sendPacket_eq ordinary.length_octets_le]
  obtain ⟨after, run, radiates⟩ := emits_emitSegment number segment network
  obtain ⟨journal, emitted⟩ := network.run_emissions number
    (Interface.emissions segment.ip (source.interface.frameOf segment.ip segment.octets))
  rw [Interface.frames_emissions] at emitted
  cases run.symm.trans (emits.trans emitted)
  refine ⟨_, run, radiates, ?_⟩
  rw [List.getElem?_modify, known]
  simp only [if_true]
  rfl

theorem emits_perform (connection : Nat) (effect : Effect) : Emits (perform connection effect) := by
  cases effect with
  | emitted emission =>
      cases emission with
      | record record => exact emits_note _
      | segment segment =>
          refine emits_get fun network => ?_
          split
          · exact emits_pure
          · exact emits_emitSegment _ segment
  | abandoned request => exact emits_pure
  | notified | answered | resumed => exact emits_note _

theorem emits_performActivity (activity : Activity) : Emits (performActivity activity) := by
  cases activity with
  | record record => exact emits_note _
  | effect connection effect => exact emits_perform connection effect

def adopt (node : Nat) (routing : Routing) (network : Network) : Network :=
  { network with
    connections := routing.connections
    nodes := network.nodes.modify node fun station => { station with table := routing.table } }

theorem run_route {α : Type} (operation : Instant → Routing → Option (Routing × α)) {station : Node}
    (known : network.nodes[number]? = some station) {routing : Routing} {answer : α}
    (answered : operation network.time
      { connections := network.connections, table := station.table } = some (routing, answer)) :
    ∃ after, (route number operation).run network = some (some answer, after) ∧
      (network.adopt number routing).Radiates after := by
  obtain ⟨after, performed, radiates⟩ :=
    emits_forM routing.activities (fun activity _ => emits_performActivity activity)
      (network.adopt number routing)
  refine ⟨after, ?_, radiates⟩
  simp only [route, StateT.run_bind, StateT.run_get, known, StateT.run_monadLift, monadLift_self,
    answered, Option.bind_eq_bind, Option.bind_some, Option.pure_def, StateT.run_pure,
    StateT.run_set]
  exact congrArg (Option.bind · _) performed

theorem run_receiveFrame_of_error {station : Node} {source : LinkAddress} {frame : Octets}
    {error : Compression.DecodeError} (known : network.nodes[number]? = some station)
    (refused : station.interface.receive frame ⟨source, station.link⟩ = .error error) :
    ∃ after, (receiveFrame number source frame).run network = some (⟨.error error, false⟩, after) ∧
      network.Radiates after := by
  obtain ⟨after, noted, radiates⟩ :=
    emits_forM (station.interface.receiveRecords frame ⟨source, station.link⟩)
      (fun record _ => emits_note (.record record)) network
  refine ⟨after, ?_, radiates⟩
  simp only [receiveFrame, StateT.run_bind, StateT.run_get, Option.pure_def, Option.bind_eq_bind,
    Option.bind_some, known, refused, noted, StateT.run_pure]

theorem run_receiveFrame_of_ok {station : Node} {source : LinkAddress} {frame : Octets}
    {packet : Compression.Packet} {routing : Routing} {taken : Bool}
    (known : network.nodes[number]? = some station)
    (received : station.interface.receive frame ⟨source, station.link⟩ = .ok packet)
    (answered : ({ connections := network.connections, table := station.table } :
      Routing).dispatchPacket? network.time packet = some (routing, taken)) :
    ∃ after, (receiveFrame number source frame).run network = some (⟨.ok packet, taken⟩, after) ∧
      (network.adopt number routing).Radiates after := by
  obtain ⟨after, routed, radiates⟩ :=
    run_route (fun time routing => routing.dispatchPacket? time packet) known answered
  refine ⟨after, ?_, radiates⟩
  simp only [receiveFrame, StateT.run_bind, StateT.run_get, Option.pure_def, Option.bind_eq_bind,
    Option.bind_some, known, received, Interface.receiveRecords_of_ok received, StateT.run_pure]
  exact congrArg (Option.bind · _) routed

theorem length_apply_le (damage : Damage) (frame : Octets) :
    (damage.apply frame).length ≤ frame.length := by
  unfold Damage.apply
  dsimp only
  split <;> split
  · exact Nat.le_refl _
  · rw [List.length_modify]
  · rw [List.length_take]
    exact Nat.min_le_right _ _
  · rw [List.length_take, List.length_modify]
    exact Nat.min_le_right _ _

/-- What is left when a frame has been taken off the air, unless it is kept. -/
def leave (keep : Bool) (sender index : Nat) (network : Network) : Network :=
  if keep then network
  else { network with nodes := network.nodes.modify sender fun station =>
    { station with air := station.air.eraseIdx index } }

theorem run_frameAt? (network : Network) (sender index : Nat) :
    (frameAt? sender index).run network =
      some (network.nodes[sender]?.bind fun station => station.air[index]?, network) := rfl

theorem run_drop? (network : Network) (sender index : Nat) :
    (drop? sender index).run network =
      some (network.nodes[sender]?.bind fun station => station.air[index]?,
        network.leave false sender index) := rfl

theorem run_deliver?_of_some {sender index : Nat} {station : Node} {frame : Octets}
    (known : network.nodes[sender]? = some station) (onAir : station.air[index]? = some frame)
    (receiver : Nat) (keep : Bool) (damage : Damage) :
    (deliver? sender index receiver keep damage).run network =
      ((receiveFrame receiver station.link (damage.apply frame)).run
        (network.leave keep sender index)).map (Prod.map some id) := by
  have found : (network.nodes[sender]?.bind fun station => station.air[index]?) = some frame := by
    rw [known]
    exact onAir
  cases keep
  all_goals
    simp only [deliver?, StateT.run_bind, StateT.run_get, Option.pure_def, Option.bind_eq_bind,
      Option.bind_some, Bool.false_eq_true, if_true, if_false, run_frameAt?, run_drop?, found]
    rw [known, Option.map_eq_bind]
    rfl

theorem run_deliver?_of_none {sender index : Nat}
    (missing : (network.nodes[sender]?.bind fun station => station.air[index]?) = none)
    (receiver : Nat) (keep : Bool) (damage : Damage) :
    (deliver? sender index receiver keep damage).run network =
      some (none, network.leave keep sender index) := by
  cases keep
  all_goals
    simp only [deliver?, StateT.run_bind, StateT.run_get, Option.pure_def, Option.bind_eq_bind,
      Option.bind_some, Bool.false_eq_true, if_true, if_false, run_frameAt?, run_drop?, missing]
    cases network.nodes[sender]? <;> rfl

theorem getElem?_leave (keep : Bool) (sender index number : Nat) (network : Network) :
    ∃ change : List Octets → List Octets, (∀ air, change air ⊆ air) ∧
      (network.leave keep sender index).nodes[number]? =
        network.nodes[number]?.map fun station => { station with air := change station.air } := by
  have unchanged : network.nodes[number]? =
      network.nodes[number]?.map fun station => { station with air := id station.air } :=
    (congrFun Option.map_id _).symm
  cases keep with
  | true => exact ⟨id, fun _ => List.Subset.refl _, unchanged⟩
  | false =>
      change ∃ change : List Octets → List Octets, _ ∧ (network.nodes.modify sender _)[number]? = _
      rw [List.getElem?_modify]
      by_cases same : sender = number
      · refine ⟨(·.eraseIdx index), fun _ => List.eraseIdx_subset, ?_⟩
        simp only [if_pos same]
        rfl
      · refine ⟨id, fun _ => List.Subset.refl _, ?_⟩
        simp only [if_neg same]
        rfl

theorem connections_leave (keep : Bool) (sender index : Nat) (network : Network) :
    (network.leave keep sender index).connections = network.connections ∧
      (network.leave keep sender index).time = network.time := by
  cases keep <;> exact ⟨rfl, rfl⟩

/-- A segment that a call of an endpoint sends is put on the air in one frame. Whenever this frame
is delivered undamaged, to a station with the same contexts and the link addresses that were meant,
the segment goes to the connection that it belongs to, as it was sent. -/
theorem emitted_delivered {endpoint : Endpoint} {call : Call} {segment : Segment}
    (sent : segment ∈ (endpoint.perform call).segments) {sender : Nat} {source : Node}
    (known : network.nodes[sender]? = some source) (framed : network.direct = false) :
    ∃ frame,
      (∃ after, (emitSegment sender segment).run network = some ((), after) ∧
        network.Radiates after ∧ after.nodes[sender]? = some (source.emitting [frame])) ∧
      ∀ {later : Network} {index receiver : Nat} {station target : Node} (keep : Bool),
        later.nodes[sender]? = some station → station.air[index]? = some frame →
        later.nodes[receiver]? = some target →
        target.interface.contexts = source.interface.contexts →
        source.interface.links segment.ip = ⟨station.link, target.link⟩ →
        let routing : Routing := { connections := later.connections, table := target.table }
        let found := routing.lookup? segment.ip segment.header
        ∃ packet delivered after,
          (deliver? sender index receiver keep {}).run later =
            some (some ⟨.ok packet, found.isSome⟩, after) ∧
          packet.udp = none ∧ packet.header = segment.ip ∧ packet.payload = segment.octets ∧
          ((later.leave keep sender index).adopt receiver delivered).Radiates after ∧
          (found = none →
            delivered.connections = later.connections ∧ delivered.table = target.table) ∧
          ∀ number, found = some number →
            ∃ connection, later.connections[number]? = some connection ∧
              let received :=
                connection.receive later.time segment.ip segment.header segment.payload
              routing.Delivers number received.1 (Routing.complaints segment.header received.2)
                delivered := by
  have ordinary := Endpoint.ordinary_of_mem sent
  refine ⟨source.interface.frameOf segment.ip segment.octets,
    run_emitSegment ordinary known framed, ?_⟩
  intro later index receiver station target keep sends onAir receives contexts links routing found
  obtain ⟨packet, received, plain, header, payload⟩ := ordinary.receive_frameOf contexts
  rw [links] at received
  obtain ⟨change, -, remains⟩ := later.getElem?_leave keep sender index receiver
  rw [receives] at remains
  obtain ⟨connections, time⟩ := later.connections_leave keep sender index
  have routed := ordinary.dispatchPacket plain header payload routing later.time
  have answered : routing.dispatchPacket? later.time packet =
      some ((routing.dispatchPacket later.time packet).1, found.isSome) := by
    rw [ordinary.dispatchPacket? payload, routed]
    dsimp only [found]
    cases routing.lookup? segment.ip segment.header <;> rfl
  obtain ⟨after, run, radiates⟩ := run_receiveFrame_of_ok remains received (by
    rw [connections, time]
    exact answered)
  refine ⟨packet, _, after, ?_, plain, header, payload, radiates, fun missing => ?_,
    fun number => ordinary.delivers plain header payload later.time⟩
  · rw [run_deliver?_of_some sends onAir]
    exact congrArg (Option.map (Prod.map some id)) run
  · have unknown : routing.lookup? segment.ip segment.header = none := missing
    rw [routed, unknown]
    exact ⟨rfl, rfl⟩

def Bounded (network : Network) : Prop :=
  ∀ (number : Nat) (station : Node), network.nodes[number]? = some station → AreShort station.air

theorem Radiates.bounded (radiates : before.Radiates after) (bounded : before.Bounded) :
    after.Bounded := by
  intro number station known
  obtain ⟨frames, short, same⟩ := radiates.nodes number
  rw [known] at same
  obtain ⟨former, was, rfl⟩ := Option.map_eq_some_iff.mp same.symm
  exact List.forall_mem_append.mpr ⟨bounded number former was, short⟩

theorem Bounded.adopt (bounded : network.Bounded) (node : Nat) (routing : Routing) :
    (network.adopt node routing).Bounded := by
  intro number station known
  change (network.nodes.modify node _)[number]? = _ at known
  rw [List.getElem?_modify] at known
  obtain ⟨former, was, rfl⟩ := Option.map_eq_some_iff.mp known
  have short := bounded number former was
  split <;> exact short

theorem mem_nodes_leave {keep : Bool} {sender index : Nat} {station : Node}
    (known : (network.leave keep sender index).nodes[number]? = some station) :
    ∃ former : Node, network.nodes[number]? = some former ∧ station.air ⊆ former.air := by
  obtain ⟨change, less, same⟩ := network.getElem?_leave keep sender index number
  rw [known] at same
  obtain ⟨former, was, rfl⟩ := Option.map_eq_some_iff.mp same.symm
  exact ⟨former, was, less former.air⟩

theorem Bounded.leave (bounded : network.Bounded) (keep : Bool) (sender index : Nat) :
    (network.leave keep sender index).Bounded := by
  intro number station known frame member
  obtain ⟨former, was, less⟩ := mem_nodes_leave known
  exact bounded number former was frame (less member)

/-- The accumulator of a checksum is large enough for whatever comes in such a frame. -/
theorem receiveFrame_answers (bounded : network.Bounded) (number : Nat) (source : LinkAddress)
    {frame : Octets} (short : frame.length ≤ Interface.frameSize) :
    ∃ arrival after, (receiveFrame number source frame).run network = some (arrival, after) ∧
      after.Bounded := by
  cases known : network.nodes[number]? with
  | none =>
      refine ⟨⟨.error .shortPacket, false⟩, network, ?_, bounded⟩
      simp only [receiveFrame, StateT.run_bind, StateT.run_get, Option.pure_def,
        Option.bind_eq_bind, Option.bind_some, known, StateT.run_pure]
  | some station =>
      cases received : station.interface.receive frame ⟨source, station.link⟩ with
      | error error =>
          obtain ⟨after, run, radiates⟩ := run_receiveFrame_of_error known received
          exact ⟨_, after, run, radiates.bounded bounded⟩
      | ok packet =>
          have length : packet.payload.length ≤ 65535 :=
            Nat.le_trans (Interface.length_payload_le received) (Nat.le_trans short (by decide))
          obtain ⟨after, run, radiates⟩ := run_receiveFrame_of_ok known received
            (Routing.dispatchPacket?_of_short _ network.time length)
          exact ⟨_, after, run, radiates.bounded (bounded.adopt number _)⟩

theorem deliver?_answers (bounded : network.Bounded) (sender index receiver : Nat) (keep : Bool)
    (damage : Damage) :
    ∃ arrival after, (deliver? sender index receiver keep damage).run network =
        some (arrival, after) ∧ after.Bounded ∧
      (arrival = none → after = network.leave keep sender index ∧
        (network.nodes[sender]?.bind fun station => station.air[index]?) = none) := by
  cases found : network.nodes[sender]?.bind fun station => station.air[index]? with
  | none =>
      exact ⟨_, _, run_deliver?_of_none found receiver keep damage,
        bounded.leave keep sender index, fun _ => ⟨rfl, rfl⟩⟩
  | some frame =>
      obtain ⟨station, known, onAir⟩ := Option.bind_eq_some_iff.mp found
      have short := bounded sender station known frame (List.mem_of_getElem? onAir)
      obtain ⟨arrival, after, run, boundedAfter⟩ :=
        receiveFrame_answers (bounded.leave keep sender index) receiver station.link
          (Nat.le_trans (length_apply_le damage frame) short)
      refine ⟨some arrival, after, ?_, boundedAfter, nofun⟩
      rw [run_deliver?_of_some known onAir, run]
      rfl

def Quiet (network : Network) : Prop :=
  ∀ number < 2, ∀ station : Node, network.nodes[number]? = some station → station.air = []

theorem air_eq_nil {station : Node}
    (nothing : (network.nodes[number]?.bind fun station => station.air[0]?) = none)
    (known : network.nodes[number]? = some station) : station.air = [] := by
  rw [known] at nothing
  exact List.head?_eq_none_iff.mp ((List.head?_eq_getElem? ..).trans nothing)

theorem moveOldest?_answers (bounded : network.Bounded) :
    ∃ arrival after, moveOldest?.run network = some (arrival, after) ∧ after.Bounded ∧
      (arrival = none → after.Quiet) := by
  obtain ⟨first, between, run, boundedBetween, missing⟩ :=
    deliver?_answers bounded 0 0 1 false {}
  cases first with
  | some arrival =>
      refine ⟨some arrival, between, ?_, boundedBetween, nofun⟩
      rw [moveOldest?, StateT.run_bind, run]
      rfl
  | none =>
      obtain ⟨same, nothing⟩ := missing rfl
      obtain ⟨second, after, runToo, boundedAfter, missingToo⟩ :=
        deliver?_answers boundedBetween 1 0 0 false {}
      refine ⟨second, after, ?_, boundedAfter, ?_⟩
      · rw [moveOldest?, StateT.run_bind, run]
        exact runToo
      · rintro rfl
        obtain ⟨sameToo, nothingToo⟩ := missingToo rfl
        intro number below station known
        rw [sameToo] at known
        obtain ⟨former, knownBetween, less⟩ := mem_nodes_leave known
        have quiet : former.air = [] := by
          rcases Nat.lt_succ_iff_lt_or_eq.mp below with first | rfl
          · cases Nat.lt_one_iff.mp first
            rw [same] at knownBetween
            obtain ⟨earlier, known, less⟩ := mem_nodes_leave knownBetween
            rw [air_eq_nil nothing known] at less
            exact List.subset_nil.mp less
          · exact air_eq_nil nothingToo knownBetween
        rw [quiet] at less
        exact List.subset_nil.mp less

/-- Moving frames between two stations always comes to an end, and if that is before the limit, none
is left on the air. -/
theorem pump_ends (bounded : network.Bounded) (limit : Nat) :
    ∃ moved taken after, (pump limit).run network = some ((moved, taken), after) ∧
      after.Bounded ∧ taken ≤ moved ∧ moved ≤ limit ∧ (moved < limit → after.Quiet) := by
  induction limit generalizing network with
  | zero =>
      exact ⟨0, 0, network, rfl, bounded, Nat.le_refl 0, Nat.le_refl 0, nofun⟩
  | succ limit ih =>
      obtain ⟨arrival, between, run, boundedBetween, quiet⟩ := moveOldest?_answers bounded
      cases arrival with
      | none =>
          refine ⟨0, 0, between, ?_, boundedBetween, Nat.le_refl 0, Nat.zero_le _,
            fun _ => quiet rfl⟩
          rw [pump, StateT.run_bind, run]
          rfl
      | some arrival =>
          obtain ⟨moved, taken, after, runs, boundedAfter, less, within, rests⟩ := ih boundedBetween
          refine ⟨moved + 1, taken + arrival.taken.toNat, after, ?_, boundedAfter,
            Nat.add_le_add less (Bool.toNat_le _), Nat.succ_le_succ within,
            fun below => rests (Nat.lt_of_succ_lt_succ below)⟩
          rw [pump, StateT.run_bind, run, Option.bind_eq_bind, Option.bind_some, StateT.run_bind,
            runs]
          rfl

end Network

end RadioStack
