import RadioStack.Proofs.Tcp.Handshake
import RadioStack.Proofs.Tcp.Passage
import RadioStack.Proofs.Tcp.Segment
import RadioStack.Tcp.Table

/-!
Which connection gets a segment. An open connection that is not bound to a peer can only be one that
listens, so a segment goes to the connection of its peer if there is one, and to a listener
otherwise; nothing else changes. Main statement: `dispatch_delivers`.
-/

namespace RadioStack.Tcp

/-- The endpoint is one that calls lead to, whatever is called. -/
def Connection.Reached (connection : Connection) : Prop :=
  ∃ address port config,
    (Endpoint.create address port config).Reaches (fun _ _ => True) connection.endpoint

namespace Connection

variable {connection : Connection}

theorem reached_run (address : Option Address) (port : UInt16) (config : Config)
    (listener : Option Listener) (clock : Clock) (waiting : Option (List Octets))
    (acts : List Act) :
    (({ endpoint := .create address port config, listener, clock, waiting } : Connection).run
      acts).Reached := by
  refine ⟨address, port, config, ?_⟩
  apply run_keeps
  · exact fun _ _ reached => .call reached trivial
  · exact .refl

theorem Reached.listens (reached : connection.Reached)
    (running : connection.endpoint.state ≠ .closed)
    (unbound : connection.endpoint.isConnected = false) : connection.endpoint.state = .listen := by
  obtain ⟨address, port, config, reached⟩ := reached
  exact reached.bound.listens running unbound

end Connection

namespace Routing

structure Offers (routing : Routing) (ip : Ip.Header) (header : Header) (number : Nat)
    (connection : Connection) : Prop where
  listed : number ∈ routing.table
  known : routing.connections[number]? = some connection
  running : connection.endpoint.state ≠ .closed
  accepts : connection.endpoint.accepts ip header

variable {routing : Routing} {time : Instant} {ip : Ip.Header} {header : Header}
  {payload segment : Octets} {number : Nat} {connection : Connection}

theorem mem_candidates_iff :
    number ∈ routing.candidates ip header ↔
      ∃ connection, routing.Offers ip header number connection := by
  rw [candidates, List.mem_filter, Option.any_eq_true]
  constructor
  · rintro ⟨listed, connection, known, offers⟩
    rw [Bool.and_eq_true, bne_iff_ne] at offers
    exact ⟨connection, listed, known, offers.1, offers.2⟩
  · rintro ⟨connection, listed, known, running, accepts⟩
    refine ⟨listed, connection, known, ?_⟩
    rw [Bool.and_eq_true, bne_iff_ne]
    exact ⟨running, accepts⟩

theorem lookup?_eq_none_iff :
    routing.lookup? ip header = none ↔
      ¬ ∃ number connection, routing.Offers ip header number connection := by
  have candidates : routing.lookup? ip header = none ↔ routing.candidates ip header = [] := by
    rw [lookup?, Option.or_eq_none_iff, List.head?_eq_none_iff]
    refine and_iff_right_of_imp ?_
    intro nobody
    rw [nobody]
    rfl
  rw [candidates, List.eq_nil_iff_forall_not_mem, not_exists]
  exact forall_congr' fun _ => not_congr mem_candidates_iff

theorem Offers.isConnected (offers : routing.Offers ip header number connection) :
    routing.isConnected number = connection.endpoint.isConnected := by
  rw [Routing.isConnected, offers.known, Option.any_some]

theorem lookup?_eq_some (found : routing.lookup? ip header = some number) :
    ∃ connection, routing.Offers ip header number connection ∧
      ((∃ other bound, routing.Offers ip header other bound ∧ bound.endpoint.isConnected) →
        connection.endpoint.isConnected) := by
  rw [lookup?] at found
  cases first : (routing.candidates ip header).find? routing.isConnected with
  | some other =>
      rw [first, Option.some_or] at found
      cases found
      obtain ⟨connection, offers⟩ := mem_candidates_iff.mp (List.mem_of_find?_eq_some first)
      refine ⟨connection, offers, fun _ => ?_⟩
      rw [← offers.isConnected]
      exact List.find?_some first
  | none =>
      rw [first, Option.none_or] at found
      obtain ⟨connection, offers⟩ := mem_candidates_iff.mp (List.mem_of_head? found)
      refine ⟨connection, offers, ?_⟩
      rintro ⟨other, bound, rival, connected⟩
      rw [← rival.isConnected] at connected
      exact absurd connected (List.find?_eq_none.mp first other (mem_candidates_iff.mpr ⟨_, rival⟩))

def complaints (header : Header) : Except Failure Unit → List Activity
  | .ok () => []
  | .error failure => [.record (.receiveFailed header.destinationPort failure)]

/-- One connection has gone on and nothing else has changed. If it is closed now, it has left the
table. -/
structure Delivers (routing : Routing) (number : Nat) (passage : Passage)
    (records : List Activity) (after : Routing) : Prop where
  connections : after.connections = routing.connections.set number passage.connection
  table : after.table =
    if passage.connection.endpoint.state = .closed then routing.table.filter (· != number)
    else routing.table
  activities : after.activities =
    routing.activities ++ passage.effects.map (.effect number) ++ records

theorem delivers_of_noted {passage : Passage} {records : List Activity}
    (inside : number < routing.connections.length) {noted : Routing}
    (adopted : noted = { routing.adopt number passage with
      activities := (routing.adopt number passage).activities ++ records }) :
    routing.Delivers number passage records
      (if noted.isClosed number then noted.remove number else noted) := by
  have closed :
      noted.isClosed number = decide (passage.connection.endpoint.state = .closed) := by
    rw [isClosed, adopted, adopt, List.getElem?_set_self inside]
    rfl
  subst adopted
  rw [closed]
  by_cases ended : passage.connection.endpoint.state = .closed
  · rw [if_pos (decide_eq_true ended)]
    exact ⟨rfl, (if_pos ended).symm, rfl⟩
  · rw [if_neg (by simpa using ended)]
    exact ⟨rfl, (if_neg ended).symm, rfl⟩

theorem deliver_delivers (known : routing.connections[number]? = some connection) :
    routing.Delivers number (connection.receive time ip header payload).1
      (complaints header (connection.receive time ip header payload).2)
      (routing.deliver time number ip header payload) := by
  obtain ⟨inside, _⟩ := List.getElem?_eq_some_iff.mp known
  unfold deliver
  rw [known]
  dsimp only
  rcases connection.receive time ip header payload with ⟨passage, failure | _⟩
  · exact delivers_of_noted inside rfl
  · refine delivers_of_noted inside ?_
    rw [complaints, List.append_nil]

theorem table_tick (routing : Routing) (time : Instant) (number : Nat) :
    (routing.tick time number).table = routing.table := by
  unfold tick
  split <;> rfl

theorem connections_tick (routing : Routing) (time : Instant) (number other : Nat) :
    (routing.tick time number).connections[other]? =
      if number = other then
        routing.connections[other]?.map fun connection => (connection.act (.tick time)).connection
      else routing.connections[other]? := by
  unfold tick
  split
  · rename_i unknown
    split
    · rename_i same
      rw [← same, unknown]
      rfl
    · rfl
  · rename_i connection known
    rw [adopt, List.getElem?_set]
    split
    · rename_i same
      obtain ⟨inside, _⟩ := List.getElem?_eq_some_iff.mp known
      rw [if_pos inside, ← same, known]
      rfl
    · rfl

theorem foldl_tick (time : Instant) (numbers : List Nat) (routing : Routing) :
    (numbers.foldl (fun routing number => routing.tick time number) routing).table =
        routing.table ∧
      ∀ number, (numbers.foldl (fun routing number => routing.tick time number)
        routing).connections[number]? =
          routing.connections[number]?.map
            (Connection.run (List.replicate (numbers.count number) (.tick time))) := by
  induction numbers generalizing routing with
  | nil => exact ⟨rfl, fun _ => (congrFun Option.map_id _).symm⟩
  | cons first rest ih =>
      obtain ⟨table, connections⟩ := ih (routing.tick time first)
      refine ⟨table.trans (routing.table_tick time first), ?_⟩
      intro number
      rw [List.foldl_cons, connections, connections_tick, List.count_cons]
      by_cases same : first = number
      · rw [if_pos same, if_pos (by simpa using same), List.replicate_succ, Option.map_map]
        rfl
      · rw [if_neg same, if_neg (by simpa using same), Nat.add_zero]

theorem tickAll_ticks (routing : Routing) (time : Instant) :
    (routing.tickAll time).table =
        routing.table.filter (fun number => !(routing.tickAll time).isClosed number) ∧
      ∀ number, (routing.tickAll time).connections[number]? =
        routing.connections[number]?.map
          (Connection.run (List.replicate (routing.table.count number) (.tick time))) := by
  obtain ⟨table, connections⟩ := foldl_tick time routing.table routing
  refine ⟨?_, connections⟩
  unfold tickAll
  dsimp only
  rw [table]
  rfl

theorem dispatch?_of_short (routing : Routing) (time : Instant) (ip : Ip.Header)
    (short : segment.length ≤ 65535) :
    routing.dispatch? time ip segment = some (routing.dispatch time ip segment) := by
  rw [dispatch?, checksumVerifies?_of_short _ _ short,
    if_neg fun unanswered => nomatch unanswered.2]

theorem dispatchPacket?_of_short (routing : Routing) (time : Instant)
    {packet : Compression.Packet} (short : packet.payload.length ≤ 65535) :
    routing.dispatchPacket? time packet = some (routing.dispatchPacket time packet) := by
  rw [dispatchPacket?, dispatchPacket, routing.dispatch?_of_short time packet.header short]
  split <;> rfl

def Takes (routing : Routing) (ip : Ip.Header) (segment : Octets) : Prop :=
  ip.nextHeader = .tcp ∧ checksumVerifies ip.source ip.destination segment ∧
    ∃ header payload, parse? segment = some (header, payload) ∧
      ∃ number connection, routing.Offers ip header number connection

/-- A segment is delivered if it belongs to a connection, and otherwise changes nothing. -/
theorem dispatch_cases (routing : Routing) (time : Instant) (ip : Ip.Header) (segment : Octets) :
    (¬ routing.Takes ip segment ∧ ∃ records,
      routing.dispatch time ip segment = ({ routing with activities := records }, false)) ∨
    ∃ header payload number, routing.Takes ip segment ∧
      parse? segment = some (header, payload) ∧ routing.lookup? ip header = some number ∧
      routing.dispatch time ip segment = (routing.deliver time number ip header payload, true) := by
  unfold dispatch
  split
  · rename_i other
    exact .inl ⟨fun takes => other takes.1, _, rfl⟩
  · rename_i next
    rw [ne_eq, Decidable.not_not] at next
    split
    · rename_i wrong
      refine .inl ⟨fun takes => ?_, _, rfl⟩
      rw [takes.2.1] at wrong
      cases wrong
    · rename_i verified
      rw [Bool.not_eq_true, Bool.not_eq_false'] at verified
      split
      · rename_i malformed
        refine .inl ⟨?_, _, rfl⟩
        rintro ⟨_, _, header, payload, parsed, _⟩
        rw [malformed] at parsed
        cases parsed
      · rename_i header payload parsed
        split
        · rename_i unknown
          refine .inl ⟨?_, _, rfl⟩
          rintro ⟨_, _, _, _, again, offered⟩
          rw [parsed] at again
          cases again
          exact lookup?_eq_none_iff.mp unknown offered
        · rename_i number found
          obtain ⟨connection, offers, _⟩ := lookup?_eq_some found
          exact .inr ⟨header, payload, number,
            ⟨next, verified, header, payload, parsed, number, connection, offers⟩, parsed, found,
            rfl⟩

/-- A segment is given to one connection of the table that is open and accepts it, if there is one;
otherwise nothing changes. A connection that is bound to the peer goes before one that listens. What
is closed leaves the table, also where the timers are driven. -/
theorem dispatch_delivers (reached : ∀ connection ∈ routing.connections, connection.Reached)
    (time : Instant) (ip : Ip.Header) (segment : Octets) :
    let after := (routing.dispatch time ip segment).1
    let delivered := (routing.dispatch time ip segment).2
    (delivered = true ↔ ip.nextHeader = .tcp ∧ checksumVerifies ip.source ip.destination segment ∧
      ∃ header payload, parse? segment = some (header, payload) ∧
        ∃ number connection, routing.Offers ip header number connection) ∧
    (delivered = false →
      after.connections = routing.connections ∧ after.table = routing.table) ∧
    (delivered = true → ∃ header payload number connection,
      parse? segment = some (header, payload) ∧ routing.Offers ip header number connection ∧
      ((∃ other bound, routing.Offers ip header other bound ∧ bound.endpoint.isConnected) →
        connection.endpoint.isConnected) ∧
      ((¬ ∃ other bound, routing.Offers ip header other bound ∧ bound.endpoint.isConnected) →
        connection.endpoint.state = .listen) ∧
      routing.Delivers number (connection.receive time ip header payload).1
        (complaints header (connection.receive time ip header payload).2) after) ∧
    (routing.tickAll time).table =
      routing.table.filter (fun number => !(routing.tickAll time).isClosed number) ∧
    ∀ number, (routing.tickAll time).connections[number]? =
      routing.connections[number]?.map
        (Connection.run (List.replicate (routing.table.count number) (.tick time))) := by
  intro after delivered
  rcases routing.dispatch_cases time ip segment with
    ⟨refused, _, same⟩ | ⟨header, payload, number, takes, parsed, found, same⟩
  · have unchanged : after = _ := congrArg Prod.fst same
    have dropped : delivered = false := congrArg Prod.snd same
    rw [unchanged, dropped]
    refine ⟨iff_of_false Bool.false_ne_true refused, fun _ => ⟨rfl, rfl⟩, ?_,
      routing.tickAll_ticks time⟩
    exact fun answered => absurd answered Bool.false_ne_true
  · have delivers : after = _ := congrArg Prod.fst same
    have answered : delivered = true := congrArg Prod.snd same
    rw [delivers, answered]
    refine ⟨iff_of_true rfl takes, fun dropped => absurd dropped.symm Bool.false_ne_true,
      fun _ => ?_, routing.tickAll_ticks time⟩
    obtain ⟨connection, offers, bound⟩ := lookup?_eq_some found
    refine ⟨header, payload, number, connection, parsed, offers, bound, ?_,
      deliver_delivers offers.known⟩
    intro unbound
    apply (reached connection (List.mem_of_getElem? offers.known)).listens offers.running
    rw [← Bool.not_eq_true]
    exact fun connected => unbound ⟨number, connection, offers, connected⟩

/-- One connection listens; the other one did, until a peer came. -/
def doors : Routing where
  connections := [{ endpoint := ((Endpoint.create none 1 {}).perform .listen).endpoint },
    { endpoint := Endpoint.greeted }]
  table := [0, 1]

/-- The next segment of the peer passes the connection that listens. -/
theorem doors_deliver :
    let sent : Segment :=
      ⟨{ nextHeader := .tcp, source := .allRouters, destination := .allNodes },
        { sourcePort := 2, destinationPort := 1, sequence := 8, acknowledgment := 1, flags := .ack
          window := 128 }, [1, 2, 3]⟩
    let after := (doors.dispatch 0 sent.ip sent.octets).1
    (∀ connection ∈ doors.connections, connection.Reached) ∧
      (doors.dispatch 0 sent.ip sent.octets).2 = true ∧
      after.connections[0]? = doors.connections[0]? ∧
      after.connections[1]?.map (·.endpoint.state) = some .established ∧ after.table = [0, 1] := by
  intro sent after
  have reached : ∀ connection ∈ doors.connections, connection.Reached := by
    intro connection member
    rcases List.mem_pair.mp member with rfl | rfl
    · exact ⟨none, 1, {}, .call .refl trivial⟩
    · exact ⟨none, 1, {}, Endpoint.records_greeted.reaches⟩
  have used : Flags.ack.bits &&& 0x3f = Flags.ack.bits := by decide
  have parsed : parse? sent.octets = some (sent.header, [1, 2, 3]) := sent.parse?_octets used
  have known : doors.Offers sent.ip sent.header 1 { endpoint := Endpoint.greeted } :=
    ⟨by decide, rfl, by decide, by decide⟩
  obtain ⟨delivered, -, given, -⟩ := dispatch_delivers reached 0 sent.ip sent.octets
  have answered := delivered.mpr
    ⟨rfl, sent.checksumVerifies_octets (by decide), _, _, parsed, 1, _, known⟩
  refine ⟨reached, answered, ?_⟩
  obtain ⟨header, payload, number, connection, same, offers, bound, -, delivers⟩ := given answered
  rw [parsed] at same
  cases same
  have connected := bound ⟨1, _, known, by decide⟩
  rcases List.mem_pair.mp offers.listed with rfl | rfl
  · cases offers.known
    exact absurd connected (by decide)
  · cases offers.known
    rw [delivers.connections, delivers.table]
    exact ⟨rfl, by decide, by decide⟩

end Routing

end RadioStack.Tcp
