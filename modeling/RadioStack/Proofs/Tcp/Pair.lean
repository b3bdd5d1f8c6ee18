import RadioStack.Proofs.Tcp.CallMoves
import RadioStack.Proofs.Tcp.Stream

/-!
Two endpoints, one of which has opened a connection to the other. Everything that either has sent
can reach its addressee at any time, any number of times or never. Main statement:
`reachable_stream_safe`.
-/

namespace RadioStack.Tcp

inductive Side
  | opener
  | listener
  deriving DecidableEq

def Side.other : Side → Side
  | .opener => .listener
  | .listener => .opener

def Party.act (party : Party) (call : Call) : Party :=
  party.after (party.endpoint.perform call).endpoint (party.endpoint.output call)

def Pair : Type := Side → Party

theorem Side.eq_or_eq_other (who side : Side) : who = side ∨ who = side.other := by
  cases who <;> cases side <;> first | exact .inl rfl | exact .inr rfl

theorem Side.ne_other {Place : Type} {place : Side → Place}
    (apart : place .opener ≠ place .listener) (side : Side) : place side ≠ place side.other := by
  cases side with
  | opener => exact apart
  | listener => exact apart.symm

structure Party.Continues (before after : Party) : Prop where
  config : after.endpoint.config = before.endpoint.config
  segments : before.past.segments <+: after.past.segments
  accepted : before.past.accepted <+: after.past.accepted
  reported : before.past.reported <+: after.past.reported
  finished : before.endpoint.state.finished →
    after.endpoint.state.finished ∧ after.past.accepted = before.past.accepted

namespace Party

variable {first second third : Party} {call : Call}

theorem Continues.refl (party : Party) : party.Continues party :=
  ⟨rfl, List.prefix_refl _, List.prefix_refl _, List.prefix_refl _, fun finished => ⟨finished, rfl⟩⟩

theorem Continues.trans (early : first.Continues second) (late : second.Continues third) :
    first.Continues third where
  config := late.config.trans early.config
  segments := early.segments.trans late.segments
  accepted := early.accepted.trans late.accepted
  reported := early.reported.trans late.reported
  finished finished := by
    obtain ⟨middle, same⟩ := early.finished finished
    obtain ⟨still, same'⟩ := late.finished middle
    exact ⟨still, same'.trans same⟩

theorem continues_act (party : Party) (continues : call.opens = false) :
    party.Continues (party.act call) := by
  obtain ⟨config, ended⟩ := (Endpoint.perform_moves party.endpoint call).continues continues
  refine ⟨config, List.prefix_append _ _, List.prefix_append _ _, List.prefix_append _ _, ?_⟩
  intro finished
  obtain ⟨still, nothing⟩ := ended finished
  refine ⟨still, ?_⟩
  rw [act, accepted_after, nothing, List.append_nil]

end Party

namespace Pair

def act (pair : Pair) (side : Side) (call : Call) : Pair := fun who =>
  if who = side then (pair who).act call else pair who

def start (now : Instant) (sockets : Side → Socket) (bound : Option Address)
    (configs : Side → Config) : Pair
  | .opener =>
    Party.act
      ⟨.create (some (sockets .opener).address) (sockets .opener).port (configs .opener), {}⟩
      (.connect now (sockets .listener).address (sockets .listener).port)
  | .listener =>
    Party.act ⟨.create bound (sockets .listener).port (configs .listener), {}⟩ .listen

/-- What can happen at one of the endpoints: its application sends or closes, its timer runs, or a
segment arrives that has been sent to it at some time. -/
inductive Happens (sockets : Side → Socket) (pair : Pair) (side : Side) : Call → Prop
  | send (now : Instant) (data : Octets) : Happens sockets pair side (.send now data)
  | close (now : Instant) : Happens sockets pair side (.close now)
  | tick (now : Instant) : Happens sockets pair side (.tick now)
  | deliver (now : Instant) {sender : Side} {segment : Segment}
    (sent : segment ∈ (pair sender).past.segments)
    (address : segment.ip.destination = (sockets side).address)
    (port : segment.header.destinationPort = (sockets side).port) :
    Happens sockets pair side (.receive now segment.ip segment.header segment.payload)

inductive Reaches (sockets : Side → Socket) (first : Pair) : Pair → Prop
  | refl : Reaches sockets first first
  | step {pair : Pair} {side : Side} {call : Call} (reached : Reaches sockets first pair)
    (happens : pair.Happens sockets side call) : Reaches sockets first (pair.act side call)

variable {sockets : Side → Socket} {pair : Pair} {side : Side} {call : Call}

theorem act_self : pair.act side call side = (pair side).act call := if_pos rfl

theorem act_other : pair.act side call side.other = pair side.other := by
  cases side <;> rfl

theorem other_other : side.other.other = side := by
  cases side <;> rfl

theorem Happens.continues (happens : pair.Happens sockets side call) : call.opens = false := by
  cases happens <;> rfl

/-- A segment arrives from the other endpoint, because each one sends to the other only. -/
theorem Happens.sent (happens : pair.Happens sockets side call)
    (apart : sockets side ≠ sockets side.other)
    (safe : Safe (sockets side) (sockets side.other) (pair side) (pair side.other))
    {now : Instant} {ip : Ip.Header} {header : Header} {payload : Octets}
    (called : call = .receive now ip header payload) :
    ⟨ip, header, payload⟩ ∈ (pair side.other).past.segments := by
  cases happens with
  | send | close | tick => cases called
  | @deliver now sender segment sent address port =>
      cases called
      rcases sender.eq_or_eq_other side with own | other
      · -- A segment of its own would be addressed to the other socket.
        subst own
        have labelled := safe.speaks.labelled segment sent
        exact absurd (Socket.ext (address.symm.trans labelled.destination.1)
          (port.symm.trans labelled.destination.2)) apart
      · rwa [← other]

theorem Happens.fed (happens : pair.Happens sockets side call)
    (apart : sockets side ≠ sockets side.other)
    (safe : Safe (sockets side) (sockets side.other) (pair side) (pair side.other)) :
    Fed (sockets side) (sockets side.other) (pair side) (pair side.other) call where
  continues := happens.continues
  noReset now called := by
    rw [called] at happens
    cases happens
  labelled _ _ _ _ called := safe.hears.labelled _ (happens.sent apart safe called)

theorem Happens.continues_act (happens : pair.Happens sockets side call) (who : Side) :
    (pair who).Continues (pair.act side call who) := by
  rcases who.eq_or_eq_other side with rfl | rfl
  · rw [act_self]
    exact (pair who).continues_act happens.continues
  · rw [act_other]
    exact .refl _

theorem Reaches.trans {first later : Pair} (early : Reaches sockets first pair)
    (late : Reaches sockets pair later) : Reaches sockets first later := by
  induction late with
  | refl => exact early
  | step _ happens ih => exact .step ih happens

theorem Reaches.continues {later : Pair} (reached : Reaches sockets pair later) (who : Side) :
    (pair who).Continues (later who) := by
  induction reached with
  | refl => exact .refl _
  | step _ happens ih => exact ih.trans (happens.continues_act who)

def AllSafe (sockets : Side → Socket) (pair : Pair) : Prop :=
  ∀ side, Safe (sockets side) (sockets side.other) (pair side) (pair side.other)

theorem AllSafe.act (safe : pair.AllSafe sockets)
    (apart : ∀ side, sockets side ≠ sockets side.other)
    (happens : pair.Happens sockets side call)
    (bounded : ∀ side', (pair.act side call side').past.accepted.length + 2 < 0x80000000) :
    (pair.act side call).AllSafe sockets := by
  have boundedSelf := bounded side
  have boundedOther := bounded side.other
  rw [act_self] at boundedSelf
  rw [act_other] at boundedOther
  have moved := Safe.moves (Endpoint.perform_moves (pair side).endpoint call) (safe side)
    (happens.fed (apart side) (safe side)) rfl boundedSelf boundedOther
  intro who
  rcases who.eq_or_eq_other side with rfl | rfl
  · rw [act_self, act_other]
    exact moved
  · rw [other_other, act_self, act_other]
    exact moved.symm

theorem delivers_first {sender receiver : Party} (accepted : sender.past.accepted = [])
    (balanced : sender.endpoint.Balanced []) (reported : receiver.past.reported = [])
    (unknown : receiver.endpoint.state.knowsPeer = false)
    (first : receiver.endpoint.state.peerFinished = false) : Delivers sender receiver where
  balanced := accepted ▸ balanced
  held := by rw [reported]; exact List.nil_prefix
  kept _ := by rw [accepted]; exact Nat.zero_le _
  expected known := by rw [unknown] at known; cases known
  early _ := reported
  whole finished := by rw [first] at finished; cases finished

section Start

variable {now : Instant} {bound : Option Address} {configs : Side → Config}

theorem speaks_opener : Speaks (sockets .opener) (sockets .listener)
    (start now sockets bound configs .opener) (start now sockets bound configs .listener) := by
  refine ⟨rfl, ?_, ?_, ?_, ?_⟩
  · intro address here
    cases here
    rfl
  · intro address there
    cases there
    rfl
  · intro port door
    cases door
    rfl
  · intro segment sent
    change segment ∈ [_] at sent
    rw [List.mem_singleton] at sent
    subst sent
    have syn : Flags.syn.contains .syn := by decide
    have noRst : Flags.syn.contains .rst = false := by decide
    have noAck : ¬ Flags.syn.contains .ack := by decide
    exact ⟨⟨rfl, rfl⟩, ⟨rfl, rfl⟩, noRst, .syn syn rfl, fun ack => absurd ack noAck⟩

theorem speaks_listener (free : bound = none ∨ bound = some (sockets .listener).address) :
    Speaks (sockets .listener) (sockets .opener)
      (start now sockets bound configs .listener) (start now sockets bound configs .opener) := by
  refine ⟨rfl, ?_, nofun, nofun, nofun⟩
  intro address here
  change bound = some address at here
  rcases free with empty | busy
  · rw [empty] at here
    cases here
  · rw [busy] at here
    cases here
    rfl

theorem allSafe_start (free : bound = none ∨ bound = some (sockets .listener).address) :
    (start now sockets bound configs).AllSafe sockets := by
  have safe : Safe (sockets .opener) (sockets .listener)
      (start now sockets bound configs .opener) (start now sockets bound configs .listener) := by
    refine ⟨?_, ?_, speaks_opener, speaks_listener free⟩
    · exact delivers_first rfl (.running (.opened nofun rfl rfl rfl rfl) rfl) rfl rfl rfl
    · exact delivers_first rfl (.running (.opened nofun rfl rfl rfl (ahead_zero _).symm) rfl)
        rfl rfl rfl
  intro side
  cases side with
  | opener => exact safe
  | listener => exact safe.symm

end Start

theorem Reaches.allSafe {first : Pair} (reached : Reaches sockets first pair)
    (safe : first.AllSafe sockets) (apart : ∀ side, sockets side ≠ sockets side.other)
    (bounded : ∀ side, (pair side).past.accepted.length + 2 < 0x80000000) :
    pair.AllSafe sockets := by
  induction reached with
  | refl => exact safe
  | @step pair side call _ happens ih =>
      have shorter : ∀ who, (pair who).past.accepted.length + 2 < 0x80000000 := by
        intro who
        have grown := (happens.continues_act who).accepted.length_le
        have bounded := bounded who
        omega
      exact AllSafe.act (ih shorter) apart happens bounded

/-- Whatever is lost, repeated, delayed or reordered on the way: at every moment, what either end
has reported is the beginning of what the other has accepted, and what a connection has dropped
from its ring has been reported. -/
theorem reachable_stream_safe {now : Instant} {bound : Option Address} {configs : Side → Config}
    (apart : sockets .opener ≠ sockets .listener)
    (free : bound = none ∨ bound = some (sockets .listener).address)
    (reached : Reaches sockets (start now sockets bound configs) pair)
    (bounded : ∀ side, (pair side).past.accepted.length + 2 < 0x80000000) (side : Side) :
    (pair side.other).past.reported <+: (pair side).past.accepted ∧
      ((pair side).endpoint.state ≠ .closed →
        ∃ dropped, (pair side).past.accepted = dropped ++ (pair side).endpoint.ring.toList ∧
          dropped <+: (pair side.other).past.reported) := by
  have distinct : ∀ side, sockets side ≠ sockets side.other := Side.ne_other apart
  have delivers := (reached.allSafe (allSafe_start free) distinct bounded side).sends
  refine ⟨delivers.held, ?_⟩
  intro running
  obtain ⟨dropped, _, whole⟩ := delivers.balanced.ledger running
  have kept := delivers.kept running
  rw [whole, List.length_append] at kept
  exact ⟨dropped, whole, List.prefix_of_prefix_length_le ⟨_, whole.symm⟩ delivers.held (by omega)⟩

def arrive (pair : Pair) (side : Side) (index : Nat) : Pair :=
  match (pair side.other).past.segments[index]? with
  | none => pair
  | some segment => pair.act side (.receive 0 segment.ip segment.header segment.payload)

theorem Reaches.arrive {first : Pair} (reached : Reaches sockets first pair) (side : Side)
    (index : Nat) (addressed : ∀ segment ∈ (pair side.other).past.segments,
      segment.ip.destination = (sockets side).address ∧
        segment.header.destinationPort = (sockets side).port) :
    Reaches sockets first (pair.arrive side index) := by
  unfold Pair.arrive
  split
  · exact reached
  · rename_i segment found
    have sent := List.mem_of_getElem? found
    exact .step reached (.deliver 0 sent (addressed segment sent).1 (addressed segment sent).2)

def twoSockets : Side → Socket
  | .opener => ⟨.allNodes, 1⟩
  | .listener => ⟨.allRouters, 2⟩

def begun : Pair := start 0 twoSockets none fun _ => {}

def opened : Pair := (begun.arrive .listener 0).arrive .opener 0

def carried : Pair :=
  (((opened.act .opener (.send 0 [1, 2, 3])).arrive .listener 2).arrive .listener 2).arrive
    .opener 1

theorem reaches_opened : Reaches twoSockets begun opened := by
  refine .arrive (.arrive .refl _ _ ?_) _ _ ?_
  all_goals decide

theorem reaches_carried : Reaches twoSockets begun carried := by
  have sent : Reaches twoSockets begun (opened.act .opener (.send 0 [1, 2, 3])) :=
    .step reaches_opened (.send 0 [1, 2, 3])
  refine .arrive (.arrive (.arrive sent _ _ ?_) _ _ ?_) _ _ ?_
  all_goals decide

theorem carried_stream_safe :
    (carried .listener).past.reported = [1, 2, 3] ∧
      (carried .listener).past.reported <+: (carried .opener).past.accepted ∧
      ∃ dropped, (carried .opener).past.accepted = dropped ++ [] ∧
        dropped <+: (carried .listener).past.reported := by
  have bounded : ∀ side, (carried side).past.accepted.length + 2 < 0x80000000 := by
    intro side
    cases side <;> decide
  obtain ⟨held, kept⟩ :=
    reachable_stream_safe (by decide) (.inl rfl) reaches_carried bounded .opener
  refine ⟨by decide +kernel, held, ?_⟩
  obtain ⟨dropped, whole, reported⟩ := kept (by decide)
  have drained : (carried .opener).endpoint.ring.toList = [] := by decide +kernel
  rw [drained] at whole
  exact ⟨dropped, whole, reported⟩

end Pair

end RadioStack.Tcp
