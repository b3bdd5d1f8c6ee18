import RadioStack.Proofs.Tcp.Agreement
import RadioStack.Proofs.Tcp.Opening

/-!
A handshake ends with the acknowledgment of our SYN, however the connection has been opened and
whatever has arrived meanwhile. A SYN of the peer has been accepted by then; it gives the number
expected next and, if we have listened, the peer. Main statement: `reachable_handshake_safe`.
-/

namespace RadioStack.Tcp

theorem State.StepsTo.known {before after : State} (steps : before.StepsTo after)
    (known : before.knowsPeer ∨ before = .closed) : after.knowsPeer ∨ after = .closed := by
  cases steps with
  | still => exact known
  | take accepting =>
      exact .inl (knowsPeer_of_isSynchronized (isSynchronized_of_acceptsText accepting).2)
  | welcome | cross | establish | confirm | sendFin | sendLastFin | finish | finishBoth =>
      exact .inl rfl
  | stop => exact .inr rfl

namespace Call

def listens : Call → Bool
  | .listen => true
  | _ => false

def greeting? : Call → Option (Ip.Header × Header)
  | .receive _ ip header _ => if header.flags.contains .syn then some (ip, header) else none
  | _ => none

end Call

/-- How a connection has been opened, and the SYN of the peer once one is accepted. -/
structure Handshake where
  passive : Bool := false
  syn : Option (Ip.Header × Header) := none
  deriving DecidableEq

namespace Handshake

open Endpoint (Move Moves finState?_eq_some)

/-- By a moment of a call. The SYN that makes the peer known is accepted, and no other after it. -/
def next (call : Call) (moment : Endpoint) (handshake : Handshake) : Handshake :=
  if moment.state.knowsPeer then { handshake with syn := handshake.syn.or call.greeting? }
  else handshake

def enter (endpoint : Endpoint) (call : Call) (handshake : Handshake) : Handshake :=
  if call.opens && (endpoint.perform call).result.isOk then { passive := call.listens }
  else handshake.next call (endpoint.perform call).endpoint

/-- The SYN of the peer that has been accepted. It tells who has answered a listener, and what comes
next until our own SYN is acknowledged. -/
structure Accepts (handshake : Handshake) (endpoint : Endpoint) (peer : Ip.Header)
    (syn : Header) : Prop where
  accepted : handshake.syn = some (peer, syn)
  flag : syn.flags.contains .syn
  ends : handshake.passive → endpoint.remoteAddress = some peer.source ∧
    endpoint.remotePort = some syn.sourcePort
  expected : endpoint.state = .synReceived → endpoint.receiveNext = syn.sequence + 1

structure Documents (handshake : Handshake) (endpoint : Endpoint) : Prop where
  waiting : endpoint.state = .listen ∨ endpoint.state = .synSent → handshake.syn = none
  active : endpoint.state = .synSent → handshake.passive = false
  known : endpoint.state.knowsPeer → ∃ peer syn, handshake.Accepts endpoint peer syn

variable {call : Call} {before after early moment endpoint : Endpoint} {output passed : Output}
  {handshake : Handshake} {allowed : Endpoint → Call → Prop}

theorem next_of_unknown (unknown : endpoint.state.knowsPeer = false) :
    handshake.next call endpoint = handshake := by
  rw [next, if_neg (by rw [unknown]; nofun)]

theorem next_of_accepted {greeting : Ip.Header × Header}
    (accepted : handshake.syn = some greeting) : handshake.next call endpoint = handshake := by
  unfold next
  split
  · rw [accepted, Option.some_or, ← accepted]
  · rfl

theorem next_of_known (early : before.state.knowsPeer) (late : after.state.knowsPeer) :
    handshake.next call before = handshake.next call after := by
  rw [next, if_pos early, next, if_pos late]

theorem next_next (known : after.state.knowsPeer) :
    (handshake.next call before).next call after = handshake.next call after := by
  rw [next, if_pos known]
  unfold next
  split
  · dsimp only
    rw [Option.or_assoc, Option.or_self]
  · rfl

theorem enter_of_continues (continues : call.opens = false) :
    handshake.enter endpoint call = handshake.next call (endpoint.perform call).endpoint := by
  rw [enter, continues, Bool.false_and, if_neg Bool.false_ne_true]

theorem documents_of_closed (closed : endpoint.state = .closed) : handshake.Documents endpoint := by
  refine ⟨?_, ?_, ?_⟩
  · rw [closed]
    nofun
  · rw [closed]
    nofun
  · rw [closed]
    nofun

theorem Accepts.documents {peer : Ip.Header} {syn : Header}
    (accepts : handshake.Accepts endpoint peer syn) (known : endpoint.state.knowsPeer) :
    handshake.Documents endpoint := by
  refine ⟨?_, ?_, fun _ => ⟨peer, syn, accepts⟩⟩
  · rintro (state | state) <;> rw [state] at known <;> cases known
  · intro state
    rw [state] at known
    cases known

theorem Documents.stay (documents : handshake.Documents before)
    (state : after.state = before.state ∨
      (before.state.knowsPeer ∧ after.state.isSynchronized))
    (address : after.remoteAddress = before.remoteAddress)
    (port : after.remotePort = before.remotePort)
    (expected : after.receiveNext = before.receiveNext ∨ after.state.isSynchronized) :
    (handshake.next call after).Documents after := by
  cases known : before.state.knowsPeer with
  | false =>
      have same := state.resolve_right (by rw [known]; nofun)
      rw [next_of_unknown (by rw [same, known])]
      refine ⟨?_, ?_, ?_⟩
      · rw [same]
        exact documents.waiting
      · rw [same]
        exact documents.active
      · rw [same, known]
        nofun
  | true =>
      obtain ⟨peer, syn, accepts⟩ := documents.known known
      have still : after.state.knowsPeer := by
        rcases state with same | ⟨_, synchronized⟩
        · rw [same, known]
        · exact State.knowsPeer_of_isSynchronized synchronized
      rw [next_of_accepted accepts.accepted]
      refine Accepts.documents ⟨accepts.accepted, accepts.flag, ?_, ?_⟩ still
      · rw [address, port]
        exact accepts.ends
      · intro answered
        have unsynchronized : ¬ after.state.isSynchronized := by
          rw [answered]
          nofun
        rw [expected.resolve_right unsynchronized]
        apply accepts.expected
        rw [← state.resolve_right fun other => unsynchronized other.2, answered]

theorem Documents.move (documents : handshake.Documents before) (continues : call.opens = false)
    (move : Move call before output after) : (handshake.next call after).Documents after := by
  -- A SYN is waited for, so the one that comes is accepted.
  have greeted {now : Instant} {ip : Ip.Header} {header : Header} {payload : Octets}
      (called : call = .receive now ip header payload) (syn : header.flags.contains .syn)
      (waiting : before.state = .listen ∨ before.state = .synSent)
      (known : after.state.knowsPeer) :
      (handshake.next call after).syn = some (ip, header) := by
    rw [next, if_pos known]
    dsimp only
    rw [documents.waiting waiting, called, Call.greeting?, if_pos syn, Option.none_or]
  cases move with
  | wait | say | queue | intend | acknowledge =>
      exact documents.stay (.inl rfl) rfl rfl (.inl rfl)
  | connect called | listen called => rw [called] at continues; cases continues
  | welcome called listening syn =>
      exact Accepts.documents ⟨greeted called syn (.inl listening) rfl, syn, fun _ => ⟨rfl, rfl⟩,
        fun _ => rfl⟩ rfl
  | establish called opening syn =>
      refine Accepts.documents ⟨greeted called syn (.inr opening) rfl, syn, ?_, nofun⟩ rfl
      intro passive
      change handshake.passive at passive
      rw [documents.active opening] at passive
      cases passive
  | cross called opening syn =>
      refine Accepts.documents ⟨greeted called syn (.inr opening) rfl, syn, ?_, fun _ => rfl⟩ rfl
      intro passive
      change handshake.passive at passive
      rw [documents.active opening] at passive
      cases passive
  | confirm _ answered =>
      exact documents.stay (.inr ⟨by rw [answered]; rfl, rfl⟩) rfl rfl (.inl rfl)
  | finish _ next =>
      refine documents.stay (.inr ?_) rfl rfl (.inl rfl)
      rcases next with ⟨state, rfl⟩ | ⟨state, rfl⟩ <;> exact ⟨by rw [state]; rfl, rfl⟩
  | finishLast | abort =>
      rw [next_of_unknown rfl]
      exact documents_of_closed rfl
  | sendFin _ _ next =>
      refine documents.stay (.inr ?_) rfl rfl (.inl rfl)
      rcases finState?_eq_some next with ⟨state, rfl⟩ | ⟨state, rfl⟩ <;>
        exact ⟨by rw [state]; rfl, rfl⟩
  | @take _ _ header _ _ _ _ accepting =>
      obtain ⟨before_, after_⟩ := State.isSynchronized_of_acceptsText accepting
      have synchronized : (if header.flags.contains .fin then before.state.afterPeerFin
          else before.state).isSynchronized := by
        split
        · exact after_
        · exact before_
      exact documents.stay (.inr ⟨State.knowsPeer_of_isSynchronized before_, synchronized⟩) rfl rfl
        (.inr synchronized)

theorem Documents.moves (documents : handshake.Documents before) (continues : call.opens = false)
    (moves : Moves call before output after) : (handshake.next call after).Documents after := by
  induction moves generalizing handshake with
  | done => exact documents.stay (.inl rfl) rfl rfl (.inl rfl)
  | @step before middle after output rest move moves ih =>
      have later := ih (documents.move continues move)
      cases known : after.state.knowsPeer with
      | true => rwa [next_next known] at later
      | false =>
          -- A peer that is not known any more has been lost with the connection.
          cases met : middle.state.knowsPeer with
          | false => rwa [next_of_unknown met] at later
          | true =>
              have ended : after.state.knowsPeer ∨ after.state = .closed :=
                moves.keeps (fun move => (move.stepsTo continues).known) (.inl met)
              exact documents_of_closed (ended.resolve_left (by rw [known]; nofun))

theorem Documents.enter (documents : handshake.Documents endpoint) (call : Call) :
    (handshake.enter endpoint call).Documents (endpoint.perform call).endpoint := by
  rcases endpoint.opens_cases call with continues | ⟨opens, opened⟩ | ⟨opens, unopened⟩
  · rw [enter_of_continues continues]
    exact documents.moves continues (Endpoint.perform_moves endpoint call)
  · rw [Handshake.enter, opens, opened, Bool.and_true, if_pos rfl]
    refine ⟨fun _ => rfl, ?_, ?_⟩
    · intro opening
      cases call with
      | listen =>
          rw [Endpoint.perform] at opening opened
          cases listened : endpoint.listen with
          | ok turn =>
              rw [listened] at opening
              cases (Endpoint.listen_opens listened).1.symm.trans opening
          | error failure =>
              rw [listened] at opened
              cases opened
      | connect | send | close | reset | tick | receive => rfl
    · intro known
      rcases Endpoint.state_of_opened opens opened with state | state <;> rw [state] at known <;>
        cases known
  · rw [Handshake.enter, unopened, Bool.and_false, if_neg Bool.false_ne_true,
      (Endpoint.idle_of_unopened opens unopened).1]
    exact documents.stay (.inl rfl) rfl rfl (.inl rfl)

end Handshake

namespace Endpoint

variable {call : Call} {before after moment endpoint : Endpoint} {output : Output}
  {handshake : Handshake}

theorem Records.greeted {address : Option Address} {port : UInt16} {config : Config}
    {allowed : Endpoint → Call → Prop}
    (recorded : (create address port config).Records allowed Handshake.enter {} endpoint
      handshake) : handshake.Documents endpoint := by
  induction recorded with
  | blank => exact Handshake.documents_of_closed rfl
  | call _ _ ih => exact ih.enter _

/-- The acknowledgment of our SYN, with which a connection is established. The SYN of the peer has
come before, or comes with it. -/
structure Establishes (header : Header) (before after : Endpoint) : Prop where
  ack : header.flags.contains .ack
  noRst : header.flags.contains .rst = false
  matching : header.acknowledgment = before.sendNext
  state : after.state = .established
  oldest : after.unacknowledged = header.acknowledgment
  met : (before.state = .synSent ∧ header.flags.contains .syn ∧
      after.receiveNext = header.sequence + 1) ∨
    (before.state = .synReceived ∧ after.receiveNext = before.receiveNext)

theorem Move.establishes (move : Move call before output after) (continues : call.opens = false)
    (opening : before.state.isSynchronized = false) (synchronized : after.state.isSynchronized) :
    ∃ now ip header payload, call = .receive now ip header payload ∧
      Establishes header before after := by
  cases move with
  | wait | say | queue | intend | acknowledge => cases opening.symm.trans synchronized
  | connect called | listen called => rw [called] at continues; cases continues
  | welcome | cross | finishLast | abort => cases synchronized
  | establish called state syn ack noRst matching =>
      exact ⟨_, _, _, _, called, ack, noRst, matching, rfl, rfl, .inl ⟨state, syn, rfl⟩⟩
  | confirm called state ack _ noRst matching =>
      exact ⟨_, _, _, _, called, ack, noRst, matching, rfl, rfl, .inr ⟨state, rfl⟩⟩
  | finish _ next =>
      rcases next with ⟨state, _⟩ | ⟨state, _⟩ <;> rw [state] at opening <;> cases opening
  | sendFin _ _ next =>
      rcases finState?_eq_some next with ⟨state, _⟩ | ⟨state, _⟩ <;> rw [state] at opening <;>
        cases opening
  | take _ _ _ accepting =>
      rw [(State.isSynchronized_of_acceptsText accepting).1] at opening
      cases opening

theorem Moves.oldest {now : Instant} {ip : Ip.Header} {header : Header} {payload : Octets}
    (moves : Moves (.receive now ip header payload) before output after)
    (oldest : before.unacknowledged = header.acknowledgment) :
    after.unacknowledged = header.acknowledgment := by
  have kept : ∀ {earlier later passed}, Move (.receive now ip header payload) earlier passed later →
      earlier.unacknowledged = header.acknowledgment →
        later.unacknowledged = header.acknowledgment := by
    intro earlier later passed move oldest
    cases move with
    | wait | say | welcome | cross | queue | intend | sendFin | take | abort => exact oldest
    | connect called | listen called => cases called
    | establish called | confirm called | acknowledge called | finish called | finishLast called =>
        cases called
        rfl
  exact moves.keeps kept oldest

/-- At the moment at which a connection is established, the record tells what comes next. -/
theorem Establishes.expected {header : Header} {now : Instant} {ip : Ip.Header} {payload : Octets}
    (establishes : Establishes header before after) (called : call = .receive now ip header payload)
    (early : (handshake.next call before).Documents before) :
    ∃ peer syn, (handshake.next call after).syn = some (peer, syn) ∧
      after.receiveNext = syn.sequence + 1 := by
  have known : after.state.knowsPeer := by
    rw [establishes.state]
    rfl
  rcases establishes.met with ⟨opening, syn, next⟩ | ⟨answered, same⟩
  · have unknown := early.waiting (.inr opening)
    rw [Handshake.next_of_unknown (by rw [opening]; rfl)] at unknown
    refine ⟨ip, header, ?_, next⟩
    rw [Handshake.next, if_pos known]
    dsimp only
    rw [unknown, called, Call.greeting?, if_pos syn, Option.none_or]
  · have met : before.state.knowsPeer := by
      rw [answered]
      rfl
    obtain ⟨peer, syn, accepts⟩ := early.known met
    rw [Handshake.next_of_known met known] at accepts
    exact ⟨peer, syn, accepts.accepted, same.trans (accepts.expected answered)⟩

/-- A segment that has established a connection may bring text and FIN. -/
theorem Moves.expected {now : Instant} {ip : Ip.Header} {header : Header} {payload : Octets}
    (moves : Moves (.receive now ip header payload) before output after)
    (synchronized : before.state.isSynchronized) :
    after.receiveNext = before.receiveNext ∨ (header.sequence = before.receiveNext ∧
      after.receiveNext = header.sequence + header.span payload.length) := by
  cases moves.hears with
  | opened opens => cases opens
  | unheard _ next => exact .inl next
  | introduced _ _ opening =>
      rcases opening with state | state <;> rw [state] at synchronized <;> cases synchronized
  | taken called _ _ _ inOrder _ _ next =>
      cases called
      exact .inr ⟨inOrder, by rw [next, inOrder]⟩

section Runs

variable {address : Option Address} {port : UInt16} {config : Config}

/-- However a connection has been opened and whatever has arrived, an endpoint becomes synchronized
by the acknowledgment of its own SYN alone. By then a SYN of the peer has been accepted, which gives
the number expected next and, after a listen, the peer. -/
theorem reachable_handshake_safe
    (recorded : (create address port config).Records (fun _ _ => True) Handshake.enter {} endpoint
      handshake) (opening : endpoint.state.isSynchronized = false)
    (synchronized : (endpoint.perform call).endpoint.state.isSynchronized) :
    let after := (endpoint.perform call).endpoint
    ∃ now ip header payload peer syn,
      call = .receive now ip header payload ∧ header.flags.contains .ack ∧
      header.flags.contains .rst = false ∧
      header.acknowledgment = config.initialSequence + 1 ∧
      (handshake.enter endpoint call).Accepts after peer syn ∧
      (∃ output moment, endpoint.Passes call output moment ∧ moment.state = .established ∧
        moment.unacknowledged = config.initialSequence + 1 ∧
        moment.receiveNext = syn.sequence + 1) ∧
      after.unacknowledged = config.initialSequence + 1 ∧
      (after.receiveNext = syn.sequence + 1 ∨
        (header.sequence = syn.sequence + 1 ∧
          after.receiveNext = header.sequence + header.span payload.length)) := by
  intro after
  have documents := recorded.greeted
  have continues : call.opens = false := by
    rcases endpoint.opens_cases call with continues | ⟨opens, opened⟩ | ⟨opens, unopened⟩
    · exact continues
    · rcases state_of_opened opens opened with state | state <;> rw [state] at synchronized <;>
        cases synchronized
    · rw [(idle_of_unopened opens unopened).1, opening] at synchronized
      cases synchronized
  have moves := perform_moves endpoint call
  obtain ⟨first, passed, rest, early, moment, reached, crossing, onward, whole, apart, arrived⟩ :=
    @Moves.brings _ _ _ _ (fun endpoint => endpoint.state.isSynchronized) moves
      (by rw [opening]; nofun) synchronized
  rw [Bool.not_eq_true] at apart
  obtain ⟨now, ip, header, payload, called, establishes⟩ :=
    crossing.establishes continues apart arrived
  -- Both counters still stand where the connection began.
  have begins := reached.keeps Move.begins recorded.reaches.begins
  have number : early.sendNext = config.initialSequence + 1 := by
    have origin : early.config = config := reached.config.trans recorded.config
    rcases establishes.met with ⟨state, _⟩ | ⟨state, _⟩
    · rw [(begins (by simp [state]) apart).2, state, origin]
      rfl
    · rw [(begins (by simp [state]) apart).2, state, origin]
      rfl
  have matching := establishes.matching.trans number
  obtain ⟨peer, syn, recorded_, expected⟩ :=
    establishes.expected called (documents.moves continues reached)
  have late : after.state.knowsPeer := State.knowsPeer_of_isSynchronized synchronized
  have entered : handshake.enter endpoint call = handshake.next call moment := by
    rw [Handshake.enter_of_continues continues]
    exact Handshake.next_of_known late (State.knowsPeer_of_isSynchronized arrived)
  obtain ⟨peer', syn', accepts⟩ := (documents.enter call).known late
  have same : (peer', syn') = (peer, syn) := by
    apply Option.some.inj
    rw [← accepts.accepted, ← recorded_, entered]
  cases same
  subst called
  refine ⟨now, ip, header, payload, peer, syn, rfl, establishes.ack, establishes.noRst, matching,
    accepts, ⟨first ++ passed, moment, ⟨rest, reached.trans (.single crossing), onward, ?_⟩,
      establishes.state, establishes.oldest.trans matching, expected⟩,
    (onward.oldest establishes.oldest).trans matching, ?_⟩
  · rw [Output.append_assoc]
    exact whole
  · rw [← expected]
    exact onward.expected arrived

end Runs

def arriving (sequence acknowledgment : UInt32) (flags : Flags) (payload : Octets) : Call :=
  .receive 0 { nextHeader := .tcp, source := .allRouters, destination := .allNodes }
    { sourcePort := 2, destinationPort := 1, sequence, acknowledgment, flags, window := 128 }
    payload

/-- A listener that has been sent a SYN, and then another one with a number of its own. -/
def greeted : Endpoint :=
  let listening := ((create none 1 {}).perform .listen).endpoint
  ((listening.perform (arriving 7 0 .syn [])).endpoint.perform (arriving 50 0 .syn [])).endpoint

theorem records_greeted :
    (create none 1 {}).Records (fun _ _ => True) Handshake.enter {} greeted
      { passive := true, syn := (arriving 7 0 .syn []).greeting? } := by
  have listened : (create none 1 {}).Records (fun _ _ => True) Handshake.enter {}
      ((create none 1 {}).perform .listen).endpoint { passive := true } := .call .blank trivial
  exact .call (.call listened trivial) trivial

/-- The first SYN counts. The segment that ends the handshake brings three octets with it. -/
theorem greeted_handshake_safe :
    let call := arriving 8 1 .ack [1, 2, 3]
    let after := (greeted.perform call).endpoint
    greeted.state.isSynchronized = false ∧ after.state.isSynchronized ∧
      (∃ output moment, greeted.Passes call output moment ∧ moment.unacknowledged = 1 ∧
        moment.receiveNext = 8) ∧
      after.unacknowledged = 1 ∧ after.receiveNext = 11 ∧
      after.remoteAddress = some .allRouters ∧ after.remotePort = some 2 := by
  intro call after
  have opening : greeted.state.isSynchronized = false := by decide
  have synchronized : after.state.isSynchronized := by decide
  obtain ⟨_, _, header, _, peer, syn, called, _, _, _, accepts,
    ⟨output, moment, passes, _, oldest, expected⟩, still, _⟩ :=
      reachable_handshake_safe records_greeted opening synchronized
  have first : (arriving 7 0 .syn []).greeting? = some (peer, syn) := accepts.accepted
  cases first
  obtain ⟨address, port⟩ := accepts.ends rfl
  exact ⟨opening, synchronized, ⟨output, moment, passes, oldest, expected⟩, still, by decide,
    address, port⟩

end Endpoint

end RadioStack.Tcp
