import RadioStack.Proofs.Tcp.Intake
import RadioStack.Proofs.Tcp.Pair

/-!
An orderly close loses nothing. A FIN comes after all data, so whoever has taken it has reported
everything that was handed over; and nobody acknowledges a FIN without having taken it. Main
statement: `reachable_close_whole`.
-/

namespace RadioStack.Tcp

namespace State

/-- Our FIN has been acknowledged, and the connection has not ended. -/
def finAcknowledged : State → Bool
  | .finWait2 | .timeWait => true
  | _ => false

theorem knowsPeer_of_peerFinished {state : State} (finished : state.peerFinished) :
    state.knowsPeer := by
  cases state <;> first | rfl | cases finished

end State

namespace Endpoint

def TakesFin (call : Call) (before after : Endpoint) : Prop :=
  call.syn? = none ∧ call.passesFin before after

def LeavesLastAck (_ : Call) (before after : Endpoint) : Prop :=
  before.state = .lastAck ∧ after.state = .closed

def FinCovered (call : Call) (endpoint : Endpoint) : Prop :=
  ∃ now ip header payload, call = .receive now ip header payload ∧ header.flags.contains .ack ∧
    endpoint.coversFin header.acknowledgment

variable {call : Call} {before middle after : Endpoint} {output rest : Output}

theorem Move.finAcknowledged (move : Move call before output after)
    (acknowledged : after.state.finAcknowledged) :
    before.state.finAcknowledged ∨ before.FinCovered call := by
  cases move with
  | wait | say | queue | intend | acknowledge => exact .inl acknowledged
  | connect | listen | welcome | establish | cross | confirm | finishLast | abort =>
      cases acknowledged
  | finish called _ covers fin => exact .inr ⟨_, _, _, _, called, covers.ack, fin⟩
  | sendFin _ _ next =>
      rcases finState?_eq_some next with ⟨_, rfl⟩ | ⟨_, rfl⟩ <;> cases acknowledged
  | @take _ _ header _ _ _ _ accepting =>
      left
      dsimp only at acknowledged
      split at acknowledged
      · cases state : before.state <;> rw [state] at acknowledged <;>
          first | rfl | cases acknowledged
      · exact acknowledged

def PassesCovered (call : Call) (before : Endpoint) : Prop :=
  ∃ output moment, Moves call before output moment ∧ moment.FinCovered call

theorem FinCovered.passes (covered : before.FinCovered call) : before.PassesCovered call :=
  ⟨{}, before, .done, covered⟩

theorem PassesCovered.step (passes : middle.PassesCovered call)
    (move : Move call before output middle) : before.PassesCovered call := by
  obtain ⟨rest, moment, moves, covered⟩ := passes
  exact ⟨output ++ rest, moment, .step move moves, covered⟩

theorem Moves.finAcknowledged (moves : Moves call before output after)
    (acknowledged : after.state.finAcknowledged) :
    before.state.finAcknowledged ∨ before.PassesCovered call := by
  induction moves with
  | done => exact .inl acknowledged
  | step move _ ih =>
      rcases ih acknowledged with acknowledged | passes
      · exact (move.finAcknowledged acknowledged).imp_right FinCovered.passes
      · exact .inr (passes.step move)

theorem Move.lastAck (move : Move call before output after) (continues : call.opens = false)
    (last : before.state = .lastAck) :
    after.state = .lastAck ∨ before.FinCovered call ∨ before.Ends call := by
  cases move with
  | wait | say | intend | acknowledge => exact .inl last
  | connect called | listen called => rw [called] at continues; cases continues
  | welcome _ state | establish _ state | cross _ state | confirm _ state =>
      rw [last] at state
      cases state
  | queue _ ready =>
      have carries := carriesData_of_refusal?_eq_none ready
      rw [last] at carries
      cases carries
  | finish called _ covers fin => exact .inr (.inl ⟨_, _, _, _, called, covers.ack, fin⟩)
  | finishLast called _ covers fin => exact .inr (.inl ⟨_, _, _, _, called, covers.ack, fin⟩)
  | sendFin _ _ next => rw [last] at next; cases next
  | take _ _ _ accepting => rw [last] at accepting; cases accepting
  | abort ends => exact .inr (.inr ends)

theorem Moves.leavesLastAck (moves : Moves call before output after)
    (continues : call.opens = false) (noReset : ∀ now, call ≠ .reset now)
    (noRst : ∀ now ip header payload, call = .receive now ip header payload →
      header.flags.contains .rst = false)
    (leaves : LeavesLastAck call before after) : before.PassesCovered call := by
  obtain ⟨last, closed⟩ := leaves
  induction moves with
  | done => rw [last] at closed; cases closed
  | @step before _ _ _ _ move _ ih =>
      rcases move.lastAck continues last with still | covered | ends
      · exact (ih still closed).step move
      · exact covered.passes
      · -- A RST is not sent, and the timer of TIME-WAIT does not run.
        cases ends with
        | reset called => exact absurd called (noReset _)
        | close _ state =>
            rcases state with state | state <;> rw [last] at state <;> cases state
        | expire _ state | refuse _ state => rw [last] at state; cases state
        | resetByPeer called _ rst =>
            rw [noRst _ _ _ _ called] at rst
            cases rst

theorem Moves.accepted_of_receive {now : Instant} {ip : Ip.Header} {header : Header}
    {payload : Octets} (moves : Moves (.receive now ip header payload) before output after) :
    output.accepted = [] := by
  induction moves with
  | done => rfl
  | step move _ ih =>
      cases move with
      | queue called => cases called
      | wait | say | connect | listen | welcome | establish | cross | confirm | intend
      | acknowledge | finish | finishLast | sendFin | take | abort => exact ih

end Endpoint

section Parties

variable {call : Call} {here there : Socket} {party other : Party} {acknowledgment : UInt32}

theorem Delivers.not_coversFin (delivers : Delivers party other)
    (bounded : party.past.accepted.length + 2 < 0x80000000) {taken : Nat}
    (within : taken ≤ other.past.reported.length)
    (number : acknowledgment = ahead party.endpoint.config.initialSequence (1 + taken)) :
    party.endpoint.coversFin acknowledgment = false := by
  rw [← Bool.not_eq_true]
  intro covers
  rw [Endpoint.coversFin, Bool.and_eq_true, beq_iff_eq] at covers
  obtain ⟨inFlight, last⟩ := covers
  have running : party.endpoint.state ≠ .closed := by
    intro closed
    rw [closed] at inFlight
    cases inFlight
  obtain ⟨dropped, ledger, whole⟩ := delivers.balanced.ledger running
  have next : acknowledgment = ahead party.endpoint.config.initialSequence
      (1 + party.past.accepted.length + 1) := by
    rw [last, whole, ledger.next_of_finInFlight inFlight]
  have near := delivers.held.length_le
  have same := ahead_injective _ (by omega) (by omega) (number.symm.trans next)
  omega

theorem Safe.not_passesCovered (safe : Safe here there party other)
    (fed : Fed here there party other call)
    (bounded : (party.act call).past.accepted.length + 2 < 0x80000000)
    (boundedOther : other.past.accepted.length + 2 < 0x80000000)
    (early : ∀ now ip header payload, call = .receive now ip header payload →
      header.flags.contains .ack → ∃ taken, taken ≤ other.past.reported.length ∧
        header.acknowledgment = ahead party.endpoint.config.initialSequence (1 + taken)) :
    ¬ party.endpoint.PassesCovered call := by
  rintro ⟨output, moment, moves, now, ip, header, payload, called, ack, covers⟩
  have silent : output.accepted = [] := by
    rw [called] at moves
    exact moves.accepted_of_receive
  have shorter : (party.after moment output).past.accepted.length + 2 < 0x80000000 := by
    have grown := (party.continues_act fed.continues).accepted.length_le
    rw [Party.accepted_after, silent, List.append_nil]
    omega
  have delivers := (Safe.moves moves safe fed rfl shorter boundedOther).sends
  obtain ⟨taken, within, number⟩ := early _ _ _ _ called ack
  have config := (moves.continues fed.continues).1
  rw [← config] at number
  have uncovered := delivers.not_coversFin shorter within number
  rw [Party.endpoint_after, covers] at uncovered
  cases uncovered

/-- What has come in on a call: either the FIN has been taken, now or before, or it has not been
acknowledged. -/
theorem Delivers.hears {output : Output} {endpoint : Endpoint} (delivers : Delivers other party)
    (fed : Fed here there party other call)
    (hears : Endpoint.Hears call party.endpoint output endpoint) :
    (endpoint.state.peerFinished → party.endpoint.state.peerFinished ∨
      Endpoint.TakesFin call party.endpoint endpoint) ∧
    ∀ number ∈ output.acknowledgments, party.endpoint.state.peerFinished ∨
      Endpoint.TakesFin call party.endpoint endpoint ∨
      ∃ taken, taken ≤ (party.past.reported ++ output.reported).length ∧
        number = ahead other.endpoint.config.initialSequence (1 + taken) := by
  have expected : party.endpoint.state.knowsPeer → party.endpoint.state.peerFinished = false →
      party.endpoint.receiveNext =
        ahead other.endpoint.config.initialSequence (1 + party.past.reported.length) := by
    intro known continuing
    rw [delivers.expected known, continuing]
    rfl
  rw [List.length_append]
  cases hears with
  | opened opens => rw [fed.continues] at opens; cases opens
  | unheard silent next state acknowledged =>
      refine ⟨?_, ?_⟩
      · intro finished
        rw [(state.known (State.knowsPeer_of_peerFinished finished)).2] at finished
        exact .inl finished
      · intro number listed
        obtain ⟨known, same⟩ := acknowledged number listed
        cases finished : party.endpoint.state.peerFinished with
        | true => exact .inl rfl
        | false => exact .inr (.inr ⟨_, Nat.le_add_right _ _, same.trans (expected known finished)⟩)
  | introduced called syn opening silent next state acknowledged =>
      refine ⟨?_, ?_⟩
      · intro finished
        rw [(state.known (State.knowsPeer_of_peerFinished finished)).2] at finished
        cases finished
      · intro number listed
        have first := sequence_of_syn (fed.labelled _ _ _ _ called) syn
        refine .inr (.inr ⟨0, Nat.zero_le _, ?_⟩)
        rw [acknowledged number listed, next, first]
        rfl
  | @taken _ _ header payload called noSyn known continuing inOrder _ reported next state
      acknowledged =>
      have passes : header.flags.contains .fin →
          Endpoint.TakesFin call party.endpoint endpoint := by
        intro fin
        rw [called]
        refine ⟨?_, ?_⟩
        · rw [Call.syn?, noSyn]
          rfl
        · rw [Intake.passesFin_of_taken noSyn inOrder next, fin]
      refine ⟨?_, ?_⟩
      · intro finished
        rw [(state.known (State.knowsPeer_of_peerFinished finished)).2,
          (State.withPeer_facts _).2] at finished
        exact .inr (passes finished)
      · intro number listed
        right
        obtain ⟨early, late, whole, before, after⟩ := acknowledged
        rw [whole, List.mem_append] at listed
        rcases listed with listed | listed
        · exact .inr ⟨_, Nat.le_add_right _ _,
            (before number listed).trans (expected known continuing)⟩
        · cases fin : header.flags.contains .fin with
          | true => exact .inl (passes fin)
          | false =>
              refine .inr ⟨_, Nat.le_refl _, ?_⟩
              rw [after number listed, next, Intake.span_eq noSyn, fin, reported,
                expected known continuing]
              exact (ahead_ahead _ _ _).trans (by rw [Nat.add_assoc]; rfl)

theorem Fed.short (fed : Fed here there party other call)
    (bounded : other.past.accepted.length + 2 < 0x80000000) (noSyn : call.syn? = none) :
    call.Short := by
  cases call with
  | receive now ip header payload =>
      change payload.length < 0xffffffff
      cases (fed.labelled _ _ _ _ rfl).carries with
      | syn syn => rw [Call.syn?, if_pos syn] at noSyn; cases noSyn
      | bare _ _ empty | fin _ _ empty => change payload = [] at empty; simp [empty]
      | text _ _ part =>
          have length := congrArg List.length part
          rw [List.length_append, List.length_append] at length
          change other.past.accepted.length = _ at length
          dsimp only at length
          omega
  | connect | listen | send | close | reset | tick => trivial

theorem Delivers.takesFin {output : Output} {endpoint : Endpoint} (delivers : Delivers other party)
    (fed : Fed here there party other call)
    (bounded : other.past.accepted.length + 2 < 0x80000000)
    (hears : Endpoint.Hears call party.endpoint output endpoint)
    (takes : Endpoint.TakesFin call party.endpoint endpoint) :
    other.endpoint.state.finished ∧
      party.past.reported ++ output.reported = other.past.accepted := by
  obtain ⟨noSyn, passes⟩ := takes
  cases hears with
  | opened opens => rw [fed.continues] at opens; cases opens
  | unheard _ next =>
      rw [Intake.passesFin_of_next (fed.short bounded noSyn) next] at passes
      cases passes
  | introduced called syn => rw [called, Call.syn?, if_pos syn] at noSyn; cases noSyn
  | taken called noSyn known continuing inOrder occupied reported next =>
      rw [called, Intake.passesFin_of_taken noSyn inOrder next] at passes
      rw [reported]
      have carries := (fed.labelled _ _ _ _ called).carries
      exact (delivers.next_piece bounded known continuing carries noSyn inOrder occupied).2.2 passes

theorem Fed.peerFinished {output : Output} {endpoint : Endpoint}
    (fed : Fed here there party other call)
    (bounded : other.past.accepted.length + 2 < 0x80000000)
    (hears : Endpoint.Hears call party.endpoint output endpoint)
    (takes : Endpoint.TakesFin call party.endpoint endpoint) :
    endpoint.state.peerFinished ∨ endpoint.state = .closed := by
  obtain ⟨noSyn, passes⟩ := takes
  cases hears with
  | opened opens => rw [fed.continues] at opens; cases opens
  | unheard _ next =>
      rw [Intake.passesFin_of_next (fed.short bounded noSyn) next] at passes
      cases passes
  | introduced called syn => rw [called, Call.syn?, if_pos syn] at noSyn; cases noSyn
  | taken called noSyn _ _ inOrder _ _ next state =>
      rw [called, Intake.passesFin_of_taken noSyn inOrder next] at passes
      rw [passes] at state
      cases state with
      | ended closed => exact .inr closed
      | waiting unknown => cases unknown
      | running _ _ finished => exact .inl finished

end Parties

namespace Pair

open Endpoint (TakesFin LeavesLastAck)

variable {sockets : Side → Socket} {first pair later : Pair} {side : Side} {call : Call}
  {event : Call → Endpoint → Endpoint → Prop}

/-- Something that a call at one of the endpoints has done on the way from one pair to another. -/
def Once (sockets : Side → Socket) (first pair : Pair) (side : Side)
    (event : Call → Endpoint → Endpoint → Prop) : Prop :=
  ∃ earlier call, Reaches sockets first earlier ∧ earlier.Happens sockets side call ∧
    Reaches sockets (earlier.act side call) pair ∧
    event call (earlier side).endpoint ((earlier side).endpoint.perform call).endpoint

theorem Once.trans (once : Once sockets first pair side event)
    (reached : Reaches sockets pair later) : Once sockets first later side event := by
  obtain ⟨earlier, call, before, happens, after, happened⟩ := once
  exact ⟨earlier, call, before, happens, after.trans reached, happened⟩

theorem Happens.once (happens : pair.Happens sockets side call)
    (reached : Reaches sockets first pair)
    (happened : event call (pair side).endpoint ((pair side).endpoint.perform call).endpoint) :
    Once sockets first (pair.act side call) side event :=
  ⟨pair, call, reached, happens, .refl, happened⟩

/-- What an endpoint shows of the FIN of the other, and knows of its own. -/
structure Closes (sockets : Side → Socket) (first pair : Pair) (side : Side) : Prop where
  finished : (pair side).endpoint.state.peerFinished → Once sockets first pair side TakesFin
  counted : ∀ sent ∈ (pair side).past.segments, sent.header.flags.contains .ack →
    Once sockets first pair side TakesFin ∨
      ∃ taken, taken ≤ (pair side).past.reported.length ∧ sent.header.acknowledgment =
        ahead (pair side.other).endpoint.config.initialSequence (1 + taken)
  acknowledged : (pair side).endpoint.state.finAcknowledged →
    Once sockets first pair side.other TakesFin

theorem Happens.covered (happens : pair.Happens sockets side call)
    (apart : ∀ side, sockets side ≠ sockets side.other) (safe : pair.AllSafe sockets)
    (bounded : ∀ side', (pair.act side call side').past.accepted.length + 2 < 0x80000000)
    (closes : Closes sockets first pair side.other)
    (covered : (pair side).endpoint.PassesCovered call) :
    Once sockets first pair side.other TakesFin := by
  apply Classical.byContradiction
  intro untaken
  have fed := happens.fed (apart side) (safe side)
  have boundedSelf := bounded side
  have boundedOther := bounded side.other
  rw [act_self] at boundedSelf
  rw [act_other] at boundedOther
  refine (safe side).not_passesCovered fed boundedSelf boundedOther ?_ covered
  intro now ip header payload called ack
  have sent := happens.sent (apart side) (safe side) called
  have counted := (closes.counted _ sent ack).resolve_left untaken
  rwa [other_other] at counted

theorem Closes.act (closes : ∀ side, Closes sockets first pair side)
    (apart : ∀ side, sockets side ≠ sockets side.other) (safe : pair.AllSafe sockets)
    (reached : Reaches sockets first pair) (happens : pair.Happens sockets side call)
    (bounded : ∀ side', (pair.act side call side').past.accepted.length + 2 < 0x80000000)
    (who : Side) : Closes sockets first (pair.act side call) who := by
  have still {who : Side} (once : Once sockets first pair who TakesFin) :
      Once sockets first (pair.act side call) who TakesFin :=
    once.trans (.step .refl happens)
  rcases who.eq_or_eq_other side with rfl | rfl
  · have moves := Endpoint.perform_moves (pair who).endpoint call
    obtain ⟨finished, acknowledges⟩ :=
      (safe who).receives.hears (happens.fed (apart who) (safe who)) moves.hears
    have taken (before : (pair who).endpoint.state.peerFinished ∨
        TakesFin call (pair who).endpoint ((pair who).endpoint.perform call).endpoint) :
        Once sockets first (pair.act who call) who TakesFin :=
      before.elim (fun finished => still ((closes who).finished finished)) (happens.once reached)
    refine ⟨?_, ?_, ?_⟩
    · rw [act_self]
      exact fun ended => taken (finished ended)
    · rw [act_self, act_other]
      intro sent member ack
      rcases List.mem_append.mp member with old | new
      · refine ((closes who).counted sent old ack).imp still ?_
        rintro ⟨count, within, number⟩
        exact ⟨count, Nat.le_trans within (List.prefix_append _ _).length_le, number⟩
      · rcases acknowledges _ (Output.acknowledgment_mem new ack) with ended | takes | early
        · exact .inl (taken (.inl ended))
        · exact .inl (taken (.inr takes))
        · exact .inr early
    · rw [act_self]
      intro acknowledged
      rcases moves.finAcknowledged acknowledged with before | covered
      · exact still ((closes who).acknowledged before)
      · exact still (happens.covered apart safe bounded (closes who.other) covered)
  · obtain ⟨finished, counted, acknowledged⟩ := closes side.other
    refine ⟨?_, ?_, ?_⟩
    · rw [act_other]
      exact fun ended => still (finished ended)
    · rw [other_other] at counted ⊢
      rw [act_other, (happens.continues_act side).config]
      exact fun sent member ack => (counted sent member ack).imp_left still
    · rw [act_other]
      exact fun ended => still (acknowledged ended)

theorem closes_start {now : Instant} {bound : Option Address} {configs : Side → Config}
    (who : Side) : Closes sockets first (start now sockets bound configs) who := by
  cases who with
  | opener =>
      refine ⟨nofun, ?_, nofun⟩
      intro sent member ack
      change sent ∈ [_] at member
      rw [List.mem_singleton] at member
      subst member
      exact absurd ack (by decide : ¬ Flags.syn.contains .ack)
  | listener => exact ⟨nofun, nofun, nofun⟩

theorem Reaches.shorter (reached : Reaches sockets pair later)
    (bounded : ∀ side, (later side).past.accepted.length + 2 < 0x80000000) (side : Side) :
    (pair side).past.accepted.length + 2 < 0x80000000 := by
  have grown := (reached.continues side).accepted.length_le
  have bounded := bounded side
  omega

theorem Reaches.closes (reached : Reaches sockets first pair) (safe : first.AllSafe sockets)
    (apart : ∀ side, sockets side ≠ sockets side.other)
    (bounded : ∀ side, (pair side).past.accepted.length + 2 < 0x80000000)
    (closes : ∀ side, Closes sockets first first side) (side : Side) :
    Closes sockets first pair side := by
  induction reached generalizing side with
  | refl => exact closes side
  | @step pair mover call reached happens ih =>
      have shorter := (Reaches.step .refl happens).shorter bounded
      exact Closes.act (ih shorter) apart (reached.allSafe safe apart shorter) reached happens
        bounded side

theorem Once.whole (once : Once sockets first pair side TakesFin) (safe : first.AllSafe sockets)
    (apart : ∀ side, sockets side ≠ sockets side.other)
    (bounded : ∀ side, (pair side).past.accepted.length + 2 < 0x80000000) :
    (pair side).past.reported = (pair side.other).past.accepted := by
  obtain ⟨earlier, call, reached, happens, onward, takes⟩ := once
  have reaches := (Reaches.step .refl happens).trans onward
  have shorter := reaches.shorter bounded
  have safeEarlier := reached.allSafe safe apart shorter
  have safeNow := (reached.trans reaches).allSafe safe apart bounded
  obtain ⟨finished, whole⟩ := (safeEarlier side).receives.takesFin
    (happens.fed (apart side) (safeEarlier side)) (shorter side.other)
    (Endpoint.perform_moves (earlier side).endpoint call).hears takes
  have heard := (onward.continues side).reported
  rw [act_self] at heard
  have same := ((reaches.continues side.other).finished finished).2
  apply (safeNow side).receives.held.eq_of_length_le
  rw [same, ← whole]
  exact heard.length_le

theorem Once.acknowledged (once : Once sockets first pair side LeavesLastAck)
    (safe : first.AllSafe sockets) (apart : ∀ side, sockets side ≠ sockets side.other)
    (bounded : ∀ side, (pair side).past.accepted.length + 2 < 0x80000000)
    (closes : ∀ side, Closes sockets first first side) :
    Once sockets first pair side.other TakesFin := by
  obtain ⟨earlier, call, reached, happens, onward, leaves⟩ := once
  have shorterAfter := onward.shorter bounded
  have shorter := (Reaches.step .refl happens).shorter shorterAfter
  have safeEarlier := reached.allSafe safe apart shorter
  have fed := happens.fed (apart side) (safeEarlier side)
  have noRst : ∀ now ip header payload, call = .receive now ip header payload →
      header.flags.contains .rst = false :=
    fun _ _ _ _ called => (fed.labelled _ _ _ _ called).noRst
  have covered := (Endpoint.perform_moves (earlier side).endpoint call).leavesLastAck
    fed.continues fed.noReset noRst leaves
  have taken := happens.covered apart safeEarlier shorterAfter
    (reached.closes safe apart shorter closes side.other) covered
  exact taken.trans (.trans (.step .refl happens) onward)

/-- Whoever has taken the FIN of the other has reported all that the other will ever have accepted;
and whoever knows its own FIN acknowledged, or has ended for that, has been heard to the end. -/
theorem reachable_close_whole {now : Instant} {bound : Option Address} {configs : Side → Config}
    (apart : sockets .opener ≠ sockets .listener)
    (free : bound = none ∨ bound = some (sockets .listener).address)
    (reached : Reaches sockets (start now sockets bound configs) pair)
    (bounded : ∀ side, (pair side).past.accepted.length + 2 < 0x80000000) (side : Side) :
    ((pair side).endpoint.state.peerFinished →
      (pair side).past.reported = (pair side.other).past.accepted ∧
      ∀ later, Reaches sockets pair later →
        (later side.other).past.accepted = (pair side.other).past.accepted) ∧
    ((pair side).endpoint.state.finAcknowledged ∨
        Once sockets (start now sockets bound configs) pair side LeavesLastAck →
      Once sockets (start now sockets bound configs) pair side.other TakesFin ∧
      (pair side.other).past.reported = (pair side).past.accepted) := by
  have distinct : ∀ side, sockets side ≠ sockets side.other := Side.ne_other apart
  have safe : (start now sockets bound configs).AllSafe sockets := allSafe_start free
  refine ⟨?_, ?_⟩
  · intro finished
    have delivers := (reached.allSafe safe distinct bounded side).receives
    obtain ⟨ended, whole⟩ := delivers.whole finished
    refine ⟨whole, ?_⟩
    intro later onward
    exact ((onward.continues side.other).finished ended).2
  · intro known
    have taken : Once sockets (start now sockets bound configs) pair side.other TakesFin := by
      rcases known with acknowledged | leaves
      · exact (reached.closes safe distinct bounded closes_start side).acknowledged acknowledged
      · exact leaves.acknowledged safe distinct bounded closes_start
    have whole := taken.whole safe distinct bounded
    rw [other_other] at whole
    exact ⟨taken, whole⟩

/-- After three octets, the opener has closed its side, and its FIN has been acknowledged. -/
def halfClosed : Pair := ((carried.act .opener (.close 0)).arrive .listener 3).arrive .opener 3

def closing : Pair := (halfClosed.act .listener (.close 0)).arrive .opener 4

def ended : Pair := closing.arrive .listener 4

theorem reaches_halfClosed : Reaches twoSockets begun halfClosed := by
  have closed : Reaches twoSockets begun (carried.act .opener (.close 0)) :=
    .step reaches_carried (.close 0)
  refine .arrive (.arrive closed _ _ ?_) _ _ ?_
  all_goals decide +kernel

theorem reaches_closing : Reaches twoSockets begun closing := by
  have closed : Reaches twoSockets begun (halfClosed.act .listener (.close 0)) :=
    .step reaches_halfClosed (.close 0)
  refine .arrive closed _ _ ?_
  decide +kernel

theorem once_ended : Once twoSockets begun ended .listener LeavesLastAck := by
  have delivered : ∃ segment, (closing .opener).past.segments[4]? = some segment :=
    Option.isSome_iff_exists.mp (by decide +kernel)
  obtain ⟨last, found⟩ := delivered
  have whole : ended = closing.act .listener (.receive 0 last.ip last.header last.payload) := by
    change closing.arrive .listener 4 = _
    rw [arrive, Side.other, found]
  have sent := List.mem_of_getElem? found
  have addressed : ∀ segment ∈ (closing .opener).past.segments,
      segment.ip.destination = (twoSockets .listener).address ∧
        segment.header.destinationPort = (twoSockets .listener).port := by
    decide +kernel
  have state : (ended .listener).endpoint.state = .closed := by decide +kernel
  rw [whole, act_self] at state
  rw [whole]
  exact Happens.once (.deliver 0 sent (addressed last sent).1 (addressed last sent).2)
    reaches_closing ⟨by decide +kernel, state⟩

theorem ended_close_whole :
    (closing .opener).endpoint.state = .timeWait ∧
      (closing .opener).past.reported = (closing .listener).past.accepted ∧
      Once twoSockets begun closing .listener TakesFin ∧
      (closing .listener).past.reported = (closing .opener).past.accepted ∧
      Once twoSockets begun ended .listener LeavesLastAck ∧
      Once twoSockets begun ended .opener TakesFin ∧
      (closing .listener).past.reported = [1, 2, 3] := by
  have bounded : ∀ side, (closing side).past.accepted.length + 2 < 0x80000000 := by
    intro side
    cases side <;> decide +kernel
  have boundedEnded : ∀ side, (ended side).past.accepted.length + 2 < 0x80000000 := by
    intro side
    cases side <;> decide +kernel
  have reaches : Reaches twoSockets begun ended := by
    refine .arrive reaches_closing _ _ ?_
    decide +kernel
  obtain ⟨finished, known⟩ :=
    reachable_close_whole (by decide) (.inl rfl) reaches_closing bounded .opener
  obtain ⟨taken, heard⟩ := known (.inl (by decide +kernel))
  obtain ⟨_, knownToo⟩ :=
    reachable_close_whole (by decide) (.inl rfl) reaches boundedEnded .listener
  exact ⟨by decide +kernel, (finished (by decide +kernel)).1, taken, heard, once_ended,
    (knownToo (.inr once_ended)).1, by decide +kernel⟩

end Pair

end RadioStack.Tcp
