import RadioStack.Proofs.Tcp.Contention
import RadioStack.Proofs.Tcp.Passage

/-!
Sends that wait for room. Only some calls wake them up, and no other call makes room for a chunk for
which there is none: neither opening the endpoint nor handing over other chunks does. So a send that
waits has nothing to do before it is woken up. Main statement: `run_loses_no_wakeup`.
-/

namespace RadioStack.Tcp

/-- A call after which the sends that wait are woken up, as `act_resumes` has it. -/
def Call.wakes : Call → Bool
  | .connect .. | .listen | .send .. => false
  | .close _ | .reset _ | .tick _ | .receive .. => true

def Contention.Event.wakes : Contention.Event → Bool
  | .attempt .. => false
  | .call made => made.wakes

/-- The call that an act makes. A send makes it for each chunk of its data. -/
def Act.call (clock : Clock) : Act → Call
  | .connect time address port => .connect (clock.read time) address port
  | .listen => .listen
  | .send time _ data => .send (clock.read time) data
  | .close time => .close (clock.read time)
  | .reset time => .reset (clock.read time)
  | .tick time => .tick (clock.read time)
  | .receive time ip header payload => .receive (clock.read time) ip header payload

def Effect.resumed? : Effect → Option (Except Failure Unit)
  | .resumed result => some result
  | _ => none

namespace Endpoint

/-- A chunk has to wait: for the end of the handshake, or for room. -/
def Blocks (chunk : Octets) (endpoint : Endpoint) : Prop :=
  endpoint.refusal? = some .bufferFull ∨
    endpoint.refusal? = none ∧ endpoint.ring.free < chunk.length

variable {endpoint : Endpoint} {now : Instant} {chunk data : Octets} {turn : Turn} {call : Call}

theorem send_eq_bufferFull_iff :
    endpoint.send now chunk = .error .bufferFull ↔ endpoint.Blocks chunk := by
  unfold send Blocks
  cases refusal : endpoint.refusal? with
  | some failure => simp
  | none =>
      by_cases room : chunk.length ≤ endpoint.ring.free
      · simp only [SendRing.enqueue?, room, if_true, reduceCtorEq, false_or, true_and,
          Nat.not_lt.mpr room, iff_false]
        split <;> rintro ⟨⟩
      · have nonempty : chunk.isEmpty = false := by
          cases chunk with
          | nil => exact absurd (Nat.zero_le _) room
          | cons => rfl
        simp [SendRing.enqueue?, room, nonempty, Nat.not_le.mp room]

theorem room_send (sent : endpoint.send now data = .ok turn) :
    turn.endpoint.refusal? = endpoint.refusal? ∧
      turn.endpoint.ring.free ≤ endpoint.ring.free := by
  unfold send at sent
  split at sent
  · cases sent
  · split at sent
    · cases sent
      exact ⟨rfl, Nat.le_refl _⟩
    · split at sent
      · cases sent
      · rename_i ring enqueued
        have grown := congrArg List.length (SendRing.toList_enqueue? enqueued)
        rw [List.length_append, SendRing.length_toList, SendRing.length_toList] at grown
        have less : ring.free ≤ endpoint.ring.free := Nat.sub_le_sub_left (by omega) _
        cases sent
        refine ⟨transmit_keeps _ refusal? (fun _ _ => rfl) .., ?_⟩
        rw [transmit_keeps _ (fun endpoint => endpoint.ring.free) fun _ _ => rfl]
        exact less

theorem Blocks.running (blocks : endpoint.Blocks chunk) : endpoint.state ≠ .closed := by
  intro closed
  rw [Blocks, refusal_of_closed closed] at blocks
  rcases blocks with ⟨⟨⟩⟩ | ⟨⟨⟩, -⟩

theorem Blocks.send (blocks : endpoint.Blocks chunk) (sent : endpoint.send now data = .ok turn) :
    turn.endpoint.Blocks chunk := by
  obtain ⟨refusal, room⟩ := room_send sent
  rw [Blocks, refusal]
  exact blocks.imp_right fun ⟨ready, full⟩ => ⟨ready, Nat.lt_of_le_of_lt room full⟩

theorem Blocks.perform (blocks : endpoint.Blocks chunk) (silent : call.wakes = false) :
    (endpoint.perform call).endpoint.Blocks chunk := by
  cases call with
  | connect now address port =>
      rw [Endpoint.perform, connect, if_pos blocks.running]
      exact blocks
  | listen =>
      rw [Endpoint.perform, listen, if_pos blocks.running]
      exact blocks
  | send now data =>
      rw [Endpoint.perform]
      cases sent : endpoint.send now data with
      | ok turn => exact blocks.send sent
      | error failure => exact blocks
  | close | reset | tick | receive => cases silent

theorem sendChunks_of_blocks (blocks : endpoint.Blocks chunk) (now : Instant)
    (rest : List Octets) :
    endpoint.sendChunks now (chunk :: rest) = ⟨endpoint.idle, .blocked (chunk :: rest)⟩ := by
  rw [sendChunks, send_eq_bufferFull_iff.mpr blocks]

theorem blocks_of_blocked {parts remaining : List Octets}
    (blocked : (endpoint.sendChunks now parts).progress = .blocked remaining) :
    ∃ chunk rest, remaining = chunk :: rest ∧
      (endpoint.sendChunks now parts).endpoint.Blocks chunk := by
  induction parts generalizing endpoint with
  | nil => cases blocked
  | cons part parts ih =>
      unfold sendChunks at blocked ⊢
      cases sent : endpoint.send now part with
      | ok turn =>
          rw [sent] at blocked
          exact ih blocked
      | error failure =>
          rw [sent] at blocked
          cases failure with
          | bufferFull =>
              cases blocked
              exact ⟨part, parts, rfl, send_eq_bufferFull_iff.mp sent⟩
          | connectionClosed | unexpectedAck | timedOut | invalidState | unaddressable =>
              cases blocked

end Endpoint

namespace Connection

open Endpoint (blocks_of_blocked sendChunks_of_blocks)

variable {connection before after : Connection}

@[simp] theorem resumed_adopt (connection : Connection) (turn : Turn) :
    (connection.adopt turn).effects.filterMap Effect.resumed? = [] := by
  rw [adopt, List.filterMap_map]
  exact List.filterMap_eq_nil_iff.mpr fun _ _ => rfl

theorem sendAtOnce_keeps (now : Instant) (data : Octets) (connection : Connection) :
    let passage := (connection.sendAtOnce now data).1
    passage.effects.filterMap Effect.resumed? = [] ∧
      passage.connection.waiting = connection.waiting := by
  intro passage
  dsimp only [passage, sendAtOnce]
  split
  · exact ⟨resumed_adopt .., rfl⟩
  · exact ⟨resumed_adopt .., rfl⟩
  · refine ⟨?_, rfl⟩
    rw [Passage.andThen, List.filterMap_append, resumed_adopt, resumed_adopt]
    rfl

theorem sendWaiting_keeps (now : Instant) (data : Octets) (connection : Connection) :
    let passage := (connection.sendWaiting now data).1
    passage.effects.filterMap Effect.resumed? = [] ∧
      ∀ remaining, connection.waiting = some remaining →
        passage.connection.waiting = some remaining := by
  intro passage
  dsimp only [passage, sendWaiting]
  split
  · exact ⟨rfl, fun _ => id⟩
  · rename_i free
    have nothing : connection.waiting = none := Option.not_isSome_iff_eq_none.mp free
    rw [nothing]
    split
    · exact ⟨resumed_adopt .., nofun⟩
    · exact ⟨resumed_adopt .., nofun⟩
    · refine ⟨?_, nofun⟩
      rw [Passage.andThen, List.filterMap_append, resumed_adopt]
      rfl

/-- The acts that wake up a send that waits are those whose calls are said to. All others leave it
as it is. -/
theorem act_resumes (connection : Connection) (act : Act) :
    let call := act.call connection.clock
    let passage := connection.act act
    (call.wakes → ∃ now, passage =
      connection.conclude now (connection.endpoint.perform call).toTurn (connection.reported act)) ∧
    (call.wakes = false → passage.effects.filterMap Effect.resumed? = [] ∧
      ∀ remaining, connection.waiting = some remaining →
        passage.connection.waiting = some remaining) := by
  intro call passage
  cases act with
  | close | reset | tick | receive => exact ⟨fun _ => ⟨_, rfl⟩, nofun⟩
  | connect time address port =>
      refine ⟨nofun, fun _ => ?_⟩
      dsimp only [passage, Connection.act, Connection.connect]
      split
      · exact ⟨resumed_adopt .., fun _ => id⟩
      · exact ⟨rfl, fun _ => id⟩
  | listen =>
      refine ⟨nofun, fun _ => ?_⟩
      dsimp only [passage, Connection.act, Connection.listen]
      split
      · exact ⟨resumed_adopt .., fun _ => id⟩
      · exact ⟨rfl, fun _ => id⟩
  | send time limit data =>
      refine ⟨nofun, fun _ => ?_⟩
      dsimp only [passage, Connection.act, Connection.send]
      cases limit with
      | none => exact sendWaiting_keeps (connection.clock.read time) data connection
      | some limit =>
          obtain ⟨silent, same⟩ := sendAtOnce_keeps (connection.clock.read time) data connection
          exact ⟨silent, fun _ => same.trans⟩

def Patient (connection : Connection) : Prop :=
  ∀ remaining, connection.waiting = some remaining →
    ∃ chunk rest, remaining = chunk :: rest ∧ connection.endpoint.Blocks chunk

theorem Patient.resume (patient : connection.Patient) (now : Instant) :
    connection.resume now = connection.idle := by
  unfold Connection.resume
  split
  · rfl
  · rename_i remaining waiting
    obtain ⟨chunk, rest, rfl, blocks⟩ := patient remaining waiting
    rw [sendChunks_of_blocks blocks]
    obtain ⟨endpoint, listener, clock, _⟩ := connection
    cases waiting
    rfl

theorem Patient.congr (patient : before.Patient) (same : after.waiting = before.waiting)
    (kept : ∀ chunk, before.endpoint.Blocks chunk → after.endpoint.Blocks chunk) :
    after.Patient := by
  intro remaining waiting
  rw [same] at waiting
  obtain ⟨chunk, rest, parts, blocks⟩ := patient remaining waiting
  exact ⟨chunk, rest, parts, kept chunk blocks⟩

theorem patient_resume (now : Instant) (connection : Connection) :
    (connection.resume now).connection.Patient := by
  unfold Connection.resume
  split
  · rename_i free
    intro remaining waiting
    cases free.symm.trans waiting
  · dsimp only
    split
    · rename_i left blocked
      intro remaining waiting
      cases waiting
      exact blocks_of_blocked blocked
    · rintro _ ⟨⟩
    · rintro _ ⟨⟩

theorem Patient.sendAtOnce (patient : connection.Patient) (now : Instant) (data : Octets) :
    (connection.sendAtOnce now data).1.connection.Patient := by
  have kept (chunk : Octets) (blocks : connection.endpoint.Blocks chunk) :
      (connection.endpoint.sendChunks now (chunks data)).endpoint.Blocks chunk :=
    keeps_sendChunks (fun _ _ blocks => blocks.perform rfl) (chunks data) blocks
  unfold Connection.sendAtOnce
  dsimp only
  split <;> exact patient.congr rfl kept

theorem Patient.sendWaiting (patient : connection.Patient) (now : Instant) (data : Octets) :
    (connection.sendWaiting now data).1.connection.Patient := by
  unfold Connection.sendWaiting
  split
  · exact patient
  · rename_i free
    have nothing : connection.waiting = none := Option.not_isSome_iff_eq_none.mp free
    dsimp only
    split
    · intro remaining waiting
      cases nothing.symm.trans waiting
    · intro remaining waiting
      cases nothing.symm.trans waiting
    · rename_i left blocked
      intro remaining waiting
      cases waiting
      exact blocks_of_blocked blocked

theorem Patient.act (patient : connection.Patient) (act : Act) :
    (connection.act act).connection.Patient := by
  cases act with
  | connect time address port =>
      change (connection.connect time address port).1.connection.Patient
      rw [connection_connect]
      exact patient.congr rfl fun _ blocks => blocks.perform rfl
  | listen =>
      change connection.listen.1.connection.Patient
      rw [connection_listen]
      exact patient.congr rfl fun _ blocks => blocks.perform rfl
  | send time limit data =>
      cases limit with
      | none => exact patient.sendWaiting _ data
      | some limit => exact patient.sendAtOnce _ data
  | close | reset | tick | receive => exact patient_resume _ _

theorem Patient.run (patient : connection.Patient) (acts : List Act) :
    (connection.run acts).Patient := by
  induction acts generalizing connection with
  | nil => exact patient
  | cons act acts ih => exact ih (patient.act act)

theorem patient_of_idle (idle : connection.waiting = none) : connection.Patient := by
  intro remaining waiting
  cases idle.symm.trans waiting

end Connection

theorem Sender.Tries.blocks {now : Instant} {endpoint : Endpoint} {sender : Sender}
    {attempt : Attempt} {chunk : Octets} (tries : sender.Tries now endpoint attempt)
    (blocks : endpoint.Blocks chunk) : attempt.endpoint.Blocks chunk := by
  cases tries with
  | hand _ _ sent => exact blocks.send sent
  | keep same => exact same ▸ blocks
  | fail _ _ same => exact same ▸ blocks

theorem Contention.blocks_step {contention : Contention} {event : Event} {chunk : Octets}
    (blocks : contention.endpoint.Blocks chunk) (silent : event.wakes = false) :
    (contention.step event).endpoint.Blocks chunk := by
  cases event with
  | call call => exact blocks.perform silent
  | attempt number now expired =>
      rw [step]
      split
      · exact blocks
      · rename_i sender _
        exact (sender.attempt_tries now expired contention.endpoint).blocks blocks

theorem Contention.blocks_run {contention : Contention} {events : List Event} {chunk : Octets}
    (blocks : contention.endpoint.Blocks chunk) (silent : ∀ event ∈ events, event.wakes = false) :
    (contention.run events).endpoint.Blocks chunk := by
  induction events generalizing contention with
  | nil => exact blocks
  | cons event events ih =>
      rw [List.forall_mem_cons] at silent
      exact ih (contention.blocks_step blocks silent.1) silent.2

namespace Connection

/-- Between the acts on a connection, whatever its endpoint is at first and whatever its listener
asks of it, waking up the send that waits would do nothing. A chunk for which there is no room, be
it of this send or of another one, has to wait after every call that wakes nobody up, and also after
any number of attempts of any sends, until a call comes that wakes them up. -/
theorem run_loses_no_wakeup {start : Connection} (idle : start.waiting = none) (acts : List Act) :
    let connection := start.run acts
    (∀ now, connection.resume now = connection.idle) ∧
    ∀ chunk now, connection.endpoint.send now chunk = .error .bufferFull →
      (∀ call : Call, call.wakes = false → ∀ later,
        (connection.endpoint.perform call).endpoint.send later chunk = .error .bufferFull) ∧
      ∀ (contention : Contention) events later, contention.endpoint = connection.endpoint →
        (contention.run events).endpoint.send later chunk ≠ .error .bufferFull →
        ∃ event ∈ events, event.wakes := by
  intro connection
  have patient : connection.Patient := (patient_of_idle idle).run acts
  refine ⟨patient.resume, ?_⟩
  intro chunk now full
  have blocks := Endpoint.send_eq_bufferFull_iff.mp full
  constructor
  · intro call silent later
    exact Endpoint.send_eq_bufferFull_iff.mpr (blocks.perform silent)
  · intro contention events later same goes
    cases woken : events.any Contention.Event.wakes with
    | true => exact List.any_eq_true.mp woken
    | false =>
        rw [List.any_eq_false] at woken
        have still : (contention.run events).endpoint.Blocks chunk :=
          contention.blocks_run (same ▸ blocks) fun event member =>
            eq_false_of_ne_true (woken event member)
        exact absurd (Endpoint.send_eq_bufferFull_iff.mpr still) goes

/-- The ring holds three octets, so a send of 126 octets waits until they have been acknowledged. -/
theorem crowded_loses_no_wakeup :
    let data : Octets := .replicate 126 0
    let connection := ({ endpoint := Endpoint.sending } : Connection).run [.send 0 none data]
    let events : List Contention.Event :=
      [.call (.send 0 [4]), .call (Endpoint.arriving 8 5 .ack [])]
    connection.waiting = some [data] ∧ connection.resume 5 = connection.idle ∧
      (connection.endpoint.perform (.send 0 [4])).endpoint.send 0 data = .error .bufferFull ∧
      ∃ event ∈ events, event.wakes := by
  intro data connection events
  have length : data.length = 126 := List.length_replicate
  have whole : chunks data = [data] :=
    chunks_of_short (List.ne_nil_of_length_eq_add_one length) (by rw [length]; decide)
  have blocks : Endpoint.sending.Blocks data := .inr ⟨rfl, by rw [length]; decide⟩
  have kept : connection = { endpoint := Endpoint.sending, waiting := some [data] } := by
    unfold connection run
    simp only [List.foldl_cons, List.foldl_nil, act, Connection.send, sendWaiting, whole,
      Endpoint.sendChunks_of_blocks blocks]
    rfl
  obtain ⟨rests, waits⟩ :=
    run_loses_no_wakeup (rfl : ({ endpoint := Endpoint.sending } : Connection).waiting = none)
      [.send 0 none data]
  have full : connection.endpoint.send 0 data = .error .bufferFull := by
    rw [kept]
    exact Endpoint.send_eq_bufferFull_iff.mpr blocks
  have room : ¬ (Contention.run ⟨connection.endpoint, [], []⟩ events).endpoint.Blocks data := by
    rw [kept, Endpoint.Blocks, length]
    decide
  obtain ⟨calls, wakes⟩ := waits data 0 full
  refine ⟨by rw [kept], rests 5, calls (.send 0 [4]) rfl 0, wakes ⟨_, [], []⟩ events 0 rfl ?_⟩
  exact fun still => room (Endpoint.send_eq_bufferFull_iff.mp still)

end Connection

end RadioStack.Tcp
