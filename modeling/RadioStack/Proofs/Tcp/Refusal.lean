import RadioStack.Proofs.Tcp.Ending
import RadioStack.Proofs.Tcp.Waiting

/-!
Sends on a connection that takes no more data: the endpoint refuses every chunk, so nothing is
queued or sent, and a send fails with its first chunk. A send without data has no chunk that could
be refused. Main statement: `reachable_send_refused`.
-/

namespace RadioStack.Tcp

namespace Endpoint

variable {endpoint : Endpoint}

theorem refuses_iff_send : endpoint.Refuses ↔
    ∀ now data, endpoint.send now data = .error .connectionClosed := by
  constructor
  · exact fun refuses now data => refuses.send now data
  · intro refused
    have nothing := refused 0 []
    rw [refuses_iff]
    unfold send at nothing
    split at nothing
    · rename_i failure refusal
      cases nothing
      exact refusal
    · cases nothing

theorem Refuses.not_blocks {chunk : Octets} (refuses : endpoint.Refuses) :
    ¬ endpoint.Blocks chunk := by
  rw [Blocks, refuses_iff.mp refuses]
  rintro (⟨⟨⟩⟩ | ⟨⟨⟩, -⟩)

theorem Refuses.sendChunks (refuses : endpoint.Refuses) (now : Instant) (data : Octets) :
    endpoint.sendChunks now (chunks data) =
      ⟨endpoint.idle, if data = [] then .complete else .failed .connectionClosed⟩ := by
  by_cases empty : data = []
  · rw [empty, chunks_nil, if_pos rfl]
    rfl
  · obtain ⟨chunk, rest, parts⟩ := exists_chunk empty
    rw [parts, Endpoint.sendChunks, refuses.send, if_neg empty]

end Endpoint

theorem Course.Explains.refuses_iff {endpoint : Endpoint} {course : Course}
    (explains : course.Explains endpoint)
    (refuses : course.closed → endpoint.Refuses) :
    course.closed ∨ endpoint.state.finished ↔ endpoint.Refuses := by
  constructor
  · rintro (closed | finished)
    · exact refuses closed
    · exact .inr finished
  · rintro (closing | finished)
    · exact .inl (explains.asked closing)
    · exact .inr finished

theorem State.finished_iff {state : State} : state.finished ↔
    state ∈ [.closed, .finWait1, .finWait2, .closing, .lastAck, .timeWait] := by
  cases state <;> decide

namespace Connection

open Endpoint (Refuses)

variable {connection : Connection}

theorem Patient.idle_of_refuses (patient : connection.Patient)
    (refuses : connection.endpoint.Refuses) : connection.waiting = none := by
  rw [Option.eq_none_iff_forall_ne_some]
  intro remaining waiting
  obtain ⟨chunk, rest, -, blocks⟩ := patient remaining waiting
  exact refuses.not_blocks blocks

theorem send_of_refuses (refuses : connection.endpoint.Refuses)
    (idle : connection.waiting = none) (time : Instant) (limit : Option Duration)
    (data : Octets) :
    connection.send time limit data =
      (connection.idle, .finished (if data = [] then .ok () else .error .connectionClosed)) := by
  unfold Connection.send sendWaiting sendAtOnce
  dsimp only
  rw [refuses.sendChunks, idle]
  by_cases empty : data = []
  · rw [if_pos empty, if_pos empty]
    cases limit <;> rfl
  · rw [if_neg empty, if_neg empty]
    cases limit <;> rfl

/-- Whatever has been called on a connection and by its listener in turn: the endpoint refuses to
send exactly if it is closed or has sent its FIN, or the application has closed its side since the
endpoint was last opened. Then every send of data, with or without a limit, fails at once, and
nothing is queued, sent or logged. A send without data succeeds all the same, though the endpoint
refuses to send nothing. -/
theorem reachable_send_refused (address : Option Address) (port : UInt16) (config : Config)
    (listener : Option Listener) (clock : Clock) (acts : List Act) :
    let created := Endpoint.create address port config
    let connection := ({ endpoint := created, listener, clock } : Connection).run acts
    (∃ course, created.Records (fun _ _ => True) Course.enter {} connection.endpoint course) ∧
    ∀ course, created.Records (fun _ _ => True) Course.enter {} connection.endpoint course →
      let ended := course.closed = true ∨ connection.endpoint.state ∈
        [.closed, .finWait1, .finWait2, .closing, .lastAck, .timeWait]
      (ended ↔ ∀ now data, connection.endpoint.send now data = .error .connectionClosed) ∧
      (ended → ∀ data,
        (∀ time limit, connection.send time limit data = (connection.idle,
          .finished (if data = [] then .ok () else .error .connectionClosed))) ∧
        ∀ limited now expired, data ≠ [] →
          (Sender.begin ⟨data, limited⟩).attempt now expired connection.endpoint =
            ⟨connection.endpoint.idle,
              ⟨⟨data, limited⟩, chunks data, some (.error .connectionClosed)⟩, none⟩) := by
  intro created connection
  have patient : connection.Patient := (patient_of_idle rfl).run acts
  have kept (endpoint : Endpoint) (call : Call)
      (known : ∃ course, created.Records (fun _ _ => True) Course.enter {} endpoint course) :
      ∃ course, created.Records (fun _ _ => True) Course.enter {}
        (endpoint.perform call).endpoint course := by
    obtain ⟨course, recorded⟩ := known
    exact ⟨_, .call recorded trivial⟩
  constructor
  · exact run_keeps kept acts ⟨{}, .blank⟩
  · intro course recorded ended
    obtain ⟨explains, closed⟩ := recorded.explains
    have known : ended ↔ connection.endpoint.Refuses := by
      rw [← explains.refuses_iff closed, State.finished_iff]
    refine ⟨known.trans Endpoint.refuses_iff_send, ?_⟩
    intro last data
    have refuses := known.mp last
    refine ⟨fun time limit => send_of_refuses refuses (patient.idle_of_refuses refuses) time limit
      data, ?_⟩
    intro limited now expired nonempty
    obtain ⟨chunk, rest, parts⟩ := exists_chunk nonempty
    have begun : Sender.begin ⟨data, limited⟩ = ⟨⟨data, limited⟩, chunk :: rest, none⟩ := by
      rw [Sender.begin, parts]
      rfl
    rw [begun, parts, Sender.attempt_of_refused (Endpoint.refuses_iff.mp refuses)]

/-- The application has closed its side while three octets are in flight. -/
theorem asking_send_refused :
    let acts : List Act := [.connect 0 .allRouters 2,
      .receive 0 { nextHeader := .tcp, source := .allRouters, destination := .allNodes }
        { sourcePort := 2, destinationPort := 1, sequence := 7, acknowledgment := 1
          flags := .syn ||| .ack, window := 128 } [],
      .send 0 none [1, 2, 3], .close 0]
    let connection :=
      ({ endpoint := .create (some .allNodes) 1 {}, listener := none } : Connection).run acts
    connection.endpoint.state = .established ∧
      (∀ now data, connection.endpoint.send now data = .error .connectionClosed) ∧
      connection.send 5 (some 20) [4] =
        (connection.idle, .finished (.error .connectionClosed)) := by
  intro acts connection
  have parts : chunks [1, 2, 3] = [[1, 2, 3]] :=
    chunks_of_short (List.cons_ne_nil _ _) (by decide)
  have same : connection.endpoint = Endpoint.asking := by
    unfold connection acts run
    simp only [List.foldl_cons, List.foldl_nil, act, Connection.send]
    unfold sendWaiting
    rw [parts]
    rfl
  obtain ⟨-, known⟩ := reachable_send_refused (some .allNodes) 1 {} none .running acts
  obtain ⟨refuses, fails⟩ := known { stream := [1, 2, 3], closed := true }
    (same ▸ Endpoint.records_asking)
  refine ⟨by rw [same]; decide, refuses.mp (.inl rfl), ?_⟩
  exact (fails (.inl rfl) [4]).1 5 (some 20)

/-- A connection that has never been opened takes a send without data. -/
theorem unopened_send_not_refused :
    let connection : Connection := { endpoint := .create (some .allNodes) 1 {} }
    connection.endpoint.state = .closed ∧
      connection.endpoint.send 0 [] = .error .connectionClosed ∧
      connection.send 0 none [] = (connection.idle, .finished (.ok ())) ∧
      (connection.send 0 none []).2 ≠ .finished (.error .connectionClosed) := by
  intro connection
  have taken : connection.send 0 none [] = (connection.idle, .finished (.ok ())) := by
    unfold Connection.send sendWaiting
    rw [chunks_nil]
    rfl
  refine ⟨rfl, rfl, taken, ?_⟩
  rw [taken]
  rintro ⟨⟩

end Connection

end RadioStack.Tcp
