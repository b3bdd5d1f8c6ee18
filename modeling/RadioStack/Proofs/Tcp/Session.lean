import RadioStack.Proofs.Tcp.Handshake
import RadioStack.Proofs.Tcp.Passage

/-!
What a listener hears of each connection, from the act that opens it: that it is connected, when the
endpoint first becomes synchronized; then the data as it is reported; then that it is closed, when
the endpoint becomes closed. Main statement: `run_told_in_order`.
-/

namespace RadioStack.Tcp

structure Session where
  effects : List Effect := []
  reported : List Octets := []

namespace Session

def told (session : Session) : List Notification :=
  session.effects.filterMap Effect.notification?

def entered (session : Session) : List State := session.effects.filterMap Effect.entered?

def synchronized (session : Session) : Bool := session.entered.any State.isSynchronized

def ended (session : Session) : Bool := session.entered.contains .closed

def enter (connection : Connection) (act : Act) (session : Session) : Session where
  effects := session.effects ++ (connection.act act).effects
  reported := session.reported ++ (connection.reported act).toList

def script (session : Session) : List Notification :=
  (if session.synchronized then [.connected] else []) ++ session.reported.map .data ++
    (if session.ended then [.closed] else [])

structure Told (session : Session) : Prop where
  told : session.told = session.script
  text : session.reported ≠ [] → session.synchronized

structure Reflects (session : Session) (state : State) : Prop extends session.Told where
  ended : session.ended = true ↔ state = .closed
  synchronized : state ≠ .closed → (session.synchronized = true ↔ state.isSynchronized)

end Session

namespace Connection

/-- The sessions of a sequence of acts: the one under way, and one more for each act that opens
another connection. -/
def sessions (current : Session) (connection : Connection) : List Act → List Session
  | [] => [current]
  | act :: acts =>
    let after := (connection.act act).connection
    if connection.opens act then
      current :: sessions (({} : Session).enter connection act) after acts
    else sessions (current.enter connection act) after acts

end Connection

theorem Connection.TellsOf.idles {connection : Connection} {act : Act}
    (tells : connection.TellsOf act) (closes : connection.opens act = false)
    (closed : connection.endpoint.state = .closed) :
    (connection.act act).connection.endpoint.state = .closed ∧
      connection.reported act = none ∧ (connection.act act).told = [] := by
  obtain ⟨_, still⟩ := (tells.continued closes).stays closed
  have unreported : connection.reported act = none := by
    rw [← Option.not_isSome_iff_eq_none]
    intro reports
    have text := tells.text reports
    rw [still] at text
    cases text
  refine ⟨still, unreported, ?_⟩
  rw [tells.told, unreported, closed, still, notifications_still]

namespace Session

variable {session : Session} {connection : Connection} {act : Act}

theorem told_enter : (session.enter connection act).told =
    session.told ++ (connection.act act).told := by
  simp [told, enter, Passage.told]

theorem entered_enter : (session.enter connection act).entered =
    session.entered ++ (connection.act act).entered := by
  simp [entered, enter, Passage.entered]

theorem synchronized_enter : (session.enter connection act).synchronized =
    (session.synchronized || (connection.act act).entered.any State.isSynchronized) := by
  rw [synchronized, entered_enter, List.any_append]
  rfl

theorem ended_enter : (session.enter connection act).ended =
    (session.ended || (connection.act act).entered.contains .closed) := by
  rw [ended, entered_enter, List.contains_append]
  rfl

theorem Reflects.enter_closed (reflects : session.Reflects connection.endpoint.state)
    (tells : connection.TellsOf act) (closes : connection.opens act = false)
    (closed : connection.endpoint.state = .closed) :
    (session.enter connection act).Reflects (connection.act act).connection.endpoint.state := by
  obtain ⟨nothing, _⟩ := (tells.continued closes).stays closed
  obtain ⟨still, unreported, silent⟩ := tells.idles closes closed
  have synchronized : (session.enter connection act).synchronized = session.synchronized := by
    rw [synchronized_enter, nothing]
    exact Bool.or_false _
  have ended : (session.enter connection act).ended = session.ended := by
    rw [ended_enter, nothing]
    exact Bool.or_false _
  have reported : (session.enter connection act).reported = session.reported := by
    rw [Session.enter, unreported]
    exact List.append_nil _
  refine ⟨⟨?_, ?_⟩, ?_, ?_⟩
  · rw [told_enter, silent, List.append_nil, reflects.told, script, script, synchronized, ended,
      reported]
  · rw [reported, synchronized]
    exact reflects.text
  · rw [ended, reflects.ended]
    exact iff_of_true closed still
  · exact fun running => absurd still running

theorem Reflects.flags (reflects : session.Reflects connection.endpoint.state)
    (tells : connection.TellsOf act)
    (closes : connection.opens act = false) (running : connection.endpoint.state ≠ .closed) :
    (session.enter connection act).synchronized = (session.synchronized ||
      (connection.act act).connection.endpoint.state.isSynchronized) ∧
    (session.enter connection act).ended =
      decide ((connection.act act).connection.endpoint.state = .closed) := by
  have enters := tells.continued closes
  constructor
  · rw [synchronized_enter]
    cases already : session.synchronized with
    | true => rfl
    | false =>
        have opening : connection.endpoint.state.isSynchronized = false := by
          rw [← Bool.not_eq_true, ← reflects.synchronized running, already]
          decide
        rw [Bool.false_or, Bool.false_or, Bool.eq_iff_iff, List.any_eq_true]
        exact enters.begins opening
  · have continuing : session.ended = false := by
      rw [← Bool.not_eq_true, reflects.ended]
      exact running
    rw [ended_enter, continuing, Bool.false_or, Bool.eq_iff_iff, List.contains_iff_mem,
      decide_eq_true_iff]
    exact enters.ends running

theorem Reflects.enter_running (reflects : session.Reflects connection.endpoint.state)
    (tells : connection.TellsOf act) (closes : connection.opens act = false)
    (running : connection.endpoint.state ≠ .closed) :
    (session.enter connection act).Reflects (connection.act act).connection.endpoint.state := by
  obtain ⟨synchronized, ended⟩ := reflects.flags tells closes running
  have continuing : session.ended = false := by
    rw [← Bool.not_eq_true, reflects.ended]
    exact running
  have reported : (session.enter connection act).reported =
    session.reported ++ (connection.reported act).toList := rfl
  have same : connection.endpoint.state.isSynchronized = session.synchronized := by
    rw [Bool.eq_iff_iff, reflects.synchronized running]
  refine ⟨⟨?_, ?_⟩, ?_, ?_⟩
  · rw [told_enter, tells.told, reflects.told, script, script, synchronized, ended, reported,
      notifications, same, continuing, List.map_append]
    cases already : session.synchronized with
    | true => simp [running]
    | false =>
        -- Nothing has been reported before the session is synchronized.
        have unreported : session.reported = [] := by
          apply Decidable.byContradiction
          intro reports
          have text := reflects.text reports
          rw [already] at text
          cases text
        simp [unreported, running]
  · intro reports
    rw [synchronized, Bool.or_eq_true]
    by_cases early : session.reported = []
    · refine .inr (tells.text ?_)
      rw [reported, early, List.nil_append, ne_eq, Option.toList_eq_nil_iff] at reports
      exact Option.isSome_iff_ne_none.mpr reports
    · exact .inl (reflects.text early)
  · rw [ended, decide_eq_true_iff]
  · intro alive
    rw [synchronized, Bool.or_eq_true, ← same]
    refine ⟨?_, .inr⟩
    rintro (early | late)
    · exact ((tells.continued closes).keeps early).resolve_right alive
    · exact late

theorem Reflects.enter (reflects : session.Reflects connection.endpoint.state)
    (tells : connection.TellsOf act) (closes : connection.opens act = false) :
    (session.enter connection act).Reflects (connection.act act).connection.endpoint.state := by
  by_cases closed : connection.endpoint.state = .closed
  · exact reflects.enter_closed tells closes closed
  · exact reflects.enter_running tells closes closed

theorem reflects_opened (tells : connection.TellsOf act) (opens : connection.opens act) :
    (({} : Session).enter connection act).Reflects
      (connection.act act).connection.endpoint.state := by
  obtain ⟨closed, running, opening, entered⟩ := tells.opened opens
  have unreported : connection.reported act = none := by
    rw [← Option.not_isSome_iff_eq_none]
    intro reports
    rw [tells.text reports] at opening
    cases opening
  have silent : (connection.act act).told = [] := by
    rw [tells.told, unreported, closed, notifications, opening]
    rfl
  have synchronized : (({} : Session).enter connection act).synchronized = false := by
    rw [synchronized_enter, entered, List.any_cons, opening]
    rfl
  have continuing : (({} : Session).enter connection act).ended = false := by
    rw [ended_enter, entered]
    simpa [ended, Session.entered] using Ne.symm running
  have reported : (({} : Session).enter connection act).reported = [] := by
    rw [Session.enter, unreported]
    rfl
  refine ⟨⟨?_, ?_⟩, ?_, ?_⟩
  · rw [told_enter, silent, script, synchronized, continuing, reported]
    rfl
  · exact fun reports => absurd reported reports
  · rw [continuing]
    exact iff_of_false (by decide) running
  · intro _
    rw [synchronized, opening]

end Session

namespace Connection

variable {connection : Connection} {current : Session}

theorem TellsOf.passive {act : Act} (tells : connection.TellsOf act)
    (passive : connection.Passive) : (connection.act act).connection.Passive := by
  obtain ⟨listener, present, quiet⟩ := passive
  exact ⟨listener, tells.listener.trans present, quiet⟩

theorem run_passive (passive : connection.Passive) (acts : List Act) :
    (connection.run acts).Passive := by
  induction acts generalizing connection with
  | nil => exact passive
  | cons act acts ih => exact ih ((act_tellsOf passive act).passive passive)

theorem sessions_ne_nil (current : Session) (connection : Connection) (acts : List Act) :
    connection.sessions current acts ≠ [] := by
  induction acts generalizing current connection with
  | nil => exact nofun
  | cons act acts ih =>
      rw [sessions]
      split
      · exact nofun
      · exact ih _ _

/-- Every session is told as it is to be, and ends before the next one begins. -/
theorem sessions_told (passive : connection.Passive)
    (reflects : current.Reflects connection.endpoint.state) (acts : List Act) :
    (∀ session ∈ connection.sessions current acts, session.Told) ∧
      ∀ session ∈ (connection.sessions current acts).dropLast, session.ended := by
  induction acts generalizing connection current with
  | nil =>
      refine ⟨?_, nofun⟩
      intro session member
      rw [List.mem_singleton.mp member]
      exact reflects.toTold
  | cons act acts ih =>
      have tells := act_tellsOf passive act
      have onward := tells.passive passive
      rw [sessions]
      split
      · rename_i opens
        obtain ⟨told, ended⟩ := ih onward (Session.reflects_opened tells opens)
        constructor
        · intro session member
          rcases List.mem_cons.mp member with rfl | member
          · exact reflects.toTold
          · exact told session member
        · intro session member
          rw [List.dropLast_cons_of_ne_nil (sessions_ne_nil _ _ _)] at member
          rcases List.mem_cons.mp member with rfl | member
          · exact reflects.ended.mpr (tells.opened opens).1
          · exact ended session member
      · rename_i closes
        rw [Bool.not_eq_true] at closes
        exact ih onward (reflects.enter tells closes)

theorem sessions_idle (passive : connection.Passive)
    (closed : connection.endpoint.state = .closed) (silent : current.told = [])
    (nothing : current.reported = []) (acts : List Act) :
    ∃ idle sessions, connection.sessions current acts = idle :: sessions ∧
      (idle.told = [] ∧ idle.reported = []) ∧ (∀ session ∈ sessions, session.Told) ∧
      ∀ session ∈ sessions.dropLast, session.ended := by
  induction acts generalizing connection current with
  | nil => exact ⟨current, [], rfl, ⟨silent, nothing⟩, nofun, nofun⟩
  | cons act acts ih =>
      have tells := act_tellsOf passive act
      have onward := tells.passive passive
      rw [sessions]
      split
      · rename_i opens
        exact ⟨current, _, rfl, ⟨silent, nothing⟩,
          sessions_told onward (Session.reflects_opened tells opens) acts⟩
      · rename_i closes
        rw [Bool.not_eq_true] at closes
        obtain ⟨still, unreported, quiet⟩ := tells.idles closes closed
        refine ih onward still ?_ ?_
        · rw [Session.told_enter, silent, quiet]
          rfl
        · rw [Session.enter, nothing, unreported]
          rfl

/-- A listener is told of the state that an act leads to, and nothing that was entered on the way is
left out. -/
theorem TellsOf.told_iff {act : Act} (tells : connection.TellsOf act) :
    let passage := connection.act act
    let before := connection.endpoint.state
    let after := passage.connection.endpoint.state
    ((.connected ∈ passage.told ↔ before.isSynchronized = false ∧ after.isSynchronized) ∧
      (before.isSynchronized = false →
        (after.isSynchronized ↔ ∃ state ∈ passage.entered, state.isSynchronized))) ∧
    ((.closed ∈ passage.told ↔ before ≠ .closed ∧ after = .closed) ∧
      (.closed ∈ passage.entered ↔ before ≠ .closed ∧ after = .closed)) := by
  intro passage before after
  have told : passage.told = notifications before after (connection.reported act) := tells.told
  refine ⟨⟨by rw [told]; simp [notifications], ?_⟩, by rw [told]; simp [notifications], ?_⟩
  · intro opening
    cases opens : connection.opens act with
    | true =>
        obtain ⟨_, _, _, entered⟩ := tells.opened opens
        have alone : passage.entered = [after] := entered
        simp [alone]
    | false => exact ((tells.continued opens).begins opening).symm
  · cases opens : connection.opens act with
    | true =>
        obtain ⟨_, running, _, entered⟩ := tells.opened opens
        have alone : passage.entered = [after] := entered
        rw [alone, List.mem_singleton]
        exact iff_of_false (Ne.symm running) fun ended => running ended.2
    | false =>
        have enters := tells.continued opens
        by_cases already : before = .closed
        · simp [already, passage, (enters.stays already).1]
        · exact (enters.ends already).trans (and_iff_right already).symm

/-- Whatever is done to a connection whose listener asks nothing, the listener hears of each session
that it is connected, if it becomes synchronized; then the data that the endpoint reports; then that
it is closed, once it is; each of them in the act in which it happens. -/
theorem run_told_in_order {address : Option Address} {port : UInt16} {config : Config}
    {clock : Clock} {listener : Listener}
    (quiet : ∀ notification, listener.react notification = []) (acts : List Act) :
    let fresh : Connection :=
      { endpoint := .create address port config, listener := some listener, clock }
    (∃ idle sessions, fresh.sessions {} acts = idle :: sessions ∧
      (idle.told = [] ∧ idle.reported = []) ∧
      (∀ session ∈ sessions,
        session.told = (if session.synchronized then [.connected] else []) ++
          session.reported.map .data ++ (if session.ended then [.closed] else []) ∧
        (session.reported ≠ [] → session.synchronized)) ∧
      ∀ session ∈ sessions.dropLast, session.ended) ∧
    ∀ early act late, acts = early ++ act :: late →
      let passage := (fresh.run early).act act
      let before := (fresh.run early).endpoint.state
      let after := passage.connection.endpoint.state
      ((.connected ∈ passage.told ↔ before.isSynchronized = false ∧ after.isSynchronized) ∧
        (before.isSynchronized = false →
          (after.isSynchronized ↔ ∃ state ∈ passage.entered, state.isSynchronized))) ∧
      ((.closed ∈ passage.told ↔ before ≠ .closed ∧ after = .closed) ∧
        (.closed ∈ passage.entered ↔ before ≠ .closed ∧ after = .closed)) := by
  intro fresh
  have passive : fresh.Passive := ⟨listener, rfl, quiet⟩
  obtain ⟨idle, sessions, parted, nothing, told, ended⟩ :=
    @sessions_idle fresh {} passive rfl rfl rfl acts
  refine ⟨⟨idle, sessions, parted, nothing, ?_, ended⟩, ?_⟩
  · intro session member
    exact ⟨(told session member).told, (told session member).text⟩
  · intro early act _ _
    exact (act_tellsOf (run_passive passive early) act).told_iff

/-- A peer connects, sends three octets and closes. So does the listener, and listens again until it
is reset. -/
def visit : List Act :=
  let ip : Ip.Header := { nextHeader := .tcp, source := .allRouters, destination := .allNodes }
  let header : Header :=
    { sourcePort := 2, destinationPort := 1, sequence := 7, acknowledgment := 0, flags := .syn
      window := 128 }
  [.listen, .receive 0 ip header [],
    .receive 0 ip { header with sequence := 8, acknowledgment := 1, flags := .ack } [1, 2, 3],
    .receive 0 ip { header with sequence := 11, acknowledgment := 1, flags := .fin ||| .ack } [],
    .close 0,
    .receive 0 ip { header with sequence := 12, acknowledgment := 2, flags := .ack } [],
    .listen, .reset 0]

theorem visit_told_in_order :
    let listener : Listener := ⟨fun _ => []⟩
    let fresh : Connection := { endpoint := .create none 1 {}, listener := some listener }
    (∀ notification, listener.react notification = []) ∧
      (fresh.sessions {} visit).map Session.told =
        [[], [.connected, .data [1, 2, 3], .closed], [.closed]] := by
  intro listener fresh
  have quiet (notification : Notification) : listener.react notification = [] := rfl
  refine ⟨quiet, ?_⟩
  obtain ⟨⟨idle, sessions, parted, ⟨silent, _⟩, told, _⟩, _⟩ :=
    @run_told_in_order none 1 {} .running listener quiet visit
  have scripts : sessions.map Session.told = sessions.map Session.script :=
    List.map_congr_left fun session member => (told session member).1
  have opened : (fresh.sessions {} visit).tail = sessions := by
    rw [parted]
    rfl
  have follows : ((fresh.sessions {} visit).tail).map Session.script =
      [[.connected, .data [1, 2, 3], .closed], [.closed]] := by decide
  rw [parted, List.map_cons, silent, scripts, ← opened, follows]

end Connection

end RadioStack.Tcp
