import RadioStack.Proofs.Tcp.Journal
import RadioStack.Tcp.Connection

/-!
What comes of the acts of a program and a link on a connection: which states the endpoint enters,
and what the listener is told of it. Main statements: `run_keeps`, `act_tellsOf`.
-/

namespace RadioStack.Tcp

def Effect.entered? : Effect → Option State
  | .emitted emission => emission.entered?
  | _ => none

def Effect.notification? : Effect → Option Notification
  | .notified notification => some notification
  | _ => none

namespace Passage

def entered (passage : Passage) : List State := passage.effects.filterMap Effect.entered?

def told (passage : Passage) : List Notification := passage.effects.filterMap Effect.notification?

def Complete (passage : Passage) : Prop := ∀ request, .abandoned request ∉ passage.effects

variable (passage : Passage) (next : Connection → Passage)

theorem complete_andThen_iff :
    (passage.andThen next).Complete ↔ passage.Complete ∧ (next passage.connection).Complete := by
  simp only [Complete, andThen, List.mem_append, not_or, forall_and]

@[simp] theorem connection_andThen :
    (passage.andThen next).connection = (next passage.connection).connection := rfl

@[simp] theorem entered_andThen :
    (passage.andThen next).entered = passage.entered ++ (next passage.connection).entered := by
  simp [entered, andThen]

@[simp] theorem told_andThen :
    (passage.andThen next).told = passage.told ++ (next passage.connection).told := by
  simp [told, andThen]

end Passage

inductive Act
  | connect (time : Instant) (address : Address) (port : UInt16)
  | listen
  | send (time : Instant) (limit : Option Duration) (data : Octets)
  | close (time : Instant)
  | reset (time : Instant)
  | tick (time : Instant)
  | receive (time : Instant) (ip : Ip.Header) (header : Header) (payload : Octets)

namespace Connection

def act (act : Act) (connection : Connection) : Passage :=
  match act with
  | .connect time address port => (connection.connect time address port).1
  | .listen => connection.listen.1
  | .send time limit data => (connection.send time limit data).1
  | .close time => connection.close time
  | .reset time => connection.reset time
  | .tick time => connection.tick time
  | .receive time ip header payload => (connection.receive time ip header payload).1

def run (acts : List Act) (connection : Connection) : Connection :=
  acts.foldl (fun connection act => (connection.act act).connection) connection

def opens (act : Act) (connection : Connection) : Bool :=
  match act with
  | .connect time address port => (connection.connect time address port).2.isOk
  | .listen => connection.listen.2.isOk
  | _ => false

def reported (act : Act) (connection : Connection) : Option Octets :=
  match act with
  | .receive time ip header payload =>
    (connection.endpoint.receive (connection.clock.read time) ip header payload).data
  | _ => none

def Passive (connection : Connection) : Prop :=
  ∃ listener, connection.listener = some listener ∧
    ∀ notification, listener.react notification = []

variable {connection : Connection} {now : Instant} {data : Octets}

@[simp] theorem entered_adopt (turn : Turn) : (connection.adopt turn).entered = turn.entered := by
  rw [Passage.entered, adopt, List.filterMap_map]
  rfl

@[simp] theorem told_adopt (turn : Turn) : (connection.adopt turn).told = [] := by
  rw [Passage.told, adopt, List.filterMap_map]
  exact List.filterMap_eq_nil_iff.mpr fun _ _ => rfl

theorem connection_connect (time : Instant) (address : Address) (port : UInt16)
    (connection : Connection) :
    (connection.connect time address port).1.connection =
      { connection with
        endpoint := (connection.endpoint.perform
          (.connect (connection.clock.read time) address port)).endpoint } := by
  rw [Endpoint.perform]
  unfold connect
  cases connection.endpoint.connect (connection.clock.read time) address port <;> rfl

theorem connection_listen (connection : Connection) :
    connection.listen.1.connection =
      { connection with endpoint := (connection.endpoint.perform .listen).endpoint } := by
  rw [Endpoint.perform]
  unfold listen
  cases connection.endpoint.listen <;> rfl

theorem keeps_sendChunks {holds : Endpoint → Prop} {now : Instant}
    (kept : ∀ endpoint data, holds endpoint → holds (endpoint.perform (.send now data)).endpoint)
    (chunks : List Octets) {endpoint : Endpoint} (start : holds endpoint) :
    holds (endpoint.sendChunks now chunks).endpoint := by
  induction chunks generalizing endpoint with
  | nil => exact start
  | cons chunk rest ih =>
      have onward := kept endpoint chunk start
      rw [Endpoint.perform] at onward
      unfold Endpoint.sendChunks
      cases sent : endpoint.send now chunk with
      | ok turn =>
          rw [sent] at onward
          exact ih onward
      | error failure => cases failure <;> exact start

section Keeps

variable {holds : Endpoint → Prop}
  (kept : ∀ endpoint call, holds endpoint → holds (endpoint.perform call).endpoint)

include kept

theorem keeps_sendAtOnce (now : Instant) (data : Octets) {connection : Connection}
    (start : holds connection.endpoint) :
    holds (connection.sendAtOnce now data).1.connection.endpoint := by
  have sent := keeps_sendChunks (fun _ data => kept _ (.send now data)) (chunks data) start
  unfold sendAtOnce
  dsimp only
  split <;> exact sent

theorem keeps_listen {connection : Connection} (start : holds connection.endpoint) :
    holds connection.listen.1.connection.endpoint := by
  rw [connection_listen]
  exact kept _ .listen start

theorem keeps_connect (time : Instant) (address : Address) (port : UInt16)
    {connection : Connection} (start : holds connection.endpoint) :
    holds (connection.connect time address port).1.connection.endpoint := by
  rw [connection_connect]
  exact kept _ (.connect _ address port) start

omit kept in
theorem keeps_inOrder {α : Type} {call : α → Connection → Passage}
    (keeps : ∀ item connection, holds connection.endpoint →
      holds (call item connection).connection.endpoint)
    (items : List α) {connection : Connection} (start : holds connection.endpoint) :
    holds (connection.inOrder call items).connection.endpoint := by
  have onward (passage : Passage) (start : holds passage.connection.endpoint) :
      holds (items.foldl (fun passage item => passage.andThen (call item))
        passage).connection.endpoint := by
    induction items generalizing passage with
    | nil => exact start
    | cons item rest ih => exact ih _ (keeps item _ start)
  exact onward connection.idle start

omit kept in
theorem keeps_change {serve : Request → Connection → Passage}
    (keeps : ∀ request connection, holds connection.endpoint →
      holds (serve request connection).connection.endpoint)
    {turn : Turn} (start : holds turn.endpoint) (data : Option Octets) (connection : Connection) :
    holds (connection.change serve turn data).connection.endpoint := by
  rw [change, Passage.connection_andThen, announce]
  split
  · exact start
  · refine keeps_inOrder ?_ _ start
    intro notification connection start
    exact keeps_inOrder keeps _ start

theorem keeps_serve (now : Instant) (depth : Nat) (request : Request) (connection : Connection)
    (start : holds connection.endpoint) :
    holds (serve now depth request connection).connection.endpoint := by
  induction depth generalizing request connection with
  | zero =>
      cases request with
      | send data => exact keeps_sendAtOnce kept now data start
      | listen => exact keeps_listen kept start
      | close | reset => exact start
  | succ depth ih =>
      cases request with
      | send data => exact keeps_sendAtOnce kept now data start
      | listen => exact keeps_listen kept start
      | close => exact keeps_change ih (kept connection.endpoint (.close now) start) _ _
      | reset => exact keeps_change ih (kept connection.endpoint (.reset now) start) _ _

theorem keeps_resume (now : Instant) {connection : Connection}
    (start : holds connection.endpoint) :
    holds (connection.resume now).connection.endpoint := by
  unfold resume
  split
  · exact start
  · rename_i remaining _
    have sent := keeps_sendChunks (fun _ data => kept _ (.send now data)) remaining start
    dsimp only
    split <;> exact sent

theorem keeps_conclude (now : Instant) {turn : Turn} (start : holds turn.endpoint)
    (data : Option Octets) (connection : Connection) :
    holds (connection.conclude now turn data).connection.endpoint :=
  keeps_resume kept now
    (keeps_change (keeps_serve kept now connection.nesting) start data connection)

theorem keeps_send (time : Instant) (limit : Option Duration) (data : Octets)
    {connection : Connection} (start : holds connection.endpoint) :
    holds (connection.send time limit data).1.connection.endpoint := by
  unfold send
  dsimp only
  split
  · have sent := keeps_sendChunks
      (fun _ data => kept _ (.send (connection.clock.read time) data)) (chunks data) start
    unfold sendWaiting
    split
    · exact start
    · dsimp only
      split <;> exact sent
  · exact keeps_sendAtOnce kept _ data start

/-- What every call of an endpoint keeps is kept by every act on a connection, whatever its
listener asks of it in turn. -/
theorem act_keeps (act : Act) {connection : Connection} (start : holds connection.endpoint) :
    holds (connection.act act).connection.endpoint := by
  cases act with
  | connect time address port => exact keeps_connect kept time address port start
  | listen => exact keeps_listen kept start
  | send time limit data => exact keeps_send kept time limit data start
  | close time => exact keeps_conclude kept _ (kept _ (.close _) start) _ _
  | reset time => exact keeps_conclude kept _ (kept _ (.reset _) start) _ _
  | tick time => exact keeps_conclude kept _ (kept _ (.tick _) start) _ _
  | receive time ip header payload =>
      exact keeps_conclude kept _ (kept _ (.receive _ ip header payload) start) _ _

theorem run_keeps (acts : List Act) {connection : Connection} (start : holds connection.endpoint) :
    holds (connection.run acts).endpoint := by
  induction acts generalizing connection with
  | nil => exact start
  | cons act acts ih => exact ih (act_keeps kept act start)

end Keeps

theorem complete_of_foldl {α : Type} {call : α → Connection → Passage} {items : List α}
    {passage : Passage} (complete : (items.foldl
      (fun passage item => passage.andThen (call item)) passage).Complete) : passage.Complete := by
  induction items generalizing passage with
  | nil => exact complete
  | cons item rest ih => exact (passage.complete_andThen_iff _ |>.mp (ih complete)).1

theorem inOrder_congr {α : Type} {call other : α → Connection → Passage}
    (same : ∀ item connection, (call item connection).Complete →
      other item connection = call item connection) {items : List α} {connection : Connection}
    (complete : (connection.inOrder call items).Complete) :
    connection.inOrder other items = connection.inOrder call items := by
  unfold inOrder at complete ⊢
  generalize connection.idle = passage at complete ⊢
  induction items generalizing passage with
  | nil => rfl
  | cons item rest ih =>
      have first := (passage.complete_andThen_iff _).mp (complete_of_foldl complete)
      have next : passage.andThen (other item) = passage.andThen (call item) := by
        rw [Passage.andThen, same _ _ first.2, Passage.andThen]
      rw [List.foldl_cons, List.foldl_cons, next]
      exact ih _ complete

theorem announce_congr {serve other : Request → Connection → Passage}
    (same : ∀ request connection, (serve request connection).Complete →
      other request connection = serve request connection) {notifications : List Notification}
    {connection : Connection} (complete : (connection.announce serve notifications).Complete) :
    connection.announce other notifications = connection.announce serve notifications := by
  unfold announce at complete ⊢
  split at complete
  · rfl
  · refine inOrder_congr (fun notification connection complete => ?_) complete
    have asked := (Passage.complete_andThen_iff _ _).mp complete
    rw [Passage.andThen, Passage.andThen, inOrder_congr same asked.2]

theorem change_congr {serve other : Request → Connection → Passage}
    (same : ∀ request connection, (serve request connection).Complete →
      other request connection = serve request connection) {turn : Turn} {data : Option Octets}
    {connection : Connection} (complete : (connection.change serve turn data).Complete) :
    connection.change other turn data = connection.change serve turn data := by
  have told := ((Passage.complete_andThen_iff _ _).mp complete).2
  rw [change, change, Passage.andThen, Passage.andThen, announce_congr same told]

/-- Callbacks that may nest deeper do the same where no request has been abandoned. -/
theorem serve_of_deeper {now : Instant} {depth deeper : Nat} (less : depth ≤ deeper)
    {request : Request} {connection : Connection}
    (complete : (serve now depth request connection).Complete) :
    serve now deeper request connection = serve now depth request connection := by
  induction depth generalizing deeper request connection with
  | zero =>
      cases request with
      | send | listen => cases deeper <;> rfl
      | close | reset => exact absurd (List.mem_singleton_self _) (complete _)
  | succ depth ih =>
      obtain ⟨deeper, rfl⟩ := Nat.exists_eq_succ_of_ne_zero (Nat.ne_zero_of_lt less)
      have same (request : Request) (connection : Connection) :=
        @ih deeper (Nat.le_of_succ_le_succ less) request connection
      cases request with
      | send | listen => rfl
      | close | reset =>
          have changed := ((Passage.complete_andThen_iff _ _).mp complete).1
          rw [serve, serve, Passage.andThen, change_congr same changed]
          rfl

theorem conclude_of_deeper {now : Instant} {turn : Turn} {data : Option Octets}
    {connection : Connection} (complete : (connection.conclude now turn data).Complete)
    {deeper : Nat} (less : connection.nesting ≤ deeper) :
    (connection.change (serve now deeper) turn data).andThen (resume now) =
      connection.conclude now turn data := by
  have changed := ((Passage.complete_andThen_iff _ _).mp complete).1
  rw [conclude, change_congr (fun _ _ => serve_of_deeper less) changed]

structure Quiet (connection : Connection) (passage : Passage) : Prop where
  entered : passage.entered = []
  told : passage.told = []
  state : passage.connection.endpoint.state = connection.endpoint.state
  listener : passage.connection.listener = connection.listener

theorem quiet_idle (connection : Connection) : connection.Quiet connection.idle :=
  ⟨rfl, rfl, rfl, rfl⟩

theorem quiet_adopt {turn : Turn} (silent : turn.entered = [])
    (same : turn.endpoint.state = connection.endpoint.state) :
    connection.Quiet (connection.adopt turn) :=
  ⟨by rw [entered_adopt, silent], told_adopt turn, same, rfl⟩

theorem Quiet.andThen {passage : Passage} {next : Connection → Passage}
    (first : connection.Quiet passage)
    (onward : passage.connection.Quiet (next passage.connection)) :
    connection.Quiet (passage.andThen next) where
  entered := by rw [Passage.entered_andThen, first.entered, onward.entered, List.append_nil]
  told := by rw [Passage.told_andThen, first.told, onward.told, List.append_nil]
  state := onward.state.trans first.state
  listener := onward.listener.trans first.listener

theorem sendChunks_quiet (now : Instant) (chunks : List Octets) (endpoint : Endpoint) :
    (endpoint.sendChunks now chunks).toTurn.entered = [] ∧
      (endpoint.sendChunks now chunks).endpoint.state = endpoint.state := by
  induction chunks generalizing endpoint with
  | nil => exact ⟨rfl, rfl⟩
  | cons chunk rest ih =>
      unfold Endpoint.sendChunks
      cases sent : endpoint.send now chunk with
      | ok turn =>
          obtain ⟨silent, same⟩ := ih turn.endpoint
          refine ⟨?_, same.trans (Endpoint.state_send sent).1⟩
          change (turn.emitted ++ _).filterMap Emission.entered? = []
          rw [List.filterMap_append]
          change turn.entered ++ Turn.entered _ = []
          rw [Endpoint.entered_send sent, silent, List.append_nil]
      | error failure => cases failure <;> exact ⟨rfl, rfl⟩

theorem quiet_sendChunks (now : Instant) (chunks : List Octets) (connection : Connection) :
    connection.Quiet (connection.adopt (connection.endpoint.sendChunks now chunks).toTurn) :=
  quiet_adopt (sendChunks_quiet ..).1 (sendChunks_quiet ..).2

theorem quiet_sendAtOnce (now : Instant) (data : Octets) (connection : Connection) :
    connection.Quiet (connection.sendAtOnce now data).1 := by
  have sent := connection.quiet_sendChunks now (chunks data)
  unfold sendAtOnce
  dsimp only
  split
  · exact sent
  · exact sent
  · dsimp only
    apply sent.andThen
    exact quiet_adopt rfl rfl

theorem quiet_send (time : Instant) (limit : Option Duration) (data : Octets)
    (connection : Connection) : connection.Quiet (connection.send time limit data).1 := by
  unfold send
  dsimp only
  split
  · have sent := connection.quiet_sendChunks (connection.clock.read time) (chunks data)
    unfold sendWaiting
    split
    · exact connection.quiet_idle
    · dsimp only
      split
      · exact sent
      · exact sent
      · dsimp only
        apply sent.andThen
        exact ⟨rfl, rfl, rfl, rfl⟩
  · exact connection.quiet_sendAtOnce _ data

theorem quiet_resume (now : Instant) (connection : Connection) :
    connection.Quiet (connection.resume now) := by
  unfold resume
  split
  · exact connection.quiet_idle
  · rename_i remaining _
    have sent := connection.quiet_sendChunks now remaining
    dsimp only
    split <;> exact sent.andThen ⟨rfl, rfl, rfl, rfl⟩

theorem announce_of_passive (passive : connection.Passive) (serve : Request → Connection → Passage)
    (notifications : List Notification) :
    connection.announce serve notifications =
      ⟨connection, notifications.map .notified⟩ := by
  obtain ⟨listener, present, quiet⟩ := passive
  rw [announce, present]
  dsimp only
  have onward (passage : Passage) :
      notifications.foldl (fun passage notification => passage.andThen fun connection =>
        (⟨connection, [.notified notification]⟩ : Passage).andThen
          (inOrder serve (listener.react notification))) passage =
        ⟨passage.connection, passage.effects ++ notifications.map .notified⟩ := by
    induction notifications generalizing passage with
    | nil => exact (congrArg (Passage.mk passage.connection) (List.append_nil _)).symm
    | cons notification rest ih =>
        rw [List.foldl_cons, ih, quiet]
        refine congrArg (Passage.mk passage.connection) ?_
        rw [Passage.andThen, List.append_assoc]
        rfl
  exact onward connection.idle

theorem told_notified (connection : Connection) (notifications : List Notification) :
    (⟨connection, notifications.map .notified⟩ : Passage).told = notifications ∧
      (⟨connection, notifications.map .notified⟩ : Passage).entered = [] := by
  constructor
  · rw [Passage.told, List.filterMap_map]
    exact List.filterMap_some
  · rw [Passage.entered, List.filterMap_map]
    exact List.filterMap_eq_nil_iff.mpr fun _ _ => rfl

structure Concludes (connection : Connection) (turn : Turn) (data : Option Octets)
    (passage : Passage) : Prop where
  entered : passage.entered = turn.entered
  told : passage.told =
    notifications connection.endpoint.state turn.endpoint.state data
  state : passage.connection.endpoint.state = turn.endpoint.state
  listener : passage.connection.listener = connection.listener

theorem concludes (passive : connection.Passive) (now : Instant) (turn : Turn)
    (data : Option Octets) :
    connection.Concludes turn data (connection.conclude now turn data) := by
  let adopted : Connection := { connection with endpoint := turn.endpoint }
  let told := notifications connection.endpoint.state turn.endpoint.state data
  have changed : connection.change (serve now connection.nesting) turn data =
      (connection.adopt turn).andThen fun _ => ⟨adopted, told.map .notified⟩ := by
    rw [change, Passage.andThen, announce_of_passive (by exact passive)]
    rfl
  obtain ⟨heard, silent⟩ := told_notified adopted told
  obtain ⟨entered, nothing, same, listening⟩ := quiet_resume now adopted
  rw [conclude, changed]
  constructor
  · rw [Passage.entered_andThen, Passage.entered_andThen, entered_adopt, silent, List.append_nil]
    exact (congrArg _ entered).trans (List.append_nil _)
  · rw [Passage.told_andThen, Passage.told_andThen, told_adopt, heard, List.nil_append]
    exact (congrArg _ nothing).trans (List.append_nil _)
  · exact same
  · exact listening

end Connection

namespace Endpoint

variable {endpoint : Endpoint} {now : Instant} {ip : Ip.Header} {header : Header}
  {payload data : Octets}

theorem receiveText_reports
    (reports : (endpoint.receiveText now header payload).data = some data) :
    (endpoint.receiveText now header payload).endpoint.state.isSynchronized := by
  apply receiveText_synchronized
  dsimp only [receiveText] at reports
  split at reports
  · cases reports
  · split at reports
    · cases reports
    · split at reports
      · cases reports
      · split at reports
        · cases reports
        · rename_i accepting
          rw [Bool.not_eq_true, Bool.not_eq_false'] at accepting
          exact (State.isSynchronized_of_acceptsText accepting).1

theorem receive_reports (reports : (endpoint.receive now ip header payload).data = some data) :
    (endpoint.receive now ip header payload).endpoint.state.isSynchronized := by
  have silent : (endpoint.receiveInSynSent now header).data = none := by
    dsimp only [receiveInSynSent]
    split
    · rfl
    · split
      · split <;> rfl
      · split <;> rfl
  have text (reports : (endpoint.receiveSynchronized now header payload).data = some data) :
      (endpoint.receiveSynchronized now header payload).endpoint.state.isSynchronized := by
    unfold receiveSynchronized at reports ⊢
    split at reports
    · cases reports
    · rename_i noRst
      split at reports
      · cases reports
      · rename_i noSyn
        rw [if_neg noRst, if_neg noSyn]
        exact receiveText_reports reports
  unfold receive at reports
  dsimp only [Turn.thenReceive, note] at reports
  split at reports
  · cases reports
  · cases reports
  · rw [silent] at reports
    cases reports
  · rename_i closed listening opening
    have known := endpoint.state.opening_or_known.resolve_left
      (by rintro (state | state | state) <;> contradiction)
    rw [(receive_of_known known).1]
    exact text reports

end Endpoint

theorem State.enters_still (state : State) : state.Enters [] state :=
  Trail.still.enters fun running _ closed => absurd closed running

theorem notifications_still (state : State) : notifications state state none = [] := by
  cases state <;> rfl

namespace Connection

variable {connection : Connection} {act : Act}

structure TellsOf (connection : Connection) (act : Act) : Prop where
  listener : (connection.act act).connection.listener = connection.listener
  told : (connection.act act).told = notifications connection.endpoint.state
    (connection.act act).connection.endpoint.state (connection.reported act)
  text : (connection.reported act).isSome →
    (connection.act act).connection.endpoint.state.isSynchronized
  opened : connection.opens act → connection.endpoint.state = .closed ∧
    (connection.act act).connection.endpoint.state ≠ .closed ∧
    (connection.act act).connection.endpoint.state.isSynchronized = false ∧
    (connection.act act).entered = [(connection.act act).connection.endpoint.state]
  continued : connection.opens act = false → connection.endpoint.state.Enters
    (connection.act act).entered (connection.act act).connection.endpoint.state

theorem Quiet.tellsOf (quiet : connection.Quiet (connection.act act))
    (closes : connection.opens act = false) (nothing : connection.reported act = none) :
    connection.TellsOf act where
  listener := quiet.listener
  told := by rw [quiet.told, quiet.state, nothing, notifications_still]
  text reports := by
    rw [nothing] at reports
    cases reports
  opened opens := by
    rw [closes] at opens
    cases opens
  continued _ := by
    rw [quiet.entered, quiet.state]
    exact connection.endpoint.state.enters_still

theorem Concludes.tellsOf {call : Call} (continues : call.opens = false)
    (concludes : connection.Concludes (connection.endpoint.perform call).toTurn
      (connection.reported act) (connection.act act))
    (closes : connection.opens act = false)
    (text : (connection.reported act).isSome →
      (connection.endpoint.perform call).endpoint.state.isSynchronized) :
    connection.TellsOf act where
  listener := concludes.listener
  told := by rw [concludes.told, concludes.state]
  text reports := by
    rw [concludes.state]
    exact text reports
  opened opens := by
    rw [closes] at opens
    cases opens
  continued _ := by
    rw [concludes.entered, concludes.state]
    exact Endpoint.perform_enters continues

theorem tellsOf_of_opened {turn : Turn} (entered : connection.endpoint.state = .closed ∧
      turn.entered = [turn.endpoint.state])
    (opening : turn.endpoint.state ≠ .closed ∧ turn.endpoint.state.isSynchronized = false)
    (acted : connection.act act = connection.adopt turn) (opens : connection.opens act = true)
    (nothing : connection.reported act = none) : connection.TellsOf act where
  listener := by rw [acted]; rfl
  told := by
    have silent : notifications .closed turn.endpoint.state none = [] := by
      simp [notifications, opening.2]
    rw [acted, told_adopt, nothing, entered.1]
    exact silent.symm
  text reports := by
    rw [nothing] at reports
    cases reports
  opened _ := by
    rw [acted, entered_adopt]
    exact ⟨entered.1, opening.1, opening.2, entered.2⟩
  continued closes := by
    rw [opens] at closes
    cases closes

theorem tellsOf_of_failed (acted : connection.act act = connection.idle)
    (closes : connection.opens act = false) (nothing : connection.reported act = none) :
    connection.TellsOf act := by
  have quiet : connection.Quiet (connection.act act) := by
    rw [acted]
    exact connection.quiet_idle
  exact quiet.tellsOf closes nothing

theorem tellsOf_connect (time : Instant) (address : Address) (port : UInt16) :
    connection.TellsOf (.connect time address port) := by
  cases connected : connection.endpoint.connect (connection.clock.read time) address port with
  | ok turn =>
      obtain ⟨closed, entered⟩ := Endpoint.entered_connect connected
      obtain ⟨opening, _⟩ := Endpoint.connect_opens connected
      have acted : connection.connect time address port = (connection.adopt turn, .ok ()) := by
        rw [connect, connected]
      refine tellsOf_of_opened ⟨closed, ?_⟩ ?_ (congrArg Prod.fst acted) ?_ rfl
      · rw [entered, opening]
      · rw [opening]
        decide
      · rw [opens, acted]
        rfl
  | error failure =>
      have acted : connection.connect time address port = (connection.idle, .error failure) := by
        rw [connect, connected]
      refine tellsOf_of_failed (congrArg Prod.fst acted) ?_ rfl
      rw [opens, acted]
      rfl

theorem tellsOf_listen : connection.TellsOf .listen := by
  cases listened : connection.endpoint.listen with
  | ok turn =>
      obtain ⟨closed, entered⟩ := Endpoint.entered_listen listened
      obtain ⟨listening, _⟩ := Endpoint.listen_opens listened
      have acted : connection.listen = (connection.adopt turn, .ok ()) := by
        rw [listen, listened]
      refine tellsOf_of_opened ⟨closed, ?_⟩ ?_ (congrArg Prod.fst acted) ?_ rfl
      · rw [entered, listening]
      · rw [listening]
        decide
      · rw [opens, acted]
        rfl
  | error failure =>
      have acted : connection.listen = (connection.idle, .error failure) := by
        rw [listen, listened]
      refine tellsOf_of_failed (congrArg Prod.fst acted) ?_ rfl
      rw [opens, acted]
      rfl

/-- What the listener is told of an act is what the states before and after it mean, and the data
that was reported. -/
theorem act_tellsOf (passive : connection.Passive) (act : Act) : connection.TellsOf act := by
  cases act with
  | connect time address port => exact tellsOf_connect time address port
  | listen => exact tellsOf_listen
  | send time limit data => exact (quiet_send time limit data connection).tellsOf rfl rfl
  | close time =>
      exact @Concludes.tellsOf connection _ (.close (connection.clock.read time)) rfl
        (concludes passive _ _ none) rfl nofun
  | reset time =>
      exact @Concludes.tellsOf connection _ (.reset (connection.clock.read time)) rfl
        (concludes passive _ _ none) rfl nofun
  | tick time =>
      exact @Concludes.tellsOf connection _ (.tick (connection.clock.read time)) rfl
        (concludes passive _ _ none) rfl nofun
  | receive time ip header payload =>
      refine @Concludes.tellsOf connection _
        (.receive (connection.clock.read time) ip header payload) rfl (concludes passive _ _ _)
        rfl ?_
      intro reports
      obtain ⟨data, reports⟩ := Option.isSome_iff_exists.mp reports
      exact Endpoint.receive_reports reports

end Connection

end RadioStack.Tcp
