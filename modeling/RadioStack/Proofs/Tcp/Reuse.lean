import Mathlib.Logic.Basic
import RadioStack.Proofs.Tcp.Opening

/-!
An endpoint that is used again behaves like a new one. What an earlier connection leaves behind, in
the storage of the ring, the window of the peer and the instants of both timers, is not read by a
later one before it is written. Main statement: `reopened_like_new`.
-/

namespace RadioStack.Tcp

namespace SendRing

variable {first second : SendRing}

theorem count_congr (same : first.toList = second.toList) : first.count = second.count := by
  rw [← length_toList, same, length_toList]

theorem peek_congr (same : first.toList = second.toList) (offset number : Nat) :
    first.peek offset number = second.peek offset number := by
  rw [peek_eq_take_drop, peek_eq_take_drop, same]

theorem isEmpty_congr (same : first.toList = second.toList) : first.isEmpty = second.isEmpty := by
  rw [isEmpty, isEmpty, count_congr same]

theorem release_congr (same : first.toList = second.toList) (number : Nat) :
    (first.release number).toList = (second.release number).toList := by
  rw [toList_release, toList_release, same]

theorem enqueue?_congr (same : first.toList = second.toList) (data : Octets) :
    (first.enqueue? data = none ∧ second.enqueue? data = none) ∨
      ∃ grown other, first.enqueue? data = some grown ∧ second.enqueue? data = some other ∧
        grown.toList = other.toList := by
  by_cases room : data.length ≤ first.free
  · have room' : data.length ≤ second.free := by
      rwa [free, ← count_congr same]
    have grown : first.enqueue? data = some (data.foldl push first) := if_pos room
    have other : second.enqueue? data = some (data.foldl push second) := if_pos room'
    exact .inr ⟨_, _, grown, other, by rw [toList_enqueue? grown, toList_enqueue? other, same]⟩
  · have room' : ¬ data.length ≤ second.free := by
      rwa [free, ← count_congr same]
    exact .inl ⟨if_neg room, if_neg room'⟩

end SendRing

namespace Endpoint

/-- Two endpoints that nothing can tell apart: the rings hold the same, and the instants of the
timers are the same where a timer runs. -/
inductive Alike : Endpoint → Endpoint → Prop
  | differ {endpoint : Endpoint} {sendWindow : UInt16} {ring : SendRing}
    {lastSend timeWaitSince : Instant} (queue : endpoint.ring.toList = ring.toList)
    (timer : endpoint.state ≠ .closed → endpoint.state ≠ .listen → endpoint.lastSend = lastSend)
    (lingering : endpoint.state = .timeWait → endpoint.timeWaitSince = timeWaitSince) :
    Alike endpoint { endpoint with sendWindow, ring, lastSend, timeWaitSince }

end Endpoint

structure Turn.Alike (first second : Turn) : Prop where
  emitted : first.emitted = second.emitted
  endpoint : first.endpoint.Alike second.endpoint

structure Reception.Alike (first second : Reception) : Prop extends
    turn : Turn.Alike first.toTurn second.toTurn where
  data : first.data = second.data
  unexpectedAck : first.unexpectedAck = second.unexpectedAck

structure Response.Alike (first second : Response) : Prop extends
    reception : Reception.Alike first.toReception second.toReception where
  result : first.result = second.result

namespace Turn.Alike

variable {first second : Turn}

theorem andThen {next other : Endpoint → Turn} (alike : first.Alike second)
    (then_ : (next first.endpoint).Alike (other second.endpoint)) :
    (first.andThen next).Alike (second.andThen other) :=
  ⟨congrArg₂ (· ++ ·) alike.emitted then_.emitted, then_.endpoint⟩

/-- What nobody can tell apart is followed by the same. -/
theorem followed {next : Endpoint → Turn} (alike : first.Alike second)
    (blind : ∀ {one other : Endpoint}, one.Alike other → (next one).Alike (next other)) :
    (first.andThen next).Alike (second.andThen next) :=
  alike.andThen (blind alike.endpoint)

theorem quiet (alike : first.Alike second) : first.quiet.Alike second.quiet := ⟨alike, rfl, rfl⟩

theorem rejected (alike : first.Alike second) : first.rejected.Alike second.rejected :=
  ⟨alike, rfl, rfl⟩

theorem thenReceive {next other : Endpoint → Reception} (alike : first.Alike second)
    (then_ : (next first.endpoint).Alike (other second.endpoint)) :
    (first.thenReceive next).Alike (second.thenReceive other) :=
  ⟨⟨congrArg₂ (· ++ ·) alike.emitted then_.emitted, then_.endpoint⟩, then_.data,
    then_.unexpectedAck⟩

end Turn.Alike

namespace Endpoint

theorem sendControl_timed {endpoint : Endpoint} {now : Instant} {flags : Flags}
    (syn : flags.contains .syn) (here : endpoint.localAddress.isSome)
    (there : endpoint.isConnected) :
    endpoint.sendControl now flags =
      sendControl now flags { endpoint with lastSend := now } := by
  rw [isConnected, Bool.and_eq_true] at there
  obtain ⟨source, here⟩ := Option.isSome_iff_exists.mp here
  obtain ⟨destination, known⟩ := Option.isSome_iff_exists.mp there.1
  obtain ⟨port, door⟩ := Option.isSome_iff_exists.mp there.2
  have counted :
      let sent := endpoint.segmentAt source destination port endpoint.sendNext flags 0
      sent.header.span sent.payload.length ≠ 0 := by
    dsimp only
    rw [payload_eq_nil (.inr rfl)]
    change (0 : UInt32) + (if flags.contains .syn then 1 else 0) +
      (if flags.contains .fin then 1 else 0) ≠ 0
    rw [if_pos syn]
    split <;> decide
  dsimp only [sendControl, transmit]
  rw [here, known, door]
  dsimp only
  rw [if_neg counted, ite_self]
  rfl

namespace Alike

variable {first second : Endpoint} {now : Instant} {header : Header} {payload : Octets}

theorem reads {α : Type} (alike : first.Alike second) (field : Endpoint → α)
    (blind : ∀ (endpoint : Endpoint) sendWindow ring lastSend timeWaitSince,
      field { endpoint with sendWindow, ring, lastSend, timeWaitSince } = field endpoint) :
    field second = field first := by
  cases alike
  exact blind _ _ _ _ _

theorem state (alike : first.Alike second) : second.state = first.state :=
  alike.reads Endpoint.state fun _ _ _ _ _ => rfl

theorem idle (alike : first.Alike second) : first.idle.Alike second.idle := ⟨rfl, alike⟩

theorem note (alike : first.Alike second) (record : Log.Record) :
    (first.note record).Alike (second.note record) := ⟨rfl, alike⟩

theorem emitted_enter (state : State) (same : first.state = second.state)
    (port : first.localPort = second.localPort) :
    (first.enter state).emitted = (second.enter state).emitted := by
  unfold Endpoint.enter
  rw [same, port]
  split <;> rfl

theorem enter {state : State} (same : first.state = second.state)
    (port : first.localPort = second.localPort)
    (alike : Alike { first with state } { second with state }) :
    (first.enter state).Alike (second.enter state) := by
  refine ⟨emitted_enter state same port, ?_⟩
  rwa [endpoint_enter, endpoint_enter]

theorem entering {state : State} {next : Endpoint → Turn} (same : first.state = second.state)
    (port : first.localPort = second.localPort)
    (alike : (next { first with state }).Alike (next { second with state })) :
    ((first.enter state).andThen next).Alike ((second.enter state).andThen next) := by
  rw [← endpoint_enter, ← endpoint_enter] at alike
  exact ⟨congrArg₂ (· ++ ·) (emitted_enter state same port) alike.emitted, alike.endpoint⟩

theorem enterOther (alike : first.Alike second) {state : State} (lasting : state ≠ .timeWait)
    (running : first.state ≠ .closed ∧ first.state ≠ .listen) :
    (first.enter state).Alike (second.enter state) := by
  cases alike with
  | differ queue timer =>
      exact enter rfl rfl (.differ queue (fun _ _ => timer running.1 running.2)
        fun entered => absurd entered lasting)

theorem enterTimeWait (alike : first.Alike second)
    (running : first.state ≠ .closed ∧ first.state ≠ .listen) :
    (first.enterTimeWait now).Alike (second.enterTimeWait now) := by
  cases alike with
  | differ queue timer =>
      exact enter rfl rfl (.differ queue (fun _ _ => timer running.1 running.2) fun _ => rfl)

theorem abort (alike : first.Alike second) : first.abort.Alike second.abort := by
  cases alike with
  | differ queue =>
      refine Turn.Alike.andThen (enter rfl rfl (.differ queue (absurd rfl) nofun)) ⟨rfl, ?_⟩
      rw [endpoint_enter, endpoint_enter]
      exact .differ rfl (absurd rfl) nofun

theorem transmit (alike : first.Alike second) {sequence : UInt32} {flags : Flags} {length : Nat} :
    (first.transmit now sequence flags length).Alike
      (second.transmit now sequence flags length) := by
  cases alike with
  | @differ sendWindow ring lastSend timeWaitSince queue timer lingering =>
      unfold Endpoint.transmit
      dsimp only
      split
      · rename_i source destination port _ _ _
        have same : first.segmentAt source destination port sequence flags length =
            segmentAt { first with sendWindow, ring, lastSend, timeWaitSince }
              source destination port sequence flags length := by
          unfold segmentAt
          dsimp only
          rw [SendRing.peek_congr queue]
        rw [← same]
        refine ⟨rfl, .differ queue ?_ lingering⟩
        intro notClosed notListen
        dsimp only
        split
        · exact timer notClosed notListen
        · rfl
      · exact ⟨rfl, .differ queue timer lingering⟩

theorem sendAck (alike : first.Alike second) : (first.sendAck now).Alike (second.sendAck now) := by
  cases alike with
  | differ queue timer lingering => exact transmit (.differ queue timer lingering)

theorem sendFinIfDrained (alike : first.Alike second) :
    (first.sendFinIfDrained now).Alike (second.sendFinIfDrained now) := by
  have same := alike
  cases alike with
  | differ queue timer =>
      unfold Endpoint.sendFinIfDrained
      dsimp only
      rw [SendRing.isEmpty_congr queue]
      split
      · split
        · exact same.idle
        · rename_i state next
          have running : (first.state ≠ .closed ∧ first.state ≠ .listen) ∧ state ≠ .timeWait := by
            rcases finState?_eq_some next with ⟨before, rfl⟩ | ⟨before, rfl⟩ <;> simp [before]
          refine (same.enterOther running.2 running.1).andThen ?_
          rw [endpoint_enter, endpoint_enter]
          apply transmit
          exact .differ queue (fun _ _ => timer running.1.1 running.1.2)
            fun entered => absurd entered running.2
      · exact same.idle

theorem retransmit (alike : first.Alike second) :
    (first.retransmit now).Alike (second.retransmit now) := by
  have same := alike
  cases alike with
  | differ queue =>
      unfold Endpoint.retransmit
      dsimp only
      rw [SendRing.count_congr queue]
      split
      · exact same.transmit
      · exact same.transmit
      · exact same.transmit
      · exact same.transmit
      · exact same.transmit
      · split
        · exact same.idle
        · exact same.transmit

theorem finAcknowledged (alike : first.Alike second) :
    (first.finAcknowledged now).Alike (second.finAcknowledged now) := by
  unfold Endpoint.finAcknowledged
  rw [alike.state]
  split
  · rename_i state
    exact alike.enterOther (by decide) (by simp [state])
  · rename_i state
    exact alike.enterTimeWait (by simp [state])
  · exact alike.abort
  · exact alike.idle

theorem advance (alike : first.Alike second) (acknowledgment : UInt32) :
    (first.advance now acknowledgment).Alike (second.advance now acknowledgment) := by
  unfold Endpoint.advance
  dsimp only
  rw [alike.reads (coversFin acknowledgment) fun _ _ _ _ _ => rfl,
    alike.reads (released acknowledgment) fun _ _ _ _ _ => rfl]
  refine Turn.Alike.followed ?_ sendFinIfDrained
  cases alike with
  | differ queue _ lingering =>
      split
      · apply finAcknowledged
        exact .differ (SendRing.release_congr queue _) (fun _ _ => rfl) lingering
      · apply idle
        exact .differ (SendRing.release_congr queue _) (fun _ _ => rfl) lingering

theorem receiveDuplicateAck (alike : first.Alike second) :
    (first.receiveDuplicateAck now header payload).Alike
      (second.receiveDuplicateAck now header payload) := by
  have same := alike
  cases alike with
  | differ queue =>
      unfold Endpoint.receiveDuplicateAck
      dsimp only
      rw [SendRing.isEmpty_congr queue]
      split
      · exact (same.note _).andThen same.retransmit
      · exact same.idle

theorem receiveAckOfSyn (alike : first.Alike second) (answered : first.state = .synReceived) :
    (first.receiveAckOfSyn now header).Alike (second.receiveAckOfSyn now header) := by
  have same := alike
  cases alike with
  | differ queue timer =>
      have established := timer (by simp [answered]) (by simp [answered])
      unfold Endpoint.receiveAckOfSyn
      dsimp only
      split
      · refine Turn.Alike.quiet (Turn.Alike.followed ?_ sendFinIfDrained)
        exact enter rfl rfl (.differ queue (fun _ _ => established) nofun)
      · exact (same.note _).rejected

theorem receiveAck (alike : first.Alike second) :
    (first.receiveAck now header payload).Alike (second.receiveAck now header payload) := by
  cases alike with
  | differ queue timer lingering =>
      unfold Endpoint.receiveAck
      dsimp only
      split
      · apply receiveAckOfSyn
        · exact .differ queue timer lingering
        · assumption
      · split
        · apply Turn.Alike.rejected
          apply note
          exact .differ queue timer lingering
        · split
          · apply Turn.Alike.quiet
            apply receiveDuplicateAck
            exact .differ queue timer lingering
          · apply Turn.Alike.quiet
            apply advance
            exact .differ queue timer lingering

theorem receiveFin (alike : first.Alike second) :
    (first.receiveFin now).Alike (second.receiveFin now) := by
  unfold Endpoint.receiveFin
  rw [alike.state]
  split
  · rename_i state
    exact alike.enterOther (by decide) (by simp [state])
  · rename_i state
    exact alike.enterOther (by decide) (by simp [state])
  · rename_i state
    exact alike.enterTimeWait (by simp [state])
  · exact alike.idle

theorem receiveText (alike : first.Alike second) :
    (first.receiveText now header payload).Alike (second.receiveText now header payload) := by
  have same := alike
  cases alike with
  | differ queue timer lingering =>
      unfold Endpoint.receiveText
      dsimp only
      split
      · exact same.idle.quiet
      · split
        · exact ((same.note _).andThen same.sendAck).quiet
        · split
          · exact same.idle.quiet
          · split
            · exact same.sendAck.quiet
            · refine ⟨Turn.Alike.followed ?_ sendAck, rfl, rfl⟩
              split
              · apply receiveFin
                exact .differ queue timer lingering
              · apply idle
                exact .differ queue timer lingering

theorem receiveRst (alike : first.Alike second) :
    (first.receiveRst header).Alike (second.receiveRst header) := by
  have same := alike
  cases alike
  unfold Endpoint.receiveRst
  dsimp only
  split
  · exact (same.note _).followed abort
  · exact same.idle

theorem receiveRepeatedSyn (alike : first.Alike second) :
    (first.receiveRepeatedSyn now).Alike (second.receiveRepeatedSyn now) := by
  have same := alike
  cases alike
  unfold Endpoint.receiveRepeatedSyn
  dsimp only
  split
  · exact same.transmit
  · exact same.sendAck

theorem receiveSynchronized (alike : first.Alike second) :
    (first.receiveSynchronized now header payload).Alike
      (second.receiveSynchronized now header payload) := by
  unfold Endpoint.receiveSynchronized
  split
  · exact alike.receiveRst.quiet
  · split
    · exact alike.receiveRepeatedSyn.quiet
    · have acknowledged : Reception.Alike
          (if header.flags.contains .ack then first.receiveAck now header payload
            else first.idle.quiet)
          (if header.flags.contains .ack then second.receiveAck now header payload
            else second.idle.quiet) := by
        split
        · exact alike.receiveAck
        · exact alike.idle.quiet
      have text := acknowledged.turn.thenReceive
        (@receiveText _ _ now header payload acknowledged.endpoint)
      exact ⟨text.turn, text.data, acknowledged.unexpectedAck⟩

theorem receiveSyn (alike : first.Alike second) (opening : first.state = .synSent) :
    (first.receiveSyn now header).Alike (second.receiveSyn now header) := by
  cases alike with
  | differ queue timer =>
      have timed := timer (by simp [opening]) (by simp [opening])
      unfold Endpoint.receiveSyn
      dsimp only
      split
      · refine Turn.Alike.followed ?_ sendAck
        exact enter rfl rfl (.differ queue (fun _ _ => timed) nofun)
      · refine Turn.Alike.followed ?_ fun alike => ?_
        · exact enter rfl rfl (.differ queue (fun _ _ => timed) nofun)
        · rw [alike.reads unacknowledged fun _ _ _ _ _ => rfl]
          exact alike.transmit

theorem receiveInSynSent (alike : first.Alike second) (opening : first.state = .synSent) :
    (first.receiveInSynSent now header).Alike (second.receiveInSynSent now header) := by
  have same := alike
  cases alike
  unfold Endpoint.receiveInSynSent
  dsimp only
  split
  · exact (same.note _).rejected
  · split
    · split
      · exact ((same.note _).followed abort).quiet
      · exact same.idle.quiet
    · split
      · exact (same.receiveSyn opening).quiet
      · exact same.idle.quiet

theorem sendControl (alike : first.Alike second) {flags : Flags} :
    (first.sendControl now flags).Alike (second.sendControl now flags) := by
  unfold Endpoint.sendControl
  rw [alike.reads sendNext fun _ _ _ _ _ => rfl]
  refine alike.transmit.followed fun alike => ?_
  cases alike with
  | differ queue timer lingering =>
      apply idle
      exact .differ queue timer lingering

theorem sendSyn {flags : Flags} (syn : flags.contains .syn) (here : first.localAddress.isSome)
    (there : first.isConnected)
    (alike : Alike { first with lastSend := now } { second with lastSend := now }) :
    (first.sendControl now flags).Alike (second.sendControl now flags) := by
  have address : second.localAddress = first.localAddress :=
    alike.reads localAddress fun _ _ _ _ _ => rfl
  have connected : second.isConnected = first.isConnected :=
    alike.reads isConnected fun _ _ _ _ _ => rfl
  have here' : second.localAddress.isSome := by rwa [address]
  have there' : second.isConnected := by rwa [connected]
  rw [sendControl_timed syn here there, sendControl_timed syn here' there']
  exact alike.sendControl

theorem receiveInListen {ip : Ip.Header} (alike : first.Alike second) :
    (first.receiveInListen now ip header).Alike (second.receiveInListen now ip header) := by
  have same := alike
  cases alike with
  | differ queue timer =>
      unfold Endpoint.receiveInListen
      split
      · -- No timer runs while an endpoint listens: the instants may differ until the SYN is sent.
        refine entering rfl rfl (sendSyn (by decide) ?_ rfl ?_)
        · cases first.localAddress <;> rfl
        · exact .differ queue (fun _ _ => rfl) nofun
      · exact same.idle

theorem receive {ip : Ip.Header} (alike : first.Alike second) :
    (first.receive now ip header payload).Alike (second.receive now ip header payload) := by
  unfold Endpoint.receive
  rw [alike.reads localPort fun _ _ _ _ _ => rfl]
  refine Turn.Alike.thenReceive (alike.note _) ?_
  rw [endpoint_note, endpoint_note, alike.state]
  split
  · exact alike.idle.quiet
  · exact alike.receiveInListen.quiet
  · rename_i opening
    exact alike.receiveInSynSent opening
  · exact alike.receiveSynchronized

theorem succeeds {turn other : Turn} (alike : turn.Alike other) :
    (first.respond (.ok turn)).Alike (second.respond (.ok other)) := ⟨alike.quiet, rfl⟩

theorem fails (alike : first.Alike second) (failure : Failure) :
    (first.respond (.error failure)).Alike (second.respond (.error failure)) :=
  ⟨alike.idle.quiet, rfl⟩

theorem send {data : Octets} (alike : first.Alike second) :
    (first.perform (.send now data)).Alike (second.perform (.send now data)) := by
  rw [perform, perform, Endpoint.send, Endpoint.send,
    alike.reads refusal? fun _ _ _ _ _ => rfl]
  cases first.refusal? with
  | some failure => exact alike.fails failure
  | none =>
      dsimp only
      split
      · exact succeeds alike.idle
      · have same := alike
        cases alike with
        | differ queue timer lingering =>
            rcases SendRing.enqueue?_congr queue data with
              ⟨full, full'⟩ | ⟨grown, grown', room, room', held⟩
            · rw [full, full']
              exact same.fails _
            · rw [room, room']
              apply succeeds
              apply transmit
              exact .differ held timer lingering

theorem close (alike : first.Alike second) : (first.close now).Alike (second.close now) := by
  have same := alike
  cases alike with
  | differ queue timer lingering =>
      unfold Endpoint.close
      dsimp only
      split
      · exact same.abort
      · exact same.abort
      · apply sendFinIfDrained
        exact .differ queue timer lingering
      · apply sendFinIfDrained
        exact .differ queue timer lingering
      · apply sendFinIfDrained
        exact .differ queue timer lingering
      · exact same.idle

theorem reset (alike : first.Alike second) : (first.reset now).Alike (second.reset now) := by
  have same := alike
  cases alike
  unfold Endpoint.reset
  dsimp only
  split
  · exact same.abort
  · exact same.abort
  · exact same.transmit.followed abort

theorem retransmissionDue (alike : first.Alike second)
    (running : first.state ≠ .closed ∧ first.state ≠ .listen) :
    second.retransmissionDue now = first.retransmissionDue now := by
  cases alike with
  | differ _ timer =>
      unfold Endpoint.retransmissionDue
      dsimp only
      rw [timer running.1 running.2]

theorem tick (alike : first.Alike second) : (first.tick now).Alike (second.tick now) := by
  have same := alike
  have due := @retransmissionDue _ _ now alike
  cases alike with
  | differ queue timer lingering =>
      unfold Endpoint.tick
      dsimp only
      split
      · exact same.idle
      · exact same.idle
      · rename_i state
        rw [lingering state]
        split
        · exact same.abort
        · exact same.idle
      · rename_i notClosed notListen _
        rw [due ⟨notClosed, notListen⟩]
        split
        · exact (same.note _).followed retransmit
        · exact same.idle

end Alike

section Opening

variable {endpoint first second : Endpoint} {now : Instant} {address : Address} {port : UInt16}

theorem connect_of_closed (closed : endpoint.state = .closed)
    (addressed : endpoint.boundAddress.isSome) :
    endpoint.connect now address port = .ok ((enter .synSent { endpoint.restart with
      localAddress := endpoint.boundAddress
      remoteAddress := some address
      remotePort := some port }).andThen (sendControl now .syn)) := by
  have some_ : ¬ endpoint.boundAddress.isNone := by
    rw [Option.isNone_iff_eq_none]
    exact Option.isSome_iff_ne_none.mp addressed
  unfold connect
  rw [if_neg (not_not.mpr closed), if_neg some_]
  rfl

theorem listen_of_closed (closed : endpoint.state = .closed) :
    endpoint.listen = .ok (enter .listen { endpoint.restart with
      localAddress := endpoint.boundAddress
      remoteAddress := none
      remotePort := none }) := by
  unfold listen
  rw [if_neg (not_not.mpr closed)]
  rfl

structure Vacant (first second : Endpoint) : Prop where
  closed : first.state = .closed
  other : second.state = .closed
  config : first.config = second.config
  address : first.boundAddress = second.boundAddress
  port : first.localPort = second.localPort

theorem Vacant.connect (vacant : first.Vacant second) (addressed : first.boundAddress.isSome) :
    (first.perform (.connect now address port)).Alike
      (second.perform (.connect now address port)) := by
  obtain ⟨closed, other, config, bound, door⟩ := vacant
  rw [perform, perform, connect_of_closed closed addressed,
    connect_of_closed other (by rwa [← bound])]
  refine Alike.succeeds (Alike.entering (closed.trans other.symm) door
    (Alike.sendSyn (by decide) addressed rfl ?_))
  cases second
  dsimp only at other config bound door
  subst config bound door
  refine .differ rfl (fun _ _ => rfl) ?_
  rintro ⟨⟩

theorem Vacant.listen (vacant : first.Vacant second) :
    (first.perform .listen).Alike (second.perform .listen) := by
  obtain ⟨closed, other, config, bound, door⟩ := vacant
  rw [perform, perform, listen_of_closed closed, listen_of_closed other]
  refine Alike.succeeds (Alike.enter (closed.trans other.symm) door ?_)
  cases second
  dsimp only at other config bound door
  subst config bound door
  refine .differ rfl (fun _ waiting => absurd rfl waiting) ?_
  rintro ⟨⟩

theorem Alike.vacant (alike : first.Alike second) (closed : first.state = .closed) :
    first.Vacant second := by
  cases alike
  exact ⟨closed, closed, rfl, rfl, rfl⟩

theorem Alike.perform (alike : first.Alike second) (call : Call) :
    (first.perform call).Alike (second.perform call) := by
  cases call with
  | connect now address port =>
      by_cases ready : first.state = .closed ∧ first.boundAddress.isSome
      · exact (alike.vacant ready.1).connect ready.2
      · rw [Endpoint.perform, Endpoint.perform, Endpoint.connect, Endpoint.connect, alike.state,
          alike.reads boundAddress fun _ _ _ _ _ => rfl]
        split
        · exact alike.fails _
        · rename_i closed
          rw [Decidable.not_not] at closed
          have unaddressed : first.boundAddress.isNone := by
            rw [← Option.not_isSome, Bool.not_eq_true', ← Bool.not_eq_true]
            exact fun addressed => ready ⟨closed, addressed⟩
          rw [if_pos unaddressed, if_pos unaddressed]
          exact alike.fails _
  | listen =>
      by_cases closed : first.state = .closed
      · exact (alike.vacant closed).listen
      · rw [Endpoint.perform, Endpoint.perform, Endpoint.listen, Endpoint.listen, alike.state,
          if_pos closed, if_pos closed]
        exact alike.fails _
  | send now data => exact alike.send
  | close now => exact ⟨alike.close.quiet, rfl⟩
  | reset now => exact ⟨alike.reset.quiet, rfl⟩
  | tick now => exact ⟨alike.tick.quiet, rfl⟩
  | receive now ip header payload => exact ⟨alike.receive, rfl⟩

end Opening

end Endpoint

/-- What can be seen of a call: its result, what it has sent and reported, and the endpoint after
it, except for the window of the peer. -/
structure View where
  result : Except Failure Unit
  emitted : List Emission
  data : Option Octets
  unexpectedAck : Bool
  state : State
  unacknowledged : UInt32
  sendNext : UInt32
  receiveNext : UInt32
  buffered : Nat
  free : Nat
  localAddress : Option Address
  localPort : UInt16
  remoteAddress : Option Address
  remotePort : Option UInt16
  accepts : Ip.Header → Header → Bool

def Response.view (response : Response) : View where
  result := response.result
  emitted := response.emitted
  data := response.data
  unexpectedAck := response.unexpectedAck
  state := response.endpoint.state
  unacknowledged := response.endpoint.unacknowledged
  sendNext := response.endpoint.sendNext
  receiveNext := response.endpoint.receiveNext
  buffered := response.endpoint.ring.count
  free := response.endpoint.ring.free
  localAddress := response.endpoint.localAddress
  localPort := response.endpoint.localPort
  remoteAddress := response.endpoint.remoteAddress
  remotePort := response.endpoint.remotePort
  accepts := response.endpoint.accepts

theorem Response.Alike.view {first second : Response} (alike : first.Alike second) :
    first.view = second.view := by
  obtain ⟨⟨⟨emitted, endpoint⟩, data, unexpectedAck⟩, result⟩ := alike
  rw [Response.view, Response.view, emitted, data, unexpectedAck, result]
  revert endpoint
  generalize first.endpoint = one
  generalize second.endpoint = other
  intro endpoint
  cases endpoint with
  | differ queue =>
      dsimp only
      rw [SendRing.free, SendRing.free, SendRing.count_congr queue]
      rfl

namespace Endpoint

def observe (endpoint : Endpoint) : List Call → List View
  | [] => []
  | call :: calls => (endpoint.perform call).view :: (endpoint.perform call).endpoint.observe calls

variable {first second start before after endpoint : Endpoint} {call opening : Call}
  {output : Output} {stream : Octets} {address : Option Address} {port : UInt16} {config : Config}
  {allowed : Endpoint → Call → Prop}

theorem Alike.observe (alike : first.Alike second) (calls : List Call) :
    first.observe calls = second.observe calls := by
  induction calls generalizing first second with
  | nil => rfl
  | cons call calls ih =>
      have next := alike.perform call
      exact congrArg₂ List.cons next.view (ih next.endpoint)

theorem Vacant.perform (vacant : first.Vacant second) (opens : opening.opens)
    (succeeds : (second.perform opening).result = .ok ()) :
    (first.perform opening).Alike (second.perform opening) := by
  cases opening with
  | connect now address port =>
      apply vacant.connect
      rw [vacant.address, Option.isSome_iff_ne_none]
      intro unaddressed
      obtain ⟨failure, failed⟩ := second.connect_of_isNone now address port unaddressed
      rw [Endpoint.perform, failed] at succeeds
      cases succeeds
  | listen => exact vacant.listen
  | send | close | reset | tick | receive => cases opens

theorem Reaches.vacant (reached : (create address port config).Reaches allowed endpoint)
    (closed : endpoint.state = .closed) : endpoint.Vacant (create address port config) := by
  obtain ⟨config, bound, door⟩ := reached.fixed
  exact ⟨closed, rfl, config, bound, door⟩

theorem Move.holds (move : Move call before output after) (holds : before.ring.toList <:+ stream) :
    after.ring.toList <:+ stream ++ output.accepted := by
  have still : before.ring.toList <:+ stream ++ [] := by rwa [List.append_nil]
  have released (number : Nat) : (before.ring.release number).toList <:+ stream ++ [] := by
    rw [SendRing.toList_release]
    exact (List.drop_suffix _ _).trans still
  cases move with
  | wait | say | welcome | establish | cross | confirm | intend | sendFin | take => exact still
  | connect | listen | finishLast | abort => exact List.nil_suffix
  | acknowledge | finish => exact released _
  | queue _ _ room =>
      change SendRing.toList _ <:+ _
      rw [SendRing.toList_enqueue? room]
      exact List.suffix_append_self_iff.mpr holds

theorem Moves.holds (moves : Moves call before output after)
    (holds : before.ring.toList <:+ stream) : after.ring.toList <:+ stream ++ output.accepted := by
  induction moves generalizing stream with
  | done => rwa [List.append_nil]
  | step move _ ih =>
      have later := ih (move.holds holds)
      rwa [List.append_assoc] at later

theorem Says.payload_infix {moment : Endpoint} {sent : Segment} (spoken : moment.Says call sent) :
    sent.payload <:+: moment.ring.toList := by
  cases spoken with
  | segmentAt may =>
      change SendRing.peek _ _ _ <:+: _
      rw [SendRing.peek_eq_take_drop]
      exact (List.take_prefix _ _).isInfix.trans (List.drop_suffix _ _).isInfix

theorem output_holds (holds : endpoint.ring.toList <:+ stream) :
    ∀ sent ∈ (endpoint.output call).segments,
      sent.payload <:+: stream ++ (endpoint.output call).accepted := by
  intro sent member
  obtain ⟨early, late, parted⟩ := List.append_of_mem member
  obtain ⟨passed, moment, ⟨rest, moves, _, whole⟩, _, spoken⟩ := output_said parted
  have reached : moment.ring.toList <:+ stream ++ passed.accepted := moves.holds holds
  rw [whole, Output.accepted_append, ← List.append_assoc]
  exact (spoken.payload_infix.trans reached.isInfix).trans (List.prefix_append _ _).isInfix

theorem Records.holds (recorded : start.Records allowed nextStream [] endpoint stream)
    (drained : start.Drained) (empty : start.ring.toList = []) :
    endpoint.ring.toList <:+ stream := by
  induction recorded with
  | blank => exact List.suffix_nil.mpr empty
  | @call endpoint stream recorded call _ ih =>
      unfold nextStream
      split
      · rename_i opened
        rw [Bool.and_eq_true] at opened
        have state := state_of_opened opened.1 opened.2
        have after : (endpoint.perform call).endpoint.Drained :=
          (perform_moves _ _).keeps Move.drained (recorded.reaches.keeps Move.drained drained)
        apply List.suffix_nil.mpr
        apply after
        rcases state with state | state <;> rw [state] <;> rfl
      · exact (perform_moves _ _).holds ih

/-- However an endpoint has been used before it was closed, from the next connection on it cannot be
told from a new one. What it sends has been handed over on a later connection. -/
theorem reopened_like_new
    (reached : (create address port config).Reaches (fun _ _ => True) endpoint)
    (closed : endpoint.state = .closed) (opens : opening.opens)
    (succeeds : ((create address port config).perform opening).result = .ok ()) :
    (∀ calls, endpoint.observe (opening :: calls) =
      (create address port config).observe (opening :: calls)) ∧
    (∀ sent ∈ (endpoint.output opening).segments, sent.payload = []) ∧
    ∀ later stream, (endpoint.perform opening).endpoint.Records (fun _ _ => True) nextStream []
      later stream → ∀ call, ∀ sent ∈ (later.output call).segments,
        sent.payload <:+: later.nextStream call stream := by
  have alike := (reached.vacant closed).perform opens succeeds
  refine ⟨?_, (endpoint.opens_facts opens).1, ?_⟩
  · intro calls
    exact congrArg₂ List.cons alike.view (alike.endpoint.observe calls)
  · intro later stream recorded call sent member
    have drained : (endpoint.perform opening).endpoint.Drained :=
      (perform_moves _ _).keeps Move.drained reached.drained
    have opened : (endpoint.perform opening).endpoint.state = .listen ∨
        (endpoint.perform opening).endpoint.state = .synSent := by
      apply state_of_opened opens
      rw [alike.result, succeeds]
      rfl
    have empty := drained (by rcases opened with state | state <;> rw [state] <;> rfl)
    unfold nextStream
    split
    · rename_i again
      rw [Bool.and_eq_true] at again
      exact List.infix_nil.mpr ((later.opens_facts again.1).1 sent member)
    · exact output_holds (recorded.holds drained empty) sent member

def recycled : Endpoint := (sending.perform (.reset 5)).endpoint

theorem reaches_recycled :
    (create (some .allNodes) 1 {}).Reaches (fun _ _ => True) recycled := by
  have sent : (create (some .allNodes) 1 {}).Reaches (fun _ _ => True) sending :=
    .call (.call (.call .refl trivial) trivial) trivial
  exact .call sent trivial

/-- The second of the three octets is still in the storage, but the next connection does not send
it. -/
theorem recycled_like_new :
    let opening : Call := .connect 9 .allRouters 2
    let established := ((recycled.perform opening).endpoint.perform (.receive 9
      { nextHeader := .tcp, source := .allRouters, destination := .allNodes }
      { sourcePort := 2, destinationPort := 1, sequence := 7, acknowledgment := 1
        flags := .syn ||| .ack, window := 128 } [])).endpoint
    recycled.ring.octet 1 = 2 ∧
      (∀ calls, recycled.observe (opening :: calls) =
        (create (some .allNodes) 1 {}).observe (opening :: calls)) ∧
      ∀ sent ∈ (established.output (.send 9 [4])).segments, sent.payload <:+: [4] := by
  intro opening established
  obtain ⟨same, _, owned⟩ :=
    reopened_like_new reaches_recycled (by decide) (by decide : opening.opens) rfl
  refine ⟨by decide, same, ?_⟩
  have recorded : (recycled.perform opening).endpoint.Records (fun _ _ => True) nextStream []
      established [] := .call .blank trivial
  exact owned established [] recorded (.send 9 [4])

end Endpoint

end RadioStack.Tcp
