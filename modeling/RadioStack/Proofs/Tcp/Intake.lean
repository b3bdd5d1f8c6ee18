import RadioStack.Proofs.Tcp.Accounting
import RadioStack.Proofs.Tcp.Moment

/-!
The books of the receiving side. The number expected next is that of the peer's SYN, one more, the
octets reported since, and one more for its FIN; whatever is acknowledged is this number as it is
at the moment. Main statement: `reachable_intake_counted`.
-/

namespace RadioStack.Tcp

namespace State

inductive SamePeer (before after : State) : Prop
  | ended (closed : after = .closed)
  | waiting (unknown : before.knowsPeer = false) (same : after = before)
  | running (known : before.knowsPeer) (still : after.knowsPeer)
    (finished : after.peerFinished = before.peerFinished)

theorem SamePeer.refl (state : State) : state.SamePeer state := by
  cases known : state.knowsPeer with
  | true => exact .running known known rfl
  | false => exact .waiting known rfl

theorem SamePeer.trans {first second third : State} (early : first.SamePeer second)
    (late : second.SamePeer third) : first.SamePeer third := by
  cases late with
  | ended closed => exact .ended closed
  | waiting _ same => rwa [same]
  | running known still finished =>
      cases early with
      | ended closed => rw [closed] at known; cases known
      | waiting _ same => rw [same] at known finished; exact .running known still finished
      | running known' _ finished' => exact .running known' still (finished.trans finished')

theorem SamePeer.known {before after : State} (same : before.SamePeer after)
    (known : after.knowsPeer) : before.knowsPeer ∧ after.peerFinished = before.peerFinished := by
  cases same with
  | ended closed => rw [closed] at known; cases known
  | waiting unknown same => rw [same, unknown] at known; cases known
  | running known' _ finished => exact ⟨known', finished⟩

theorem SamePeer.opening {before after : State} (same : before.SamePeer after)
    (opening : after = .listen ∨ after = .synSent) : before = after := by
  cases same with
  | ended closed => rcases opening with state | state <;> rw [closed] at state <;> cases state
  | waiting _ same => exact same.symm
  | running _ still => rcases opening with state | state <;> rw [state] at still <;> cases still

theorem SamePeer.unknown {before after : State} (same : before.SamePeer after)
    (unknown : before.knowsPeer = false) : after = before ∨ after = .closed := by
  cases same with
  | ended closed => exact .inr closed
  | waiting _ same => exact .inl same
  | running known => rw [unknown] at known; cases known

/-- A state that stands for all those in which the peer is known and its FIN taken or not. -/
def withPeer (finished : Bool) : State := if finished then .closeWait else .established

theorem withPeer_facts (finished : Bool) :
    (withPeer finished).knowsPeer ∧ (withPeer finished).peerFinished = finished := by
  cases finished <;> decide

end State

namespace Output

def acknowledgments (output : Output) : List UInt32 :=
  (output.segments.filter (·.header.flags.contains .ack)).map (·.header.acknowledgment)

@[simp] theorem acknowledgments_append (first second : Output) :
    (first ++ second).acknowledgments = first.acknowledgments ++ second.acknowledgments := by
  simp [acknowledgments]

theorem acknowledgment_mem {output : Output} {sent : Segment} (member : sent ∈ output.segments)
    (ack : sent.header.flags.contains .ack) :
    sent.header.acknowledgment ∈ output.acknowledgments :=
  List.mem_map.mpr ⟨sent, List.mem_filter.mpr ⟨member, ack⟩, rfl⟩

end Output

namespace Call

def syn? : Call → Option UInt32
  | .receive _ _ header _ => if header.flags.contains .syn then some header.sequence else none
  | _ => none

/-- The call brings a FIN, in order, and the number expected next has gone past it. -/
def passesFin (call : Call) (before after : Endpoint) : Bool :=
  match call with
  | .receive _ _ header payload =>
    header.flags.contains .fin && header.sequence == before.receiveNext &&
      after.receiveNext == ahead header.sequence (payload.length + 1)
  | _ => false

/-- What the call brings fits into the sequence numbers together with a FIN. -/
def Short : Call → Prop
  | .receive _ _ _ payload => payload.length < 0xffffffff
  | _ => True

end Call

/-- What has come in on a connection: the number of the peer's SYN, the data reported since, whether
a FIN has been accepted, and the numbers that have been acknowledged. -/
structure Intake where
  first : UInt32
  reported : Octets
  finished : Bool
  acknowledged : List UInt32
  deriving DecidableEq

namespace Intake

/-- What has come in by a moment of a call. The record begins when a SYN makes the peer known, and
is dropped when the connection ends. -/
def next (before : Endpoint) (call : Call) (output : Output) (moment : Endpoint)
    (intake : Option Intake) : Option Intake :=
  if moment.state.knowsPeer then
    match intake with
    | none => call.syn?.map fun first =>
        { first, reported := output.reported, finished := false
          acknowledged := output.acknowledgments }
    | some known => some { known with
        reported := known.reported ++ output.reported
        finished := known.finished || call.passesFin before moment
        acknowledged := known.acknowledged ++ output.acknowledgments }
  else none

def enter (endpoint : Endpoint) (call : Call) (intake : Option Intake) : Option Intake :=
  next endpoint call (endpoint.output call) (endpoint.perform call).endpoint intake

def count (intake : Intake) : Nat := 1 + intake.reported.length + intake.finished.toNat

def Rising (first : UInt32) (bound : Nat) (numbers : List UInt32) : Prop :=
  ∃ counts : List Nat, counts.Pairwise (· ≤ ·) ∧ (∀ count ∈ counts, count ≤ bound) ∧
    numbers = counts.map (ahead first)

/-- The endpoint expects what comes after everything that has come in, and has acknowledged ever
more of it. -/
structure Counts (intake : Intake) (endpoint : Endpoint) : Prop where
  expected : endpoint.receiveNext = ahead intake.first intake.count
  finished : intake.finished = endpoint.state.peerFinished
  acknowledged : Rising intake.first intake.count intake.acknowledged

structure Tallies (intake : Option Intake) (endpoint : Endpoint) : Prop where
  unknown : endpoint.state.knowsPeer = false → intake = none
  known : endpoint.state.knowsPeer → ∃ taken, intake = some taken ∧ taken.Counts endpoint

end Intake

namespace Endpoint

inductive Hears (call : Call) (before : Endpoint) (output : Output) (after : Endpoint) : Prop
  | opened (opens : call.opens) (unknown : after.state.knowsPeer = false)
    (silent : output.reported = [])
  | unheard (silent : output.reported = []) (next : after.receiveNext = before.receiveNext)
    (state : before.state.SamePeer after.state)
    (acknowledged : ∀ number ∈ output.acknowledgments,
      before.state.knowsPeer ∧ number = before.receiveNext)
  | introduced {now : Instant} {ip : Ip.Header} {header : Header} {payload : Octets}
    (called : call = .receive now ip header payload) (syn : header.flags.contains .syn)
    (opening : before.state = .listen ∨ before.state = .synSent) (silent : output.reported = [])
    (next : after.receiveNext = header.sequence + 1)
    (state : (State.withPeer false).SamePeer after.state)
    (acknowledged : ∀ number ∈ output.acknowledgments, number = after.receiveNext)
  | taken {now : Instant} {ip : Ip.Header} {header : Header} {payload : Octets}
    (called : call = .receive now ip header payload)
    (noSyn : header.flags.contains .syn = false) (known : before.state.knowsPeer)
    (continuing : before.state.peerFinished = false)
    (inOrder : header.sequence = before.receiveNext) (occupied : header.span payload.length ≠ 0)
    (reported : output.reported = payload)
    (next : after.receiveNext = before.receiveNext + header.span payload.length)
    (state : (State.withPeer (header.flags.contains .fin)).SamePeer after.state)
    (acknowledged : ∃ early late, output.acknowledgments = early ++ late ∧
      (∀ number ∈ early, number = before.receiveNext) ∧
      ∀ number ∈ late, number = after.receiveNext)

section Hears

variable {call : Call} {before middle after : Endpoint} {output rest : Output}

theorem Hears.still (silent : output.reported = []) (sent : output.segments = [])
    (next : after.receiveNext = before.receiveNext) (state : before.state.SamePeer after.state) :
    Hears call before output after := by
  refine .unheard silent next state ?_
  rw [Output.acknowledgments, sent]
  nofun

theorem Move.hears (move : Move call before output after) : Hears call before output after := by
  cases move with
  | wait | queue | intend | acknowledge => exact .still rfl rfl rfl (.refl _)
  | say may =>
      refine .unheard rfl rfl (.refl _) ?_
      intro number listed
      obtain ⟨sent, member, same⟩ := List.mem_map.mp listed
      obtain ⟨spoken, ack⟩ := List.mem_filter.mp member
      rw [List.mem_singleton] at spoken
      subst spoken same
      exact ⟨may.knowsPeer_of_ack ack, if_pos ack⟩
  | connect called | listen called => exact .opened (by rw [called]; rfl) rfl rfl
  | welcome called listening syn =>
      exact .introduced called syn (.inl listening) rfl rfl (.running rfl rfl rfl) nofun
  | establish called opening syn | cross called opening syn =>
      exact .introduced called syn (.inr opening) rfl rfl (.running rfl rfl rfl) nofun
  | confirm _ answered =>
      refine .still rfl rfl rfl (.running ?_ rfl ?_) <;> rw [answered] <;> rfl
  | finish _ next =>
      refine .still rfl rfl rfl ?_
      rcases next with ⟨state, rfl⟩ | ⟨state, rfl⟩ <;> rw [state] <;> exact .running rfl rfl rfl
  | sendFin _ _ next =>
      refine .still rfl rfl rfl ?_
      rcases finState?_eq_some next with ⟨state, rfl⟩ | ⟨state, rfl⟩ <;> rw [state] <;>
        exact .running rfl rfl rfl
  | finishLast | abort => exact .still rfl rfl rfl (.ended rfl)
  | @take _ _ header _ called noSyn _ accepting inOrder occupied =>
      obtain ⟨known, continuing⟩ := State.knowsPeer_of_acceptsText accepting
      refine .taken called noSyn known continuing inOrder occupied rfl rfl ?_
        ⟨[], [], rfl, nofun, nofun⟩
      dsimp only
      cases header.flags.contains .fin with
      | false => exact .running rfl known continuing
      | true =>
          obtain ⟨finished, _⟩ := State.peerFinished_afterPeerFin accepting
          refine .running rfl ?_ finished
          exact State.knowsPeer_of_isSynchronized (State.isSynchronized_of_acceptsText accepting).2

theorem Hears.trans (first : Hears call before output middle)
    (second : Hears call middle rest after) : Hears call before (output ++ rest) after := by
  cases second with
  | opened opens unknown silent =>
      cases first with
      | opened _ _ silent' | unheard silent' =>
          exact .opened opens unknown (by rw [Output.reported_append, silent', silent]; rfl)
      | introduced called | taken called => rw [called] at opens; cases opens
  | unheard silent next state acknowledged =>
      cases first with
      | opened opens unknown silent' =>
          refine .opened opens ?_ (by rw [Output.reported_append, silent', silent]; rfl)
          rcases state.unknown unknown with same | closed
          · rw [same, unknown]
          · rw [closed]
            rfl
      | unheard silent' next' state' acknowledged' =>
          refine .unheard (by rw [Output.reported_append, silent', silent]; rfl)
            (next.trans next') (state'.trans state) ?_
          intro number listed
          rw [Output.acknowledgments_append, List.mem_append] at listed
          rcases listed with listed | listed
          · exact acknowledged' number listed
          · obtain ⟨known, same⟩ := acknowledged number listed
            exact ⟨(state'.known known).1, by rw [same, next']⟩
      | introduced called syn opening silent' next' state' acknowledged' =>
          refine .introduced called syn opening
            (by rw [Output.reported_append, silent', silent]; rfl) (next.trans next')
            (state'.trans state) ?_
          intro number listed
          rw [Output.acknowledgments_append, List.mem_append] at listed
          rcases listed with listed | listed
          · rw [acknowledged' number listed, next]
          · rw [(acknowledged number listed).2, next]
      | taken called noSyn known continuing inOrder occupied reported next' state' acknowledged' =>
          obtain ⟨early, late, whole, before_, after_⟩ := acknowledged'
          refine .taken called noSyn known continuing inOrder occupied
            (by rw [Output.reported_append, reported, silent, List.append_nil]) (next.trans next')
            (state'.trans state) ⟨early, late ++ rest.acknowledgments, ?_, before_, ?_⟩
          · rw [Output.acknowledgments_append, whole, List.append_assoc]
          · intro number listed
            rcases List.mem_append.mp listed with listed | listed
            · rw [after_ number listed, next]
            · rw [(acknowledged number listed).2, next]
  | introduced called syn opening silent next state acknowledged =>
      cases first with
      | opened opens => rw [called] at opens; cases opens
      | unheard silent' next' state' acknowledged' =>
          have waiting := state'.opening opening
          refine .introduced called syn (by rwa [waiting])
            (by rw [Output.reported_append, silent', silent]; rfl) next state ?_
          intro number listed
          rw [Output.acknowledgments_append, List.mem_append] at listed
          rcases listed with listed | listed
          · have known := (acknowledged' number listed).1
            rw [waiting] at known
            rcases opening with state | state <;> rw [state] at known <;> cases known
          · exact acknowledged number listed
      | introduced _ _ _ _ _ state' =>
          have waiting := state'.opening opening
          rcases opening with state | state <;> rw [state] at waiting <;> cases waiting
      | taken called' noSyn =>
          rw [called] at called'
          cases called'
          rw [syn] at noSyn
          cases noSyn
  | taken called noSyn known continuing inOrder occupied reported next state acknowledged =>
      cases first with
      | opened _ unknown => rw [unknown] at known; cases known
      | unheard silent' next' state' acknowledged' =>
          obtain ⟨known', finished⟩ := state'.known known
          obtain ⟨early, late, whole, before_, after_⟩ := acknowledged
          refine .taken called noSyn known' (by rw [← finished, continuing])
            (by rw [inOrder, next']) occupied
            (by rw [Output.reported_append, silent', reported]; rfl) (by rw [next, next'])
            state ⟨output.acknowledgments ++ early, late, ?_, ?_, after_⟩
          · rw [Output.acknowledgments_append, whole, List.append_assoc]
          · intro number listed
            rcases List.mem_append.mp listed with listed | listed
            · exact (acknowledged' number listed).2
            · rw [before_ number listed, next']
      | introduced called' syn =>
          rw [called] at called'
          cases called'
          rw [syn] at noSyn
          cases noSyn
      | taken called' _ _ _ inOrder' _ _ next' =>
          rw [called] at called'
          cases called'
          -- The segment has been taken, so it does not begin with what is expected now.
          rw [next', inOrder'] at inOrder
          exact absurd (by simpa using inOrder.symm) occupied

theorem Moves.hears (moves : Moves call before output after) : Hears call before output after := by
  induction moves with
  | done => exact .still rfl rfl rfl (.refl _)
  | step move _ ih => exact move.hears.trans ih

end Hears

end Endpoint

namespace Intake

open Endpoint (Hears)

theorem Rising.nil (first : UInt32) (bound : Nat) : Rising first bound [] :=
  ⟨[], .nil, nofun, rfl⟩

theorem Rising.extend {first : UInt32} {bound more : Nat} {numbers later : List UInt32}
    (rising : Rising first bound numbers) (ordered : bound ≤ more)
    (same : ∀ number ∈ later, number = ahead first more) :
    Rising first more (numbers ++ later) := by
  obtain ⟨counts, sorted, bounded, listed⟩ := rising
  refine ⟨counts ++ List.replicate later.length more, ?_, ?_, ?_⟩
  · refine List.pairwise_append.mpr ⟨sorted, List.pairwise_replicate.mpr (.inr (Nat.le_refl _)), ?_⟩
    intro count member last repeated
    rw [List.eq_of_mem_replicate repeated]
    exact Nat.le_trans (bounded count member) ordered
  · intro count member
    rcases List.mem_append.mp member with member | repeated
    · exact Nat.le_trans (bounded count member) ordered
    · exact Nat.le_of_eq (List.eq_of_mem_replicate repeated)
  · rw [List.map_append, ← listed, List.map_replicate, ← List.eq_replicate_of_mem same]

variable {call : Call} {before moment : Endpoint} {output : Output} {intake : Option Intake}

/-- A FIN takes a number, so it has not been passed while the number expected stays the same. -/
theorem passesFin_of_next (short : call.Short) (next : moment.receiveNext = before.receiveNext) :
    call.passesFin before moment = false := by
  cases call with
  | receive now ip header payload =>
      change payload.length < 0xffffffff at short
      rw [← Bool.not_eq_true]
      intro passed
      simp only [Call.passesFin, Bool.and_eq_true, beq_iff_eq, next] at passed
      obtain ⟨⟨_, inOrder⟩, past⟩ := passed
      rw [inOrder] at past
      have bounded : payload.length + 1 < 4294967296 := by omega
      have distance := (toNat_sub_eq_iff before.receiveNext before.receiveNext bounded).mpr past
      rw [UInt32.sub_self, UInt32.toNat_zero] at distance
      omega
  | connect | listen | send | close | reset | tick => rfl

theorem span_eq {header : Header} {payload : Octets} (noSyn : header.flags.contains .syn = false) :
    header.span payload.length =
      (payload.length + (header.flags.contains .fin).toNat).toUInt32 := by
  cases fin : header.flags.contains .fin <;> simp [Header.span, noSyn, fin]

theorem passesFin_of_taken {now : Instant} {ip : Ip.Header} {header : Header} {payload : Octets}
    (noSyn : header.flags.contains .syn = false) (inOrder : header.sequence = before.receiveNext)
    (next : moment.receiveNext = before.receiveNext + header.span payload.length) :
    Call.passesFin (.receive now ip header payload) before moment =
      header.flags.contains .fin := by
  rw [Call.passesFin, next, ← inOrder, span_eq noSyn, beq_self_eq_true]
  cases header.flags.contains .fin with
  | false => rfl
  | true => exact beq_self_eq_true _

theorem Tallies.next (tallies : Tallies intake before) (hears : Hears call before output moment)
    (short : call.Short) : Tallies (next before call output moment intake) moment := by
  refine ⟨?_, ?_⟩
  · intro unknown
    unfold Intake.next
    rw [unknown]
    rfl
  · intro known
    unfold Intake.next
    rw [if_pos known]
    cases hears with
    | opened _ unknown => rw [unknown] at known; cases known
    | unheard silent next state acknowledged =>
        obtain ⟨knownBefore, finished⟩ := state.known known
        obtain ⟨taken, rfl, counts⟩ := tallies.known knownBefore
        refine ⟨_, rfl, ?_⟩
        rw [passesFin_of_next short next, silent, List.append_nil, Bool.or_false]
        refine ⟨next.trans counts.expected, counts.finished.trans finished.symm, ?_⟩
        refine counts.acknowledged.extend (Nat.le_refl _) ?_
        intro number listed
        rw [(acknowledged number listed).2]
        exact counts.expected
    | @introduced _ _ header _ called syn opening silent next state acknowledged =>
        have unknown : before.state.knowsPeer = false := by
          rcases opening with state | state <;> rw [state] <;> rfl
        rw [tallies.unknown unknown, called, Call.syn?, if_pos syn]
        refine ⟨_, rfl, ?_⟩
        rw [silent]
        refine ⟨next, (state.known known).2.symm, ?_⟩
        refine (Rising.nil header.sequence 1).extend (Nat.le_refl 1) ?_
        intro number listed
        rw [acknowledged number listed, next]
        rfl
    | @taken _ _ header payload called noSyn knownBefore continuing inOrder _ reported next state
        acknowledged =>
        obtain ⟨taken, rfl, counts⟩ := tallies.known knownBefore
        refine ⟨_, rfl, ?_⟩
        have unfinished : taken.finished = false := counts.finished.trans continuing
        obtain ⟨early, late, whole, before_, after_⟩ := acknowledged
        rw [called, passesFin_of_taken noSyn inOrder next, unfinished, Bool.false_or, reported]
        have expected : moment.receiveNext = ahead taken.first
            (1 + (taken.reported ++ payload).length + (header.flags.contains .fin).toNat) := by
          have count : taken.count = 1 + taken.reported.length := by
            rw [count, unfinished]
            rfl
          rw [next, counts.expected, span_eq noSyn, count, List.length_append]
          exact (ahead_ahead _ _ _).trans (by congr 1; omega)
        refine ⟨expected, ?_, ?_⟩
        · rw [(state.known known).2]
          exact (State.withPeer_facts _).2.symm
        · rw [whole, ← List.append_assoc]
          refine (counts.acknowledged.extend (Nat.le_refl _) ?_).extend ?_ ?_
          · intro number listed
            rw [before_ number listed, counts.expected]
          · rw [count, unfinished, count, List.length_append, Bool.toNat_false]
            dsimp only
            omega
          · intro number listed
            rw [after_ number listed, expected]
            rfl

end Intake

namespace Endpoint

variable {call : Call} {endpoint : Endpoint} {intake : Option Intake}

theorem data_receiveText (now : Instant) (header : Header) (payload : Octets) :
    (endpoint.receiveText now header payload).data ≠ some [] := by
  dsimp only [receiveText]
  split
  · nofun
  · split
    · nofun
    · split
      · nofun
      · split
        · nofun
        · cases payload with
          | nil => nofun
          | cons => nofun

theorem data_receive (now : Instant) (ip : Ip.Header) (header : Header) (payload : Octets) :
    (endpoint.receive now ip header payload).data ≠ some [] := by
  unfold receive
  dsimp only [Turn.thenReceive]
  split
  · nofun
  · nofun
  · unfold receiveInSynSent
    dsimp only
    split
    · nofun
    · split
      · split <;> nofun
      · split <;> nofun
  · unfold receiveSynchronized
    split
    · nofun
    · split
      · nofun
      · exact data_receiveText now header payload

theorem data_perform (endpoint : Endpoint) (call : Call) :
    (endpoint.perform call).data ≠ some [] := by
  cases call with
  | receive now ip header payload => exact data_receive now ip header payload
  | connect now address port =>
      rw [perform]
      cases endpoint.connect now address port <;> rintro ⟨⟩
  | listen =>
      rw [perform]
      cases endpoint.listen <;> rintro ⟨⟩
  | send now data =>
      rw [perform]
      cases endpoint.send now data <;> rintro ⟨⟩
  | close | reset | tick => rintro ⟨⟩

theorem data_perform_eq_some {data : Octets} (reports : (endpoint.perform call).data = some data) :
    ∃ now ip header, call = .receive now ip header data ∧
      header.sequence = endpoint.receiveNext ∧ endpoint.state.knowsPeer ∧
      endpoint.state.peerFinished = false := by
  have occupied : data ≠ [] := by
    intro empty
    rw [empty] at reports
    exact data_perform endpoint call reports
  have reported : (endpoint.output call).reported = data := by
    change (endpoint.perform call).data.getD [] = data
    rw [reports]
    rfl
  cases (perform_moves endpoint call).hears with
  | opened _ _ silent | unheard silent | introduced _ _ _ silent =>
      exact absurd (reported.symm.trans silent) occupied
  | taken called _ known continuing inOrder _ taken =>
      rw [reported] at taken
      rw [taken]
      exact ⟨_, _, _, called, inOrder, known, continuing⟩

theorem tallies_create (address : Option Address) (port : UInt16) (config : Config) :
    Intake.Tallies none (create address port config) :=
  ⟨fun _ => rfl, nofun⟩

theorem Records.tallies {start : Endpoint}
    (recorded : start.Records (fun _ call => call.Short) Intake.enter none endpoint intake)
    (tallies : Intake.Tallies none start) : Intake.Tallies intake endpoint := by
  induction recorded with
  | blank => exact tallies
  | call _ short ih => exact ih.next (perform_moves _ _).hears short

/-- At every moment while the peer is known, what is expected next counts what has come in, and what
is acknowledged is what is expected then. Data is reported as it comes, in order, and not after a
FIN. -/
theorem reachable_intake_counted {address : Option Address} {port : UInt16} {config : Config}
    (recorded : (create address port config).Records (fun _ call => call.Short) Intake.enter none
      endpoint intake) (short : call.Short) :
    (∀ output moment, endpoint.Passes call output moment → moment.state.knowsPeer →
      ∃ taken, Intake.next endpoint call output moment intake = some taken ∧
        taken.Counts moment) ∧
    (∀ data, (endpoint.perform call).data = some data →
      ∃ taken now ip header, intake = some taken ∧ taken.finished = false ∧
        call = .receive now ip header data ∧ header.sequence = endpoint.receiveNext) ∧
    ∀ early sent late, (endpoint.output call).segments = early ++ sent :: late →
      sent.header.flags.contains .ack →
        ∃ output moment, endpoint.Passes call output moment ∧ output.segments = early ∧
          moment.state.knowsPeer ∧ sent.header.acknowledgment = moment.receiveNext := by
  have tallies := recorded.tallies (tallies_create address port config)
  refine ⟨?_, ?_, ?_⟩
  · rintro output moment ⟨_, reached, _⟩ known
    exact (tallies.next reached.hears short).known known
  · intro data reports
    obtain ⟨now, ip, header, called, inOrder, known, continuing⟩ := data_perform_eq_some reports
    obtain ⟨taken, same, counts⟩ := tallies.known known
    exact ⟨taken, now, ip, header, same, counts.finished.trans continuing, called, inOrder⟩
  · intro early sent late parted ack
    obtain ⟨output, moment, passes, sentEarly, spoken⟩ := output_said parted
    obtain ⟨known, matching⟩ := spoken.acknowledgment ack
    exact ⟨output, moment, passes, sentEarly, known, matching⟩

theorem records_waiting :
    (create (some .allNodes) 1 {}).Records (fun _ call => call.Short) Intake.enter none waiting
      (some { first := 7, reported := [], finished := false, acknowledged := [8] }) := by
  have opened : (create (some .allNodes) 1 {}).Records (fun _ call => call.Short) Intake.enter none
      ((create (some .allNodes) 1 {}).perform (.connect 0 .allRouters 2)).endpoint none :=
    .call .blank trivial
  exact .call opened (by decide : 0 < 0xffffffff)

/-- Three octets come in with a FIN, and both are acknowledged. -/
theorem waiting_intake_counted :
    let header : Header := {
      sourcePort := 2, destinationPort := 1, sequence := 8, acknowledgment := 1
      flags := .fin ||| .ack, window := 128 }
    let call : Call := .receive 0
      { nextHeader := .tcp, source := .allRouters, destination := .allNodes } header [1, 2, 3]
    let after := waiting.perform call
    call.Short ∧ after.data = some [1, 2, 3] ∧ header.sequence = waiting.receiveNext ∧
      Intake.Counts { first := 7, reported := [1, 2, 3], finished := true, acknowledged := [8, 12] }
        after.endpoint ∧
      ∃ output moment sent, waiting.Passes call output moment ∧ output.segments = [] ∧
        after.segments = [sent] ∧ sent.header.acknowledgment = moment.receiveNext := by
  intro header call after
  have short : call.Short := (by decide : 3 < 0xffffffff)
  obtain ⟨counted, reported, acknowledged⟩ := reachable_intake_counted records_waiting short
  obtain ⟨taken, whole, counts⟩ := counted _ _ (passes_end waiting call) (by decide)
  have same : taken = {
      first := 7, reported := [1, 2, 3], finished := true, acknowledged := [8, 12] } :=
    Option.some.inj (whole.symm.trans (by decide))
  obtain ⟨_, _, _, header', _, _, called, inOrder⟩ := reported [1, 2, 3] (by decide)
  obtain ⟨sent, only⟩ : ∃ sent, after.segments = [sent] := List.length_eq_one_iff.mp (by decide)
  have ack : ∀ sent ∈ after.segments, sent.header.flags.contains .ack := by decide
  obtain ⟨output, moment, passes, silent, _, matching⟩ :=
    acknowledged [] sent [] only (ack sent (by rw [only]; exact List.mem_singleton_self sent))
  injection called with _ _ sameHeader
  rw [← sameHeader] at inOrder
  exact ⟨short, by decide, inOrder, same ▸ counts, output, moment, sent, passes, silent, only,
    matching⟩

end Endpoint

end RadioStack.Tcp
