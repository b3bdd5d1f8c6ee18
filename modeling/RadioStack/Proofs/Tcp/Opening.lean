import RadioStack.Proofs.Tcp.Label

/-!
What is true of every endpoint that calls can lead to, also after segments that mislead it: until a
connection is synchronized both counters stand where they began, and octets wait in the ring only
while they can be sent. Main statements: `Reaches.begins`, `Reaches.drained`.
-/

namespace RadioStack.Tcp

namespace Endpoint

def Begins (endpoint : Endpoint) : Prop :=
  endpoint.state ≠ .closed → endpoint.state.isSynchronized = false →
    endpoint.unacknowledged = endpoint.config.initialSequence ∧
      endpoint.sendNext = ahead endpoint.config.initialSequence endpoint.state.flagsSent

/-- Octets wait in the ring only while the state lets them be sent. -/
def Drained (endpoint : Endpoint) : Prop :=
  endpoint.state.carriesData = false → endpoint.ring.toList = []

variable {call : Call} {start before after endpoint : Endpoint} {output : Output}
  {allowed : Endpoint → Call → Prop}

theorem Move.begins (move : Move call before output after) (begins : before.Begins) :
    after.Begins := by
  cases move with
  | wait | say | intend => exact begins
  | connect => exact fun _ _ => ⟨rfl, rfl⟩
  | listen => exact fun _ _ => ⟨rfl, (ahead_zero _).symm⟩
  | welcome _ listening =>
      intro _ _
      obtain ⟨oldest, next⟩ := begins (by simp [listening]) (by rw [listening]; rfl)
      rw [listening] at next
      refine ⟨oldest, ?_⟩
      change before.sendNext + 1 = _
      rw [next, ahead_succ]
      rfl
  | cross _ opening =>
      intro _ _
      obtain ⟨oldest, next⟩ := begins (by simp [opening]) (by rw [opening]; rfl)
      rw [opening] at next
      exact ⟨oldest, next⟩
  | establish | confirm => rintro _ ⟨⟩
  | queue _ ready =>
      intro _ opening
      have carries := carriesData_of_refusal?_eq_none ready
      rw [State.isSynchronized_of_carriesData carries] at opening
      cases opening
  | acknowledge _ synchronized =>
      intro _ opening
      rw [synchronized] at opening
      cases opening
  | finish _ next => rcases next with ⟨_, rfl⟩ | ⟨_, rfl⟩ <;> rintro _ ⟨⟩
  | finishLast | abort => exact fun running => absurd rfl running
  | sendFin _ _ next => rcases finState?_eq_some next with ⟨_, rfl⟩ | ⟨_, rfl⟩ <;> rintro _ ⟨⟩
  | @take _ _ header _ _ _ _ accepting =>
      obtain ⟨still, finished⟩ := State.isSynchronized_of_acceptsText accepting
      intro _ opening
      dsimp only at opening
      split at opening
      · rw [finished] at opening
        cases opening
      · rw [still] at opening
        cases opening

theorem Move.drained (move : Move call before output after) (drained : before.Drained) :
    after.Drained := by
  cases move with
  | wait | say | intend => exact drained
  | connect | listen | finishLast | abort => exact fun _ => rfl
  | welcome _ state | cross _ state => exact fun _ => drained (by rw [state]; rfl)
  | establish | confirm => rintro ⟨⟩
  | queue _ ready =>
      intro empty
      rw [carriesData_of_refusal?_eq_none ready] at empty
      cases empty
  | acknowledge =>
      intro empty
      change (before.ring.release _).toList = []
      rw [SendRing.toList_release, drained empty, List.drop_nil]
  | finish _ next =>
      intro _
      change (before.ring.release _).toList = []
      rw [SendRing.toList_release, drained, List.drop_nil]
      rcases next with ⟨state, _⟩ | ⟨state, _⟩ <;> rw [state] <;> rfl
  | sendFin _ empty => exact fun _ => (SendRing.isEmpty_iff _).mp empty
  | take =>
      intro empty
      apply drained
      rw [← empty]
      dsimp only
      split
      · exact before.state.afterPeerFin_books.2.2.1.symm
      · rfl

theorem Move.fixed (move : Move call before output after) :
    after.config = before.config ∧ after.boundAddress = before.boundAddress ∧
      after.localPort = before.localPort := by
  cases move <;> exact ⟨rfl, rfl, rfl⟩

theorem Reaches.keeps {holds : Endpoint → Prop} (reached : start.Reaches allowed endpoint)
    (kept : ∀ {call before output after}, Move call before output after →
      holds before → holds after) (first : holds start) : holds endpoint := by
  induction reached with
  | refl => exact first
  | call _ _ ih => exact (perform_moves _ _).keeps kept ih

theorem Records.reaches {Record : Type} {enter : Endpoint → Call → Record → Record}
    {blank record : Record} (recorded : start.Records allowed enter blank endpoint record) :
    start.Reaches allowed endpoint := by
  induction recorded with
  | blank => exact .refl
  | call _ admitted ih => exact .call ih admitted

variable {address : Option Address} {port : UInt16} {config : Config}

theorem Reaches.begins (reached : (create address port config).Reaches allowed endpoint) :
    endpoint.Begins :=
  reached.keeps Move.begins fun running => absurd rfl running

theorem Reaches.drained (reached : (create address port config).Reaches allowed endpoint) :
    endpoint.Drained :=
  reached.keeps Move.drained fun _ => rfl

theorem Reaches.fixed (reached : (create address port config).Reaches allowed endpoint) :
    endpoint.config = config ∧ endpoint.boundAddress = address ∧ endpoint.localPort = port := by
  have kept : ∀ {call before after output}, Move call before output after →
      (before.config = config ∧ before.boundAddress = address ∧ before.localPort = port) →
        after.config = config ∧ after.boundAddress = address ∧ after.localPort = port := by
    intro call before after output move same
    obtain ⟨config, bound, door⟩ := move.fixed
    rwa [config, bound, door]
  exact reached.keeps kept ⟨rfl, rfl, rfl⟩

theorem Reaches.bound (reached : (create address port config).Reaches allowed endpoint) :
    endpoint.Bound := by
  induction reached with
  | refl => exact fun running => absurd rfl running
  | call _ _ ih => exact ih.perform _

theorem state_of_opened (opens : call.opens) (opened : (endpoint.perform call).result.isOk) :
    (endpoint.perform call).endpoint.state = .listen ∨
      (endpoint.perform call).endpoint.state = .synSent := by
  cases call with
  | connect now address port =>
      rw [perform] at opened ⊢
      cases connected : endpoint.connect now address port with
      | ok turn => exact .inr (connect_opens connected).1
      | error failure =>
          rw [connected] at opened
          cases opened
  | listen =>
      rw [perform] at opened ⊢
      cases listened : endpoint.listen with
      | ok turn => exact .inl (listen_opens listened).1
      | error failure =>
          rw [listened] at opened
          cases opened
  | send | close | reset | tick | receive => cases opens

theorem idle_of_unopened (opens : call.opens)
    (unopened : (endpoint.perform call).result.isOk = false) :
    (endpoint.perform call).endpoint = endpoint ∧ endpoint.output call = {} := by
  cases call with
  | connect now address port =>
      rw [Endpoint.output, perform]
      rw [perform] at unopened
      cases connected : endpoint.connect now address port with
      | ok turn =>
          rw [connected] at unopened
          cases unopened
      | error failure => exact ⟨rfl, rfl⟩
  | listen =>
      rw [Endpoint.output, perform]
      rw [perform] at unopened
      cases listened : endpoint.listen with
      | ok turn =>
          rw [listened] at unopened
          cases unopened
      | error failure => exact ⟨rfl, rfl⟩
  | send | close | reset | tick | receive => cases opens

/-- A call continues a connection, opens one or fails to. -/
theorem opens_cases (endpoint : Endpoint) (call : Call) :
    call.opens = false ∨ (call.opens ∧ (endpoint.perform call).result.isOk) ∨
      (call.opens ∧ (endpoint.perform call).result.isOk = false) := by
  cases call.opens <;> cases (endpoint.perform call).result.isOk <;> simp

theorem flags_of_opens (opens : call.opens) :
    ∀ sent ∈ (endpoint.output call).segments, sent.header.flags = .syn := by
  intro sent member
  cases call with
  | connect now address port =>
      rw [Endpoint.output, perform] at member
      unfold connect at member
      split at member
      · cases member
      · split at member
        · cases member
        · change sent ∈ ((Turn.andThen _ (sendControl now .syn)).segments) at member
          rw [Turn.segments_andThen, segments_enter, List.nil_append, sendControl_eq] at member
          obtain ⟨_, _, _, rfl⟩ := mem_transmit _ member
          rfl
  | listen =>
      have silent : (endpoint.output .listen).segments = [] := by
        rw [Endpoint.output, perform]
        cases listened : endpoint.listen with
        | ok turn => exact (listen_opens listened).2
        | error failure => rfl
      rw [silent] at member
      cases member
  | send | close | reset | tick | receive => cases opens

end Endpoint

end RadioStack.Tcp
