import RadioStack.Proofs.Tcp.Flow

/-!
A move of either party keeps what the receiver has reported a beginning of what the sender has
accepted, whatever segment of the other it acts upon. Main statements: `Delivers.send`,
`Delivers.receive`.
-/

namespace RadioStack.Tcp

namespace Endpoint

variable {call : Call} {before after : Endpoint} {output : Output}

theorem Move.continues (move : Move call before output after) (continues : call.opens = false) :
    after.config = before.config ∧ after.localPort = before.localPort ∧
      (before.state.finished → after.state.finished ∧ output.accepted = []) := by
  cases move with
  | wait | say | acknowledge => exact ⟨rfl, rfl, fun finished => ⟨finished, rfl⟩⟩
  | connect called | listen called => rw [called] at continues; cases continues
  | welcome _ state | establish _ state | cross _ state | confirm _ state =>
      exact ⟨rfl, rfl, fun finished => by rw [state] at finished; cases finished⟩
  | queue _ ready =>
      refine ⟨rfl, rfl, ?_⟩
      intro finished
      rw [State.finished_of_carriesData (carriesData_of_refusal?_eq_none ready)] at finished
      cases finished
  | intend => exact ⟨rfl, rfl, fun finished => ⟨finished, rfl⟩⟩
  | finish _ next =>
      refine ⟨rfl, rfl, fun _ => ⟨?_, rfl⟩⟩
      rcases next with ⟨_, rfl⟩ | ⟨_, rfl⟩ <;> rfl
  | finishLast | abort => exact ⟨rfl, rfl, fun _ => ⟨rfl, rfl⟩⟩
  | sendFin _ _ next =>
      refine ⟨rfl, rfl, fun _ => ⟨?_, rfl⟩⟩
      rcases finState?_eq_some next with ⟨_, rfl⟩ | ⟨_, rfl⟩ <;> rfl
  | @take _ _ header =>
      refine ⟨rfl, rfl, fun finished => ⟨?_, rfl⟩⟩
      dsimp only
      split
      · cases state : before.state <;> rw [state] at finished <;> first | rfl | cases finished
      · exact finished

theorem Moves.continues (moves : Moves call before output after)
    (continues : call.opens = false) :
    after.config = before.config ∧
      (before.state.finished → after.state.finished ∧ output.accepted = []) := by
  induction moves with
  | done => exact ⟨rfl, fun finished => ⟨finished, rfl⟩⟩
  | step move _ ih =>
      obtain ⟨config, _, ended⟩ := move.continues continues
      refine ⟨ih.1.trans config, ?_⟩
      intro finished
      obtain ⟨still, nothing⟩ := ended finished
      obtain ⟨last, rest⟩ := ih.2 still
      exact ⟨last, by rw [Output.accepted_append, nothing, rest]; rfl⟩

theorem Ledger.dropped_le {endpoint : Endpoint} {dropped : Octets} {flow : Flow}
    (ledger : endpoint.Ledger dropped) (synchronized : endpoint.state.isSynchronized)
    (origin : endpoint.config.initialSequence = flow.origin)
    (whole : flow.stream = dropped ++ endpoint.ring.toList)
    (held : flow.delivered <+: flow.stream) (bounded : flow.stream.length + 2 < 0x80000000)
    (confirms : flow.Confirms endpoint.unacknowledged) :
    dropped.length ≤ flow.delivered.length := by
  have part : dropped.length ≤ flow.stream.length := by
    rw [whole, List.length_append]
    omega
  obtain ⟨taken, number, within | ⟨_, _, all⟩⟩ := confirms
  · have near := held.length_le
    have flags := endpoint.state.flagsAcknowledged_pos synchronized
    have flags' := Nat.le_trans endpoint.state.flagsAcknowledged_le endpoint.state.flagsSent_le
    rw [ledger.oldest, origin] at number
    have same := ahead_injective _ (by omega) (by omega) number
    omega
  · rw [all]
    exact part

theorem Ledger.genuine {endpoint : Endpoint} {dropped : Octets} {flow : Flow} {header : Header}
    (ledger : endpoint.Ledger dropped) (origin : endpoint.config.initialSequence = flow.origin)
    (whole : flow.stream = dropped ++ endpoint.ring.toList)
    (held : flow.delivered <+: flow.stream) (bounded : flow.stream.length + 2 < 0x80000000)
    (confirms : flow.Confirms header.acknowledgment) : ¬ endpoint.Misleads header := by
  intro misled
  have part : dropped.length ≤ flow.stream.length := by
    rw [whole, List.length_append]
    omega
  have near := held.length_le
  have flags := Nat.le_trans endpoint.state.flagsAcknowledged_le endpoint.state.flagsSent_le
  obtain ⟨taken, number, known⟩ := confirms
  have half : header.acknowledgment = ahead flow.origin
      (endpoint.state.flagsAcknowledged + dropped.length + 2147483648) := by
    rw [misled.half, ledger.oldest, origin]
    exact ahead_ahead _ _ _
  rw [number] at half
  have same := ahead_injective _ (by omega) (by omega) half
  omega

end Endpoint

section Sender

variable {call : Call} {party other : Party} {endpoint : Endpoint} {output : Output}

theorem Delivers.flow_grows (delivers : Delivers party other)
    (move : Endpoint.Move call party.endpoint output endpoint) (continues : call.opens = false) :
    (party.flow other).Grows ((party.after endpoint output).flow other) := by
  obtain ⟨config, _, ended⟩ := move.continues continues
  refine ⟨by simp [Party.flow, Party.after, config], List.prefix_append _ _, ?_,
    List.prefix_refl _, delivers.held.trans (List.prefix_append _ _)⟩
  intro finished
  obtain ⟨still, nothing⟩ := ended finished
  exact ⟨still, by simp [Party.flow, Party.after, nothing]⟩

theorem Delivers.kept_of_acknowledged (delivers : Delivers party other)
    {dropped : Octets} (ledger : endpoint.Ledger dropped)
    (synchronized : endpoint.state.isSynchronized)
    (config : endpoint.config = party.endpoint.config)
    (whole : party.past.accepted = dropped ++ endpoint.ring.toList)
    (bounded : party.past.accepted.length + 2 < 0x80000000)
    (confirms : (party.flow other).Confirms endpoint.unacknowledged) :
    party.past.accepted.length ≤ other.past.reported.length + endpoint.ring.toList.length := by
  have reported : dropped.length ≤ other.past.reported.length :=
    ledger.dropped_le synchronized (by rw [config]; rfl) whole delivers.held bounded confirms
  rw [whole, List.length_append]
  omega

theorem Delivers.kept_after (delivers : Delivers party other)
    (move : Endpoint.Move call party.endpoint output endpoint) (continues : call.opens = false)
    (balanced : endpoint.Balanced (party.past.accepted ++ output.accepted))
    (confirms : ∀ now ip header payload, call = .receive now ip header payload →
      header.flags.contains .ack → (party.flow other).Confirms header.acknowledgment)
    (bounded : (party.past.accepted ++ output.accepted).length + 2 < 0x80000000)
    (running : endpoint.state ≠ .closed) :
    (party.past.accepted ++ output.accepted).length ≤
      other.past.reported.length + endpoint.ring.toList.length := by
  have kept := delivers.kept (move.running continues running)
  obtain ⟨dropped, ledger, accepted⟩ := balanced.ledger running
  -- Only what is acknowledged shortens the ring, and only what is queued lengthens the stream.
  cases move with
  | wait | say | welcome | establish | cross | confirm | intend | sendFin | take =>
      rw [List.append_nil]
      exact kept
  | queue _ ready room =>
      rw [SendRing.toList_enqueue? room, List.length_append, List.length_append]
      dsimp only
      omega
  | acknowledge called synchronized covers =>
      rw [List.append_nil] at accepted bounded ⊢
      exact delivers.kept_of_acknowledged ledger synchronized rfl accepted bounded
        (confirms _ _ _ _ called covers.ack)
  | @finish _ _ _ _ state called next covers =>
      have synchronized : state.isSynchronized := by
        rcases next with ⟨_, rfl⟩ | ⟨_, rfl⟩ <;> rfl
      rw [List.append_nil] at accepted bounded ⊢
      exact delivers.kept_of_acknowledged ledger synchronized rfl accepted bounded
        (confirms _ _ _ _ called covers.ack)
  | connect called | listen called => rw [called] at continues; cases continues
  | finishLast | abort => exact absurd rfl running

theorem Delivers.send (delivers : Delivers party other)
    (move : Endpoint.Move call party.endpoint output endpoint) (continues : call.opens = false)
    (genuine : party.endpoint.Genuine call)
    (confirms : ∀ now ip header payload, call = .receive now ip header payload →
      header.flags.contains .ack → (party.flow other).Confirms header.acknowledgment)
    (bounded : (party.after endpoint output).past.accepted.length + 2 < 0x80000000) :
    Delivers (party.after endpoint output) other := by
  obtain ⟨config, _, ended⟩ := move.continues continues
  obtain ⟨rest, balanced, rest_eq⟩ := move.balanced genuine delivers.balanced
  have whole := rest_eq continues
  subst whole
  refine ⟨balanced, delivers.held.trans (List.prefix_append _ _), ?_, ?_, delivers.early, ?_⟩
  · exact delivers.kept_after move continues balanced confirms bounded
  · intro known
    rw [delivers.expected known]
    simp [Party.after, config]
  · intro finished
    obtain ⟨before, same⟩ := delivers.whole finished
    obtain ⟨still, nothing⟩ := ended before
    exact ⟨still, by simp [Party.after, nothing, same]⟩

end Sender

section Receiver

variable {call : Call} {party other : Party} {endpoint : Endpoint} {output : Output}

theorem Delivers.unheard (delivers : Delivers other party) (silent : output.reported = [])
    (next : endpoint.receiveNext = party.endpoint.receiveNext)
    (known : endpoint.state.knowsPeer = party.endpoint.state.knowsPeer)
    (finished : endpoint.state.peerFinished = party.endpoint.state.peerFinished)
    (early : endpoint.state = .listen ∨ endpoint.state = .synSent →
      party.endpoint.state = .listen ∨ party.endpoint.state = .synSent) :
    Delivers other (party.after endpoint output) := by
  have same : (party.after endpoint output).past.reported = party.past.reported := by
    rw [Party.reported_after, silent, List.append_nil]
  refine ⟨delivers.balanced, ?_, ?_, ?_, ?_, ?_⟩ <;> rw [same]
  · exact delivers.held
  · exact delivers.kept
  · rw [Party.endpoint_after, known, next, finished]
    exact delivers.expected
  · exact fun opening => delivers.early (early opening)
  · rw [Party.endpoint_after, finished]
    exact delivers.whole

theorem Delivers.deaf (delivers : Delivers other party) (silent : output.reported = [])
    (closed : endpoint.state = .closed) : Delivers other (party.after endpoint output) := by
  have same : (party.after endpoint output).past.reported = party.past.reported := by
    rw [Party.reported_after, silent, List.append_nil]
  refine ⟨delivers.balanced, ?_, ?_, ?_, ?_, ?_⟩ <;> rw [same]
  · exact delivers.held
  · exact delivers.kept
  · rw [Party.endpoint_after, closed]
    nofun
  · rw [Party.endpoint_after, closed]
    nofun
  · rw [Party.endpoint_after, closed]
    nofun

theorem Delivers.introduced (delivers : Delivers other party) (silent : output.reported = [])
    (opening : party.endpoint.state = .listen ∨ party.endpoint.state = .synSent)
    (next : endpoint.receiveNext = other.endpoint.config.initialSequence + 1)
    (first : endpoint.state.peerFinished = false) :
    Delivers other (party.after endpoint output) := by
  have fresh := delivers.early opening
  have same : (party.after endpoint output).past.reported = party.past.reported := by
    rw [Party.reported_after, silent, List.append_nil]
  refine ⟨delivers.balanced, ?_, ?_, ?_, ?_, ?_⟩ <;> rw [same]
  · exact delivers.held
  · exact delivers.kept
  · intro _
    rw [Party.endpoint_after, next, fresh, first]
    rfl
  · exact fun _ => fresh
  · rw [Party.endpoint_after, first]
    nofun

theorem sequence_of_syn {source destination : Socket} {outbound inbound : Flow}
    {segment : Segment} (labelled : Labelled source destination outbound inbound segment)
    (syn : segment.header.flags.contains .syn) : segment.header.sequence = outbound.origin := by
  cases labelled.carries with
  | syn _ first => exact first
  | bare noSyn | text noSyn | fin noSyn => rw [noSyn] at syn; cases syn

theorem Delivers.next_piece (delivers : Delivers other party) {header : Header} {payload : Octets}
    (bounded : other.past.accepted.length + 2 < 0x80000000)
    (known : party.endpoint.state.knowsPeer)
    (continuing : party.endpoint.state.peerFinished = false)
    (carries : (other.flow party).Carries header payload)
    (noSyn : header.flags.contains .syn = false)
    (inOrder : header.sequence = party.endpoint.receiveNext)
    (occupied : header.span payload.length ≠ 0) :
    party.past.reported ++ payload <+: other.past.accepted ∧
      header.span payload.length =
        (payload.length + (header.flags.contains .fin).toNat).toUInt32 ∧
      (header.flags.contains .fin →
        other.endpoint.state.finished ∧ party.past.reported ++ payload = other.past.accepted) := by
  have expected := delivers.expected known
  rw [continuing, ← inOrder] at expected
  have near := delivers.held.length_le
  cases carries with
  | syn syn => rw [noSyn] at syn; cases syn
  | bare _ noFin empty => exact absurd (by simp [Header.span, noSyn, noFin, empty]) occupied
  | @text before after _ noFin part place =>
      change other.past.accepted = before ++ payload ++ after at part
      have length := congrArg List.length part
      rw [List.length_append, List.length_append] at length
      have begins : before <+: other.past.accepted :=
        ⟨payload ++ after, by rw [part, List.append_assoc]⟩
      -- Equal numbers are equal places, because both are less than half the space away.
      have sameLength : before.length = party.past.reported.length := by
        have same := ahead_injective _ (by omega) (by rw [Bool.toNat_false]; omega)
          (place.symm.trans expected)
        rw [Bool.toNat_false] at same
        omega
      have same : before = party.past.reported :=
        (List.prefix_of_prefix_length_le begins delivers.held (by omega)).eq_of_length sameLength
      subst same
      exact ⟨⟨after, part.symm⟩, by simp [Header.span, noSyn, noFin], by rw [noFin]; nofun⟩
  | fin _ fin empty ended place =>
      change header.sequence = ahead _ (1 + other.past.accepted.length) at place
      have sameLength : other.past.accepted.length = party.past.reported.length := by
        have same := ahead_injective _ (by omega) (by rw [Bool.toNat_false]; omega)
          (place.symm.trans expected)
        rw [Bool.toNat_false] at same
        omega
      have same := delivers.held.eq_of_length sameLength.symm
      rw [empty, List.append_nil]
      exact ⟨delivers.held, by simp [Header.span, noSyn, fin], fun _ => ⟨ended, same⟩⟩

theorem Delivers.taken (delivers : Delivers other party) {header : Header} {payload : Octets}
    (bounded : other.past.accepted.length + 2 < 0x80000000)
    (accepting : party.endpoint.state.acceptsText)
    (carries : (other.flow party).Carries header payload)
    (noSyn : header.flags.contains .syn = false)
    (inOrder : header.sequence = party.endpoint.receiveNext)
    (occupied : header.span payload.length ≠ 0) :
    Delivers other (party.after { party.endpoint with
      state := if header.flags.contains .fin then party.endpoint.state.afterPeerFin
        else party.endpoint.state
      receiveNext := party.endpoint.receiveNext + header.span payload.length }
      { reported := payload }) := by
  obtain ⟨known, first⟩ := State.knowsPeer_of_acceptsText accepting
  obtain ⟨held, span, whole⟩ :=
    delivers.next_piece bounded known first carries noSyn inOrder occupied
  obtain ⟨finished, past⟩ := State.peerFinished_afterPeerFin accepting
  have expected := delivers.expected known
  have last : (if header.flags.contains .fin then party.endpoint.state.afterPeerFin
      else party.endpoint.state).peerFinished = header.flags.contains .fin := by
    split
    · rename_i fin
      rw [finished, fin]
    · rename_i noFin
      rw [Bool.not_eq_true] at noFin
      rw [first, noFin]
  refine ⟨delivers.balanced, held, ?_, ?_, ?_, ?_⟩
  · intro running
    have kept := delivers.kept running
    rw [Party.reported_after, List.length_append]
    omega
  · intro _
    rw [Party.endpoint_after, last, Party.reported_after, List.length_append]
    dsimp only
    rw [expected, span, first]
    refine (ahead_ahead _ _ _).trans ?_
    congr 1
    rw [Bool.toNat_false]
    omega
  · intro opening
    apply absurd opening
    rw [Party.endpoint_after]
    dsimp only
    split
    · exact past.1
    · exact past.2
  · intro ended
    rw [Party.endpoint_after, last] at ended
    exact whole ended

theorem Delivers.receive {here there : Socket} (delivers : Delivers other party)
    (move : Endpoint.Move call party.endpoint output endpoint) (continues : call.opens = false)
    (labelled : ∀ now ip header payload, call = .receive now ip header payload →
      Labelled there here (other.flow party) (party.flow other) ⟨ip, header, payload⟩)
    (bounded : other.past.accepted.length + 2 < 0x80000000) :
    Delivers other (party.after endpoint output) := by
  cases move with
  | wait | say | queue | intend | acknowledge =>
      exact delivers.unheard rfl rfl rfl rfl id
  | connect called | listen called => rw [called] at continues; cases continues
  | welcome called listening syn =>
      have first := sequence_of_syn (labelled _ _ _ _ called) syn
      exact delivers.introduced rfl (.inl listening) (by rw [first]; rfl) rfl
  | establish called opening syn | cross called opening syn =>
      have first := sequence_of_syn (labelled _ _ _ _ called) syn
      exact delivers.introduced rfl (.inr opening) (by rw [first]; rfl) rfl
  | confirm _ answered =>
      exact delivers.unheard rfl rfl (by rw [answered]; rfl) (by rw [answered]; rfl) nofun
  | finish _ next =>
      rcases next with ⟨state, rfl⟩ | ⟨state, rfl⟩ <;>
        exact delivers.unheard rfl rfl (by rw [state]; rfl) (by rw [state]; rfl) nofun
  | sendFin _ _ next =>
      rcases Endpoint.finState?_eq_some next with ⟨state, rfl⟩ | ⟨state, rfl⟩ <;>
        exact delivers.unheard rfl rfl (by rw [state]; rfl) (by rw [state]; rfl) nofun
  | finishLast | abort => exact delivers.deaf rfl rfl
  | take called noSyn _ accepting inOrder occupied =>
      have carries := (labelled _ _ _ _ called).carries
      exact delivers.taken bounded accepting carries noSyn inOrder occupied

end Receiver

end RadioStack.Tcp
