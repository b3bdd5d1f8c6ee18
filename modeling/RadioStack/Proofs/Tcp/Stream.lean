import RadioStack.Proofs.Tcp.Delivery
import RadioStack.Proofs.Tcp.Label

/-!
Whatever a party sends is a piece of its stream again, and so a move keeps everything that is known
of the two parties. Main statement: `Safe.moves`.
-/

namespace RadioStack.Tcp

namespace Endpoint

variable {call : Call} {endpoint : Endpoint} {sequence : UInt32} {sent : Flags} {length : Nat}

theorem MaySend.running (may : endpoint.MaySend call sequence sent length)
    (noReset : ∀ now, call ≠ .reset now) : endpoint.state ≠ .closed := by
  intro closed
  cases may with
  | ack synchronized | fresh synchronized | again synchronized =>
      rw [closed] at synchronized
      cases synchronized
  | syn state | synAck state => rw [closed] at state; cases state
  | fin inFlight => rw [closed] at inFlight; cases inFlight
  | rst called => exact noReset _ called

theorem MaySend.noRst (may : endpoint.MaySend call sequence sent length)
    (noReset : ∀ now, call ≠ .reset now) : sent.contains .rst = false := by
  cases may with
  | ack | syn | synAck | fin | fresh | again => decide
  | rst called => exact absurd called (noReset _)

end Endpoint

section Speaker

variable {call : Call} {here there : Socket} {party other : Party}

theorem Delivers.confirms (delivers : Delivers other party)
    (known : party.endpoint.state.knowsPeer) :
    (other.flow party).Confirms party.endpoint.receiveNext := by
  have expected := delivers.expected known
  rw [Nat.add_assoc] at expected
  refine ⟨_, expected, ?_⟩
  cases finished : party.endpoint.state.peerFinished with
  | false => exact .inl (Nat.le_refl _)
  | true =>
      obtain ⟨ended, all⟩ := delivers.whole finished
      exact .inr ⟨by rw [all]; rfl, ended, all⟩

theorem Delivers.carries_text (delivers : Delivers party other)
    (carries : party.endpoint.state.carriesData) {offset : Nat}
    (inside : offset ≤ party.endpoint.ring.toList.length) {source destination : Address}
    {port : UInt16} {sequence : UInt32} {length : Nat}
    (place : sequence = ahead party.endpoint.unacknowledged offset) :
    let segment := party.endpoint.segmentAt source destination port sequence (.ack ||| .psh) length
    (party.flow other).Carries segment.header segment.payload := by
  have synchronized := State.isSynchronized_of_carriesData carries
  obtain ⟨dropped, ledger, whole⟩ :=
    delivers.balanced.ledger (State.IsSynchronized.ne synchronized).1
  intro segment
  obtain ⟨before, after, part, number, _⟩ : segment.Labels party.endpoint.config.initialSequence
      (dropped ++ party.endpoint.ring.toList) party.endpoint.ring.count :=
    ledger.labels_of_offset carries inside place
  have noSyn : (Flags.ack ||| Flags.psh).contains .syn = false := by decide
  have noFin : (Flags.ack ||| Flags.psh).contains .fin = false := by decide
  exact .text noSyn noFin (whole.trans part) number

theorem Delivers.carries (delivers : Delivers party other) {source destination : Address}
    {port : UInt16} {sequence : UInt32} {flags : Flags} {length : Nat}
    (may : party.endpoint.MaySend call sequence flags length)
    (noReset : ∀ now, call ≠ .reset now) :
    let segment := party.endpoint.segmentAt source destination port sequence flags length
    (party.flow other).Carries segment.header segment.payload := by
  have running := may.running noReset
  obtain ⟨dropped, ledger, whole⟩ := delivers.balanced.ledger running
  have noSyn : (Flags.ack ||| Flags.psh).contains .syn = false := by decide
  have noFin : (Flags.ack ||| Flags.psh).contains .fin = false := by decide
  cases may with
  | ack =>
      have noSyn : Flags.ack.contains .syn = false := by decide
      have noFin : Flags.ack.contains .fin = false := by decide
      exact .bare noSyn noFin (Endpoint.payload_eq_nil (.inr rfl))
  | syn state first =>
      have syn : Flags.syn.contains .syn := by decide
      exact .syn syn (ledger.first_of_opening (.inl state) first)
  | synAck state first =>
      have syn : (Flags.syn ||| Flags.ack).contains .syn := by decide
      exact .syn syn (ledger.first_of_opening (.inr state) first)
  | fin inFlight last =>
      have noSyn : (Flags.fin ||| Flags.ack).contains .syn = false := by decide
      have fin : (Flags.fin ||| Flags.ack).contains .fin := by decide
      apply Flow.Carries.fin noSyn fin (Endpoint.payload_eq_nil (.inr rfl))
      · exact State.finished_of_finInFlight inFlight
      · calc
          sequence = party.endpoint.sendNext - 1 := last
          _ = ahead party.endpoint.config.initialSequence
              (1 + (dropped ++ party.endpoint.ring.toList).length) :=
            ledger.last_of_finInFlight inFlight
          _ = ahead (party.flow other).origin (1 + (party.flow other).stream.length) := by
            rw [← whole]
            rfl
  | fresh synchronized held last =>
      cases carries : party.endpoint.state.carriesData with
      | true =>
          rw [← SendRing.length_toList] at held
          apply delivers.carries_text carries (Nat.sub_le _ length)
          rw [last, (ledger.next_of_carriesData carries).2, ahead_sub _ held]
      | false =>
          exact .bare noSyn noFin (Endpoint.payload_eq_nil (.inl (ledger.drained carries)))
  | again synchronized held =>
      cases carries : party.endpoint.state.carriesData with
      | true => exact delivers.carries_text carries (Nat.zero_le _) (ahead_zero _).symm
      | false => exact .bare noSyn noFin (Endpoint.payload_eq_nil (.inl (ledger.drained carries)))
  | rst called => exact absurd called (noReset _)

theorem Safe.labelled_segmentAt (safe : Safe here there party other) {source destination : Address}
    {port : UInt16} {sequence : UInt32} {flags : Flags} {length : Nat}
    (may : party.endpoint.MaySend call sequence flags length)
    (noReset : ∀ now, call ≠ .reset now) (local_ : party.endpoint.localAddress = some source)
    (remote : party.endpoint.remoteAddress = some destination)
    (door : party.endpoint.remotePort = some port) :
    Labelled here there (party.flow other) (other.flow party)
      (party.endpoint.segmentAt source destination port sequence flags length) where
  source := ⟨safe.speaks.localAddress _ local_, safe.speaks.port⟩
  destination := ⟨safe.speaks.remoteAddress _ remote, safe.speaks.remotePort _ door⟩
  noRst := may.noRst noReset
  carries := safe.sends.carries may noReset
  confirms ack := by
    have confirms := safe.receives.confirms (may.knowsPeer_of_ack ack)
    have number : (party.endpoint.segmentAt source destination port sequence flags
        length).header.acknowledgment = party.endpoint.receiveNext := if_pos ack
    rwa [number]

end Speaker

section Step

variable {call : Call} {here there : Socket} {party other : Party} {endpoint : Endpoint}
  {output : Output}

theorem Safe.speaks_after (safe : Safe here there party other)
    (fed : Fed here there party other call)
    (move : Endpoint.Move call party.endpoint output endpoint)
    (out : (party.flow other).Grows ((party.after endpoint output).flow other))
    (back : (other.flow party).Grows (other.flow (party.after endpoint output))) :
    Speaks here there (party.after endpoint output) other := by
  have port := (move.continues fed.continues).2.1.trans safe.speaks.port
  have old : ∀ segment ∈ party.past.segments, Labelled here there
      ((party.after endpoint output).flow other) (other.flow (party.after endpoint output))
      segment :=
    fun segment sent => (safe.speaks.labelled segment sent).mono out back
  -- Only `say` adds a segment, and only `welcome` binds an end.
  cases move with
  | wait | establish | cross | confirm | queue | intend | acknowledge | finish | finishLast
  | sendFin | take | abort =>
      refine ⟨port, safe.speaks.localAddress, safe.speaks.remoteAddress, safe.speaks.remotePort, ?_⟩
      rw [Party.segments_after, List.append_nil]
      exact old
  | connect called | listen called =>
      have continues := fed.continues
      rw [called] at continues
      cases continues
  | say may local_ remote door =>
      refine ⟨port, safe.speaks.localAddress, safe.speaks.remoteAddress, safe.speaks.remotePort, ?_⟩
      intro segment sent
      rcases List.mem_append.mp sent with sent | sent
      · exact old segment sent
      · rw [List.mem_singleton] at sent
        subst sent
        exact (safe.labelled_segmentAt may fed.noReset local_ remote door).mono out back
  | welcome called =>
      have labelled := fed.labelled _ _ _ _ called
      refine ⟨port, ?_, ?_, ?_, ?_⟩
      · intro address bound
        cases before : party.endpoint.localAddress with
        | none =>
            rw [Party.endpoint_after, before] at bound
            cases bound
            exact labelled.destination.1
        | some earlier =>
            rw [Party.endpoint_after, before] at bound
            cases bound
            exact safe.speaks.localAddress _ before
      · intro address bound
        cases bound
        exact labelled.source.1
      · intro port bound
        cases bound
        exact labelled.source.2
      · rw [Party.segments_after, List.append_nil]
        exact old

/-- What one party does at one stroke keeps both streams safe. -/
theorem Safe.move (safe : Safe here there party other) (fed : Fed here there party other call)
    (move : Endpoint.Move call party.endpoint output endpoint)
    (bounded : (party.after endpoint output).past.accepted.length + 2 < 0x80000000)
    (boundedOther : other.past.accepted.length + 2 < 0x80000000) :
    Safe here there (party.after endpoint output) other ∧
      Fed here there (party.after endpoint output) other call := by
  have shorter : party.past.accepted.length + 2 < 0x80000000 := by
    rw [Party.accepted_after, List.length_append] at bounded
    omega
  have confirms : ∀ now ip header payload, call = .receive now ip header payload →
      header.flags.contains .ack → (party.flow other).Confirms header.acknowledgment :=
    fun _ _ _ _ called => (fed.labelled _ _ _ _ called).confirms
  have genuine : party.endpoint.Genuine call := by
    intro now ip header payload called misled
    obtain ⟨dropped, ledger, whole⟩ :=
      safe.sends.balanced.ledger (State.IsSynchronized.ne misled.synchronized).1
    exact ledger.genuine rfl whole safe.sends.held shorter
      (confirms _ _ _ _ called misled.ack) misled
  have sends := safe.sends.send move fed.continues genuine confirms bounded
  have receives := safe.receives.receive move fed.continues fed.labelled boundedOther
  have out := safe.sends.flow_grows move fed.continues
  have back : (other.flow party).Grows (other.flow (party.after endpoint output)) :=
    ⟨rfl, List.prefix_refl _, fun ended => ⟨ended, rfl⟩, List.prefix_append _ _, receives.held⟩
  refine ⟨⟨sends, receives, safe.speaks_after fed move out back, ?_⟩,
    fed.continues, fed.noReset, fun now ip header payload called =>
      (fed.labelled now ip header payload called).mono back out⟩
  obtain ⟨port, local_, remote, door, labelled⟩ := safe.hears
  exact ⟨port, local_, remote, door, fun segment sent => (labelled segment sent).mono back out⟩

theorem Safe.moves {before after : Endpoint} (moves : Endpoint.Moves call before output after)
    (safe : Safe here there party other) (fed : Fed here there party other call)
    (same : party.endpoint = before)
    (bounded : (party.after after output).past.accepted.length + 2 < 0x80000000)
    (boundedOther : other.past.accepted.length + 2 < 0x80000000) :
    Safe here there (party.after after output) other := by
  -- The bound holds on the way, because a stream never gets shorter.
  induction moves generalizing party with
  | done =>
      rw [Party.after, Output.append_empty, ← same]
      exact safe
  | @step before middle after output rest move _ ih =>
      subst same
      have whole : (party.after middle output).after after rest =
          party.after after (output ++ rest) := by
        simp only [Party.after, Output.append_assoc]
      rw [← whole] at bounded ⊢
      have shorter : (party.after middle output).past.accepted.length + 2 < 0x80000000 := by
        rw [Party.accepted_after, List.length_append] at bounded
        omega
      obtain ⟨safeMiddle, fedMiddle⟩ := safe.move fed move shorter boundedOther
      exact ih safeMiddle fedMiddle rfl bounded

end Step

end RadioStack.Tcp
