import RadioStack.Proofs.Tcp.Acknowledgment
import RadioStack.Proofs.Tcp.Reuse

/-!
What an acknowledgment leaves behind that is rejected. Text and FIN of its segment count as if the
segment acknowledged nothing; only the window of the peer is taken from it. Main statement:
`receive_rejected`.
-/

namespace RadioStack.Tcp

namespace Flags

def without (flags removed : Flags) : Flags := ⟨flags.bits &&& ~~~removed.bits⟩

variable {flags removed other : Flags}

theorem contains_without (apart : ~~~removed.bits &&& other.bits = other.bits) :
    (flags.without removed).contains other = flags.contains other := by
  rw [contains, without, UInt8.and_assoc, apart]
  rfl

theorem not_contains_without (removes : removed.bits ≠ 0) :
    (flags.without removed).contains removed = false := by
  rw [contains, without, UInt8.and_assoc, UInt8.not_and_self, UInt8.and_zero]
  exact beq_eq_false_iff_ne.mpr removes.symm

end Flags

namespace Endpoint

def shown (window : UInt16) (endpoint : Endpoint) : Endpoint :=
  { endpoint with sendWindow := window }

end Endpoint

def Turn.shown (window : UInt16) (turn : Turn) : Turn :=
  { turn with endpoint := turn.endpoint.shown window }

namespace Endpoint

variable {endpoint : Endpoint} {now : Instant} {ip : Ip.Header} {header : Header}
  {payload : Octets} (window : UInt16)

theorem state_shown (endpoint : Endpoint) : (endpoint.shown window).state = endpoint.state := rfl

theorem shown_eq_iff (endpoint : Endpoint) :
    endpoint.shown window = endpoint ↔ window = endpoint.sendWindow := by
  refine ⟨congrArg sendWindow, ?_⟩
  rintro rfl
  rfl

theorem alike_shown (endpoint : Endpoint) : endpoint.Alike (endpoint.shown window) :=
  .differ rfl (fun _ _ => rfl) fun _ => rfl

theorem enter_shown (state : State) (endpoint : Endpoint) :
    (endpoint.shown window).enter state = (endpoint.enter state).shown window := by
  unfold enter
  rw [state_shown]
  split <;> rfl

theorem transmit_shown (now : Instant) (sequence : UInt32) (flags : Flags) (length : Nat)
    (endpoint : Endpoint) :
    (endpoint.shown window).transmit now sequence flags length =
      (endpoint.transmit now sequence flags length).shown window := by
  unfold transmit
  dsimp only [shown]
  split <;> rfl

theorem sendAck_shown (now : Instant) (endpoint : Endpoint) :
    (endpoint.shown window).sendAck now = (endpoint.sendAck now).shown window :=
  transmit_shown ..

theorem andThen_sendAck_shown (now : Instant) (turn : Turn) :
    (turn.shown window).andThen (sendAck now) = (turn.andThen (sendAck now)).shown window := by
  dsimp only [Turn.andThen, Turn.shown]
  rw [sendAck_shown]
  rfl

theorem receiveFin_shown (now : Instant) (endpoint : Endpoint) :
    (endpoint.shown window).receiveFin now = (endpoint.receiveFin now).shown window := by
  unfold receiveFin
  rw [state_shown]
  split
  · exact enter_shown ..
  · exact enter_shown ..
  · exact enter_shown window .timeWait { endpoint with timeWaitSince := now }
  · rfl

theorem receiveText_shown (now : Instant) (header : Header) (payload : Octets)
    (endpoint : Endpoint) :
    (endpoint.shown window).receiveText now header payload =
      { endpoint.receiveText now header payload with
        endpoint := (endpoint.receiveText now header payload).endpoint.shown window } := by
  dsimp only [receiveText]
  rw [state_shown]
  have expected : (endpoint.shown window).receiveNext = endpoint.receiveNext := rfl
  rw [expected]
  split
  · rfl
  · split
    · exact congrArg Turn.quiet (andThen_sendAck_shown window now (endpoint.note _))
    · split
      · rfl
      · split
        · exact congrArg Turn.quiet (sendAck_shown window now endpoint)
        · let taken := { endpoint with
            receiveNext := endpoint.receiveNext + header.span payload.length }
          have turn : (if header.flags.contains .fin then (taken.shown window).receiveFin now
              else (taken.shown window).idle) =
              (if header.flags.contains .fin then taken.receiveFin now else taken.idle).shown
                window := by
            split
            · exact receiveFin_shown window now taken
            · rfl
          have answered := (congrArg (fun turn => turn.andThen (sendAck now)) turn).trans
            (andThen_sendAck_shown window now _)
          exact congrArg (fun turn => ({ turn with
            data := if payload.isEmpty then none else some payload } : Reception)) answered

theorem receiveAck_rejected (rejected : (endpoint.receiveAck now header payload).unexpectedAck) :
    (endpoint.receiveAck now header payload).endpoint = endpoint.shown header.window ∧
      (endpoint.receiveAck now header payload).segments = [] := by
  dsimp only [receiveAck, receiveAckOfSyn] at rejected ⊢
  split at rejected
  · rename_i answered
    rw [if_pos answered]
    split at rejected
    · cases rejected
    · rename_i wrong
      rw [if_neg wrong]
      exact ⟨rfl, rfl⟩
  · rename_i other
    rw [if_neg other]
    split at rejected
    · rename_i outside
      rw [if_pos outside]
      exact ⟨rfl, rfl⟩
    · split at rejected <;> cases rejected

theorem receiveText_congr {other : Header} (sequence : other.sequence = header.sequence)
    (span : other.span payload.length = header.span payload.length)
    (fin : other.flags.contains .fin = header.flags.contains .fin) (endpoint : Endpoint) :
    endpoint.receiveText now other payload = endpoint.receiveText now header payload := by
  unfold receiveText
  rw [sequence, span, fin]

theorem span_congr {other : Header} (syn : other.flags.contains .syn = header.flags.contains .syn)
    (fin : other.flags.contains .fin = header.flags.contains .fin) (length : Nat) :
    other.span length = header.span length := by
  unfold Header.span
  rw [syn, fin]

theorem receive_of_silent (known : endpoint.state = .synReceived ∨ endpoint.state.isSynchronized)
    (silent : header.flags.contains .ack = false) (noSyn : header.flags.contains .syn = false)
    (noRst : header.flags.contains .rst = false) (now : Instant) (ip : Ip.Header)
    (payload : Octets) :
    let text := endpoint.receiveText now header payload
    let after := endpoint.receive now ip header payload
    after.segments = text.segments ∧ after.endpoint = text.endpoint ∧ after.data = text.data := by
  have unheard : endpoint.acknowledged now header payload = endpoint.idle.quiet :=
    if_neg (by rw [silent]; exact Bool.false_ne_true)
  obtain ⟨segments, same, data, -⟩ := receive_eq_acknowledged known noSyn noRst now ip payload
  rw [unheard, Turn.toTurn_quiet, endpoint_idle] at segments same data
  exact ⟨segments, same, data⟩

theorem receive_of_rejected (known : endpoint.state = .synReceived ∨ endpoint.state.isSynchronized)
    (ack : header.flags.contains .ack) (noSyn : header.flags.contains .syn = false)
    (noRst : header.flags.contains .rst = false)
    (rejected : (endpoint.receive now ip header payload).unexpectedAck) :
    let text := endpoint.receiveText now header payload
    let after := endpoint.receive now ip header payload
    after.segments = text.segments ∧ after.endpoint = text.endpoint.shown header.window ∧
      after.data = text.data := by
  have heard : endpoint.acknowledged now header payload =
      endpoint.receiveAck now header payload := if_pos ack
  obtain ⟨segments, same, data, unexpected⟩ :=
    receive_eq_acknowledged known noSyn noRst now ip payload
  rw [unexpected, heard] at rejected
  obtain ⟨windowed, quiet⟩ := receiveAck_rejected rejected
  rw [heard, windowed, receiveText_shown] at segments same data
  rw [quiet, List.nil_append] at segments
  exact ⟨segments, same, data⟩

theorem receive_rejected_like (bare : Header)
    (known : endpoint.state = .synReceived ∨ endpoint.state.isSynchronized)
    (ack : header.flags.contains .ack) (noSyn : header.flags.contains .syn = false)
    (noRst : header.flags.contains .rst = false)
    (rejected : (endpoint.receive now ip header payload).unexpectedAck)
    (sequence : bare.sequence = header.sequence) (silent : bare.flags.contains .ack = false)
    (syn : bare.flags.contains .syn = header.flags.contains .syn)
    (fin : bare.flags.contains .fin = header.flags.contains .fin)
    (rst : bare.flags.contains .rst = header.flags.contains .rst) :
    let after := endpoint.receive now ip header payload
    let other := endpoint.receive now ip bare payload
    after.segments = other.segments ∧ after.data = other.data ∧
      after.endpoint = other.endpoint.shown header.window ∧
      other.endpoint.sendWindow = endpoint.sendWindow := by
  obtain ⟨segments, same, data⟩ := receive_of_rejected known ack noSyn noRst rejected
  obtain ⟨segments', same', data'⟩ :=
    receive_of_silent known silent (syn.trans noSyn) (rst.trans noRst) now ip payload
  rw [receiveText_congr sequence (span_congr syn fin _) fin] at segments' same' data'
  refine ⟨segments.trans segments'.symm, data.trans data'.symm, ?_, ?_⟩
  · rw [same, same']
  · rw [same']
    exact receiveText_keeps sendWindow (fun _ _ _ _ _ => rfl) _ _ _ _

/-- A segment whose acknowledgment is rejected, in any state that looks at one, does what the same
segment does without its ACK flag, but that the window of the peer is taken from it. The endpoint
after it is the same only if that window is the one already known, yet nothing can be seen of the
difference in whatever is called from then on. -/
theorem receive_rejected (known : endpoint.state = .synReceived ∨ endpoint.state.isSynchronized)
    (ack : header.flags.contains .ack) (noSyn : header.flags.contains .syn = false)
    (noRst : header.flags.contains .rst = false)
    (rejected : (endpoint.receive now ip header payload).unexpectedAck) :
    let after := endpoint.receive now ip header payload
    let other := endpoint.receive now ip { header with flags := header.flags.without .ack } payload
    after.segments = other.segments ∧ after.data = other.data ∧
      after.endpoint = { other.endpoint with sendWindow := header.window } ∧
      (after.endpoint = other.endpoint ↔ header.window = endpoint.sendWindow) ∧
      ∀ calls, after.endpoint.observe calls = other.endpoint.observe calls := by
  intro after other
  obtain ⟨segments, data, differs, window⟩ := receive_rejected_like
    { header with flags := header.flags.without .ack } known ack noSyn noRst rejected rfl
    (Flags.not_contains_without (by decide)) (Flags.contains_without (by decide))
    (Flags.contains_without (by decide)) (Flags.contains_without (by decide))
  refine ⟨segments, data, differs, ?_, ?_⟩
  · rw [differs, shown_eq_iff, window]
  · intro calls
    rw [differs]
    exact ((alike_shown header.window other.endpoint).observe calls).symm

def premature : Header where
  sourcePort := 2
  destinationPort := 1
  sequence := 8
  acknowledgment := 200
  flags := .ack
  window := 64

/-- The octet that comes with it is taken and acknowledged all the same. -/
theorem waiting_rejected :
    let ip : Ip.Header := { nextHeader := .tcp, source := .allRouters, destination := .allNodes }
    let after := waiting.receive 5 ip premature [7]
    let other := waiting.receive 5 ip { premature with flags := premature.flags.without .ack } [7]
    after.unexpectedAck = true ∧ after.segments.length = 1 ∧ after.segments = other.segments ∧
      after.data = some [7] ∧ after.data = other.data ∧
      after.endpoint = { other.endpoint with sendWindow := 64 } := by
  intro ip after other
  obtain ⟨segments, data, differs, _, _⟩ := @receive_rejected waiting 5 ip premature [7]
    (.inr (by decide)) (by decide) (by decide) (by decide) (by decide)
  exact ⟨by decide, by decide, segments, by decide, data, differs⟩

/-- A bare acknowledgment that is rejected is not ignored: its window stays behind. -/
theorem waiting_not_ignored :
    let ip : Ip.Header := { nextHeader := .tcp, source := .allRouters, destination := .allNodes }
    let after := waiting.receive 5 ip premature []
    let other := waiting.receive 5 ip { premature with flags := premature.flags.without .ack } []
    (create (some .allNodes) 1 {}).Reaches Genuine waiting ∧ waiting.state = .established ∧
      after.unexpectedAck = true ∧ after.endpoint.sendWindow = 64 ∧
      other.endpoint.sendWindow = 128 ∧ after.endpoint ≠ other.endpoint := by
  intro ip after other
  exact ⟨reaches_waiting, by decide, by decide, by decide, by decide, by decide⟩

end Endpoint

end RadioStack.Tcp
