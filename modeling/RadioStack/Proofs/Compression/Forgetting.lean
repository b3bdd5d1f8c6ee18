import RadioStack.Compression.Packet

/-!
A station that has lost some of its contexts decompresses a packet as before or says that a context
is missing; it never finds another packet. Main statement: `decode_without`.
-/

namespace RadioStack.Compression

def ContextTable.without (contexts : ContextTable) (emptied : ContextNumber → Bool) :
    ContextTable :=
  ⟨.ofFn fun context => if emptied context then none else contexts.slots[context]⟩

def ContextTable.Lost (contexts : ContextTable) (emptied : ContextNumber → Bool)
    (context : ContextNumber) : Prop :=
  emptied context ∧ (contexts.get? context).isSome

theorem ContextTable.get?_without (contexts : ContextTable) (emptied : ContextNumber → Bool)
    (context : ContextNumber) :
    (contexts.without emptied).get? context =
      if emptied context then none else contexts.get? context := by
  simp [get?, without]

namespace Reader

/-- One reader does what another does, or stops at a context for which it has been given a
reason. -/
def StopsOrAgrees {α : Type} (reason : ContextNumber → Prop) (poor rich : Reader α) : Prop :=
  ∀ octets, poor.run octets = rich.run octets ∨
    ∃ context, reason context ∧ poor.run octets = .error (.contextNotFound context)

variable {α β : Type} {reason : ContextNumber → Prop} {poor rich : Reader α}

theorem StopsOrAgrees.refl (reader : Reader α) : StopsOrAgrees reason reader reader :=
  fun _ => .inl rfl

theorem StopsOrAgrees.bind {poorNext richNext : α → Reader β}
    (first : StopsOrAgrees reason poor rich)
    (second : ∀ value, StopsOrAgrees reason (poorNext value) (richNext value)) :
    StopsOrAgrees reason (poor >>= poorNext) (rich >>= richNext) := by
  intro octets
  rw [StateT.run_bind, StateT.run_bind]
  rcases first octets with same | ⟨context, lost, stopped⟩
  · rw [same]
    cases rich.run octets with
    | error error => exact .inl rfl
    | ok pair => exact second pair.1 pair.2
  · rw [stopped]
    exact .inr ⟨context, lost, rfl⟩

variable {contexts : ContextTable} {emptied : ContextNumber → Bool}

theorem network_without (context : ContextNumber) :
    StopsOrAgrees (contexts.Lost emptied) (network (contexts.without emptied) context)
      (network contexts context) := by
  intro octets
  unfold network
  rw [ContextTable.get?_without]
  cases gone : emptied context with
  | false => exact .inl rfl
  | true =>
      cases held : contexts.get? context with
      | none => exact .inl rfl
      | some network => exact .inr ⟨context, ⟨gone, by rw [held]; rfl⟩, rfl⟩

theorem address_without (mode : AddressMode) (context : ContextNumber) (link : LinkAddress) :
    StopsOrAgrees (contexts.Lost emptied) (address (contexts.without emptied) mode context link)
      (address contexts mode context link) := by
  unfold address
  cases mode with
  | full => exact .refl _
  | long | elided => exact (network_without context).bind fun network => .refl _
  | short =>
      refine (StopsOrAgrees.refl _).bind fun high => (StopsOrAgrees.refl _).bind fun low => ?_
      split
      · exact (network_without context).bind fun network => .refl _
      · exact .refl _

theorem headers_without (contexts : ContextTable) (emptied : ContextNumber → Bool)
    (links : LinkPair) :
    StopsOrAgrees (contexts.Lost emptied) (headers (contexts.without emptied) links)
      (headers contexts links) :=
  (StopsOrAgrees.refl _).bind fun _ => (StopsOrAgrees.refl _).bind fun _ =>
    (StopsOrAgrees.refl _).bind fun _ => (StopsOrAgrees.refl _).bind fun _ =>
      (StopsOrAgrees.refl _).bind fun _ => (address_without _ _ _).bind fun _ =>
        (address_without _ _ _).bind fun _ => .refl _

end Reader

/-- Whatever slots are emptied, decompression gives what it gave, packet or error, or it fails for
want of one of the contexts that are lost. So a packet that is still found is the same packet. -/
theorem decode_without (contexts : ContextTable) (emptied : ContextNumber → Bool)
    (octets : Octets) (links : LinkPair) :
    (decode (contexts.without emptied) octets links = decode contexts octets links ∨
      ∃ context, contexts.Lost emptied context ∧
        decode (contexts.without emptied) octets links = .error (.contextNotFound context)) ∧
      ∀ packet, decode (contexts.without emptied) octets links = .ok packet →
        decode contexts octets links = .ok packet := by
  have both : decode (contexts.without emptied) octets links = decode contexts octets links ∨
      ∃ context, contexts.Lost emptied context ∧
        decode (contexts.without emptied) octets links = .error (.contextNotFound context) := by
    unfold decode
    rcases Reader.headers_without contexts emptied links octets with
      same | ⟨context, lost, stopped⟩
    · rw [same]
      exact .inl rfl
    · rw [stopped]
      exact .inr ⟨context, lost, rfl⟩
  refine ⟨both, fun packet decoded => ?_⟩
  rcases both with same | ⟨context, -, stopped⟩
  · rw [← same, decoded]
  · rw [stopped] at decoded
    cases decoded

/-- A station without any context still finds a multicast group, but no link-local address. -/
theorem decode_without_standard :
    let forgetful := ContextTable.standard.without fun _ => true
    let links : LinkPair := ⟨⟨1⟩, ⟨2⟩⟩
    let toGroup : Octets := [0xd0, 0x08, 6] ++ (Address.linkLocal 1).octets ++ [0xa4, 0x01]
    let toStation : Octets := [0xd0, 0x0c, 6] ++ (Address.linkLocal 1).octets
    (∃ packet, decode forgetful toGroup links = .ok packet ∧
      decode .standard toGroup links = .ok packet) ∧
      (∃ packet, decode .standard toStation links = .ok packet) ∧
      decode forgetful toStation links = .error (.contextNotFound 0) := by
  intro forgetful links toGroup toStation
  have found : decode forgetful toGroup links =
      .ok ⟨toGroup, ⟨0, 0, .tcp, 64, .linkLocal 1, .allNodes⟩, none, 21⟩ := rfl
  exact ⟨⟨_, found, (decode_without .standard _ toGroup links).2 _ found⟩, ⟨_, rfl⟩, rfl⟩

end RadioStack.Compression
