import RadioStack.Tcp.Call

/-!
Sending data of any length: it is cut into chunks that fit into an empty ring, and the chunks are
handed to the endpoint one after the other until it takes no more.
-/

namespace RadioStack.Tcp

def chunks (data : Octets) : List Octets :=
  if data.isEmpty then []
  else data.take SendRing.capacity :: chunks (data.drop SendRing.capacity)
termination_by data.length
decreasing_by
  rename_i nonempty
  have : data ≠ [] := by simpa using nonempty
  have : 0 < data.length := List.length_pos_iff.mpr this
  simp only [List.length_drop, SendRing.capacity]
  omega

inductive Progress
  | complete
  /-- There is no room for the first of these chunks yet. -/
  | blocked (remaining : List Octets)
  | failed (failure : Failure)
  deriving DecidableEq

structure SendTurn extends Turn where
  progress : Progress
  deriving DecidableEq

namespace Endpoint

def sendChunks (now : Instant) : List Octets → Endpoint → SendTurn
  | [], endpoint => ⟨endpoint.idle, .complete⟩
  | chunk :: rest, endpoint =>
    match endpoint.send now chunk with
    | .ok turn =>
      let further := sendChunks now rest turn.endpoint
      ⟨⟨further.endpoint, turn.emitted ++ further.emitted⟩, further.progress⟩
    | .error .bufferFull => ⟨endpoint.idle, .blocked (chunk :: rest)⟩
    | .error failure => ⟨endpoint.idle, .failed failure⟩

end Endpoint

end RadioStack.Tcp
