import RadioStack.Tcp.ChunkedSend

/-!
Several sends on one endpoint. Each of them hands over its chunks one by one; where there is no room
it waits, and tries the same chunk again when it is woken up or its time is over. Between two
attempts anything may happen.
-/

namespace RadioStack.Tcp

structure Message where
  data : Octets
  limited : Bool
  deriving DecidableEq, Repr

structure Sender where
  message : Message
  remaining : List Octets
  result : Option (Except Failure Unit)

structure Attempt extends Turn where
  sender : Sender
  accepted : Option Octets

namespace Sender

def begin (message : Message) : Sender where
  message
  remaining := chunks message.data
  result := if (chunks message.data).isEmpty then some (.ok ()) else none

/-- One attempt to hand over the next chunk. `expired` tells whether the time of the send is over,
which matters only if there is no room. -/
def attempt (now : Instant) (expired : Bool) (endpoint : Endpoint) (sender : Sender) : Attempt :=
  match sender.result, sender.remaining with
  | none, chunk :: rest =>
    match endpoint.send now chunk with
    | .ok turn =>
      ⟨turn, { sender with
        remaining := rest
        result := if rest.isEmpty then some (.ok ()) else none }, some chunk⟩
    | .error .bufferFull =>
      if sender.message.limited && expired then
        ⟨endpoint.note (.sendTimedOut endpoint.localPort),
          { sender with result := some (.error .timedOut) }, none⟩
      else ⟨endpoint.idle, sender, none⟩
    | .error failure => ⟨endpoint.idle, { sender with result := some (.error failure) }, none⟩
  | _, _ => ⟨endpoint.idle, sender, none⟩

end Sender

structure Contention where
  endpoint : Endpoint
  senders : List Sender
  accepted : List (Nat × Octets) := []

namespace Contention

inductive Event
  | attempt (number : Nat) (now : Instant) (expired : Bool)
  | call (call : Call)

def begin (endpoint : Endpoint) (messages : List Message) : Contention where
  endpoint
  senders := messages.map Sender.begin

def adopt (number : Nat) (attempt : Attempt) (contention : Contention) : Contention where
  endpoint := attempt.endpoint
  senders := contention.senders.set number attempt.sender
  accepted := contention.accepted ++ attempt.accepted.toList.map (number, ·)

def step (contention : Contention) : Event → Contention
  | .attempt number now expired =>
    match contention.senders[number]? with
    | none => contention
    | some sender => contention.adopt number (sender.attempt now expired contention.endpoint)
  | .call call => { contention with endpoint := (contention.endpoint.perform call).endpoint }

def run (contention : Contention) (events : List Event) : Contention := events.foldl step contention

end Contention

end RadioStack.Tcp
