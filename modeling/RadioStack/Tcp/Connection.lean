import RadioStack.Tcp.ChunkedSend

/-!
A connection is an endpoint with an application: a listener that is told what happens and may call
back, and at most one send that waits for room in the ring.
-/

namespace RadioStack.Tcp

inductive Notification
  | connected
  | data (octets : Octets)
  | closed
  deriving DecidableEq, Repr

/-- What a listener may ask of the connection that notifies it. A send does not wait. -/
inductive Request
  | send (data : Octets)
  | close
  | reset
  | listen
  deriving DecidableEq, Repr

structure Listener where
  react : Notification → List Request

inductive Effect
  | emitted (emission : Emission)
  | notified (notification : Notification)
  | answered (request : Request) (result : Except Failure Unit)
  /-- The request came from callbacks nested too deeply and was not carried out. -/
  | abandoned (request : Request)
  | resumed (result : Except Failure Unit)

inductive Clock
  | running
  /-- Stays at its start. -/
  | stopped
  deriving DecidableEq, Repr

def Clock.read (clock : Clock) (time : Instant) : Instant :=
  match clock with
  | .running => time
  | .stopped => 0

structure Connection where
  endpoint : Endpoint
  listener : Option Listener := none
  clock : Clock := .running
  nesting : Nat := 64
  waiting : Option (List Octets) := none

structure Passage where
  connection : Connection
  effects : List Effect

def Passage.andThen (passage : Passage) (next : Connection → Passage) : Passage :=
  ⟨(next passage.connection).connection, passage.effects ++ (next passage.connection).effects⟩

def notifications (before after : State) (data : Option Octets) : List Notification :=
  (if !before.isSynchronized && after.isSynchronized then [.connected] else []) ++
    data.toList.map .data ++
    (if before ≠ .closed ∧ after = .closed then [.closed] else [])

namespace Connection

def idle (connection : Connection) : Passage := ⟨connection, []⟩

def adopt (connection : Connection) (turn : Turn) : Passage :=
  ⟨{ connection with endpoint := turn.endpoint }, turn.emitted.map .emitted⟩

def inOrder {α : Type} (call : α → Connection → Passage) (items : List α)
    (connection : Connection) : Passage :=
  items.foldl (fun passage item => passage.andThen (call item)) connection.idle

def announce (serve : Request → Connection → Passage) (notifications : List Notification)
    (connection : Connection) : Passage :=
  match connection.listener with
  | none => connection.idle
  | some listener =>
    connection.inOrder (fun notification connection =>
      (⟨connection, [.notified notification]⟩ : Passage).andThen
        (inOrder serve (listener.react notification))) notifications

/-- Hands over as many chunks as there is room for. What is left after that has timed out. -/
def sendAtOnce (now : Instant) (data : Octets) (connection : Connection) :
    Passage × Except Failure Unit :=
  let turn := connection.endpoint.sendChunks now (chunks data)
  let passage := connection.adopt turn.toTurn
  match turn.progress with
  | .complete => (passage, .ok ())
  | .failed failure => (passage, .error failure)
  | .blocked _ =>
    (passage.andThen fun connection =>
      connection.adopt (connection.endpoint.note (.sendTimedOut connection.endpoint.localPort)),
      .error .timedOut)

def listen (connection : Connection) : Passage × Except Failure Unit :=
  match connection.endpoint.listen with
  | .ok turn => (connection.adopt turn, .ok ())
  | .error failure => (connection.idle, .error failure)

def connect (time : Instant) (address : Address) (port : UInt16) (connection : Connection) :
    Passage × Except Failure Unit :=
  match connection.endpoint.connect (connection.clock.read time) address port with
  | .ok turn => (connection.adopt turn, .ok ())
  | .error failure => (connection.idle, .error failure)

def change (serve : Request → Connection → Passage) (turn : Turn) (data : Option Octets)
    (connection : Connection) : Passage :=
  (connection.adopt turn).andThen
    (announce serve (notifications connection.endpoint.state turn.endpoint.state data))

/-- Serves a request made from a callback. Closing may call back in turn, to a limited depth. -/
def serve (now : Instant) : Nat → Request → Connection → Passage
  | _, .send data, connection =>
    let (passage, result) := connection.sendAtOnce now data
    passage.andThen fun connection => ⟨connection, [.answered (.send data) result]⟩
  | _, .listen, connection =>
    let (passage, result) := connection.listen
    passage.andThen fun connection => ⟨connection, [.answered .listen result]⟩
  | 0, request, connection => ⟨connection, [.abandoned request]⟩
  | depth + 1, .close, connection =>
    (connection.change (fun request connection => serve now depth request connection)
      (connection.endpoint.close now) none).andThen fun connection =>
        ⟨connection, [.answered .close (.ok ())]⟩
  | depth + 1, .reset, connection =>
    (connection.change (fun request connection => serve now depth request connection)
      (connection.endpoint.reset now) none).andThen fun connection =>
        ⟨connection, [.answered .reset (.ok ())]⟩

def resume (now : Instant) (connection : Connection) : Passage :=
  match connection.waiting with
  | none => connection.idle
  | some remaining =>
    let turn := connection.endpoint.sendChunks now remaining
    let passage := connection.adopt turn.toTurn
    match turn.progress with
    | .blocked remaining =>
      passage.andThen fun connection => idle { connection with waiting := some remaining }
    | .complete =>
      passage.andThen fun connection =>
        ⟨{ connection with waiting := none }, [.resumed (.ok ())]⟩
    | .failed failure =>
      passage.andThen fun connection =>
        ⟨{ connection with waiting := none }, [.resumed (.error failure)]⟩

/-- A step that may have made room or ended the connection: the listener is told, and a waiting
send tries again. -/
def conclude (now : Instant) (turn : Turn) (data : Option Octets) (connection : Connection) :
    Passage :=
  (connection.change (serve now connection.nesting) turn data).andThen (resume now)

def close (time : Instant) (connection : Connection) : Passage :=
  let now := connection.clock.read time
  connection.conclude now (connection.endpoint.close now) none

def reset (time : Instant) (connection : Connection) : Passage :=
  let now := connection.clock.read time
  connection.conclude now (connection.endpoint.reset now) none

def tick (time : Instant) (connection : Connection) : Passage :=
  let now := connection.clock.read time
  connection.conclude now (connection.endpoint.tick now) none

def receive (time : Instant) (ip : Ip.Header) (header : Header) (payload : Octets)
    (connection : Connection) : Passage × Except Failure Unit :=
  let now := connection.clock.read time
  let reception := connection.endpoint.receive now ip header payload
  (connection.conclude now reception.toTurn reception.data,
    if reception.unexpectedAck then .error .unexpectedAck else .ok ())

inductive SendAnswer
  | finished (result : Except Failure Unit)
  | blocked
  | busy

/-- Sends data of any length, and waits if there is no room for all of it. Only one send can wait,
so there is no second one beside it, whether it would have to wait or not. -/
def sendWaiting (now : Instant) (data : Octets) (connection : Connection) :
    Passage × SendAnswer :=
  if connection.waiting.isSome then (connection.idle, .busy)
  else
    let turn := connection.endpoint.sendChunks now (chunks data)
    let passage := connection.adopt turn.toTurn
    match turn.progress with
    | .complete => (passage, .finished (.ok ()))
    | .failed failure => (passage, .finished (.error failure))
    | .blocked remaining =>
      (passage.andThen fun connection => idle { connection with waiting := some remaining },
        .blocked)

/-- Sends data of any length. A send with a time limit does not wait, because nothing else happens
in the meantime; it takes what room there is, even from a send that is waiting. -/
def send (time : Instant) (limit : Option Duration) (data : Octets) (connection : Connection) :
    Passage × SendAnswer :=
  let now := connection.clock.read time
  match limit with
  | none => connection.sendWaiting now data
  | some _ =>
    let (passage, result) := connection.sendAtOnce now data
    (passage, .finished result)

end Connection

end RadioStack.Tcp
