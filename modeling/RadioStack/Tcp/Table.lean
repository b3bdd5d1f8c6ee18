import RadioStack.Compression.Packet
import RadioStack.Tcp.Connection

/-!
Routing segments to connections. Connections are known by their numbers; a table lists the numbers
of those that are open. A segment goes to the connection bound to its remote end, or else to one
that listens on its port.
-/

namespace RadioStack.Tcp

abbrev Table := List Nat

inductive Activity
  | record (record : Log.Record)
  | effect (number : Nat) (effect : Effect)

structure Routing where
  connections : List Connection
  table : Table
  activities : List Activity := []

namespace Routing

def adopt (routing : Routing) (number : Nat) (passage : Passage) : Routing :=
  { routing with
    connections := routing.connections.set number passage.connection
    activities := routing.activities ++ passage.effects.map (.effect number) }

def tick (routing : Routing) (time : Instant) (number : Nat) : Routing :=
  match routing.connections[number]? with
  | none => routing
  | some connection => routing.adopt number (connection.tick time)

def note (routing : Routing) (record : Log.Record) : Routing :=
  { routing with activities := routing.activities ++ [.record record] }

def isClosed (routing : Routing) (number : Nat) : Bool :=
  routing.connections[number]?.all fun connection => connection.endpoint.state == .closed

def candidates (routing : Routing) (ip : Ip.Header) (header : Header) : List Nat :=
  routing.table.filter fun number =>
    routing.connections[number]?.any fun connection =>
      connection.endpoint.state != .closed && connection.endpoint.accepts ip header

def isConnected (routing : Routing) (number : Nat) : Bool :=
  routing.connections[number]?.any fun connection => connection.endpoint.isConnected

def lookup? (routing : Routing) (ip : Ip.Header) (header : Header) : Option Nat :=
  let candidates := routing.candidates ip header
  (candidates.find? routing.isConnected).or candidates.head?

def remove (routing : Routing) (number : Nat) : Routing :=
  { routing with table := routing.table.filter (· != number) }

/-- Gives a segment to a connection, which leaves the table if that closes it. -/
def deliver (routing : Routing) (time : Instant) (number : Nat) (ip : Ip.Header)
    (header : Header) (payload : Octets) : Routing :=
  match routing.connections[number]? with
  | none => routing
  | some connection =>
    let (passage, result) := connection.receive time ip header payload
    let received := routing.adopt number passage
    let noted :=
      match result with
      | .ok () => received
      | .error failure => received.note (.receiveFailed header.destinationPort failure)
    if noted.isClosed number then noted.remove number else noted

/-- Verifies, reads and delivers a segment. The answer tells whether a connection got it. -/
def dispatch (routing : Routing) (time : Instant) (ip : Ip.Header) (segment : Octets) :
    Routing × Bool :=
  if ip.nextHeader ≠ .tcp then (routing, false)
  else if !checksumVerifies ip.source ip.destination segment then
    (routing.note (.badChecksum ip.source), false)
  else
    match parse? segment with
    | none => (routing.note (.malformedSegment ip.source), false)
    | some (header, payload) =>
      match routing.lookup? ip header with
      | none => (routing.note (.noConnection ip.destination header.destinationPort), false)
      | some number => (routing.deliver time number ip header payload, true)

/-- As `dispatch`; nothing comes of it where the accumulator of the checksum is exceeded. -/
def dispatch? (routing : Routing) (time : Instant) (ip : Ip.Header) (segment : Octets) :
    Option (Routing × Bool) :=
  if ip.nextHeader = .tcp ∧ (checksumVerifies? ip.source ip.destination segment).isNone then none
  else some (routing.dispatch time ip segment)

def dispatchPacket (routing : Routing) (time : Instant) (packet : Compression.Packet) :
    Routing × Bool :=
  if packet.udp.isSome then (routing, false)
  else routing.dispatch time packet.header packet.payload

def dispatchPacket? (routing : Routing) (time : Instant) (packet : Compression.Packet) :
    Option (Routing × Bool) :=
  if packet.udp.isSome then some (routing, false)
  else routing.dispatch? time packet.header packet.payload

/-- Drives the timers of all listed connections, then drops the closed ones. -/
def tickAll (routing : Routing) (time : Instant) : Routing :=
  let ticked := routing.table.foldl (fun routing number => routing.tick time number) routing
  { ticked with table := ticked.table.filter fun number => !ticked.isClosed number }

end Routing

end RadioStack.Tcp
