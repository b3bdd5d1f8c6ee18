import RadioStack.Interface
import RadioStack.Tcp.Table

/-!
A radio link with a few stations. Each has an interface, a table of connections, and the frames it
has sent that are still on the air. Frames move when they are told to, so they can be lost,
repeated, reordered and damaged on the way.
-/

namespace RadioStack

open Tcp

structure Node where
  link : LinkAddress
  address : Address
  interface : Interface
  table : Table := []
  air : List Octets := []

inductive Happening
  | record (record : Log.Record)
  | frame (node : Nat) (octets : Octets)
  | segment (node : Nat) (segment : Segment)
  | notified (connection : Nat) (notification : Notification)
  | answered (connection : Nat) (request : Request) (result : Except Failure Unit)
  | resumed (connection : Nat) (result : Except Failure Unit)

structure Network where
  nodes : List Node
  connections : List Connection := []
  homes : List Nat := []
  time : Instant := 0
  /-- Segments leave a node as they are, without passing its interface. -/
  direct : Bool := false
  journal : List Happening := []

structure Damage where
  flip : Option Nat := none
  mask : UInt8 := 1
  cut : Option Nat := none

def Damage.apply (damage : Damage) (frame : Octets) : Octets :=
  let flipped :=
    match damage.flip with
    | none => frame
    | some index => frame.modify (index % frame.length) (· ^^^ damage.mask)
  match damage.cut with
  | none => flipped
  | some length => flipped.take length

namespace Network

/-- A step of a network. There is none where the accumulator of a checksum is exceeded. -/
abbrev Step := StateT Network Option

def note (happening : Happening) : Step Unit :=
  modify fun network => { network with journal := network.journal ++ [happening] }

def takeJournal : Step (List Happening) :=
  modifyGet fun network => (network.journal, { network with journal := [] })

def updateNode (number : Nat) (change : Node → Node) : Step Unit :=
  modify fun network => { network with nodes := network.nodes.modify number change }

def emitFrame (node : Nat) (frame : Octets) : Step Unit := do
  note (.frame node frame)
  updateNode node fun station => { station with air := station.air ++ [frame] }

def emitFromInterface (node : Nat) : Interface.Emission → Step Unit
  | .record record => note (.record record)
  | .frame octets => emitFrame node octets

def emitSegment (node : Nat) (segment : Segment) : Step Unit := do
  let network ← get
  if network.direct then note (.segment node segment)
  else
    match network.nodes[node]? with
    | none => return
    | some station =>
      (station.interface.sendPacket segment.ip segment.octets).forM (emitFromInterface node)

def perform (connection : Nat) : Effect → Step Unit
  | .emitted (.record record) => note (.record record)
  | .emitted (.segment segment) => do
    let network ← get
    match network.homes[connection]? with
    | none => return
    | some node => emitSegment node segment
  | .notified notification => note (.notified connection notification)
  | .answered request result => note (.answered connection request result)
  | .abandoned _ => return
  | .resumed result => note (.resumed connection result)

def performActivity : Activity → Step Unit
  | .record record => note (.record record)
  | .effect connection effect => perform connection effect

def addConnection (node : Nat) (connection : Connection) : Step Nat :=
  modifyGet fun network => (network.connections.length, { network with
    connections := network.connections ++ [connection]
    homes := network.homes ++ [node] })

def call {α : Type} (number : Nat) (operation : Instant → Connection → Passage × α) :
    Step (Option α) := do
  let network ← get
  match network.connections[number]? with
  | none => return none
  | some connection =>
    let (passage, answer) := operation network.time connection
    set { network with connections := network.connections.set number passage.connection }
    passage.effects.forM (perform number)
    return some answer

def route {α : Type} (node : Nat) (operation : Instant → Routing → Option (Routing × α)) :
    Step (Option α) := do
  let network ← get
  match network.nodes[node]? with
  | none => return none
  | some station =>
    let (routing, answer) ←
      operation network.time { connections := network.connections, table := station.table }
    set { network with connections := routing.connections }
    updateNode node fun station => { station with table := routing.table }
    routing.activities.forM performActivity
    return some answer

def insert (node connection : Nat) : Step Unit :=
  updateNode node fun station => { station with table := station.table ++ [connection] }

def remove (node connection : Nat) : Step Bool := do
  let found ← route node fun _ routing =>
    some (routing.remove connection, routing.table.contains connection)
  return found.getD false

def lookup? (node : Nat) (ip : Ip.Header) (header : Header) : Step (Option Nat) := do
  let found ← route node fun _ routing => some (routing, routing.lookup? ip header)
  return found.join

def dispatch (node : Nat) (ip : Ip.Header) (segment : Octets) : Step Bool := do
  let taken ← route node fun time routing => routing.dispatch? time ip segment
  return taken.getD false

def tickAll (node : Nat) : Step Unit := do
  let _ ← route node fun time routing => some (routing.tickAll time, ())

def advance (milliseconds : Nat) : Step Instant :=
  modifyGet fun network =>
    let time := min (network.time + milliseconds) Instant.latest
    (time, { network with time })

def sendUdp (node : Nat) (header : Ip.Header) (source destination : UInt16) (payload : Octets) :
    Step (Except Compression.EncodeError Unit) := do
  let network ← get
  match network.nodes[node]? with
  | none => return .ok ()
  | some station =>
    match ← station.interface.sendUdp? header source destination payload with
    | .error error => return .error error
    | .ok emissions =>
      emissions.forM (emitFromInterface node)
      return .ok ()

structure Arrival where
  packet : Except Compression.DecodeError Compression.Packet
  taken : Bool

def receiveFrame (node : Nat) (source : LinkAddress) (frame : Octets) : Step Arrival := do
  let network ← get
  match network.nodes[node]? with
  | none => return ⟨.error .shortPacket, false⟩
  | some station =>
    let links : LinkPair := ⟨source, station.link⟩
    (station.interface.receiveRecords frame links).forM fun record => note (.record record)
    match station.interface.receive frame links with
    | .error error => return ⟨.error error, false⟩
    | .ok packet =>
      let taken ← route node fun time routing => routing.dispatchPacket? time packet
      return ⟨.ok packet, taken.getD false⟩

def frameAt? (node index : Nat) : Step (Option Octets) := do
  let network ← get
  return (network.nodes[node]?.bind fun station => station.air[index]?)

def drop? (node index : Nat) : Step (Option Octets) := do
  let frame ← frameAt? node index
  updateNode node fun station => { station with air := station.air.eraseIdx index }
  return frame

/-- A frame from one node, perhaps damaged, reaches another. It stays on the air if it is kept. -/
def deliver? (sender index receiver : Nat) (keep : Bool) (damage : Damage) :
    Step (Option Arrival) := do
  let network ← get
  let frame ← if keep then frameAt? sender index else drop? sender index
  match network.nodes[sender]?, frame with
  | some station, some frame =>
    let arrival ← receiveFrame receiver station.link (damage.apply frame)
    return some arrival
  | _, _ => return none

def moveOldest? : Step (Option Arrival) := do
  let arrival ← deliver? 0 0 1 false {}
  match arrival with
  | some arrival => return some arrival
  | none => deliver? 1 0 0 false {}

/-- Moves frames between two nodes until there are none, or `limit` of them; the answer says how
many were moved and how many of these were taken. -/
def pump : Nat → Step (Nat × Nat)
  | 0 => return (0, 0)
  | limit + 1 => do
    let arrival ← moveOldest?
    match arrival with
    | none => return (0, 0)
    | some arrival =>
      let (moved, taken) ← pump limit
      return (moved + 1, taken + arrival.taken.toNat)

def pumpLimit : Nat := 50

end Network

end RadioStack
