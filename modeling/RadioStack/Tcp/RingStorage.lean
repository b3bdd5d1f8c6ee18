import RadioStack.Tcp.SendRing
import RadioStack.Tcp.State

/-!
The send ring as it lies in memory: 128 octets in a row and two machine words. Data goes in and out
in two pieces, the second of which begins at the front of the storage. A sum that is no word and a
piece that does not lie inside what it is taken from leave an operation without a result.
-/

namespace RadioStack.Tcp

def sum? (largest first second : Nat) : Option Nat :=
  if first + second ≤ largest then some (first + second) else none

def difference? (first second : Nat) : Option Nat :=
  if second ≤ first then some (first - second) else none

def slice? (octets : Octets) (first last : Nat) : Option Octets :=
  if first ≤ last ∧ last ≤ octets.length then some ((octets.take last).drop first) else none

def copy? (octets : Octets) (first last : Nat) (source : Octets) : Option Octets :=
  if first ≤ last ∧ last ≤ octets.length ∧ source.length = last - first then
    some (octets.take first ++ source ++ octets.drop last)
  else none

structure RingStorage where
  octets : Octets
  start : Nat
  count : Nat
  deriving DecidableEq

namespace RingStorage

def blank : RingStorage := { octets := List.replicate 128 0, start := 0, count := 0 }

def free? (storage : RingStorage) : Option Nat := difference? SendRing.capacity storage.count

def enqueue? (largest : Nat) (data : Octets) (storage : RingStorage) :
    Option (RingStorage × Except Failure Unit) := do
  let free ← storage.free?
  if free < data.length then return (storage, .error .bufferFull)
  let newest ← sum? largest storage.start storage.count
  let first := newest % SendRing.capacity
  let room ← difference? SendRing.capacity first
  let length := min room data.length
  let last ← sum? largest first length
  let octets ← copy? storage.octets first last (← slice? data 0 length)
  let rest ← difference? data.length length
  let octets ← copy? octets 0 rest (← slice? data length data.length)
  let count ← sum? largest storage.count data.length
  return ({ storage with octets, count }, .ok ())

def release? (largest number : Nat) (storage : RingStorage) : Option RingStorage := do
  let number := min number storage.count
  let start ← sum? largest storage.start number
  let count ← difference? storage.count number
  return { storage with start := start % SendRing.capacity, count }

def peek? (largest offset : Nat) (buffer : Octets) (storage : RingStorage) :
    Option (Nat × Octets) := do
  if storage.count ≤ offset then return (0, buffer)
  let held ← difference? storage.count offset
  let number := min buffer.length held
  let oldest ← sum? largest storage.start offset
  let first := oldest % SendRing.capacity
  let room ← difference? SendRing.capacity first
  let length := min room number
  let last ← sum? largest first length
  let buffer ← copy? buffer 0 length (← slice? storage.octets first last)
  let rest ← difference? number length
  let buffer ← copy? buffer length number (← slice? storage.octets 0 rest)
  return (number, buffer)

def clear (storage : RingStorage) : RingStorage := { storage with start := 0, count := 0 }

end RingStorage

end RadioStack.Tcp
