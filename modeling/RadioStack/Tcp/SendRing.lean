import RadioStack.Octets

/-!
The send buffer: a ring of 128 octets that holds what has been sent and not acknowledged. Its
oldest octet is the first one unacknowledged. `toList` is the queue that the ring stands for.
-/

namespace RadioStack.Tcp

structure SendRing where
  storage : Vector UInt8 128
  start : Fin 128
  count : Nat
  count_le : count ≤ 128 := by omega
  deriving DecidableEq

namespace SendRing

def capacity : Nat := 128

def empty : SendRing := { storage := .replicate 128 0, start := 0, count := 0 }

def position (ring : SendRing) (offset : Nat) : Fin 128 := ring.start + Fin.ofNat 128 offset

def octet (ring : SendRing) (offset : Nat) : UInt8 := ring.storage[ring.position offset]

def toList (ring : SendRing) : Octets := (List.range ring.count).map ring.octet

def isEmpty (ring : SendRing) : Bool := ring.count == 0

def free (ring : SendRing) : Nat := capacity - ring.count

/-- Adds an octet behind the newest one. A full ring stays as it is. -/
def push (ring : SendRing) (octet : UInt8) : SendRing :=
  if room : ring.count < 128 then
    { storage := ring.storage.set (ring.position ring.count) octet
      start := ring.start
      count := ring.count + 1 }
  else ring

def enqueue? (ring : SendRing) (data : Octets) : Option SendRing :=
  if data.length ≤ ring.free then some (data.foldl push ring) else none

def release (ring : SendRing) (number : Nat) : SendRing :=
  { storage := ring.storage
    start := ring.position (min number ring.count)
    count := ring.count - min number ring.count
    count_le := Nat.le_trans (Nat.sub_le _ _) ring.count_le }

/-- Up to `number` octets, from `offset` past the oldest one on. -/
def peek (ring : SendRing) (offset number : Nat) : Octets :=
  (List.range (min number (ring.count - offset))).map fun i => ring.octet (offset + i)

def clear (ring : SendRing) : SendRing :=
  { storage := ring.storage, start := 0, count := 0 }

@[simp] theorem length_toList (ring : SendRing) : ring.toList.length = ring.count := by
  simp [toList]

@[simp] theorem toList_empty : empty.toList = [] := rfl

@[simp] theorem toList_clear (ring : SendRing) : ring.clear.toList = [] := rfl

theorem position_injective (ring : SendRing) {i j : Nat} (left : i < 128) (right : j < 128)
    (same : ring.position i = ring.position j) : i = j := by
  have h := congrArg Fin.val same
  simp only [position, Fin.val_add, Fin.ofNat] at h
  have := ring.start.isLt
  omega

theorem octet_push_of_lt (ring : SendRing) (added : UInt8) {i : Nat} (held : i < ring.count) :
    (ring.push added).octet i = ring.octet i := by
  have := ring.count_le
  unfold push
  split
  · rename_i room
    have apart : (ring.position ring.count).val ≠ (ring.position i).val := by
      intro same
      have := ring.position_injective room (by omega) (Fin.ext same)
      omega
    simp only [octet, position] at *
    exact Vector.getElem_set_ne _ _ apart
  · rfl

theorem toList_push (ring : SendRing) (added : UInt8) (room : ring.count < 128) :
    (ring.push added).toList = ring.toList ++ [added] := by
  have count : (ring.push added).count = ring.count + 1 := by simp [push, room]
  rw [toList, count, List.range_succ, List.map_append, toList]
  congr 1
  · exact List.map_congr_left fun i member =>
      octet_push_of_lt ring added (List.mem_range.mp member)
  · simp [push, room, octet, position]

theorem toList_foldl_push (data : Octets) (ring : SendRing)
    (room : ring.count + data.length ≤ 128) :
    (data.foldl push ring).toList = ring.toList ++ data := by
  induction data generalizing ring with
  | nil => simp
  | cons first rest ih =>
      rw [List.length_cons] at room
      have pushed := ring.toList_push first (by omega)
      have count := congrArg List.length pushed
      rw [length_toList, List.length_append, length_toList, List.length_singleton] at count
      rw [List.foldl_cons, ih _ (by omega), pushed, List.append_assoc, List.singleton_append]

theorem toList_enqueue? {ring grown : SendRing} {data : Octets}
    (enqueued : ring.enqueue? data = some grown) : grown.toList = ring.toList ++ data := by
  have := ring.count_le
  unfold enqueue? free capacity at enqueued
  split at enqueued
  · injection enqueued with same
    subst same
    exact ring.toList_foldl_push data (by omega)
  · cases enqueued

theorem toList_eq_nil_iff (ring : SendRing) : ring.toList = [] ↔ ring.count = 0 := by
  rw [← List.length_eq_zero_iff, length_toList]

theorem isEmpty_iff (ring : SendRing) : ring.isEmpty = true ↔ ring.toList = [] := by
  rw [isEmpty, beq_iff_eq, toList_eq_nil_iff]

theorem toList_release (ring : SendRing) (number : Nat) :
    (ring.release number).toList = ring.toList.drop number := by
  apply List.ext_getElem
  · simp [release]
    omega
  · intro i held _
    simp only [length_toList, release] at held
    simp only [toList, List.getElem_map, List.getElem_range, List.getElem_drop, octet, release]
    congr 1
    apply Fin.ext
    simp only [position, Fin.val_add, Fin.ofNat]
    omega

theorem peek_eq_take_drop (ring : SendRing) (offset number : Nat) :
    ring.peek offset number = (ring.toList.drop offset).take number := by
  apply List.ext_getElem
  · simp [peek]
  · intro i _ _
    simp [peek, toList]

end SendRing

end RadioStack.Tcp
