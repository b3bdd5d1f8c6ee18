import RadioStack.Tcp.RingStorage

/-!
The send ring is a queue of at most 128 octets, wherever in its storage the queue begins: the pieces
in which data goes in and out always lie inside the storage, and no sum on the way exceeds 255. Main
statement: `run_refines_queue`.
-/

namespace RadioStack.Tcp

inductive RingCall
  | enqueue (data : Octets)
  | release (number : Nat)
  | peek (offset : Nat) (buffer : Octets)
  | clear

inductive RingAnswer
  | enqueued (result : Except Failure Unit)
  /-- How many octets have been copied to the front of a buffer, and the whole buffer. -/
  | copied (number : Nat) (buffer : Octets)
  | done

namespace RingCall

def onQueue (queue : Octets) : RingCall → Octets × RingAnswer
  | .enqueue data =>
    if queue.length + data.length ≤ 128 then (queue ++ data, .enqueued (.ok ()))
    else (queue, .enqueued (.error .bufferFull))
  | .release number => (queue.drop (min number queue.length), .done)
  | .peek offset buffer =>
    let number := min buffer.length (queue.length - offset)
    (queue, .copied number ((queue.drop offset).take number ++ buffer.drop number))
  | .clear => ([], .done)

def onRing (ring : SendRing) : RingCall → SendRing × RingAnswer
  | .enqueue data =>
    match ring.enqueue? data with
    | some grown => (grown, .enqueued (.ok ()))
    | none => (ring, .enqueued (.error .bufferFull))
  | .release number => (ring.release number, .done)
  | .peek offset buffer =>
    let found := ring.peek offset buffer.length
    (ring, .copied found.length (found ++ buffer.drop found.length))
  | .clear => (ring.clear, .done)

def onStorage? (largest : Nat) (storage : RingStorage) :
    RingCall → Option (RingStorage × RingAnswer)
  | .enqueue data => do
    let (storage, result) ← storage.enqueue? largest data
    return (storage, .enqueued result)
  | .release number => do return (← storage.release? largest number, .done)
  | .peek offset buffer => do
    let (number, buffer) ← storage.peek? largest offset buffer
    return (storage, .copied number buffer)
  | .clear => some (storage.clear, .done)

def serve {State : Type} (perform : State → RingCall → State × RingAnswer) (state : State) :
    List RingCall → State × List RingAnswer
  | [] => (state, [])
  | call :: calls =>
    let (next, answer) := perform state call
    let (last, answers) := serve perform next calls
    (last, answer :: answers)

def serve? {State : Type} (perform? : State → RingCall → Option (State × RingAnswer))
    (state : State) : List RingCall → Option (State × List RingAnswer)
  | [] => some (state, [])
  | call :: calls => do
    let (next, answer) ← perform? state call
    let (last, answers) ← serve? perform? next calls
    return (last, answer :: answers)

end RingCall

namespace RingStorage

variable {largest : Nat} {octets source : Octets} {first last : Nat}

theorem sum?_eq {first second : Nat} (small : first + second ≤ largest) :
    sum? largest first second = some (first + second) := if_pos small

theorem difference?_eq {first second : Nat} (ordered : second ≤ first) :
    difference? first second = some (first - second) := if_pos ordered

theorem slice?_eq (inside : first ≤ last ∧ last ≤ octets.length) :
    slice? octets first last = some ((octets.take last).drop first) := if_pos inside

theorem copy?_eq (inside : first ≤ last ∧ last ≤ octets.length)
    (fits : source.length = last - first) :
    copy? octets first last source = some (octets.take first ++ source ++ octets.drop last) :=
  if_pos ⟨inside.1, inside.2, fits⟩

theorem length_copied (octets : Octets) (inside : first ≤ last ∧ last ≤ octets.length)
    (fits : source.length = last - first) :
    (octets.take first ++ source ++ octets.drop last).length = octets.length := by
  simp only [List.length_append, List.length_take, List.length_drop]
  omega

theorem getElem?_copied (inside : first ≤ last ∧ last ≤ octets.length)
    (fits : source.length = last - first) (i : Nat) :
    (octets.take first ++ source ++ octets.drop last)[i]? =
      if first ≤ i ∧ i < last then source[i - first]? else octets[i]? := by
  have front : (octets.take first).length = first := by
    rw [List.length_take]
    omega
  rw [List.append_assoc]
  by_cases before : i < first
  · rw [if_neg (by omega), List.getElem?_append_left (by omega), List.getElem?_take_of_lt before]
  · rw [List.getElem?_append_right (by omega), front]
    by_cases copied : i < last
    · rw [if_pos (by omega), List.getElem?_append_left (by omega)]
    · rw [if_neg (by omega), List.getElem?_append_right (by omega), List.getElem?_drop]
      congr 1
      omega

/-- Data in a row of 128 octets, from `first` on: what has no room before the end stands at the
front. -/
def wrapped (octets : Octets) (first : Nat) (data : Octets) : Octets :=
  let length := min (128 - first) data.length
  let copied := octets.take first ++ data.take length ++ octets.drop (first + length)
  copied.take 0 ++ data.drop length ++ copied.drop (data.length - length)

def unwrapped (octets : Octets) (first number : Nat) : Octets :=
  let length := min (128 - first) number
  (octets.take (first + length)).drop first ++ octets.take (number - length)

/-- Each octet of the data stands as far from `first` as from its front, round the end of the
row. -/
theorem getElem?_wrapped {data : Octets} (row : octets.length = 128) (inside : first < 128)
    (fits : data.length ≤ 128) {i : Nat} (place : i < 128) :
    (wrapped octets first data)[i]? =
      if (i + (128 - first)) % 128 < data.length then data[(i + (128 - first)) % 128]?
      else octets[i]? := by
  unfold wrapped
  generalize pieces : min (128 - first) data.length = length
  have front : (data.take length).length = first + length - first := by
    rw [List.length_take]
    omega
  have whole := length_copied octets (by omega) front
  dsimp only
  rw [getElem?_copied (by omega) (by rw [List.length_drop]; omega),
    getElem?_copied (by omega) front]
  by_cases second : i < data.length - length
  · have turned : (i + (128 - first)) % 128 = length + i := by omega
    rw [if_pos (by omega), turned, if_pos (by omega), List.getElem?_drop, Nat.sub_zero]
  · rw [if_neg (by omega)]
    by_cases copied : first ≤ i ∧ i < first + length
    · have straight : (i + (128 - first)) % 128 = i - first := by omega
      rw [if_pos copied, straight, if_pos (by omega), List.getElem?_take_of_lt (by omega)]
    · rw [if_neg copied, if_neg (by omega)]

theorem length_wrapped {data : Octets} (row : octets.length = 128) (inside : first < 128)
    (fits : data.length ≤ 128) : (wrapped octets first data).length = 128 := by
  unfold wrapped
  generalize pieces : min (128 - first) data.length = length
  have front : (data.take length).length = first + length - first := by
    rw [List.length_take]
    omega
  have whole := length_copied octets (by omega) front
  dsimp only
  rw [length_copied _ (by omega) (by rw [List.length_drop, Nat.sub_zero]), whole, row]

theorem getElem?_unwrapped {number : Nat} (row : octets.length = 128) (inside : first < 128)
    (fits : number ≤ 128) {i : Nat} (place : i < number) :
    (unwrapped octets first number)[i]? = octets[(first + i) % 128]? := by
  unfold unwrapped
  generalize pieces : min (128 - first) number = length
  have front : ((octets.take (first + length)).drop first).length = length := by
    rw [List.length_drop, List.length_take]
    omega
  dsimp only
  by_cases straight : i < length
  · rw [List.getElem?_append_left (by omega), List.getElem?_drop,
      List.getElem?_take_of_lt (by omega), Nat.mod_eq_of_lt (by omega)]
  · have turned : (first + i) % 128 = i - length := by omega
    rw [List.getElem?_append_right (by omega), front, List.getElem?_take_of_lt (by omega), turned]

theorem length_unwrapped {number : Nat} (row : octets.length = 128) (inside : first < 128)
    (fits : number ≤ 128) : (unwrapped octets first number).length = number := by
  unfold unwrapped
  simp only [List.length_append, List.length_drop, List.length_take]
  omega

structure Sound (storage : RingStorage) : Prop where
  row : storage.octets.length = 128
  start_lt : storage.start < 128
  count_le : storage.count ≤ 128

variable {storage : RingStorage}

theorem Sound.free?_eq (sound : storage.Sound) : storage.free? = some (128 - storage.count) :=
  difference?_eq sound.count_le

theorem Sound.enqueue?_of_full (sound : storage.Sound) {data : Octets}
    (full : 128 < storage.count + data.length) :
    storage.enqueue? largest data = some (storage, .error .bufferFull) := by
  have held := sound.count_le
  unfold enqueue?
  rw [sound.free?_eq, Option.bind_eq_bind, Option.bind_some]
  exact if_pos (by omega)

theorem Sound.enqueue?_of_room (sound : storage.Sound) (wide : 255 ≤ largest) {data : Octets}
    (room : storage.count + data.length ≤ 128) :
    storage.enqueue? largest data = some ({ storage with
      octets := wrapped storage.octets ((storage.start + storage.count) % 128) data
      count := storage.count + data.length }, .ok ()) := by
  have row := sound.row
  have start := sound.start_lt
  have newest : sum? largest storage.start storage.count = some (storage.start + storage.count) :=
    sum?_eq (by omega)
  have count : sum? largest storage.count data.length = some (storage.count + data.length) :=
    sum?_eq (by omega)
  unfold enqueue? wrapped
  rw [sound.free?_eq, Option.bind_eq_bind, Option.bind_some, if_neg (by omega)]
  simp only [newest, count, SendRing.capacity, Option.bind_eq_bind, Option.bind_some]
  generalize place : (storage.start + storage.count) % 128 = first
  rw [difference?_eq (by omega), Option.bind_some]
  generalize pieces : min (128 - first) data.length = length
  have front : (data.take length).length = first + length - first := by
    rw [List.length_take]
    omega
  have back : (data.drop length).length = data.length - length - 0 := by
    rw [List.length_drop, Nat.sub_zero]
  have whole := length_copied storage.octets (by omega) front
  have last : sum? largest first length = some (first + length) := sum?_eq (by omega)
  have rest : difference? data.length length = some (data.length - length) :=
    difference?_eq (by omega)
  rw [last, Option.bind_some, slice?_eq (by omega), Option.bind_some, List.drop_zero,
    copy?_eq (by omega) front, Option.bind_some, rest, Option.bind_some, slice?_eq (by omega),
    Option.bind_some, List.take_length, copy?_eq (by omega) back]
  rfl

theorem Sound.release?_eq (sound : storage.Sound) (wide : 255 ≤ largest) (number : Nat) :
    storage.release? largest number = some { storage with
      start := (storage.start + min number storage.count) % 128
      count := storage.count - min number storage.count } := by
  have start := sound.start_lt
  have held := sound.count_le
  unfold release?
  dsimp only
  rw [sum?_eq (by omega), difference?_eq (Nat.min_le_right _ _)]
  rfl

theorem Sound.peek?_eq (sound : storage.Sound) (wide : 255 ≤ largest) (offset : Nat)
    (buffer : Octets) :
    let number := min buffer.length (storage.count - offset)
    storage.peek? largest offset buffer = some (number,
      unwrapped storage.octets ((storage.start + offset) % 128) number ++ buffer.drop number) := by
  intro number
  have row := sound.row
  have start := sound.start_lt
  have held := sound.count_le
  unfold peek?
  by_cases beyond : storage.count ≤ offset
  · have zero : number = 0 := by omega
    rw [if_pos beyond, zero]
    simp [unwrapped]
  · rw [if_neg beyond, difference?_eq (by omega), sum?_eq (by omega)]
    simp only [SendRing.capacity, Option.bind_eq_bind, Option.bind_some]
    generalize place : (storage.start + offset) % 128 = first
    rw [difference?_eq (by omega), Option.bind_some]
    change Option.bind (sum? largest first (min (128 - first) number)) _ = _
    unfold unwrapped
    generalize pieces : min (128 - first) number = length
    have front : ((storage.octets.take (first + length)).drop first).length = length := by
      rw [List.length_drop, List.length_take]
      omega
    have back : (storage.octets.take (number - length)).length = number - length := by
      rw [List.length_take]
      omega
    rw [sum?_eq (by omega), Option.bind_some, slice?_eq (by omega), Option.bind_some,
      copy?_eq (by omega) (by omega), Option.bind_some]
    change Option.bind (difference? number length) _ = _
    rw [difference?_eq (by omega), Option.bind_some, slice?_eq (by omega), Option.bind_some,
      List.drop_zero, List.take_zero, List.nil_append]
    change Option.bind (copy? _ length number _) _ = _
    dsimp only
    generalize (storage.octets.take (first + length)).drop first = piece at front
    have whole : (piece ++ buffer.drop length).length = buffer.length := by
      rw [List.length_append, front, List.length_drop]
      omega
    have kept : (piece ++ buffer.drop length).drop number = buffer.drop number := by
      have passed : piece.drop number = [] := List.drop_eq_nil_of_le (by omega)
      rw [List.drop_append, front, passed, List.nil_append, List.drop_drop,
        Nat.add_sub_of_le (by omega)]
    rw [copy?_eq (by omega) back, Option.bind_some, List.take_left' front, kept]
    rfl

end RingStorage

namespace SendRing

open RingStorage (wrapped unwrapped)

variable (ring : SendRing) {largest : Nat}

def inStorage : RingStorage := ⟨ring.storage.toList, ring.start.val, ring.count⟩

theorem octet_push (added : UInt8) {i : Nat} (inside : i < 128) (room : ring.count < 128) :
    (ring.push added).octet i = if i = ring.count then added else ring.octet i := by
  split
  · rename_i newest
    simp [push, room, octet, position, newest]
  · rename_i other
    have apart : (ring.position ring.count).val ≠ (ring.position i).val := by
      intro same
      exact other (ring.position_injective inside room (Fin.ext same.symm))
    simp only [push, room, dif_pos, octet, position] at *
    exact Vector.getElem_set_ne _ _ apart

theorem foldl_push_start_count (data : Octets) (ring : SendRing)
    (room : ring.count + data.length ≤ 128) :
    (data.foldl push ring).start = ring.start ∧
      (data.foldl push ring).count = ring.count + data.length := by
  induction data generalizing ring with
  | nil => exact ⟨rfl, rfl⟩
  | cons first rest ih =>
      rw [List.length_cons] at room ⊢
      have held : ring.count < 128 := by omega
      have start : (ring.push first).start = ring.start := by simp [push, held]
      have count : (ring.push first).count = ring.count + 1 := by simp [push, held]
      obtain ⟨sameStart, grown⟩ := ih (ring.push first) (by omega)
      exact ⟨sameStart.trans start, by rw [List.foldl_cons, grown, count]; omega⟩

/-- New octets stand behind the newest one; all others, the meaningless ones too, stay. -/
theorem octet_foldl_push (data : Octets) (ring : SendRing)
    (room : ring.count + data.length ≤ 128) {i : Nat} (inside : i < 128) :
    (data.foldl push ring).octet i =
      if i < ring.count then ring.octet i else (data[i - ring.count]?).getD (ring.octet i) := by
  induction data generalizing ring with
  | nil => simp
  | cons first rest ih =>
      rw [List.length_cons] at room
      have held : ring.count < 128 := by omega
      have count : (ring.push first).count = ring.count + 1 := by simp [push, held]
      rw [List.foldl_cons, ih (ring.push first) (by omega), count,
        ring.octet_push first inside held]
      rcases Nat.lt_trichotomy i ring.count with older | newest | newer
      · rw [if_pos (by omega), if_neg (by omega), if_pos older]
      · rw [if_pos (by omega), if_pos newest, if_neg (by omega), newest, Nat.sub_self]
        rfl
      · have behind : i - ring.count = i - (ring.count + 1) + 1 := by omega
        rw [if_neg (by omega), if_neg (by omega), if_neg (by omega), behind,
          List.getElem?_cons_succ]

theorem getElem?_position (offset : Nat) :
    ring.storage.toList[(ring.position offset).val]? = some (ring.octet offset) := by
  rw [List.getElem?_eq_getElem (by simp), Vector.getElem_toList]
  rfl

theorem getElem?_storage {i : Nat} (inside : i < 128) :
    ring.storage.toList[i]? = some (ring.octet ((i + (128 - ring.start.val)) % 128)) := by
  have := ring.start.isLt
  have found := ring.getElem?_position ((i + (128 - ring.start.val)) % 128)
  have place : (ring.position ((i + (128 - ring.start.val)) % 128)).val = i := by
    simp only [position, Fin.val_add, Fin.ofNat]
    omega
  rwa [place] at found

theorem storage_foldl_push {data : Octets} (room : ring.count + data.length ≤ 128) :
    (data.foldl push ring).storage.toList =
      wrapped ring.storage.toList ((ring.start.val + ring.count) % 128) data := by
  have start := ring.start.isLt
  have row : ring.storage.toList.length = 128 := Vector.length_toList
  apply List.ext_getElem?
  intro i
  by_cases inside : i < 128
  · rw [RingStorage.getElem?_wrapped row (by omega) (by omega) inside,
      getElem?_storage _ inside, getElem?_storage _ inside,
      (foldl_push_start_count data ring room).1, octet_foldl_push data ring room (by omega)]
    generalize newest : (i + (128 - (ring.start.val + ring.count) % 128)) % 128 = behind
    by_cases copied : behind < data.length
    · have place : (i + (128 - ring.start.val)) % 128 - ring.count = behind := by omega
      rw [if_neg (by omega), if_pos copied, place, List.getElem?_eq_getElem copied]
      rfl
    · rw [if_neg copied]
      split
      · rfl
      · rw [List.getElem?_eq_none (by omega)]
        rfl
  · have whole : (wrapped ring.storage.toList ((ring.start.val + ring.count) % 128) data).length =
        128 := RingStorage.length_wrapped row (by omega) (by omega)
    rw [List.getElem?_eq_none (by simpa using inside), List.getElem?_eq_none (by omega)]

theorem length_peek (offset number : Nat) :
    (ring.peek offset number).length = min number (ring.count - offset) := by
  simp [peek]

theorem sound_inStorage : ring.inStorage.Sound :=
  ⟨Vector.length_toList, ring.start.isLt, ring.count_le⟩

theorem unwrapped_storage (offset : Nat) {number : Nat} (fits : number ≤ 128) :
    unwrapped ring.storage.toList ((ring.start.val + offset) % 128) number =
      (List.range number).map fun i => ring.octet (offset + i) := by
  have row : ring.storage.toList.length = 128 := Vector.length_toList
  have inside : (ring.start.val + offset) % 128 < 128 := Nat.mod_lt _ (by decide)
  apply List.ext_getElem?
  intro i
  by_cases taken : i < number
  · have place :
        ((ring.start.val + offset) % 128 + i) % 128 = (ring.position (offset + i)).val := by
      simp only [position, Fin.val_add, Fin.ofNat]
      omega
    rw [RingStorage.getElem?_unwrapped row inside fits taken, place, getElem?_position,
      List.getElem?_map, List.getElem?_range taken]
    rfl
  · have length := RingStorage.length_unwrapped row inside fits
    rw [List.getElem?_eq_none (by omega), List.getElem?_eq_none (by simpa using taken)]

end SendRing

namespace RingCall

open SendRing (inStorage)

variable {largest : Nat} {ring : SendRing} {call : RingCall}

/-- In its storage a ring does what it does octet by octet: no sum and no piece fails. -/
theorem onStorage?_inStorage (wide : 255 ≤ largest) (call : RingCall) (ring : SendRing) :
    call.onStorage? largest ring.inStorage =
      some ((call.onRing ring).1.inStorage, (call.onRing ring).2) := by
  have sound := ring.sound_inStorage
  have held := ring.count_le
  cases call with
  | enqueue data =>
      rw [onStorage?, onRing, SendRing.enqueue?, SendRing.free, SendRing.capacity]
      by_cases room : data.length ≤ 128 - ring.count
      · have fits : ring.count + data.length ≤ 128 := by omega
        obtain ⟨start, count⟩ := SendRing.foldl_push_start_count data ring fits
        rw [sound.enqueue?_of_room wide fits, if_pos room]
        simp only [inStorage, start, count, SendRing.storage_foldl_push ring fits]
        rfl
      · rw [sound.enqueue?_of_full (by simp only [inStorage]; omega), if_neg room]
        rfl
  | release number =>
      have place : (ring.position (min number ring.count)).val =
          (ring.start.val + min number ring.count) % 128 := by
        simp only [SendRing.position, Fin.val_add, Fin.ofNat]
        omega
      rw [onStorage?, sound.release?_eq wide, onRing]
      simp only [inStorage, SendRing.release, place]
      rfl
  | peek offset buffer =>
      have found := ring.unwrapped_storage offset
        (Nat.le_trans (Nat.min_le_right buffer.length (ring.count - offset)) (by omega))
      rw [onStorage?, sound.peek?_eq wide, onRing, SendRing.length_peek, SendRing.peek, ← found]
      rfl
  | clear => rfl

theorem onRing_toList (call : RingCall) (ring : SendRing) :
    call.onQueue ring.toList = ((call.onRing ring).1.toList, (call.onRing ring).2) := by
  have held := ring.count_le
  cases call with
  | enqueue data =>
      rw [onQueue, onRing, SendRing.length_toList]
      by_cases room : ring.count + data.length ≤ 128
      · have fits : data.length ≤ ring.free := by
          unfold SendRing.free SendRing.capacity
          omega
        rw [if_pos room, SendRing.enqueue?, if_pos fits]
        exact congrArg (·, _) (ring.toList_foldl_push data room).symm
      · have full : ¬ data.length ≤ ring.free := by
          unfold SendRing.free SendRing.capacity
          omega
        rw [if_neg room, SendRing.enqueue?, if_neg full]
  | release number =>
      rw [onQueue, onRing, SendRing.toList_release, SendRing.length_toList, Nat.min_def]
      split
      · rfl
      · rename_i beyond
        rw [List.drop_eq_nil_of_le (by simp), List.drop_eq_nil_of_le (by simp; omega)]
  | peek offset buffer =>
      have found : ring.peek offset buffer.length =
          (ring.toList.drop offset).take (min buffer.length (ring.count - offset)) := by
        rw [SendRing.peek_eq_take_drop, List.take_eq_take_min, List.length_drop,
          SendRing.length_toList]
      rw [onQueue, onRing, SendRing.length_toList, SendRing.length_peek, found]
  | clear => rfl

theorem serve_onRing (calls : List RingCall) (ring : SendRing) :
    serve onQueue ring.toList calls =
      ((serve onRing ring calls).1.toList, (serve onRing ring calls).2) := by
  induction calls generalizing ring with
  | nil => rfl
  | cons call calls ih =>
      rw [serve, onRing_toList]
      dsimp only
      rw [ih]
      rfl

theorem serve?_inStorage (wide : 255 ≤ largest) (calls : List RingCall) (ring : SendRing) :
    serve? (onStorage? largest) ring.inStorage calls =
      some ((serve onRing ring calls).1.inStorage, (serve onRing ring calls).2) := by
  induction calls generalizing ring with
  | nil => rfl
  | cons call calls ih =>
      rw [serve?, onStorage?_inStorage wide, Option.bind_eq_bind, Option.bind_some]
      dsimp only
      rw [ih]
      rfl

/-- Whatever calls are made on a new ring, with any data, numbers and offsets: the answers are those
of a queue of at most 128 octets, the ring holds that queue, and it does so in the storage, where
every piece lies inside what it is taken from and no sum exceeds 255. -/
theorem run_refines_queue (wide : 255 ≤ largest) (calls : List RingCall) :
    let queue := (serve onQueue [] calls).1
    let answers := (serve onQueue [] calls).2
    let ring := (serve onRing .empty calls).1
    queue.length ≤ 128 ∧ (serve onRing .empty calls).2 = answers ∧
      serve? (onStorage? largest) .blank calls = some (ring.inStorage, answers) ∧
      ring.toList = queue ∧ ring.count = queue.length ∧ ring.isEmpty = queue.isEmpty ∧
      ring.free = 128 - queue.length ∧ ring.inStorage.free? = some (128 - queue.length) := by
  have served : serve onQueue [] calls = _ := serve_onRing calls .empty
  have stored : serve? (onStorage? largest) .blank calls = _ := serve?_inStorage wide calls .empty
  rw [served, stored]
  intro queue answers ring
  have length : queue.length = ring.count := ring.length_toList
  have free : ring.free = 128 - queue.length := congrArg (128 - ·) length.symm
  refine ⟨?_, rfl, rfl, rfl, length.symm, ?_, free, ?_⟩
  · rw [length]
    exact ring.count_le
  · rw [Bool.eq_iff_iff, ring.isEmpty_iff, List.isEmpty_iff]
  · rw [← free]
    exact ring.sound_inStorage.free?_eq

/-- A queue that goes round the end of the storage is read in one piece, and is not overfilled. -/
theorem turned_refines_queue :
    let calls : List RingCall := [.enqueue (List.replicate 100 1), .release 90,
      .enqueue (List.replicate 50 2), .peek 10 (List.replicate 64 0xee),
      .enqueue (List.replicate 69 3)]
    ∃ storage, serve? (onStorage? 0xffff) .blank calls = some (storage,
        [.enqueued (.ok ()), .done, .enqueued (.ok ()),
          .copied 50 (List.replicate 50 2 ++ List.replicate 14 0xee),
          .enqueued (.error .bufferFull)]) ∧
      255 ≤ 0xffff ∧ storage.free? = some 68 := by
  intro calls
  have wide : 255 ≤ 0xffff := by decide
  obtain ⟨_, _, stored, _, _, _, _, free⟩ := run_refines_queue wide calls
  exact ⟨_, stored, wide, free⟩

end RingCall

end RadioStack.Tcp
