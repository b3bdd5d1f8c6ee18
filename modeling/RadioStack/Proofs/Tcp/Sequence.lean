import RadioStack.Tcp.Endpoint

/-!
Sequence numbers as distances from an origin. Numbers wrap around, distances do not, so that what
is said of a connection can be said of natural numbers. Both comparisons of an acknowledgment
together are membership in a window, up to one number half the space away.
-/

namespace RadioStack.Tcp

def ahead (origin : UInt32) (distance : Nat) : UInt32 := origin + distance.toUInt32

@[simp] theorem ahead_zero (origin : UInt32) : ahead origin 0 = origin := by
  simp [ahead]

theorem ahead_ahead (origin : UInt32) (first second : Nat) :
    ahead (ahead origin first) second = ahead origin (first + second) := by
  simp [ahead, UInt32.ofNat_add, UInt32.add_assoc]

theorem ahead_succ (origin : UInt32) (distance : Nat) :
    ahead origin distance + 1 = ahead origin (distance + 1) := by
  simp [ahead, UInt32.ofNat_add, UInt32.add_assoc]

theorem ahead_sub (origin : UInt32) {distance back : Nat} (within : back ≤ distance) :
    ahead origin distance - back.toUInt32 = ahead origin (distance - back) := by
  have split : ahead origin distance = ahead origin (distance - back) + back.toUInt32 := by
    rw [← Nat.sub_add_cancel within, ← ahead_ahead, Nat.sub_add_cancel within]
    rfl
  rw [split, UInt32.add_sub_cancel]

theorem ahead_toNat_sub (origin number : UInt32) :
    ahead origin (number - origin).toNat = number := by
  simp only [ahead, Nat.toUInt32_eq, UInt32.ofNat_toNat]
  rw [UInt32.add_comm, UInt32.sub_add_cancel]

theorem toNat_ahead (origin : UInt32) (distance : Nat) :
    (ahead origin distance).toNat = (origin.toNat + distance) % 4294967296 := by
  simp [ahead, UInt32.toNat_add]

theorem toNat_ahead_sub (origin : UInt32) {near far : Nat} (ordered : near ≤ far)
    (bounded : far - near < 4294967296) :
    (ahead origin far - ahead origin near).toNat = far - near := by
  have := origin.toNat_lt
  rw [UInt32.toNat_sub, toNat_ahead, toNat_ahead]
  omega

theorem toNat_sub_eq_iff (origin number : UInt32) {distance : Nat}
    (bounded : distance < 4294967296) :
    (number - origin).toNat = distance ↔ number = ahead origin distance := by
  constructor
  · intro apart
    rw [← apart, ahead_toNat_sub]
  · intro reached
    have near := toNat_ahead_sub origin (Nat.zero_le distance) bounded
    rwa [ahead_zero, ← reached] at near

theorem toNat_ahead_sub_of_lt (origin : UInt32) {near far : Nat} (ordered : near < far)
    (bounded : far - near < 4294967296) :
    (ahead origin near - ahead origin far).toNat = 4294967296 - (far - near) := by
  have := origin.toNat_lt
  rw [UInt32.toNat_sub, toNat_ahead, toNat_ahead]
  omega

theorem ahead_injective (origin : UInt32) {first second : Nat} (low : first < 4294967296)
    (high : second < 4294967296) (same : ahead origin first = ahead origin second) :
    first = second := by
  have h := congrArg UInt32.toNat same
  have := origin.toNat_lt
  rw [toNat_ahead, toNat_ahead] at h
  omega

theorem notAfter_iff (first second : UInt32) :
    notAfter first second = true ↔ (second - first).toNat ≤ 2147483648 := by
  have := first.toNat_lt
  have := second.toNat_lt
  rw [notAfter, Bool.or_eq_true, beq_iff_eq, decide_eq_true_eq, ← UInt32.toNat_inj,
    UInt32.le_iff_toNat_le, UInt32.toNat_sub, UInt32.toNat_sub]
  have half : (0x80000000 : UInt32).toNat = 2147483648 := rfl
  rw [half, UInt32.toNat_zero]
  omega

/-- The distance of an acknowledgment is at most the width of the window. The comparisons also let
through the number half the space away from an empty window. -/
theorem inWindow_iff (oldest next acknowledgment : UInt32)
    (narrow : (next - oldest).toNat < 2147483648) :
    inWindow oldest next acknowledgment = true ↔
      (acknowledgment - oldest).toNat ≤ (next - oldest).toNat ∨
        ((next - oldest).toNat = 0 ∧ (acknowledgment - oldest).toNat = 2147483648) := by
  have reached := ahead_toNat_sub oldest acknowledgment
  have ended := ahead_toNat_sub oldest next
  have distance := (acknowledgment - oldest).toNat_lt
  rw [inWindow, Bool.and_eq_true, notAfter_iff, notAfter_iff]
  -- With both numbers given by their distance from the oldest, the comparisons are linear.
  generalize (acknowledgment - oldest).toNat = d at *
  generalize (next - oldest).toNat = width at *
  subst reached ended
  by_cases within : d ≤ width
  · rw [toNat_ahead_sub oldest within (by omega)]
    omega
  · rw [toNat_ahead_sub_of_lt oldest (by omega) (by omega)]
    omega

end RadioStack.Tcp
