/-! Time and the parameters of a TCP endpoint. -/

namespace RadioStack.Tcp

/-- Milliseconds since an arbitrary start. -/
abbrev Instant := Nat

def Instant.latest : Instant := 0xffffffffffffffff

/-- Nanoseconds. -/
abbrev Duration := Nat

def Duration.ofMilliseconds (count : Nat) : Duration := 1000000 * count

/-- How long ago an earlier instant was; zero for a later one. -/
def Instant.since (now earlier : Instant) : Duration := .ofMilliseconds (now - earlier)

theorem Instant.since_le_since {earlier later : Instant} (order : earlier ≤ later)
    (now : Instant) : now.since later ≤ now.since earlier :=
  Nat.mul_le_mul_left _ (Nat.sub_le_sub_left order now)

theorem Instant.le_since_iff {now earlier : Instant} {duration : Duration}
    (order : earlier ≤ now) :
    duration ≤ now.since earlier ↔
      .ofMilliseconds earlier + duration ≤ Duration.ofMilliseconds now := by
  have whole : Duration.ofMilliseconds now = .ofMilliseconds earlier + now.since earlier := by
    rw [since, Duration.ofMilliseconds, Duration.ofMilliseconds, Duration.ofMilliseconds,
      ← Nat.mul_add, Nat.add_sub_of_le order]
  rw [whole]
  exact Nat.add_le_add_iff_left.symm

structure Config where
  /-- Time without progress after which unacknowledged data is sent again, without backoff. -/
  retransmissionInterval : Duration := .ofMilliseconds 1000
  /-- How long a closed connection lingers to acknowledge a repeated FIN. -/
  timeWait : Duration := .ofMilliseconds 1000
  /-- Longest payload of a segment that is sent again. -/
  maxSegmentSize : Nat := 40
  window : UInt16 := 128
  hopLimit : UInt8 := 64
  initialSequence : UInt32 := 0
  /-- How long a send may wait for room; without a limit it waits forever. -/
  sendTimeout : Option Duration := none
  deriving DecidableEq, Repr

end RadioStack.Tcp
