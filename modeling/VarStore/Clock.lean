/-!
# Readings of the clock

Time is read from a monotonic clock that counts nanoseconds in a bounded range.  A reading is an
argument of every operation that depends on time, never something an operation takes for itself,
so that a statement about expiry can quantify over the readings.

Moving a reading may leave the range; `Instant.later?` and `Instant.earlier?` then have no result,
and it is for the caller to say what that means.
-/

namespace VarStore

/-- A second in nanoseconds. -/
def nanosPerSecond : Int := 1000000000

/-- The end of the range, in nanoseconds; its beginning is as far from zero. -/
def endOfTime : Int := 9223372036854775808 * nanosPerSecond

/-- A reading of the clock, in nanoseconds. -/
structure Instant where
  nanos : Int
  inRange : -endOfTime ≤ nanos ∧ nanos < endOfTime
  deriving DecidableEq

namespace Instant

/-- The reading with the given count, if it is in the range. -/
def ofNanos? (n : Int) : Option Instant :=
  if h : -endOfTime ≤ n ∧ n < endOfTime then some ⟨n, h⟩ else none

/-- The reading in the middle of the range. -/
def zero : Instant := ⟨0, by decide⟩

instance : Inhabited Instant := ⟨zero⟩

instance : LE Instant := ⟨fun s t => s.nanos ≤ t.nanos⟩

instance (s t : Instant) : Decidable (s ≤ t) := inferInstanceAs (Decidable (s.nanos ≤ t.nanos))

theorem le_def (s t : Instant) : s ≤ t ↔ s.nanos ≤ t.nanos := Iff.rfl

/-- The reading the given number of nanoseconds away, if it is in the range. -/
def shift? (t : Instant) (nanos : Int) : Option Instant := ofNanos? (t.nanos + nanos)

/-- The reading `seconds` later, if it is in the range. -/
def later? (t : Instant) (seconds : Nat) : Option Instant := t.shift? (seconds * nanosPerSecond)

/-- The reading `seconds` earlier, if it is in the range. -/
def earlier? (t : Instant) (seconds : Nat) : Option Instant :=
  t.shift? (-(seconds * nanosPerSecond))

@[simp] theorem nanos_of_ofNanos? {n : Int} {t : Instant} (h : ofNanos? n = some t) :
    t.nanos = n := by
  unfold ofNanos? at h
  split at h
  · cases h; rfl
  · cases h

end Instant

end VarStore
