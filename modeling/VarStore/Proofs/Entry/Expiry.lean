import VarStore.Entry
import VarStore.Proofs.Clock.Words

/-!
# The arithmetic of expiry

The expiry of an entry is given by a number of seconds with a sign.  Three things can go wrong with it.
The magnitude of the least such number has no room in a word with sign.  A number above zero may lead
past the end of the clock, and one below zero in front of its beginning.  So the expiry is computed here
once more, in words and step by step (`expirySteps`).  There is room for every step, and what comes out
is the expiry of the entry (`expirySteps_eq`).

What the expiry means is said without it.  The seconds name an instant, which may lie outside of the
range of the clock (`due`).  From the reading on at which the expiry was set, the entry is expired when
that instant has come, or at once if the seconds are not above zero (`isExpiredAt_setExpiry_iff`).

* `offset`, `expirySteps`: the computation in words.
* `due`: the instant that is meant.
* `Change`: what can happen to an entry.
* `expiry_is_exact`: all of it together.
-/

namespace VarStore

/-- The span of some seconds, for which there has to be room. -/
def Span.ofSeconds (seconds : Int) : Except Overflow Span :=
  if h : Word.unsigned64.Fits seconds then .ok ⟨seconds, 0, h, by decide⟩
  else .error .overflow

namespace Entry

variable {now t : Instant} {seconds : Int32}

/-! ## The expiry in words -/

/-- The span of some seconds, whatever their sign: the magnitude in a word without sign, then in a wider
one. -/
def offset (seconds : Int32) : Except Overflow Span :=
  (Word.unsigned32.hold seconds.toInt.natAbs).bind fun magnitude =>
    (Word.unsigned64.hold magnitude).bind Span.ofSeconds

/-- The expiry, step by step. -/
def expirySteps (now : Tick) (seconds : Int32) : Except Overflow (Option Tick) :=
  (offset seconds).bind fun d =>
    if 0 ≤ seconds.toInt then now.later d
    else (now.earlier d).map fun t => some (t.getD now)

theorem toInt_mem (seconds : Int32) :
    -2147483648 ≤ seconds.toInt ∧ seconds.toInt < 2147483648 :=
  ⟨seconds.le_toInt, seconds.toInt_lt⟩

/-- There is room for the magnitude of every number, also for the one of the least. -/
theorem offset_eq (seconds : Int32) :
    ∃ d, offset seconds = .ok d ∧ d.total = seconds.toInt.natAbs * nanosPerSecond := by
  have hseconds := toInt_mem seconds
  have h32 : Word.unsigned32.Fits seconds.toInt.natAbs := by
    simp only [Word.Fits, Word.unsigned32]
    omega
  have h64 : Word.unsigned64.Fits seconds.toInt.natAbs := by
    simp only [Word.Fits, Word.unsigned64]
    omega
  let d : Span := ⟨seconds.toInt.natAbs, 0, h64, by decide⟩
  have hspan : Span.ofSeconds seconds.toInt.natAbs = .ok d := dif_pos h64
  refine ⟨d, ?_, ?_⟩
  · rw [offset, Word.hold_of_fits h32, Except.bind, Word.hold_of_fits h64, Except.bind, hspan]
  · rw [Span.total, Int.add_zero]

/-- In a word with sign there is no room for the magnitude of the least number. -/
example : Word.signed32.hold Int32.minValue.toInt.natAbs = .error .overflow := by rfl

/-- **The expiry in words is the expiry.** -/
theorem expirySteps_eq (now : Tick) (seconds : Int32) :
    ∃ r, expirySteps now seconds = .ok r ∧
      r.map Tick.toInstant = expiryFrom now.toInstant seconds := by
  obtain ⟨d, hd, htotal⟩ := offset_eq seconds
  unfold expirySteps expiryFrom
  rw [hd]
  by_cases hsign : 0 ≤ seconds.toInt
  · obtain ⟨r, hr, hinstant⟩ := now.later_eq d
    have hmagnitude : (seconds.toInt.natAbs : Int) = seconds.toInt.toNat := by omega
    refine ⟨r, (if_pos hsign).trans hr, ?_⟩
    rw [if_pos hsign, hinstant, htotal, hmagnitude]
    rfl
  · obtain ⟨r, hr, hinstant⟩ := now.earlier_eq d
    have hmagnitude : (seconds.toInt.natAbs : Int) = (-seconds.toInt).toNat := by omega
    rw [htotal, hmagnitude] at hinstant
    refine ⟨some (r.getD now), (if_neg hsign).trans (by rw [hr]; rfl), ?_⟩
    rw [if_neg hsign, Instant.earlier?, ← hinstant]
    cases r <;> rfl

/-! ## What the expiry means -/

/-- The instant so many seconds from a reading, in nanoseconds.  There need not be such a reading. -/
def due (now : Instant) (seconds : Int32) : Int := now.nanos + seconds.toInt * nanosPerSecond

/-- Is there such a reading? -/
def OnClock (nanos : Int) : Prop := -endOfTime ≤ nanos ∧ nanos < endOfTime

instance (n : Int) : Decidable (OnClock n) :=
  inferInstanceAs (Decidable (-endOfTime ≤ n ∧ n < endOfTime))

theorem isExpiredAt_eq_any (e : Entry) (t : Instant) :
    e.isExpiredAt t = e.expiry.any fun u => decide (u ≤ t) := by
  unfold isExpiredAt
  cases e.expiry <;> rfl

/-- An expiry that is ahead is at the instant that is meant, if there is such a reading. -/
theorem expiryFrom_of_nonneg (h : 0 ≤ seconds.toInt) :
    expiryFrom now seconds = Instant.ofNanos? (due now seconds) := by
  unfold expiryFrom Instant.later? Instant.shift? due
  rw [if_pos h, Int.toNat_of_nonneg h]

/-- One that is not ahead is at the instant that is meant, or where it was set. -/
theorem expiryFrom_of_neg (h : seconds.toInt < 0) :
    expiryFrom now seconds = some ((Instant.ofNanos? (due now seconds)).getD now) := by
  have hdue : now.nanos + -(((-seconds.toInt).toNat : Int) * nanosPerSecond) = due now seconds := by
    unfold due
    rw [Int.toNat_of_nonneg (by omega), Int.neg_mul, Int.neg_neg]
  unfold expiryFrom Instant.earlier? Instant.shift?
  rw [if_neg (by omega), hdue]

theorem ofNanos?_of_onClock {n : Int} (h : OnClock n) : Instant.ofNanos? n = some ⟨n, h⟩ := dif_pos h

theorem ofNanos?_of_not_onClock {n : Int} (h : ¬ OnClock n) : Instant.ofNanos? n = none := dif_neg h

/-- Seconds that lead out of the range lead past its end. -/
theorem onClock_due_iff (h : 0 ≤ seconds.toInt) :
    OnClock (due now seconds) ↔ due now seconds < endOfTime := by
  have hnow := now.inRange
  simp only [OnClock, due, endOfTime, nanosPerSecond] at hnow ⊢
  omega

/-- Seconds below zero lead out of the range in front of its beginning. -/
theorem not_onClock_due (h : due now seconds < -endOfTime) : ¬ OnClock (due now seconds) :=
  fun hon => absurd hon.1 (Int.not_le.2 h)

theorem due_le (h : seconds.toInt ≤ 0) : due now seconds ≤ now.nanos := by
  simp only [due, nanosPerSecond]
  omega

/-- Seconds above zero: expired when the instant that is meant has come, if it ever comes. -/
theorem isExpiredAt_of_pos (e : Entry) (h : 0 < seconds.toInt) :
    (e.setExpiry now seconds).isExpiredAt t = true ↔
      OnClock (due now seconds) ∧ due now seconds ≤ t.nanos := by
  rw [isExpiredAt_eq_any, expiry_setExpiry, expiryFrom_of_nonneg (Int.le_of_lt h)]
  by_cases hon : OnClock (due now seconds)
  · rw [ofNanos?_of_onClock hon, Option.any_some, decide_eq_true_iff, and_iff_right hon]
    exact Iff.rfl
  · rw [ofNanos?_of_not_onClock hon]
    simp [hon]

/-- Seconds not above zero: expired at once. -/
theorem isExpiredAt_of_nonpos (e : Entry) (h : seconds.toInt ≤ 0) (ht : now ≤ t) :
    (e.setExpiry now seconds).isExpiredAt t = true := by
  refine isExpiredAt_mono ht ?_
  rw [isExpiredAt_eq_any, expiry_setExpiry]
  by_cases hzero : 0 ≤ seconds.toInt
  · have hdue : OnClock (due now seconds) :=
      (onClock_due_iff hzero).2 (Int.lt_of_le_of_lt (due_le h) now.inRange.2)
    rw [expiryFrom_of_nonneg hzero, ofNanos?_of_onClock hdue]
    exact decide_eq_true (due_le h)
  · rw [expiryFrom_of_neg (Int.not_le.1 hzero), Option.any_some]
    by_cases hon : OnClock (due now seconds)
    · rw [ofNanos?_of_onClock hon]
      exact decide_eq_true (due_le h)
    · rw [ofNanos?_of_not_onClock hon]
      exact decide_eq_true (Int.le_refl now.nanos)

/-- **When an entry is expired** after its expiry was set. -/
theorem isExpiredAt_setExpiry_iff (e : Entry) (ht : now ≤ t) :
    (e.setExpiry now seconds).isExpiredAt t = true ↔
      seconds.toInt ≤ 0 ∨ OnClock (due now seconds) ∧ due now seconds ≤ t.nanos := by
  by_cases h : seconds.toInt ≤ 0
  · exact iff_of_true (isExpiredAt_of_nonpos e h ht) (Or.inl h)
  · rw [isExpiredAt_of_pos e (Int.not_le.1 h), or_iff_right h]

/-! ## What happens to an entry -/

/-- What can happen to an entry. -/
inductive Change where
  | setPayload (payload : String)
  | setExpiry (now : Instant) (seconds : Int32)

/-- The entry after a change. -/
def change (e : Entry) : Change → Entry
  | .setPayload payload => e.setPayload payload
  | .setExpiry now seconds => e.setExpiry now seconds

/-- Does the change leave the expiry alone? -/
def Change.KeepsExpiry : Change → Prop
  | .setPayload _ => True
  | .setExpiry _ _ => False

theorem expiry_change (e : Entry) {c : Change} (hc : c.KeepsExpiry) :
    (e.change c).expiry = e.expiry := by
  cases c with
  | setPayload payload => rfl
  | setExpiry now seconds => exact hc.elim

/-- The expiry stays what it is until it is set again. -/
theorem expiry_foldl_change (e : Entry) {cs : List Change} (hcs : ∀ c ∈ cs, c.KeepsExpiry) :
    (cs.foldl change e).expiry = e.expiry := by
  induction cs generalizing e with
  | nil => rfl
  | cons c cs ih =>
    obtain ⟨hc, hcs⟩ := List.forall_mem_cons.1 hcs
    rw [List.foldl_cons, ih _ hcs, expiry_change e hc]

theorem isExpiredAt_congr {e f : Entry} (h : e.expiry = f.expiry) (t : Instant) :
    e.isExpiredAt t = f.isExpiredAt t := by
  rw [isExpiredAt_eq_any, h, ← isExpiredAt_eq_any]

/-! ## All of it together -/

/-- **The expiry of an entry is exact**, for every reading of the clock, every number of seconds and
whatever the expiry was before.  It can be computed in words, with room for every step, and compared in
words.  From the reading on at which it was set, the entry is expired exactly if the seconds are not above
zero or the instant that is meant is on the clock and has come.  Past the end of the clock it never
expires; in front of the beginning it is expired at once.  What is expired at some reading is expired at
every later one, whatever happens to it in between, until its expiry is set again. -/
theorem expiry_is_exact :
    (∀ (e : Entry) (now : Instant) (seconds : Int32), ∃ r,
      expirySteps (.ofInstant now) seconds = .ok r ∧
      r.map Tick.toInstant = (e.setExpiry now seconds).expiry ∧
      ∀ t, (r.any fun u => (Tick.ofInstant t).reaches u) =
        (e.setExpiry now seconds).isExpiredAt t) ∧
    (∀ (e : Entry) (now t : Instant) (seconds : Int32), now ≤ t →
      ((e.setExpiry now seconds).isExpiredAt t = true ↔
        seconds.toInt ≤ 0 ∨ OnClock (due now seconds) ∧ due now seconds ≤ t.nanos)) ∧
    (∀ (e : Entry) (now : Instant) (seconds : Int32),
      0 < seconds.toInt → endOfTime ≤ due now seconds →
      ∀ t, (e.setExpiry now seconds).isExpiredAt t = false) ∧
    (∀ (e : Entry) (now : Instant) (seconds : Int32),
      seconds.toInt < 0 → due now seconds < -endOfTime →
      (e.setExpiry now seconds).expiry = some now ∧
        (e.setExpiry now seconds).isExpiredAt now = true) ∧
    ∀ (e : Entry) (s t : Instant) (cs : List Change), s ≤ t → (∀ c ∈ cs, c.KeepsExpiry) →
      e.isExpiredAt s = true → (cs.foldl change e).isExpiredAt t = true := by
  refine ⟨fun e now seconds => ?_, fun e now t seconds => isExpiredAt_setExpiry_iff e,
    fun e now seconds hpos hpast t => ?_, fun e now seconds hneg hfront => ⟨?_, ?_⟩,
    fun e s t cs hst hcs he => ?_⟩
  · obtain ⟨r, hr, hinstant⟩ := expirySteps_eq (.ofInstant now) seconds
    rw [Tick.toInstant_ofInstant] at hinstant
    refine ⟨r, hr, hinstant, fun t => ?_⟩
    rw [isExpiredAt_eq_any, expiry_setExpiry, ← hinstant]
    cases r with
    | none => rfl
    | some u =>
      rw [Option.map_some, Option.any_some, Option.any_some, Bool.eq_iff_iff, Tick.reaches_iff,
        Tick.toInstant_ofInstant, decide_eq_true_iff]
  · have hoff : ¬ OnClock (due now seconds) := fun hon => absurd hon.2 (Int.not_lt.2 hpast)
    rw [← Bool.not_eq_true, isExpiredAt_of_pos e hpos]
    exact fun h => hoff h.1
  · rw [expiry_setExpiry, expiryFrom_of_neg hneg, ofNanos?_of_not_onClock (not_onClock_due hfront)]
    rfl
  · exact isExpiredAt_of_nonpos e (Int.le_of_lt hneg) (Int.le_refl now.nanos)
  · rw [isExpiredAt_congr (expiry_foldl_change e hcs)]
    exact isExpiredAt_mono hst he

/-- The first reading of the clock. -/
def firstReading : Instant := ⟨-endOfTime, by decide⟩

/-- The last reading of the clock. -/
def lastReading : Instant := ⟨endOfTime - 1, by decide⟩

/-- A second is too much at the last reading, and anything below zero is at the first one.  A second that is
set one nanosecond before zero is over one nanosecond before the first second, and stays so when the
payload is replaced. -/
theorem ends_of_the_clock :
    let e : Entry := ⟨"x", some .zero⟩
    let early : Instant := ⟨-1, by decide⟩
    let reached : Instant := ⟨999999999, by decide⟩
    let missed : Instant := ⟨999999998, by decide⟩
    (∀ t, (e.setExpiry lastReading 1).isExpiredAt t = false) ∧
    (e.setExpiry firstReading Int32.minValue).expiry = some firstReading ∧
    (e.setExpiry firstReading Int32.minValue).isExpiredAt firstReading = true ∧
    (e.setExpiry early 1).isExpiredAt missed = false ∧
    (e.setExpiry early 1).isExpiredAt reached = true ∧
    ((e.setExpiry early 1).change (.setPayload "y")).isExpiredAt lastReading = true := by
  intro e early reached missed
  obtain ⟨-, hiff, hpast, hfront, hlasts⟩ := expiry_is_exact
  obtain ⟨hclamped, hexpired⟩ := hfront e firstReading Int32.minValue (by decide) (by decide)
  have hmissed : ¬ (e.setExpiry early 1).isExpiredAt missed = true := by
    rw [hiff e early missed 1 (by decide)]
    decide
  have hreached : (e.setExpiry early 1).isExpiredAt reached = true :=
    (hiff e early reached 1 (by decide)).2 (Or.inr ⟨by decide, by decide⟩)
  refine ⟨hpast e lastReading 1 (by decide) (by decide), hclamped, hexpired,
    Bool.eq_false_iff.2 hmissed, hreached, ?_⟩
  exact hlasts _ reached lastReading [.setPayload "y"] (by decide)
    (fun c hc => by rw [List.mem_singleton.1 hc]; trivial) hreached

end Entry
end VarStore
