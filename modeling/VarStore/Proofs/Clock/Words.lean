import VarStore.Clock

/-!
# The clock in words

An `Instant` counts nanoseconds, and a count has room for any number.  A machine holds a reading in two
words, one for the whole seconds and one for the nanoseconds besides (`Tick`), and every step that it
computes has to leave a number for which there is room.  Here such steps are taken one by one.  A step
may ask whether there is room (`Word.hold?`); then having none is an answer like any other.  A step that
does not ask (`Word.hold`) fails if there is none, and that must not happen.

The seconds may leave the range of the clock, so moving a tick asks about them.  It does not ask about
the nanoseconds.  Their sum stays below two seconds and their difference above minus one, so one carry
or one borrow brings them back, and there is room for either (`Tick.later_eq`, `Tick.earlier_eq`): moving
a tick is moving the reading it stands for.

* `Word`: what a word has room for.
* `Tick`, `Tick.ofInstant`: readings in words; every reading is a tick.
* `Span`, `Tick.later`, `Tick.earlier`: moving a tick.
* `Tick.reaches`: comparing ticks, seconds first.
-/

namespace VarStore

/-! ## Words -/

/-- The numbers for which a word has room, from `low` on and below `high`. -/
structure Word where
  low : Int
  high : Int

/-- There was no room for a number. -/
inductive Overflow where
  | overflow
  deriving DecidableEq

namespace Word

/-- A word of 32 bits with sign. -/
def signed32 : Word := ⟨-2147483648, 2147483648⟩

/-- A word of 32 bits without sign. -/
def unsigned32 : Word := ⟨0, 4294967296⟩

/-- A word of 64 bits with sign. -/
def signed64 : Word := ⟨-9223372036854775808, 9223372036854775808⟩

/-- A word of 64 bits without sign. -/
def unsigned64 : Word := ⟨0, 18446744073709551616⟩

/-- Is there room for the number? -/
def Fits (w : Word) (n : Int) : Prop := w.low ≤ n ∧ n < w.high

instance (w : Word) (n : Int) : Decidable (w.Fits n) :=
  inferInstanceAs (Decidable (w.low ≤ n ∧ n < w.high))

/-- The number, if there is room for it. -/
def hold? (w : Word) (n : Int) : Option Int := if w.Fits n then some n else none

/-- The number, for which there has to be room. -/
def hold (w : Word) (n : Int) : Except Overflow Int := if w.Fits n then .ok n else .error .overflow

variable {w : Word} {n : Int}

theorem hold_of_fits (h : w.Fits n) : w.hold n = .ok n := if_pos h

theorem hold?_of_fits (h : w.Fits n) : w.hold? n = some n := if_pos h

theorem hold?_of_not_fits (h : ¬ w.Fits n) : w.hold? n = none := if_neg h

end Word

/-! ## Ticks and spans -/

/-- Is it a number of nanoseconds that do not make a second? -/
def Subsecond (nanos : Int) : Prop := 0 ≤ nanos ∧ nanos < 1000000000

instance (nanos : Int) : Decidable (Subsecond nanos) :=
  inferInstanceAs (Decidable (0 ≤ nanos ∧ nanos < 1000000000))

/-- A length of time in words. -/
structure Span where
  seconds : Int
  nanos : Int
  fits : Word.unsigned64.Fits seconds
  subsecond : Subsecond nanos

/-- A reading of the clock in words. -/
structure Tick where
  seconds : Int
  nanos : Int
  fits : Word.signed64.Fits seconds
  subsecond : Subsecond nanos

/-- The nanoseconds of a span. -/
def Span.total (d : Span) : Int := d.seconds * nanosPerSecond + d.nanos

namespace Tick

/-- The nanoseconds of a tick. -/
def total (t : Tick) : Int := t.seconds * nanosPerSecond + t.nanos

theorem total_mem (t : Tick) : -endOfTime ≤ t.total ∧ t.total < endOfTime := by
  have hs := t.fits
  have hn := t.subsecond
  simp only [Word.Fits, Word.signed64, Subsecond] at hs hn
  simp only [total, endOfTime, nanosPerSecond]
  omega

/-- The reading that a tick stands for. -/
def toInstant (t : Tick) : Instant := ⟨t.total, t.total_mem⟩

/-- The tick that stands for a reading. -/
def ofInstant (i : Instant) : Tick where
  seconds := i.nanos / nanosPerSecond
  nanos := i.nanos % nanosPerSecond
  fits := by
    have h := i.inRange
    simp only [Word.Fits, Word.signed64, endOfTime, nanosPerSecond] at h ⊢
    omega
  subsecond := by
    simp only [Subsecond, nanosPerSecond]
    omega

/-- Every reading is a tick. -/
@[simp] theorem toInstant_ofInstant (i : Instant) : (ofInstant i).toInstant = i := by
  have h : (ofInstant i).total = i.nanos := by
    simp only [total, ofInstant, nanosPerSecond]
    omega
  cases i
  simp only [toInstant, h]

/-- Put a tick together; the seconds and the nanoseconds have to be in their ranges. -/
def make (seconds nanos : Int) : Except Overflow Tick :=
  if h : Word.signed64.Fits seconds ∧ Subsecond nanos then .ok ⟨seconds, nanos, h.1, h.2⟩
  else .error .overflow

/-! ## Moving -/

/-- The tick with these seconds, if there is room for them, and these nanoseconds. -/
def at? (seconds nanos : Int) : Except Overflow (Option Tick) :=
  match Word.signed64.hold? seconds with
  | none => .ok none
  | some seconds => (make seconds nanos).map some

/-- The tick that seconds and nanoseconds come to, if there is room for the seconds, after a borrow or a
carry.  The nanoseconds are computed in the word `w`. -/
def settle (w : Word) (seconds nanos : Int) : Except Overflow (Option Tick) :=
  match Word.signed64.hold? seconds with
  | none => .ok none
  | some seconds =>
    (w.hold nanos).bind fun nanos =>
      if nanos < 0 then (w.hold (nanos + 1000000000)).bind fun nanos => at? (seconds - 1) nanos
      else if nanos < 1000000000 then at? seconds nanos
      else (w.hold (nanos - 1000000000)).bind fun nanos => at? (seconds + 1) nanos

/-- The tick a span later, if there is room for its seconds. -/
def later (t : Tick) (d : Span) : Except Overflow (Option Tick) :=
  settle .unsigned32 (t.seconds + d.seconds) (t.nanos + d.nanos)

/-- The tick a span earlier, if there is room for its seconds. -/
def earlier (t : Tick) (d : Span) : Except Overflow (Option Tick) :=
  settle .signed32 (t.seconds - d.seconds) (t.nanos - d.nanos)

variable {w : Word} {seconds nanos : Int}

/-- Seconds that are out of range leave the range of the clock. -/
theorem ofNanos?_eq_none (hlow : seconds < Word.signed64.low → nanos < 1000000000)
    (hhigh : Word.signed64.high ≤ seconds → 0 ≤ nanos) (h : ¬ Word.signed64.Fits seconds) :
    Instant.ofNanos? (seconds * nanosPerSecond + nanos) = none := by
  refine dif_neg ?_
  simp only [Word.Fits, Word.signed64] at hlow hhigh h
  simp only [endOfTime, nanosPerSecond]
  omega

/-- The reading that seconds and nanoseconds come to, if it is in the range. -/
theorem at?_eq (seconds : Int) (hnanos : Subsecond nanos) :
    ∃ r, at? seconds nanos = .ok r ∧
      r.map toInstant = Instant.ofNanos? (seconds * nanosPerSecond + nanos) := by
  unfold at?
  by_cases hfits : Word.signed64.Fits seconds
  · let t : Tick := ⟨seconds, nanos, hfits, hnanos⟩
    refine ⟨some t, ?_, ?_⟩
    · rw [Word.hold?_of_fits hfits]
      exact congrArg (Except.map some) (dif_pos ⟨hfits, hnanos⟩)
    · exact (dif_pos t.total_mem : Instant.ofNanos? t.total = _).symm
  · refine ⟨none, by rw [Word.hold?_of_not_fits hfits], ?_⟩
    rw [ofNanos?_eq_none (fun _ => hnanos.2) (fun _ => hnanos.1) hfits]
    rfl

/-- **Borrowing and carrying.**  There is room for every step if there is room for the nanoseconds, and
the reading is the one that the seconds and the nanoseconds come to. -/
theorem settle_eq (hw : w.low ≤ 0 ∧ 1000000000 ≤ w.high) (hroom : w.Fits nanos)
    (hnanos : -1000000000 ≤ nanos ∧ nanos < 2000000000)
    (hlow : seconds < Word.signed64.low → nanos < 1000000000)
    (hhigh : Word.signed64.high ≤ seconds → 0 ≤ nanos) :
    ∃ r, settle w seconds nanos = .ok r ∧
      r.map toInstant = Instant.ofNanos? (seconds * nanosPerSecond + nanos) := by
  have hfit : ∀ n, Subsecond n → w.Fits n :=
    fun n hn => ⟨Int.le_trans hw.1 hn.1, Int.lt_of_lt_of_le hn.2 hw.2⟩
  unfold settle
  by_cases hfits : Word.signed64.Fits seconds
  · rw [Word.hold?_of_fits hfits, Word.hold_of_fits hroom]
    by_cases hborrow : nanos < 0
    · have hborrowed : Subsecond (nanos + 1000000000) := ⟨by omega, by omega⟩
      obtain ⟨r, hr, hinstant⟩ := at?_eq (seconds - 1) hborrowed
      refine ⟨r, (if_pos hborrow).trans ?_, hinstant.trans (congrArg Instant.ofNanos? ?_)⟩
      · rw [Word.hold_of_fits (hfit _ hborrowed)]
        exact hr
      · simp only [nanosPerSecond]
        omega
    · by_cases hcarry : nanos < 1000000000
      · obtain ⟨r, hr, hinstant⟩ := at?_eq seconds ⟨Int.not_lt.1 hborrow, hcarry⟩
        exact ⟨r, (if_neg hborrow).trans ((if_pos hcarry).trans hr), hinstant⟩
      · have hcarried : Subsecond (nanos - 1000000000) := ⟨by omega, by omega⟩
        obtain ⟨r, hr, hinstant⟩ := at?_eq (seconds + 1) hcarried
        refine ⟨r, (if_neg hborrow).trans ((if_neg hcarry).trans ?_),
          hinstant.trans (congrArg Instant.ofNanos? ?_)⟩
        · rw [Word.hold_of_fits (hfit _ hcarried)]
          exact hr
        · simp only [nanosPerSecond]
          omega
  · refine ⟨none, by rw [Word.hold?_of_not_fits hfits], ?_⟩
    rw [ofNanos?_eq_none hlow hhigh hfits]
    rfl

/-- **Moving forwards** never lacks room that it does not ask for, and it moves the reading. -/
theorem later_eq (t : Tick) (d : Span) :
    ∃ r, t.later d = .ok r ∧ r.map toInstant = t.toInstant.shift? d.total := by
  have htotal : t.toInstant.nanos + d.total =
      (t.seconds + d.seconds) * nanosPerSecond + (t.nanos + d.nanos) := by
    simp only [toInstant, total, Span.total, nanosPerSecond]
    omega
  obtain ⟨htn, htn'⟩ := t.subsecond
  obtain ⟨hdn, hdn'⟩ := d.subsecond
  have hroom : Word.unsigned32.Fits (t.nanos + d.nanos) := by
    simp only [Word.Fits, Word.unsigned32]
    omega
  have hlow : ¬ t.seconds + d.seconds < Word.signed64.low :=
    Int.not_lt.2 (Int.le_trans t.fits.1 (Int.le_add_of_nonneg_right d.fits.1))
  rw [Instant.shift?, htotal]
  exact settle_eq (by decide) hroom ⟨by omega, by omega⟩ (fun h => absurd h hlow)
    fun _ => Int.add_nonneg htn hdn

/-- **Moving backwards** never lacks room that it does not ask for, and it moves the reading. -/
theorem earlier_eq (t : Tick) (d : Span) :
    ∃ r, t.earlier d = .ok r ∧ r.map toInstant = t.toInstant.shift? (-d.total) := by
  have htotal : t.toInstant.nanos + -d.total =
      (t.seconds - d.seconds) * nanosPerSecond + (t.nanos - d.nanos) := by
    simp only [toInstant, total, Span.total, nanosPerSecond]
    omega
  obtain ⟨htn, htn'⟩ := t.subsecond
  obtain ⟨hdn, hdn'⟩ := d.subsecond
  have hroom : Word.signed32.Fits (t.nanos - d.nanos) := by
    simp only [Word.Fits, Word.signed32]
    omega
  have hhigh : ¬ Word.signed64.high ≤ t.seconds - d.seconds :=
    Int.not_le.2 (Int.lt_of_le_of_lt (Int.sub_le_self _ d.fits.1) t.fits.2)
  rw [Instant.shift?, htotal]
  exact settle_eq (by decide) hroom ⟨by omega, by omega⟩ (fun _ => by omega)
    fun h => absurd h hhigh

/-! ## Comparing -/

/-- Is `t` at `u` or behind it?  The seconds decide, and the nanoseconds if they are the same. -/
def reaches (t u : Tick) : Bool :=
  u.seconds < t.seconds || (u.seconds = t.seconds && u.nanos ≤ t.nanos)

theorem reaches_iff (t u : Tick) : t.reaches u = true ↔ u.toInstant ≤ t.toInstant := by
  obtain ⟨ht, ht'⟩ := t.subsecond
  obtain ⟨hu, hu'⟩ := u.subsecond
  simp only [reaches, Instant.le_def, toInstant, total, nanosPerSecond, Bool.or_eq_true,
    Bool.and_eq_true, decide_eq_true_eq]
  omega

end Tick

end VarStore
