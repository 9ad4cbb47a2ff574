import VarStore.Proofs.Toml.Numbers
import Mathlib.Tactic.IntervalCases

/-!
# Reading dates and times in TOML

Dates and times of day are passed over if they exist in the calendar and on the clock.  A value that is
no string, no truth value and has no values within it is a number or one of these, and which one is
seen from its first digits: a hyphen follows four of them, or a colon two.  In a number neither sign
stands behind the digits that it begins with (`NoMoment`).

* `exists_date`, `readDate_alone`, `readDate_time`: dates, with and without a time of day.
* `readScalar_append`, `exists_plain_of_readScalar`: numbers, dates and times.
-/

namespace VarStore
namespace Toml

variable {c : Char} {cs ds es w rest : List Char} {n : Nat} {s : Int} {v : Value}

/-! ## Pairs of digits -/

theorem readPair_append {least most : Nat} (h : Pair n w) (hleast : least ≤ n) (hmost : n ≤ most) :
    readPair least most (w ++ rest) = .ok (n, rest) := by
  obtain @⟨a, b, ha, hb⟩ := h
  exact if_pos ⟨isDigit_iff.2 ha, isDigit_iff.2 hb, hleast, hmost⟩

theorem exists_pair_of_readPair {least most : Nat} (h : readPair least most cs = .ok (n, rest)) :
    ∃ w, Pair n w ∧ least ≤ n ∧ n ≤ most ∧ cs = w ++ rest := by
  rw [readPair.eq_def] at h
  split at h
  · next a b tail =>
    dsimp only at h
    split at h
    · next hpair =>
      obtain ⟨ha, hb, hleast, hmost⟩ := hpair
      obtain ⟨rfl, rfl⟩ := Prod.mk.inj (Except.ok.inj h)
      exact ⟨_, .intro (isDigit_iff.1 ha) (isDigit_iff.1 hb), hleast, hmost, rfl⟩
    · nomatch h
  · nomatch h

theorem expect_eq_ok_iff {sign : Char} : expect sign cs = .ok rest ↔ cs = sign :: rest := by
  cases cs with
  | nil => exact iff_of_false nofun nofun
  | cons c cs =>
    rw [expect, List.cons.injEq]
    split
    · next hc => rw [Except.ok.injEq, and_iff_right hc]
    · next hc => exact iff_of_false nofun fun h => hc h.1

theorem expect_cons {sign : Char} : expect sign (sign :: rest) = .ok rest := expect_eq_ok_iff.2 rfl

theorem Pair.exists_eq_cons (h : Pair n w) :
    ∃ a b, w = [a, b] ∧ Digit 10 a ∧ Digit 10 b ∧ n = Text.ofDigits 10 [a, b] := by
  obtain ⟨ha, hb⟩ := h
  exact ⟨_, _, rfl, ha, hb, rfl⟩

/-! ## Times of day -/

theorem skipFraction_append (h : SecondFraction w)
    (hrest : ∀ c ∈ rest.head?, ¬ Digit 10 c ∧ c ≠ '.') : skipFraction (w ++ rest) = rest := by
  cases h with
  | none =>
    rw [List.nil_append, skipFraction]
    rintro c tail rfl
    exact (hrest '.' rfl).2 rfl
  | @some d ds hds =>
    have hds : ∀ c ∈ d :: ds, c.isDigit = true := fun c hc => isDigit_iff.2 (hds c hc)
    obtain ⟨hd, hds⟩ := List.forall_mem_cons.1 hds
    simp only [List.cons_append]
    rw [skipFraction, if_pos hd, List.dropWhile_append_of_pos hds]
    cases rest with
    | nil => rfl
    | cons c rest =>
      exact List.dropWhile_cons_of_neg (mt isDigit_iff.1 (hrest c rfl).1)

theorem exists_fraction (cs : List Char) : ∃ f, SecondFraction f ∧ cs = f ++ skipFraction cs := by
  rw [skipFraction.eq_def]
  split
  · next d tail =>
    split
    · next hd =>
      refine ⟨'.' :: d :: tail.takeWhile Char.isDigit, .some ?_, ?_⟩
      · refine List.forall_mem_cons.2 ⟨isDigit_iff.1 hd, fun c hc => ?_⟩
        exact isDigit_iff.1 (List.mem_takeWhile_imp hc)
      · simp only [List.cons_append, List.takeWhile_append_dropWhile]
    · exact ⟨[], .none, rfl⟩
  · exact ⟨[], .none, rfl⟩

/-- **A time of day is passed over.** -/
theorem skipTime_append (h : Time w) (hrest : ∀ c ∈ rest.head?, ¬ Digit 10 c ∧ c ≠ '.') :
    skipTime (w ++ rest) = .ok rest := by
  obtain ⟨hh, hhour, hm, hminute, hs, hsecond, hf⟩ := h
  simp only [List.append_assoc, List.cons_append]
  simp only [skipTime, readPair_append hh (Nat.zero_le _) hhour, bind, Except.bind, expect_cons,
    readPair_append hm (Nat.zero_le _) hminute, readPair_append hs (Nat.zero_le _) hsecond,
    skipFraction_append hf hrest]
  rfl

theorem exists_time_of_skipTime (h : skipTime cs = .ok rest) : ∃ t, Time t ∧ cs = t ++ rest := by
  obtain ⟨⟨hour, cs₁⟩, hhour, h₁⟩ := exists_of_bind_eq_ok h
  obtain ⟨cs₂, hcolon, h₂⟩ := exists_of_bind_eq_ok h₁
  obtain ⟨⟨minute, cs₃⟩, hminute, h₃⟩ := exists_of_bind_eq_ok h₂
  obtain ⟨cs₄, hcolon', h₄⟩ := exists_of_bind_eq_ok h₃
  obtain ⟨⟨second, cs₅⟩, hsecond, h₅⟩ := exists_of_bind_eq_ok h₄
  obtain ⟨hw, hpair, -, hmost, rfl⟩ := exists_pair_of_readPair hhour
  obtain rfl := expect_eq_ok_iff.1 hcolon
  obtain ⟨m, hpair', -, hmost', rfl⟩ := exists_pair_of_readPair hminute
  obtain rfl := expect_eq_ok_iff.1 hcolon'
  obtain ⟨s, hpair'', -, hmost'', rfl⟩ := exists_pair_of_readPair hsecond
  obtain ⟨f, hf, hcs₅⟩ := exists_fraction cs₅
  obtain rfl : skipFraction cs₅ = rest := Except.ok.inj h₅
  refine ⟨_, .intro hpair hmost hpair' hmost' hpair'' hmost'' hf, ?_⟩
  simp only [List.append_assoc, List.cons_append, ← hcs₅]

theorem skipOffset_append (h : Offset w) (hrest : ∀ c ∈ rest.head?, c ∉ ['Z', 'z', '+', '-']) :
    skipOffset (w ++ rest) = .ok rest := by
  cases h with
  | none =>
    cases rest with
    | nil => rfl
    | cons c rest =>
      have hc := hrest c rfl
      simp only [List.mem_cons, List.not_mem_nil, or_false, not_or] at hc
      rw [List.nil_append, skipOffset, if_neg (by tauto), if_neg (by tauto)]
  | universal hc => exact if_pos hc
  | @apart c _ _ _ _ hc hh hhour hm hminute =>
    have hz : ¬ (c = 'Z' ∨ c = 'z') := by
      rcases hc with rfl | rfl <;> decide
    simp only [List.append_assoc, List.cons_append]
    rw [skipOffset, if_neg hz, if_pos hc]
    simp only [readPair_append hh (Nat.zero_le _) hhour, bind, Except.bind, expect_cons,
      readPair_append hm (Nat.zero_le _) hminute]
    rfl

theorem exists_offset_of_skipOffset (h : skipOffset cs = .ok rest) :
    ∃ o, Offset o ∧ cs = o ++ rest := by
  cases cs with
  | nil =>
    obtain rfl := Except.ok.inj h
    exact ⟨[], .none, rfl⟩
  | cons c cs =>
    rw [skipOffset] at h
    split at h
    · next hc =>
      obtain rfl := Except.ok.inj h
      exact ⟨[c], .universal hc, rfl⟩
    · split at h
      · next hc =>
        obtain ⟨⟨hour, cs₁⟩, hhour, h₁⟩ := exists_of_bind_eq_ok h
        obtain ⟨cs₂, hcolon, h₂⟩ := exists_of_bind_eq_ok h₁
        obtain ⟨⟨minute, cs₃⟩, hminute, h₃⟩ := exists_of_bind_eq_ok h₂
        obtain ⟨hw, hpair, -, hmost, rfl⟩ := exists_pair_of_readPair hhour
        obtain rfl := expect_eq_ok_iff.1 hcolon
        obtain ⟨m, hpair', -, hmost', rfl⟩ := exists_pair_of_readPair hminute
        obtain rfl : cs₃ = rest := Except.ok.inj h₃
        exact ⟨_, .apart hc hpair hmost hpair' hmost', by simp⟩
      · obtain rfl := Except.ok.inj h
        exact ⟨[], .none, rfl⟩

/-- The distance from universal time does not go on with the fraction of a second. -/
theorem Offset.head (h : Offset w) (hrest : ∀ c ∈ rest.head?, ¬ Digit 10 c ∧ c ≠ '.') :
    ∀ c ∈ (w ++ rest).head?, ¬ Digit 10 c ∧ c ≠ '.' := by
  cases h with
  | none => exact hrest
  | universal hc =>
    rintro d hd
    obtain rfl := Option.some.inj hd
    rcases hc with rfl | rfl <;> decide
  | apart hc =>
    rintro d hd
    obtain rfl := Option.some.inj hd
    rcases hc with rfl | rfl <;> decide

theorem Follows.ends_time (h : Follows rest) : ∀ c ∈ rest.head?, ¬ Digit 10 c ∧ c ≠ '.' := by
  refine fun c hc => ⟨h.not_digit hc, ?_⟩
  rintro rfl
  exact h.not_sign hc (by decide)

theorem Follows.ends_offset (h : Follows rest) : ∀ c ∈ rest.head?, c ∉ ['Z', 'z', '+', '-'] := by
  intro c hc hmem
  refine h.not_sign hc ?_
  simp only [List.mem_cons, List.not_mem_nil, or_false] at hmem ⊢
  tauto

theorem timeBegins_append (h : Time w) : timeBegins (w ++ rest) = true := by
  obtain ⟨hh, hhour, -, -, -, -, -⟩ := h
  obtain ⟨a, b, rfl, ha, hb, rfl⟩ := hh.exists_eq_cons
  simp only [List.cons_append, List.nil_append, timeBegins, isDigit_iff.2 ha, isDigit_iff.2 hb,
    Bool.true_and, decide_eq_true hhour]

/-! ## Dates -/

theorem monthLengths_eq (year : Nat) {month last : Nat} (h : 1 ≤ month) :
    (monthLengths year)[month - 1]? = some last ↔ month ≤ 12 ∧ daysIn year month = last := by
  have hleap : (4 ∣ year ∧ (100 ∣ year → 400 ∣ year)) ↔
      (year % 4 = 0 ∧ (year % 100 ≠ 0 ∨ year % 400 = 0)) := by
    simp only [Nat.dvd_iff_mod_eq_zero, ne_eq, imp_iff_not_or]
  by_cases hmonth : month ≤ 12
  · rw [and_iff_right hmonth, ← Option.some.injEq]
    simp only [monthLengths, hleap]
    interval_cases month <;> simp [daysIn]
  · refine iff_of_false ?_ fun h => hmonth h.1
    rw [List.getElem?_eq_none (by simp only [monthLengths, List.length_cons, List.length_nil]; omega)]
    exact nofun

/-- The parts of a date and what stands behind them. -/
theorem take_drop_year {y : List Char} (hy : y.length = 4) (cs : List Char) :
    (y ++ '-' :: cs).take 4 = y ∧ (y ++ '-' :: cs).drop 5 = cs := by
  refine ⟨List.take_left' hy, ?_⟩
  rw [List.append_cons]
  exact List.drop_left' (by rw [List.length_append, hy, List.length_singleton])

/-- **A date is read** if no time of day stands behind it. -/
theorem readDate_alone (h : Date w) (hrest : ∀ c more, rest = c :: more →
    ¬ ((c = 'T' ∨ c = 't' ∨ c = ' ') ∧ timeBegins more = true)) :
    readDate (w ++ rest) = .ok (.moment, rest) := by
  obtain ⟨hy, -, hm, hmonth, hlast, hd, hday, hmost⟩ := h
  obtain ⟨hmonth', rfl⟩ := (monthLengths_eq _ hmonth).1 hlast
  simp only [List.append_assoc, List.cons_append]
  obtain ⟨htake, hdrop⟩ := take_drop_year hy _
  rw [readDate, htake, hdrop]
  simp only [readPair_append hm hmonth hmonth', bind, Except.bind, expect_cons,
    readPair_append hd hday hmost]
  cases rest with
  | nil => rfl
  | cons c more =>
    dsimp only
    rw [if_neg (hrest c more rfl)]
    rfl

/-- A date is read with the time of day that stands behind it. -/
theorem readDate_time (h : Date w) (hc : c = 'T' ∨ c = 't' ∨ c = ' ')
    (htime : timeBegins cs = true) : readDate (w ++ c :: cs) =
      (skipTime cs).bind fun more => (skipOffset more).map fun rest => (.moment, rest) := by
  obtain ⟨hy, -, hm, hmonth, hlast, hd, hday, hmost⟩ := h
  obtain ⟨hmonth', rfl⟩ := (monthLengths_eq _ hmonth).1 hlast
  simp only [List.append_assoc, List.cons_append]
  obtain ⟨htake, hdrop⟩ := take_drop_year hy _
  rw [readDate, htake, hdrop]
  simp only [readPair_append hm hmonth hmonth', bind, Except.bind, expect_cons,
    readPair_append hd hday hmost]
  rw [if_pos ⟨hc, htime⟩]
  rfl

/-- What looks like a date begins with four digits and a hyphen. -/
theorem exists_year_of_dateBegins (h : dateBegins cs = true) :
    ∃ y tail, y.length = 4 ∧ (∀ c ∈ y, Digit 10 c) ∧ cs = y ++ '-' :: tail := by
  rw [dateBegins.eq_def] at h
  split at h
  · next a b c d tail =>
    refine ⟨[a, b, c, d], tail, rfl, fun x hx => ?_, rfl⟩
    exact isDigit_iff.1 (List.all_eq_true.1 h x hx)
  · nomatch h

/-- What is read as a date is written so. -/
theorem exists_moment_of_readDate (hbegins : dateBegins cs = true)
    (h : readDate cs = .ok (v, rest)) : v = .moment ∧ ∃ w, Moment w ∧ cs = w ++ rest := by
  obtain ⟨y, tail, hy, hdigits, rfl⟩ := exists_year_of_dateBegins hbegins
  obtain ⟨htake, hdrop⟩ := take_drop_year hy tail
  rw [readDate, htake, hdrop] at h
  obtain ⟨⟨month, cs₁⟩, hmonth, h₁⟩ := exists_of_bind_eq_ok h
  obtain ⟨cs₂, hhyphen, h₂⟩ := exists_of_bind_eq_ok h₁
  obtain ⟨⟨day, cs₃⟩, hday, h₃⟩ := exists_of_bind_eq_ok h₂
  obtain ⟨m, hm, hleast, hmost, rfl⟩ := exists_pair_of_readPair hmonth
  obtain rfl := expect_eq_ok_iff.1 hhyphen
  obtain ⟨d, hd, hleast', hmost', rfl⟩ := exists_pair_of_readPair hday
  have hdate : Date (y ++ '-' :: (m ++ '-' :: d)) :=
    .intro hy hdigits hm hleast ((monthLengths_eq _ hleast).2 ⟨hmost, rfl⟩) hd hleast' hmost'
  have halone : ∀ {cs : List Char}, Except.ok (Value.moment, cs) = Except.ok (ε := Fault) (v, rest) →
      v = .moment ∧ ∃ w, Moment w ∧ y ++ '-' :: (m ++ '-' :: (d ++ cs)) = w ++ rest := by
    intro cs h
    obtain ⟨rfl, rfl⟩ := Prod.mk.inj (Except.ok.inj h)
    exact ⟨rfl, _, .date hdate, by simp⟩
  cases cs₃ with
  | nil => exact halone h₃
  | cons c more =>
    dsimp only at h₃
    split at h₃
    · next hc =>
      obtain ⟨cs₄, htime, h₄⟩ := exists_of_bind_eq_ok h₃
      obtain ⟨cs₅, hoffset, h₅⟩ := exists_of_bind_eq_ok h₄
      obtain ⟨rfl, rfl⟩ := Prod.mk.inj (Except.ok.inj h₅)
      obtain ⟨t, ht, rfl⟩ := exists_time_of_skipTime htime
      obtain ⟨o, ho, rfl⟩ := exists_offset_of_skipOffset hoffset
      exact ⟨rfl, _, .both hdate hc.1 ht ho, by simp⟩
    · exact halone h₃

/-! ## Numbers, dates and times -/

/-- Behind the digits that the text begins with there is no sign of a date or a time of day. -/
def NoMoment (cs : List Char) : Prop := ∀ ds tail x, (∀ d ∈ ds, Digit 10 d) → ds ≠ [] →
  x = '-' ∨ x = ':' → cs ≠ ds ++ x :: tail

theorem noMoment_of_not_digit (h : ∀ c ∈ cs.head?, ¬ Digit 10 c) : NoMoment cs := by
  rintro ds tail x hds hne - rfl
  obtain ⟨d, ds, rfl⟩ := List.exists_cons_of_ne_nil hne
  exact h d rfl (hds d List.mem_cons_self)

theorem noMoment_append (hes : ∀ d ∈ es, Digit 10 d)
    (hcs : ∀ c ∈ cs.head?, ¬ Digit 10 c ∧ c ≠ '-' ∧ c ≠ ':') : NoMoment (es ++ cs) := by
  rintro ds tail x hds - hx heq
  have hx' : ¬ Digit 10 x := by
    rcases hx with rfl | rfl <;> decide
  have hdrop := congrArg (List.dropWhile Char.isDigit) heq
  rw [List.dropWhile_append_of_pos fun d hd => isDigit_iff.2 (hes d hd),
    List.dropWhile_append_of_pos fun d hd => isDigit_iff.2 (hds d hd),
    List.dropWhile_cons_of_neg (mt isDigit_iff.1 hx')] at hdrop
  cases cs with
  | nil => nomatch hdrop
  | cons c cs =>
    obtain ⟨hc, hhyphen, hcolon⟩ := hcs c rfl
    rw [List.dropWhile_cons_of_neg (mt isDigit_iff.1 hc)] at hdrop
    obtain ⟨rfl, -⟩ := List.cons.inj hdrop
    exact hx.elim hhyphen hcolon

theorem NoMoment.dateBegins_eq_false (h : NoMoment cs) : dateBegins cs = false := by
  rw [Bool.eq_false_iff]
  intro hbegins
  obtain ⟨y, tail, hy, hdigits, rfl⟩ := exists_year_of_dateBegins hbegins
  refine h y tail '-' hdigits ?_ (.inl rfl) rfl
  rintro rfl
  nomatch hy

theorem exists_hour_of_timeBegins (h : timeBegins cs = true) :
    ∃ a b tail, Digit 10 a ∧ Digit 10 b ∧ cs = [a, b] ++ ':' :: tail := by
  rw [timeBegins.eq_def] at h
  split at h
  · next a b tail =>
    rw [Bool.and_eq_true, Bool.and_eq_true] at h
    exact ⟨a, b, tail, isDigit_iff.1 h.1.1, isDigit_iff.1 h.1.2, rfl⟩
  · nomatch h

theorem NoMoment.timeBegins_eq_false (h : NoMoment cs) : timeBegins cs = false := by
  rw [Bool.eq_false_iff]
  intro hbegins
  obtain ⟨a, b, tail, ha, hb, rfl⟩ := exists_hour_of_timeBegins hbegins
  refine h [a, b] tail ':' ?_ (List.cons_ne_nil _ _) (.inr rfl) rfl
  exact List.forall_mem_cons.2 ⟨ha, List.forall_mem_singleton.2 hb⟩

theorem readScalar_eq_readNumber (h : NoMoment cs) : readScalar cs = readNumber cs := by
  rw [readScalar, h.dateBegins_eq_false, if_neg Bool.false_ne_true, h.timeBegins_eq_false,
    if_neg Bool.false_ne_true]

/-- Digits end, or an underscore stands between them. -/
theorem Digits.split (h : Digits 10 ds w) :
    ∃ es u, w = es ++ u ∧ (∀ d ∈ es, Digit 10 d) ∧ (u = [] ∨ ∃ x, u = '_' :: x) := by
  induction h with
  | one hc => exact ⟨[_], [], rfl, List.forall_mem_singleton.2 hc, .inl rfl⟩
  | next hc _ ih =>
    obtain ⟨es, u, rfl, hes, hu⟩ := ih
    exact ⟨_ :: es, u, rfl, List.forall_mem_cons.2 ⟨hc, hes⟩, hu⟩
  | underscore hc _ _ => exact ⟨[_], _, rfl, List.forall_mem_singleton.2 hc, .inr ⟨_, rfl⟩⟩

theorem Whole.noMoment (h : Whole ds w) (hcs : ∀ c ∈ cs.head?, ¬ Digit 10 c ∧ c ≠ '-' ∧ c ≠ ':') :
    NoMoment (w ++ cs) := by
  have hsplit : ∃ es u, w = es ++ u ∧ (∀ d ∈ es, Digit 10 d) ∧ (u = [] ∨ ∃ x, u = '_' :: x) := by
    cases h with
    | zero => exact ⟨['0'], [], rfl, List.forall_mem_singleton.2 (by decide), .inl rfl⟩
    | digits _ h => exact h.split
  obtain ⟨es, u, rfl, hes, rfl | ⟨x, rfl⟩⟩ := hsplit
  · rw [List.append_nil]
    exact noMoment_append hes hcs
  · rw [List.append_assoc]
    refine noMoment_append hes fun c hc => ?_
    obtain rfl := Option.some.inj hc
    decide

theorem Follows.ends_moment (h : Follows rest) :
    ∀ c ∈ rest.head?, ¬ Digit 10 c ∧ c ≠ '-' ∧ c ≠ ':' := by
  refine fun c hc => ⟨h.not_digit hc, ?_, ?_⟩ <;> rintro rfl <;> exact h.not_sign hc (by decide)

/-- A number does not look like a date or a time of day. -/
theorem Unsigned.noMoment (h : Unsigned s v w) (hrest : Follows rest) : NoMoment (w ++ rest) := by
  cases h with
  | integer h => exact h.noMoment hrest.ends_moment
  | infinity =>
    refine noMoment_of_not_digit fun c hc => ?_
    obtain rfl := Option.some.inj hc
    decide
  | undefined =>
    refine noMoment_of_not_digit fun c hc => ?_
    obtain rfl := Option.some.inj hc
    decide
  | number h htail =>
    rw [List.append_assoc]
    refine h.noMoment fun c hc => ?_
    obtain ⟨hdigit, hsign⟩ := htail.head c hc
    simp only [List.mem_cons, not_or] at hsign
    exact ⟨hdigit, hsign.2.1, hsign.2.2.1⟩

theorem Unsigned.readScalar_append {a : List Char} (hs : Sign s a) (h : Unsigned s v w)
    (hrest : Follows rest) : readScalar (a ++ (w ++ rest)) = .ok (v, rest) := by
  have hno : NoMoment (a ++ (w ++ rest)) := by
    cases hs with
    | none => exact h.noMoment hrest
    | plus =>
      refine noMoment_of_not_digit fun c hc => ?_
      obtain rfl := Option.some.inj hc
      decide
    | minus =>
      refine noMoment_of_not_digit fun c hc => ?_
      obtain rfl := Option.some.inj hc
      decide
  rw [readScalar_eq_readNumber hno, readNumber_signed hs h hrest]

/-- **An integer is read**, in any base. -/
theorem readScalar_numeral {n : Int} (h : Numeral n w) (hleast : -2 ^ 63 ≤ n) (hmost : n < 2 ^ 63)
    (hrest : Follows rest) : readScalar (w ++ rest) = .ok (.integer n, rest) := by
  cases h with
  | decimal hs hw =>
    rw [List.append_assoc]
    exact (Unsigned.integer hw hleast hmost).readScalar_append hs hrest
  | @based x _ _ w hx hds =>
    have hno : NoMoment (['0'] ++ x :: (w ++ rest)) := by
      refine noMoment_append (List.forall_mem_singleton.2 (by decide)) fun c hc => ?_
      obtain rfl := Option.some.inj hc
      simp only [List.mem_cons, Prod.mk.injEq, List.not_mem_nil, or_false] at hx
      rcases hx with ⟨rfl, -⟩ | ⟨rfl, -⟩ | ⟨rfl, -⟩ <;> decide
    exact (readScalar_eq_readNumber hno).trans (readNumber_based hx hds hmost hrest)

/-- **Other numbers are read.** -/
theorem readScalar_fractional (h : Fractional w) (hrest : Follows rest) :
    readScalar (w ++ rest) = .ok (.float, rest) := by
  cases h with
  | infinity hs =>
    rw [List.append_assoc]
    exact Unsigned.infinity.readScalar_append hs hrest
  | undefined hs =>
    rw [List.append_assoc]
    exact Unsigned.undefined.readScalar_append hs hrest
  | number hs hw htail hbound =>
    rw [List.append_assoc]
    exact (Unsigned.number hw htail hbound).readScalar_append hs hrest

theorem dateBegins_append (h : Date w) : dateBegins (w ++ rest) = true := by
  obtain @⟨y, m, d, _, _, _, hy, hdigits, -⟩ := h
  match y, hy with
  | [_, _, _, _], _ => exact List.all_eq_true.2 fun x hx => isDigit_iff.2 (hdigits x hx)

/-- A time of day does not look like a date. -/
theorem dateBegins_time (h : Time w) : dateBegins (w ++ rest) = false := by
  obtain ⟨hh, -, -, -, -, -, -⟩ := h
  obtain ⟨a, b, rfl, -, -, -⟩ := hh.exists_eq_cons
  rw [Bool.eq_false_iff]
  intro hbegins
  obtain ⟨y, tail, hy, hdigits, heq⟩ := exists_year_of_dateBegins hbegins
  match y, hy with
  | [_, _, c, _], _ =>
    obtain ⟨-, heq⟩ := List.cons.inj heq
    obtain ⟨-, heq⟩ := List.cons.inj heq
    obtain ⟨rfl, -⟩ := List.cons.inj heq
    exact absurd (hdigits ':' (by simp)) (by decide)

/-- No time of day stands behind a date and a blank in a document. -/
theorem Follows.timeBegins_eq_false (h : Follows (c :: cs))
    (hc : c = 'T' ∨ c = 't' ∨ c = ' ') : timeBegins cs = false := by
  rw [Bool.eq_false_iff]
  intro hbegins
  obtain ⟨a, b, tail, ha, -, rfl⟩ := exists_hour_of_timeBegins hbegins
  rcases hc with rfl | rfl | rfl
  · exact h.not_sign rfl (by decide)
  · exact h.not_sign rfl (by decide)
  · have hskip : skipBlanks (' ' :: ([a, b] ++ ':' :: tail)) = a :: b :: ':' :: tail := by
      rw [← List.singleton_append, skipBlanks_append (List.forall_mem_singleton.2 (.inl rfl))]
      refine skipBlanks_cons ?_
      rintro (rfl | rfl) <;> exact absurd ha (by decide)
    have hmem := h a (by rw [hskip]; rfl)
    have hends : ∀ c ∈ [',', ']', '\x7d', '#', '\n', '\r'], ¬ Digit 10 c :=
      List.all_iff_forall_prop.1 (by decide)
    exact hends a hmem ha

/-- **Dates and times are read.** -/
theorem readScalar_moment (h : Moment w) (hrest : Follows rest) :
    readScalar (w ++ rest) = .ok (.moment, rest) := by
  cases h with
  | date hd =>
    rw [readScalar, dateBegins_append hd, if_pos rfl]
    refine readDate_alone hd ?_
    rintro c more rfl ⟨hc, hbegins⟩
    rw [hrest.timeBegins_eq_false hc] at hbegins
    nomatch hbegins
  | time ht =>
    rw [readScalar, dateBegins_time ht, if_neg Bool.false_ne_true, timeBegins_append ht, if_pos rfl,
      skipTime_append ht hrest.ends_time]
    rfl
  | both hd hc ht ho =>
    simp only [List.append_assoc, List.cons_append]
    rw [readScalar, dateBegins_append hd, if_pos rfl, readDate_time hd hc (timeBegins_append ht),
      skipTime_append ht (ho.head hrest.ends_time)]
    simp only [Except.bind, skipOffset_append ho hrest.ends_offset]
    rfl

/-- **What is read as a number, a date or a time is written so.** -/
theorem exists_plain_of_readScalar (h : readScalar cs = .ok (v, rest)) :
    ∃ w, Plain v w ∧ cs = w ++ rest := by
  rw [readScalar] at h
  split at h
  · next hbegins =>
    obtain ⟨rfl, w, hw, hcs⟩ := exists_moment_of_readDate hbegins h
    exact ⟨w, .moment hw, hcs⟩
  · split at h
    · obtain ⟨tail, htime, heq⟩ := exists_of_map_eq_ok h
      obtain ⟨rfl, rfl⟩ := Prod.mk.inj heq
      obtain ⟨t, ht, hcs⟩ := exists_time_of_skipTime htime
      exact ⟨t, .moment (.time ht), hcs⟩
    · exact exists_plain_of_readNumber h

end Toml
end VarStore
