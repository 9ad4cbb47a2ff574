import VarStore.Text.Decimal
import Mathlib.Algebra.Order.Field.Power
import Mathlib.Data.Rat.Cast.Order
import Mathlib.Tactic.NormNum

/-!
# The size of decimal numbers

`isHuge` never computes a power for nothing: it looks at the number of places first, and only near the
bound at the number itself.  It decides what it is meant to decide (`isHuge_iff`): whether the number
is at least halfway from the largest double to the next power of two.
-/

namespace VarStore
namespace Text
namespace Decimal

/-- The number that is spelled. -/
def value (d : Decimal) : Rat :=
  ofDigits 10 (d.whole ++ d.fraction) * 10 ^ (d.exponent - d.fraction.length)

/-- A number lies between two powers of ten that its digits count. -/
theorem toDigits_bounds {n : Nat} (hn : 0 < n) :
    10 ^ ((Nat.toDigits 10 n).length - 1) ≤ n ∧ n < 10 ^ (Nat.toDigits 10 n).length := by
  have hpos : 0 < (Nat.toDigits 10 n).length := Nat.length_toDigits_pos
  refine ⟨?_, (Nat.length_toDigits_le_iff (by decide) hpos).1 le_rfl⟩
  by_cases hone : (Nat.toDigits 10 n).length = 1
  · rw [hone]
    exact hn
  · by_contra hlt
    have hle := (Nat.length_toDigits_le_iff (b := 10) (by decide)
      (show 0 < (Nat.toDigits 10 n).length - 1 by omega)).2 (not_le.1 hlt)
    omega

theorem doubleLimit_bounds : 10 ^ 300 ≤ doubleLimit ∧ doubleLimit ≤ 10 ^ 400 := by
  decide +kernel

theorem cast_doubleLimit : (doubleLimit : Rat) = 2 ^ 1024 - 2 ^ 970 := by
  have hle : 970 ≤ 1024 := by decide
  rw [doubleLimit]
  generalize 1024 = b at hle ⊢
  generalize 970 = a at hle ⊢
  change ((2 ^ b - 2 ^ a : Nat) : Rat) = _
  rw [Nat.cast_sub (Nat.pow_le_pow_right (by decide) hle), Nat.cast_pow, Nat.cast_pow,
    Nat.cast_ofNat]

/-- So does a number with an exponent. -/
theorem scaled_bounds {n : Nat} (hn : 0 < n) (e : Int) :
    (10 : Rat) ^ (((Nat.toDigits 10 n).length : Int) - 1 + e) ≤ n * 10 ^ e ∧
      (n : Rat) * 10 ^ e < 10 ^ (((Nat.toDigits 10 n).length : Int) + e) := by
  have hten : (0 : Rat) < 10 := by norm_num
  obtain ⟨hleast, hmost⟩ := toDigits_bounds hn
  have hcount : 0 < (Nat.toDigits 10 n).length := Nat.length_toDigits_pos
  have hpower : (0 : Rat) < 10 ^ e := zpow_pos hten e
  have hcast : ((Nat.toDigits 10 n).length : Int) - 1 =
      (((Nat.toDigits 10 n).length - 1 : Nat) : Int) := by omega
  rw [zpow_add₀ hten.ne', zpow_add₀ hten.ne', hcast, zpow_natCast, zpow_natCast]
  constructor
  · refine mul_le_mul_of_nonneg_right ?_ hpower.le
    exact_mod_cast hleast
  · refine mul_lt_mul_of_pos_right ?_ hpower
    exact_mod_cast hmost

/-- A number with an exponent is compared without fractions. -/
theorem le_scaled_iff {limit n : Nat} {e : Int} (he : 0 ≤ e) :
    (limit : Rat) ≤ n * 10 ^ e ↔ limit ≤ n * 10 ^ e.toNat := by
  have hcast : (10 : Rat) ^ e = ((10 ^ e.toNat : Nat) : Rat) := by
    rw [Nat.cast_pow, ← zpow_natCast, Int.toNat_of_nonneg he]
    rfl
  rw [hcast]
  exact_mod_cast Iff.rfl

theorem le_scaled_iff_of_neg {limit n : Nat} {e : Int} (he : e < 0) :
    (limit : Rat) ≤ n * 10 ^ e ↔ limit * 10 ^ (-e).toNat ≤ n := by
  have hcast : (10 : Rat) ^ e = ((10 ^ (-e).toNat : Nat) : Rat)⁻¹ := by
    rw [Nat.cast_pow, ← zpow_natCast, Int.toNat_of_nonneg (by omega), ← zpow_neg, neg_neg]
    rfl
  rw [hcast, ← div_eq_mul_inv, le_div_iff₀ (by positivity)]
  exact_mod_cast Iff.rfl

/-- **Only numbers that no double is left for are huge.** -/
theorem isHuge_iff (d : Decimal) : d.isHuge = true ↔ (2 ^ 1024 - 2 ^ 970 : Rat) ≤ d.value := by
  rw [← cast_doubleLimit]
  obtain ⟨hlower, hupper⟩ := doubleLimit_bounds
  have hlower : (10 : Rat) ^ 300 ≤ doubleLimit := by exact_mod_cast hlower
  have hupper : (doubleLimit : Rat) ≤ 10 ^ 400 := by exact_mod_cast hupper
  have hone : (1 : Rat) ≤ 10 := by norm_num
  rw [isHuge, value]
  generalize ofDigits 10 (d.whole ++ d.fraction) = n
  generalize d.exponent - d.fraction.length = e
  dsimp only
  split
  · next hzero =>
    subst hzero
    refine iff_of_false (by decide) ?_
    rw [Nat.cast_zero, zero_mul]
    exact not_le.2 (lt_of_lt_of_le (by positivity) hlower)
  · next hn =>
    obtain ⟨hleast, hmost⟩ := scaled_bounds (Nat.pos_of_ne_zero hn) e
    split
    · next hplaces =>
      refine iff_of_true rfl (hupper.trans (le_trans ?_ hleast))
      rw [← zpow_natCast]
      exact zpow_le_zpow_right₀ hone (by push_cast; omega)
    · split
      · next hplaces =>
        refine iff_of_false (by decide) (not_le.2 (hmost.trans_le (le_trans ?_ hlower)))
        rw [← zpow_natCast]
        exact zpow_le_zpow_right₀ hone (by push_cast; omega)
      · split
        · next hexponent =>
          rw [decide_eq_true_eq]
          exact (le_scaled_iff hexponent).symm
        · next hexponent =>
          rw [decide_eq_true_eq]
          exact (le_scaled_iff_of_neg (not_le.1 hexponent)).symm

end Decimal
end Text
end VarStore
