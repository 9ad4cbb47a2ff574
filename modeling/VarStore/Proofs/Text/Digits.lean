import VarStore.Text.Digits
import Mathlib.Data.List.Basic

/-!
# Numbers from their digits

`ofDigits` knows the letters of base sixteen as well, and gives every character a value.  On decimal
digits it agrees with the standard library's `Nat.ofDigitChars` (`ofDigits_eq_ofDigitChars`), so what
`Nat.toDigits` spells is read as the number that it was made of, also with zeros in front.
-/

namespace VarStore
namespace Text

/-- A decimal digit has the value that its code says. -/
theorem hexDigit?_of_isDigit {c : Char} (hc : c.isDigit = true) :
    hexDigit? c = some (c.toNat - '0'.toNat) := by
  have hrange : '0' ≤ c ∧ c ≤ '9' := by
    rw [Char.isDigit, Bool.and_eq_true, decide_eq_true_eq, decide_eq_true_eq] at hc
    exact hc
  rw [hexDigit?, if_pos hrange]

theorem ofDigits_eq_ofDigitChars {ds : List Char} (hds : ∀ d ∈ ds, d.isDigit = true) :
    ofDigits 10 ds = Nat.ofDigitChars 10 ds 0 := by
  rw [ofDigits, Nat.ofDigitChars]
  refine List.foldl_ext _ _ 0 fun n d hd => ?_
  rw [hexDigit?_of_isDigit (hds d hd), Option.getD_some]

/-- The digits of a number are decimal digits. -/
theorem isDigit_of_mem_toDigits {n : Nat} {d : Char} (hd : d ∈ Nat.toDigits 10 n) :
    d.isDigit = true :=
  Nat.isDigit_of_mem_toDigits (by decide) (by decide) hd

/-- Only zero is spelled with a zero in front. -/
theorem exists_toDigits_eq_cons (n : Nat) :
    ∃ d ds, Nat.toDigits 10 n = d :: ds ∧ (d = '0' → n = 0) := by
  induction n using Nat.strongRecOn with
  | ind n ih =>
    by_cases hn : n < 10
    · have hzero : ∀ m < 10, Nat.digitChar m = '0' → m = 0 := by decide
      exact ⟨_, [], Nat.toDigits_of_lt_base hn, hzero n hn⟩
    · obtain ⟨d, ds, hds, hd⟩ := ih (n / 10) (by omega)
      refine ⟨d, ds ++ [Nat.digitChar (n % 10)], ?_, fun h => ?_⟩
      · rw [Nat.toDigits_of_base_le (by decide) (by omega), hds, List.cons_append]
      · have := hd h
        omega

/-- A number is spelled by its digits. -/
theorem ofDigits_toDigits (n : Nat) : ofDigits 10 (Nat.toDigits 10 n) = n := by
  rw [ofDigits_eq_ofDigitChars fun _ => isDigit_of_mem_toDigits, Nat.ofDigitChars_ten_toDigits]

/-- A number below 128 has two hexadecimal digits. -/
theorem ofHex?_of_lt : ∀ n < 128,
    ofHex? ['0', '0', Nat.digitChar (n / 16), Nat.digitChar (n % 16)] = some n := by
  decide

/-- A character has one code. -/
theorem charOfCode?_eq_some_iff {n : Nat} {c : Char} : charOfCode? n = some c ↔ n = c.toNat := by
  rw [charOfCode?]
  split
  · next hvalid =>
    rw [Option.some.injEq]
    constructor
    · rintro rfl
      rw [Char.ofNat, dif_pos hvalid]
      rfl
    · rintro rfl
      exact Char.ofNat_toNat c
  · next hvalid =>
    refine iff_of_false nofun ?_
    rintro rfl
    exact hvalid c.valid

/-- Zeros in front change nothing. -/
theorem ofDigits_replicate_zero_append (base zeros : Nat) (ds : List Char) :
    ofDigits base (List.replicate zeros '0' ++ ds) = ofDigits base ds := by
  have hzeros : ofDigits base (List.replicate zeros '0') = 0 := by
    induction zeros with
    | zero => rfl
    | succ zeros ih =>
      rw [ofDigits] at ih
      rw [List.replicate_succ', ofDigits, List.foldl_append, ih]
      rfl
  rw [ofDigits] at hzeros
  rw [ofDigits, List.foldl_append, hzeros, ofDigits]

end Text
end VarStore
