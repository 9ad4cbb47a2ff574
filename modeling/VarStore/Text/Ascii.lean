/-!
# Upper and lower case in ASCII

Names are compared without regard to the case of ASCII letters, and only of those: other letters
keep their case, whatever script they belong to.
-/

namespace VarStore
namespace Text

/-- The text with its ASCII letters in upper case. -/
def upper (s : String) : String := String.ofList (s.toList.map Char.toUpper)

/-- A character that is no small ASCII letter is left alone. -/
theorem toUpper_of_not_lower {c : Char} (h : ¬ ('a'.val ≤ c.val ∧ c.val ≤ 'z'.val)) :
    c.toUpper = c := by
  unfold Char.toUpper
  rw [dif_neg h]

theorem toUpper_toUpper (c : Char) : c.toUpper.toUpper = c.toUpper := by
  by_cases h : 'a'.val ≤ c.val ∧ c.val ≤ 'z'.val
  · refine toUpper_of_not_lower fun hu => ?_
    -- the capital letters stand below all small ones
    have hval : c.toUpper.val = c.val + ('A'.val - 'a'.val) := by
      unfold Char.toUpper
      rw [dif_pos h]
    rw [hval] at hu
    generalize c.val = v at h hu
    simp only [UInt32.le_iff_toNat_le, UInt32.toNat_add] at h hu
    simp at h hu
    omega
  · rw [toUpper_of_not_lower h, toUpper_of_not_lower h]

/-- Upper case is its own upper case. -/
theorem upper_upper (s : String) : upper (upper s) = upper s := by
  unfold upper
  rw [String.toList_ofList, List.map_map]
  congr 1
  exact List.map_congr_left fun c _ => toUpper_toUpper c

/-- The text with its ASCII letters in lower case. -/
def lower (s : String) : String := String.ofList (s.toList.map Char.toLower)

/-- Are the two texts the same but for the case of ASCII letters? -/
def sameIgnoringCase (s t : String) : Bool := lower s == lower t

end Text
end VarStore
