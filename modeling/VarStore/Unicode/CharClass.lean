import VarStore.Unicode.Ranges
import VarStore.Unicode.CaseFold

/-!
# Character classes

A character class is kept as the expression that describes it: ranges of code points, combined by
union, intersection and complement, and closed under case.  Membership evaluates the expression,
so every operation means exactly what its name says (`has_union`, `has_compl`, ...), and no
normal form has to be kept up.

Case is closed at the place where the description asks for it and not at the end: the complement
of a caseless class is not the same as the caseless closure of a complement.
-/

namespace VarStore

open Unicode

/-- A description of a set of characters. -/
inductive CharClass where
  /-- The characters in one of the ranges. -/
  | ranges (rs : Ranges)
  /-- The characters that are the same, up to case, as one of the class. -/
  | caseless (s : CharClass)
  | union (s t : CharClass)
  | inter (s t : CharClass)
  | compl (s : CharClass)
  deriving DecidableEq

namespace CharClass

/-- Is `c` one of the characters that the class describes? -/
def has : CharClass → Char → Bool
  | ranges rs, c => rs.has c
  | caseless s, c => s.has c || (casePartners c).any s.has
  | union s t, c => s.has c || t.has c
  | inter s t, c => s.has c && t.has c
  | compl s, c => !s.has c

/-- The class without characters. -/
def none : CharClass := ranges []

/-- The class of all characters. -/
def any : CharClass := compl none

/-- The class of one character. -/
def single (c : Char) : CharClass := ranges [(c.toNat, c.toNat)]

/-- The characters from `lo` to `hi`. -/
def range (lo hi : Char) : CharClass := ranges [(lo.toNat, hi.toNat)]

/-- The characters of `s` that are not in `t`. -/
def diff (s t : CharClass) : CharClass := inter s (compl t)

/-- The characters that are in exactly one of the two classes. -/
def symmDiff (s t : CharClass) : CharClass := union (diff s t) (diff t s)

/-- The complement, if `negated` asks for it. -/
def negatedIf (negated : Bool) (s : CharClass) : CharClass := if negated then compl s else s

@[simp] theorem has_ranges (rs : Ranges) (c : Char) : (ranges rs).has c = rs.has c := rfl

@[simp] theorem has_caseless (s : CharClass) (c : Char) :
    (caseless s).has c = (s.has c || (casePartners c).any s.has) := rfl

@[simp] theorem has_union (s t : CharClass) (c : Char) :
    (union s t).has c = (s.has c || t.has c) := rfl

@[simp] theorem has_inter (s t : CharClass) (c : Char) :
    (inter s t).has c = (s.has c && t.has c) := rfl

@[simp] theorem has_compl (s : CharClass) (c : Char) : (compl s).has c = !s.has c := rfl

@[simp] theorem has_none (c : Char) : none.has c = false := rfl

@[simp] theorem has_any (c : Char) : any.has c = true := rfl

/-- A single character is in its own class and in no other. -/
@[simp] theorem has_single (d c : Char) : (single d).has c = decide (c = d) := by
  have : (d.toNat ≤ c.toNat ∧ c.toNat ≤ d.toNat) ↔ c = d :=
    ⟨fun h => Char.toNat_inj.1 (Nat.le_antisymm h.2 h.1), fun h => by simp [h]⟩
  rw [single, has_ranges, Ranges.has, Ranges.hasCode_cons, Ranges.hasCode_nil, Bool.or_false,
    ← Bool.decide_and]
  exact decide_eq_decide.2 this

end CharClass

end VarStore
