import VarStore.Unicode.CharClass

/-!
# The spans of a class

A class describes its characters by an expression.  Here they are listed: the spans of a class are
its characters as increasing ranges that neither overlap nor touch, with the surrogates, which are
no characters, left out.  Two classes with the same characters have the same spans.

* `Ranges.normal` sorts ranges and joins the ones that overlap or touch.
* `Ranges.gaps` lists what ranges in normal form leave out.
* `Ranges.casePartners` adds what is missing to a closure under case.  It goes through the rules
  of folding and not through the characters, because a class may hold a million of them.
-/

namespace VarStore
namespace Unicode
namespace Ranges

/-- The greatest code point. -/
def lastCode : Nat := 0x10FFFF

/-- Join the range from `lo` to `hi` with the ranges after it, which begin no earlier. -/
def join (lo hi : Nat) : Ranges → Ranges
  | [] => [(lo, hi)]
  | (a, b) :: rest => if a ≤ hi + 1 then join lo (max hi b) rest else (lo, hi) :: join a b rest

/-- The same code points as increasing ranges that neither overlap nor touch. -/
def normal (rs : Ranges) : Ranges :=
  match rs.mergeSort fun r s => r.1 ≤ s.1 with
  | [] => []
  | (a, b) :: rest => join a b rest

/-- Joining loses no code point and adds none. -/
theorem hasCode_join {lo hi n : Nat} {rs : Ranges}
    (h : ((lo, hi) :: rs).Pairwise fun r s => r.1 ≤ s.1) :
    hasCode (join lo hi rs) n = hasCode ((lo, hi) :: rs) n := by
  induction rs generalizing lo hi with
  | nil => rfl
  | cons r rs ih =>
    obtain ⟨a, b⟩ := r
    obtain ⟨hlo, hrs⟩ := List.pairwise_cons.1 h
    rw [join]
    split
    · next hab =>
      have ha : lo ≤ a := hlo (a, b) List.mem_cons_self
      have hjoined : ((lo, max hi b) :: rs).Pairwise fun r s => r.1 ≤ s.1 :=
        List.pairwise_cons.2
          ⟨fun s hs => hlo s (List.mem_cons_of_mem _ hs), (List.pairwise_cons.1 hrs).2⟩
      rw [ih hjoined]
      simp only [hasCode_cons, ← Bool.or_assoc]
      congr 1
      rw [Bool.eq_iff_iff]
      simp only [Bool.or_eq_true, Bool.and_eq_true, decide_eq_true_eq]
      omega
    · rw [hasCode_cons, ih hrs, hasCode_cons (lo, hi)]

/-- Normal form keeps the code points. -/
theorem hasCode_normal (rs : Ranges) (n : Nat) : hasCode (normal rs) n = hasCode rs n := by
  have htrans : ∀ r s t : Nat × Nat, decide (r.1 ≤ s.1) = true → decide (s.1 ≤ t.1) = true →
      decide (r.1 ≤ t.1) = true := fun _ _ _ h₁ h₂ =>
    decide_eq_true (Nat.le_trans (of_decide_eq_true h₁) (of_decide_eq_true h₂))
  have htotal : ∀ r s : Nat × Nat, (decide (r.1 ≤ s.1) || decide (s.1 ≤ r.1)) = true :=
    fun r s => by simp [Nat.le_total r.1 s.1]
  have hsorted := List.pairwise_mergeSort htrans htotal rs
  have hperm := List.mergeSort_perm rs fun r s : Nat × Nat => decide (r.1 ≤ s.1)
  rw [normal]
  have hany : hasCode (rs.mergeSort fun r s => r.1 ≤ s.1) n = hasCode rs n := hperm.any_eq
  rw [← hany]
  split
  · next h => rw [h]
  · next a b rest h =>
    rw [h] at hsorted ⊢
    exact hasCode_join (hsorted.imp of_decide_eq_true)

/-- The code points from `lo` on that ranges in normal form leave out. -/
def gaps (lo : Nat) : Ranges → Ranges
  | [] => if lo ≤ lastCode then [(lo, lastCode)] else []
  | (a, b) :: rest => if lo < a then (lo, a - 1) :: gaps (b + 1) rest else gaps (b + 1) rest

/-- The complement, in normal form. -/
def complement (rs : Ranges) : Ranges := gaps 0 rs.normal

/-- The code points in both, in normal form. -/
def common (rs ts : Ranges) : Ranges := complement (complement rs ++ complement ts)

end Ranges

/-! ## Case -/

/-- The classes of the ASCII letters. -/
def letterClasses : List (List Nat) :=
  (List.range 26).map fun k =>
    [0x41 + k, 0x61 + k] ++ (if k = 10 then [0x212A] else if k = 18 then [0x17F] else [])

/-- The lower members of the pairs of a rule. -/
def FoldRule.lowers (r : FoldRule) : List Nat :=
  (List.range ((r.last - r.first) / r.stride + 1)).map fun k => r.first + k * r.stride

/-- What a rule adds to a class: the partners of the members that it pairs. -/
def FoldRule.partnersOf (r : FoldRule) (rs : Ranges) : Ranges :=
  let near : Ranges := rs.filter fun s => s.1 ≤ r.last + r.distance && r.first ≤ s.2
  if near.isEmpty then []
  else
    r.lowers.flatMap fun n =>
      let m := n + r.distance
      (if near.hasCode n then [(m, m)] else []) ++ (if near.hasCode m then [(n, n)] else [])

/-- The code points that are the same, up to case, as one in the ranges. -/
def Ranges.casePartners (rs : Ranges) : Ranges :=
  ((letterClasses ++ foldClasses).flatMap fun ns =>
    if ns.any rs.hasCode then ns.map fun n => (n, n) else []) ++
  FoldRule.all.flatMap fun r => r.partnersOf rs

end Unicode

namespace CharClass

open Unicode

/-- The code points of a class, put in front of `others`; not yet in normal form. -/
def collect : CharClass → Ranges → Ranges
  | ranges rs, others => rs ++ others
  | caseless s, others =>
    let rs := (s.collect []).normal
    rs.casePartners ++ rs ++ others
  | union s t, others => s.collect (t.collect others)
  | inter s t, others => (s.collect []).common (t.collect []) ++ others
  | compl s, others => (s.collect []).complement ++ others

/-- The characters of a class, in normal form. -/
def spans (s : CharClass) : Ranges :=
  (s.collect []).common [(0, 0xD7FF), (0xE000, Ranges.lastCode)]

end CharClass
end VarStore
