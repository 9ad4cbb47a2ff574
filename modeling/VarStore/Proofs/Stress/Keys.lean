import Mathlib.Data.List.Basic
import VarStore.Proofs.Regex.Room
import VarStore.Stress.Workload

/-!
# The keys of the workers

The name of a key is a `w`, the number of its worker, a colon and a number again.  The number of one
worker can begin that of another, as 1 begins 10, so it is the colon that keeps them apart: it is no
digit, and so the first one in a name stands where the number of the worker ends
(`digits_colon_iff`).

The pattern of a worker has these characters behind a caret, and none of them means anything else in
a pattern.  Of their kind only the `w` has another case, and no name has that.  So the pattern finds
the names that begin like its own, and these are the worker's (`search_ownPattern_iff`).

* `keyName_inj`: different keys have different names.
* `exists_compile_ownPattern`: the pattern of a worker compiles if its number is a machine word.
-/

namespace VarStore
namespace Stress

open Regex

variable {v w i j : Nat}

/-! ## Names -/

theorem toList_keyHead (w : Nat) :
    (keyHead w).toList = 'w' :: (Nat.toDigits 10 w ++ [':']) := by
  simp [keyHead]

theorem toList_keyName (w i : Nat) :
    (keyName w i).toList = 'w' :: (Nat.toDigits 10 w ++ ':' :: Nat.toDigits 10 i) := by
  simp [keyName, toList_keyHead]

theorem colon_notMem_toDigits (n : Nat) : ':' ∉ Nat.toDigits 10 n := by
  intro h
  have hdigit := Nat.isDigit_of_mem_toDigits (by decide) (by decide) h
  exact absurd hdigit (by decide)

theorem toDigits_inj {m n : Nat} : Nat.toDigits 10 m = Nat.toDigits 10 n ↔ m = n := by
  constructor
  · intro h
    have hm : Nat.ofDigitChars 10 (Nat.toDigits 10 m) 0 = m := Nat.ofDigitChars_ten_toDigits
    rw [← hm, h, Nat.ofDigitChars_ten_toDigits]
  · rintro rfl
    rfl

/-- **The first colon ends the number of the worker.** -/
theorem digits_colon_iff {rest : List Char} :
    Nat.toDigits 10 v ++ ':' :: Nat.toDigits 10 i = Nat.toDigits 10 w ++ ':' :: rest ↔
      v = w ∧ Nat.toDigits 10 i = rest := by
  rw [List.append_cons_inj_of_notMem (colon_notMem_toDigits v) (colon_notMem_toDigits i),
    toDigits_inj]
  simp

/-- Different keys have different names. -/
theorem keyName_inj : keyName v i = keyName w j ↔ v = w ∧ i = j := by
  rw [← String.toList_inj, toList_keyName, toList_keyName, List.cons.injEq, digits_colon_iff,
    toDigits_inj]
  simp

theorem keyName_ne_empty (w i : Nat) : keyName w i ≠ "" := by
  intro h
  have hlist := congrArg String.toList h
  rw [toList_keyName] at hlist
  cases hlist

/-! ## The pattern of a worker -/

theorem toList_ownPattern (w : Nat) :
    (ownPattern w).toList = '^' :: 'w' :: (Nat.toDigits 10 w ++ [':']) := by
  simp [ownPattern, toList_keyHead]

/-- The characters behind the `w` are digits and a colon. -/
theorem isDigit_or_eq_colon {c : Char} (hc : c ∈ Nat.toDigits 10 w ++ [':']) :
    c.isDigit = true ∨ c = ':' := by
  rw [List.mem_append, List.mem_singleton] at hc
  exact hc.imp_left (Nat.isDigit_of_mem_toDigits (by decide) (by decide))

theorem toNat_lt_of_isDigit_or_eq_colon {c : Char} (hc : c.isDigit = true ∨ c = ':') :
    c.toNat < 65 := by
  rcases hc with hc | rfl
  · simp only [Char.isDigit, Bool.and_eq_true, decide_eq_true_eq, ge_iff_le,
      UInt32.le_iff_toNat_le] at hc
    change 48 ≤ c.toNat ∧ c.toNat ≤ 57 at hc
    omega
  · decide

/-- Digits and colons stand for themselves. -/
theorem notMem_metacharacters {c : Char} (hc : c.isDigit = true ∨ c = ':') :
    c ∉ metacharacters := by
  intro hmem
  have hnone : metacharacters.any (fun d => d.isDigit || d == ':') = false := by decide
  have hother := List.any_eq_false.1 hnone c hmem
  rw [Bool.or_eq_true, beq_iff_eq] at hother
  exact hother hc

/-- Digits and colons have no case. -/
theorem partners_eq_nil {c : Char} (hc : c.isDigit = true ∨ c = ':') (ignoreCase : Bool) :
    (Flags.initial ignoreCase).partners c = [] := by
  cases ignoreCase with
  | false => rfl
  | true =>
    show Unicode.casePartners c = []
    have hlow := toNat_lt_of_isDigit_or_eq_colon hc
    unfold Unicode.casePartners Unicode.asciiPartners
    rw [if_pos (by omega), if_neg, if_neg]
    · rintro ⟨hfirst, -⟩
      rw [Char.le_def, UInt32.le_iff_toNat_le] at hfirst
      change 97 ≤ c.toNat at hfirst
      omega
    · rintro ⟨hfirst, -⟩
      rw [Char.le_def, UInt32.le_iff_toNat_le] at hfirst
      change 65 ≤ c.toNat at hfirst
      omega

theorem notMem_metacharacters_of_mem (w : Nat) :
    ∀ c ∈ 'w' :: (Nat.toDigits 10 w ++ [':']), c ∉ metacharacters := by
  intro c hc
  rcases List.mem_cons.1 hc with rfl | hc
  · decide
  · exact notMem_metacharacters (isDigit_or_eq_colon hc)

theorem isFlat_of_mem_ownPattern (w : Nat) : ∀ c ∈ (ownPattern w).toList, IsFlat c := by
  intro c hc
  rw [toList_ownPattern, List.mem_cons] at hc
  exact hc.imp_right fun hc => Or.inr (notMem_metacharacters_of_mem w c hc)

/-- **The pattern of a worker finds its keys**, and of the keys no others. -/
theorem search_ownPattern_iff {ignoreCase : Bool} {p : KeyPattern}
    (hp : KeyPattern.compile (ownPattern w) ignoreCase = .ok p) (v i : Nat) :
    p.search (keyName v i) = true ↔ v = w := by
  have hpartners : ∀ c ∈ Nat.toDigits 10 w ++ [':'], (Flags.initial ignoreCase).partners c = [] :=
    fun c hc => partners_eq_nil (isDigit_or_eq_colon hc) ignoreCase
  have hspells := spells_iff_eq hpartners
  rw [search_caret_iff (toList_ownPattern w) (notMem_metacharacters_of_mem w) hp, toList_keyName]
  constructor
  · rintro ⟨y, hprefix, hy⟩
    obtain ⟨d, ds, -, hds, rfl⟩ := List.forall₂_cons_left_iff.1 hy
    obtain rfl := (hspells ds).1 hds
    obtain ⟨rest, hrest⟩ := (List.cons_prefix_cons.1 hprefix).2
    rw [List.append_assoc] at hrest
    exact (digits_colon_iff.1 hrest.symm).1
  · rintro rfl
    refine ⟨'w' :: (Nat.toDigits 10 v ++ [':']), ⟨Nat.toDigits 10 i, by simp⟩, ?_⟩
    exact List.Forall₂.cons (Or.inl rfl) ((hspells _).2 rfl)

/-! ### Compiling it -/

/-- The sign takes little room. -/
def IsSmall (ignoreCase : Bool) (c : Char) : Prop :=
  (flatPiece (.initial ignoreCase) c).layout.Slim ∧
    (flatPiece (.initial ignoreCase) c).layout.room ≤ 80

theorem isSmall_of_isDigit_or_eq_colon {c : Char} (hc : c.isDigit = true ∨ c = ':')
    (ignoreCase : Bool) : IsSmall ignoreCase c := by
  have hlayout : (flatPiece (.initial ignoreCase) c).layout = .text [c] := by
    rw [flatPiece_of_notMem (notMem_metacharacters hc), Piece.ofChar, partners_eq_nil hc]
  have hlow := toNat_lt_of_isDigit_or_eq_colon hc
  have hbytes : Room.bytesOf [c] = [c.toNat] := by
    unfold Room.bytesOf Unicode.utf8Bytes
    rw [List.flatMap_cons, List.flatMap_nil, if_pos (by omega)]
    rfl
  unfold IsSmall
  rw [hlayout]
  refine ⟨trivial, ?_⟩
  rw [Layout.room, hbytes, List.length_singleton]
  omega

theorem normal_pair :
    Unicode.Ranges.normal [(119, 119), (87, 87)] = [(87, 87), (119, 119)] := by
  have hsorted : [(119, 119), (87, 87)].mergeSort (fun r s : Nat × Nat => decide (r.1 ≤ s.1)) =
      [(87, 87), (119, 119)] := by
    simp [List.mergeSort]
  rw [Unicode.Ranges.normal, hsorted]
  rfl

theorem isSmall_of_mem_ownPattern (w : Nat) (ignoreCase : Bool) :
    ∀ c ∈ (ownPattern w).toList, IsSmall ignoreCase c := by
  intro c hc
  rw [toList_ownPattern, List.mem_cons, List.mem_cons] at hc
  rcases hc with rfl | rfl | hc
  · refine ⟨trivial, ?_⟩
    show 32 ≤ 80
    omega
  · cases ignoreCase with
    | false => exact ⟨trivial, by decide⟩
    | true =>
      have hlayout : (flatPiece (.initial true) 'w').layout =
          .ofSpans (Unicode.Ranges.normal [(119, 119), (87, 87)]) := rfl
      unfold IsSmall
      rw [hlayout, normal_pair]
      exact ⟨rfl, by decide⟩
  · exact isSmall_of_isDigit_or_eq_colon (isDigit_or_eq_colon hc) ignoreCase

/-- The pattern of a worker compiles, if its number is a machine word. -/
theorem exists_compile_ownPattern (hw : w < UInt64.size) (ignoreCase : Bool) :
    ∃ p, KeyPattern.compile (ownPattern w) ignoreCase = .ok p := by
  have hsmall := isSmall_of_mem_ownPattern w ignoreCase
  have hdigits : (Nat.toDigits 10 w).length ≤ 20 := by
    refine (Nat.length_toDigits_le_iff (by decide) (by decide)).2 (Nat.lt_trans hw ?_)
    decide
  have hlength : (ownPattern w).toList.length ≤ 23 := by
    rw [toList_ownPattern]
    simp only [List.length_cons, List.length_append, List.length_nil]
    omega
  have hbytes : ∀ cs : List Char, (∀ c ∈ cs, IsSmall ignoreCase c) →
      Layout.roomOf (cs.map fun c => (flatPiece (.initial ignoreCase) c).layout) ≤
        80 * cs.length := by
    intro cs hcs
    induction cs with
    | nil => exact Nat.le_refl 0
    | cons c cs ih =>
      obtain ⟨⟨-, hc⟩, hcs⟩ := List.forall_mem_cons.1 hcs
      have hothers := ih hcs
      simp only [List.map_cons, Layout.roomOf, List.length_cons]
      omega
  refine exists_compile (isFlat_of_mem_ownPattern w) (fun c hc => (hsmall c hc).1) ?_
  have hroom := hbytes _ hsmall
  have hlimit : 80 * 23 + 240 ≤ Room.limit := by decide
  omega

end Stress
end VarStore
