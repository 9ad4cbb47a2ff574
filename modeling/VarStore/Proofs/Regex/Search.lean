import Mathlib.Tactic.Tauto
import VarStore.Regex.Search

/-!
# What a search finds

A search keeps marks and forgets the text that it has read, while a match is a piece of the text
with what stands around it.  To compare the two, an expression with marks is given two meanings at a
place in a text: the pieces it matches when a match begins there (`Marked.begins`), and the pieces
by which the matches under way can be completed there (`Marked.ends`).  The marks play no part in
the first one.

One character moves the place and the marks together.  What completes the moved marks behind the
character completes the old ones in front of it, or begins there (`ends_shift`).  This is the
invariant of the search; in a sequence it needs that skipping and being done are the same two
meanings at the empty piece, and in a star that turns which take nothing can be left out
(`many_cons`).

Counted repetition is compared with its copies turn by turn.  An expression in which a bound is
below the number of turns that it asks for is unrolled to that number all the same, so such bounds
are excluded (`WellCounted`).

* `Reach`, `andThen`, `power`, `Many`: properties of pieces, and how they are combined.
* `begins`, `ends`, `ends_shift`, `run_iff`: what the marks mean.
* `begins_unroll`: what an unrolled expression means.
* `search_iff_found`: a search finds what there is.
-/

namespace VarStore

/-! ## Properties of pieces -/

/-- A property of a piece of a text: what stands in front of it, the piece, and what stands
behind it. -/
abbrev Reach := List Char → List Char → List Char → Prop

namespace Reach

variable {P Q R : Reach} {u w v : List Char} {c : Char}

/-- The piece is empty. -/
def skip : Reach := fun _ w _ => w = []

/-- One after the other. -/
def andThen (P Q : Reach) : Reach :=
  fun u w v => ∃ x y, w = x ++ y ∧ P u x (y ++ v) ∧ Q (u ++ x) y v

/-- The one or the other. -/
def or (P Q : Reach) : Reach := fun u w v => P u w v ∨ Q u w v

/-- So many times, one after the other. -/
def power (P : Reach) : Nat → Reach
  | 0 => skip
  | n + 1 => P.andThen (P.power n)

/-- Any number of times, one after the other. -/
inductive Many (P : Reach) : Reach where
  | done {u v : List Char} : Many P u [] v
  | turn {u x y v : List Char} (hx : P u x (y ++ v)) (hy : Many P (u ++ x) y v) :
      Many P u (x ++ y) v

/-- One after the other, and the first one takes the character `c` that stands in front of the
piece. -/
def past (c : Char) (P Q : Reach) : Reach :=
  fun u w v => ∃ x y, w = x ++ y ∧ P u (c :: x) (y ++ v) ∧ Q (u ++ c :: x) y v

theorem ext_iff (h : ∀ u w v, P u w v ↔ Q u w v) : P = Q := by
  funext u w v
  exact propext (h u w v)

theorem skip_andThen (P : Reach) : skip.andThen P = P := by
  refine ext_iff fun u w v => ?_
  constructor
  · rintro ⟨x, y, rfl, rfl, h⟩
    simpa using h
  · intro h
    exact ⟨[], w, rfl, rfl, by simpa using h⟩

theorem andThen_skip (P : Reach) : P.andThen skip = P := by
  refine ext_iff fun u w v => ?_
  constructor
  · rintro ⟨x, y, rfl, h, rfl⟩
    simpa using h
  · intro h
    exact ⟨w, [], by simp, by simpa using h, rfl⟩

theorem andThen_assoc (P Q R : Reach) : (P.andThen Q).andThen R = P.andThen (Q.andThen R) := by
  refine ext_iff fun u w v => ?_
  constructor
  · rintro ⟨_, z, rfl, ⟨x, y, rfl, hx, hy⟩, hz⟩
    refine ⟨x, y ++ z, by simp, by simpa using hx, y, z, rfl, hy, ?_⟩
    simpa using hz
  · rintro ⟨x, _, rfl, hx, y, z, rfl, hy, hz⟩
    refine ⟨x ++ y, z, by simp, ⟨x, y, rfl, ?_, hy⟩, ?_⟩
    · simpa using hx
    · simpa using hz

theorem or_andThen (P Q R : Reach) :
    (P.or Q).andThen R = (P.andThen R).or (Q.andThen R) := by
  refine ext_iff fun u w v => ?_
  unfold andThen or
  simp only [or_and_right, and_or_left, exists_or]

theorem power_add (P : Reach) (m n : Nat) : P.power (m + n) = (P.power m).andThen (P.power n) := by
  induction m with
  | zero => rw [Nat.zero_add, power, skip_andThen]
  | succ m ih => rw [Nat.succ_add, power, power, ih, andThen_assoc]

/-- One after the other on the empty piece. -/
theorem andThen_nil : P.andThen Q u [] v ↔ P u [] v ∧ Q u [] v := by
  constructor
  · rintro ⟨x, y, hxy, hx, hy⟩
    obtain ⟨rfl, rfl⟩ := List.append_eq_nil_iff.1 hxy.symm
    exact ⟨hx, by simpa using hy⟩
  · rintro ⟨hx, hy⟩
    exact ⟨[], [], rfl, hx, by simpa using hy⟩

/-- One after the other on a piece that is not empty: either of the two takes its first
character. -/
theorem andThen_cons :
    P.andThen Q u (c :: w) v ↔
      P u [] (c :: w ++ v) ∧ Q u (c :: w) v ∨ past c P Q u w v := by
  constructor
  · rintro ⟨x, y, hxy, hx, hy⟩
    cases x with
    | nil =>
      obtain rfl : c :: w = y := hxy
      exact Or.inl ⟨hx, by simpa using hy⟩
    | cons d x =>
      obtain ⟨rfl, rfl⟩ := List.cons.inj hxy
      exact Or.inr ⟨x, y, rfl, hx, hy⟩
  · rintro (⟨hx, hy⟩ | ⟨x, y, rfl, hx, hy⟩)
    · exact ⟨[], c :: w, rfl, hx, by simpa using hy⟩
    · exact ⟨c :: x, y, rfl, hx, hy⟩

/-- Turns that take nothing can be left out. -/
theorem many_cons : Many P u (c :: w) v ↔ past c P (Many P) u w v := by
  constructor
  · intro h
    generalize hz : c :: w = z at h
    induction h with
    | done => cases hz
    | @turn u x y v hx hy ih =>
      cases x with
      | nil => simpa using ih hz
      | cons d x =>
        obtain ⟨rfl, rfl⟩ := List.cons.inj hz
        exact ⟨x, y, rfl, hx, hy⟩
  · rintro ⟨x, y, rfl, hx, hy⟩
    exact Many.turn hx hy

end Reach

/-! ## What the marks mean -/

namespace Marked

open Reach

variable {m n : Marked} {u w v : List Char} {c : Char}

/-- The pieces that are matched when a match begins here. -/
def begins : Marked → Reach
  | empty => skip
  | chars s _ => fun _ w _ => ∃ c, w = [c] ∧ s.has c = true
  | look l => fun u w v => w = [] ∧ l.holds u.getLast? v.head? = true
  | seq m n => m.begins.andThen n.begins
  | alt m n => m.begins.or n.begins
  | star m => Many m.begins

/-- The pieces by which a match under way is completed. -/
def ends : Marked → Reach
  | empty => fun _ _ _ => False
  | chars _ mark => fun _ w _ => mark = true ∧ w = []
  | look _ => fun _ _ _ => False
  | seq m n => (m.ends.andThen n.begins).or n.ends
  | alt m n => m.ends.or n.ends
  | star m => m.ends.andThen (Many m.begins)

/-- Skipping is beginning with the empty piece. -/
theorem canSkip_iff (m : Marked) (u v : List Char) :
    m.canSkip u.getLast? v.head? = true ↔ m.begins u [] v := by
  induction m with
  | empty => simp [canSkip, begins, skip]
  | chars s mark => simp [canSkip, begins]
  | look l => simp [canSkip, begins]
  | seq m n ihm ihn => rw [canSkip, Bool.and_eq_true, ihm, ihn, begins, andThen_nil]
  | alt m n ihm ihn => rw [canSkip, Bool.or_eq_true, ihm, ihn, begins, Reach.or]
  | star m ih => exact iff_of_true rfl Many.done

/-- Being done is being completed by the empty piece. -/
theorem isDone_iff (m : Marked) (u v : List Char) :
    m.isDone u.getLast? v.head? = true ↔ m.ends u [] v := by
  induction m with
  | empty => simp [isDone, ends]
  | chars s mark => simp [isDone, ends]
  | look l => simp [isDone, ends]
  | seq m n ihm ihn =>
    rw [isDone, Bool.or_eq_true, Bool.and_eq_true, ihm, ihn, canSkip_iff, ends, Reach.or,
      andThen_nil]
  | alt m n ihm ihn => rw [isDone, Bool.or_eq_true, ihm, ihn, ends, Reach.or]
  | star m ih =>
    rw [isDone, ih, ends, andThen_nil]
    exact (and_iff_left Many.done).symm

/-- What begins does not depend on the marks. -/
theorem begins_shift (before : Option Char) (c : Char) (enter : Bool) (m : Marked) :
    (m.shift before c enter).begins = m.begins := by
  induction m generalizing enter with
  | empty => rfl
  | chars s mark => rfl
  | look l => rfl
  | seq m n ihm ihn => rw [shift, begins, ihm, ihn, begins]
  | alt m n ihm ihn => rw [shift, begins, ihm, ihn, begins]
  | star m ih => rw [shift, begins, ih, begins]

/-- What follows on a match that took `c` follows on one that was under way before, or on one that
began with `c`. -/
theorem andThen_of_shift {P P' R Q : Reach} {enter : Prop}
    (h : ∀ x y, P' (u ++ [c]) x y ↔ enter ∧ P u (c :: x) y ∨ R u (c :: x) y) :
    P'.andThen Q (u ++ [c]) w v ↔ enter ∧ past c P Q u w v ∨ past c R Q u w v := by
  unfold andThen past
  simp only [h, List.append_assoc, List.singleton_append]
  constructor
  · rintro ⟨x, y, hw, ⟨henter, hx⟩ | hx, hy⟩
    · exact Or.inl ⟨henter, x, y, hw, hx, hy⟩
    · exact Or.inr ⟨x, y, hw, hx, hy⟩
  · rintro (⟨henter, x, y, hw, hx, hy⟩ | ⟨x, y, hw, hx, hy⟩)
    · exact ⟨x, y, hw, Or.inl ⟨henter, hx⟩, hy⟩
    · exact ⟨x, y, hw, Or.inr hx, hy⟩

/-- **The marks move with the place.**  What completes a match behind `c` completes it with `c` in
front of `c`, or, if a match may begin there, is a match with `c`. -/
theorem ends_shift (m : Marked) (u w v : List Char) (c : Char) (enter : Bool) :
    (m.shift u.getLast? c enter).ends (u ++ [c]) w v ↔
      enter = true ∧ m.begins u (c :: w) v ∨ m.ends u (c :: w) v := by
  induction m generalizing enter w v with
  | empty => simp [shift, ends, begins, skip]
  | chars s mark =>
    simp only [shift, ends, begins, Bool.and_eq_true, List.cons.injEq, reduceCtorEq, and_false,
      or_false]
    constructor
    · rintro ⟨⟨henter, hc⟩, hw⟩
      exact ⟨henter, c, ⟨rfl, hw⟩, hc⟩
    · rintro ⟨henter, d, ⟨rfl, hw⟩, hd⟩
      exact ⟨⟨henter, hd⟩, hw⟩
  | look l => simp [shift, ends, begins]
  | seq m n ihm ihn =>
    -- a match of `n` begins in front of `c` if one of `m` can be over there
    have hskip := canSkip_iff m u (c :: w ++ v)
    have hdone := isDone_iff m u (c :: w ++ v)
    rw [List.cons_append, List.head?_cons] at hskip hdone
    rw [shift, ends, ends, begins, Reach.or, Reach.or, begins_shift, ihn,
      andThen_of_shift fun x y => ihm x y enter, andThen_cons, andThen_cons, Bool.or_eq_true,
      Bool.and_eq_true, hskip, hdone, List.cons_append]
    tauto
  | alt m n ihm ihn =>
    rw [shift, ends, ends, begins, Reach.or, Reach.or, Reach.or, ihm, ihn]
    tauto
  | star m ih =>
    have hdone := isDone_iff m u (c :: w ++ v)
    rw [List.cons_append, List.head?_cons] at hdone
    rw [shift, ends, ends, begins, begins_shift,
      andThen_of_shift fun x y => ih x y (enter || m.isDone u.getLast? (some c)), andThen_cons,
      many_cons, Bool.or_eq_true, hdone, List.cons_append]
    tauto

/-! ## A run of the search -/

/-- A piece with the property stands at the beginning of `v`. -/
def Here (P : Reach) (u v : List Char) : Prop := ∃ w x, v = w ++ x ∧ P u w x

/-- A piece with the property stands somewhere in `v`. -/
def Somewhere (P : Reach) (u v : List Char) : Prop := ∃ x y, v = x ++ y ∧ Here P (u ++ x) y

theorem here_nil {P : Reach} : Here P u [] ↔ P u [] [] := by
  constructor
  · rintro ⟨w, x, hnil, hw⟩
    obtain ⟨rfl, rfl⟩ := List.append_eq_nil_iff.1 hnil.symm
    exact hw
  · intro h
    exact ⟨[], [], rfl, h⟩

theorem here_cons {P : Reach} :
    Here P u (c :: v) ↔ P u [] (c :: v) ∨ ∃ w x, v = w ++ x ∧ P u (c :: w) x := by
  constructor
  · rintro ⟨w, x, hv, hw⟩
    cases w with
    | nil =>
      obtain rfl : c :: v = x := hv
      exact Or.inl hw
    | cons d w =>
      obtain ⟨rfl, rfl⟩ := List.cons.inj hv
      exact Or.inr ⟨w, x, rfl, hw⟩
  · rintro (h | ⟨w, x, rfl, h⟩)
    · exact ⟨[], c :: v, rfl, h⟩
    · exact ⟨c :: w, x, rfl, h⟩

theorem somewhere_nil {P : Reach} : Somewhere P u [] ↔ P u [] [] := by
  constructor
  · rintro ⟨x, y, hnil, hy⟩
    obtain ⟨rfl, rfl⟩ := List.append_eq_nil_iff.1 hnil.symm
    exact here_nil.1 (by simpa using hy)
  · intro h
    exact ⟨[], [], rfl, here_nil.2 (by simpa using h)⟩

theorem somewhere_cons {P : Reach} :
    Somewhere P u (c :: v) ↔ Here P u (c :: v) ∨ Somewhere P (u ++ [c]) v := by
  constructor
  · rintro ⟨x, y, hv, hy⟩
    cases x with
    | nil =>
      obtain rfl : c :: v = y := hv
      exact Or.inl (by simpa using hy)
    | cons d x =>
      obtain ⟨rfl, rfl⟩ := List.cons.inj hv
      exact Or.inr ⟨x, y, rfl, by simpa using hy⟩
  · rintro (h | ⟨x, y, rfl, h⟩)
    · exact ⟨[], c :: v, rfl, by simpa using h⟩
    · exact ⟨c :: x, y, rfl, by simpa using h⟩

theorem accepts_iff (m : Marked) (u v : List Char) :
    m.accepts u.getLast? v.head? = true ↔ m.begins u [] v ∨ m.ends u [] v := by
  rw [accepts, Bool.or_eq_true, canSkip_iff, isDone_iff]

/-- **What a run finds**: the end of a match under way, or a match somewhere in the text that is
left.  The induction is on that text; each step moves the marks and lets a match begin. -/
theorem run_iff (m : Marked) (u v : List Char) :
    m.run u.getLast? v = true ↔ Here m.ends u v ∨ Somewhere m.begins u v := by
  induction v generalizing m u with
  | nil =>
    rw [run, here_nil, somewhere_nil]
    exact (accepts_iff m u []).trans or_comm
  | cons c v ih =>
    have haccepts := accepts_iff m u (c :: v)
    have hlast : some c = (u ++ [c]).getLast? := by simp
    rw [List.head?_cons] at haccepts
    have hmoved : Here (m.shift u.getLast? c true).ends (u ++ [c]) v ↔
        (∃ w x, v = w ++ x ∧ m.begins u (c :: w) x) ∨
          ∃ w x, v = w ++ x ∧ m.ends u (c :: w) x := by
      unfold Here
      simp only [ends_shift, true_and, and_or_left, exists_or]
    rw [run, Bool.or_eq_true, haccepts, hlast, ih, begins_shift, hmoved, somewhere_cons, here_cons,
      here_cons]
    simp only [or_assoc, or_comm, or_left_comm]

/-! ## Unrolled repetition -/

/-- What copies in sequence match. -/
theorem begins_copies (m : Marked) (n : Nat) : (m.copies n).begins = m.begins.power n := by
  induction n using Nat.strongRecOn with
  | ind n ih =>
    rw [copies]
    split
    · next h => rw [h]; rfl
    · split
      · next h => rw [h, power, power, andThen_skip]
      · have hhalves : n / 2 + (n - n / 2) = n := by omega
        rw [begins, ih _ (by omega), ih _ (by omega), ← power_add, hhalves]

/-! ## Before the first character -/

/-- No match is under way. -/
def Idle (m : Marked) : Prop := ∀ u w v, ¬ m.ends u w v

theorem idle_empty : Idle empty := fun _ _ _ => id

theorem Idle.seq (hm : m.Idle) (hn : n.Idle) : (Marked.seq m n).Idle := by
  rintro u w v (⟨x, y, -, hx, -⟩ | h)
  · exact hm u x _ hx
  · exact hn u w v h

theorem Idle.alt (hm : m.Idle) (hn : n.Idle) : (Marked.alt m n).Idle := by
  rintro u w v (h | h)
  · exact hm u w v h
  · exact hn u w v h

theorem Idle.star (hm : m.Idle) : (Marked.star m).Idle := by
  rintro u w v ⟨x, y, -, hx, -⟩
  exact hm u x _ hx

theorem Idle.copies (hm : m.Idle) (n : Nat) : (m.copies n).Idle := by
  induction n using Nat.strongRecOn with
  | ind n ih =>
    rw [Marked.copies]
    split
    · exact idle_empty
    · split
      · exact hm
      · exact (ih _ (by omega)).seq (ih _ (by omega))

theorem Idle.turns (hm : m.Idle) (least : Nat) (most : Option Nat) :
    (m.turns least most).Idle := by
  unfold Marked.turns
  cases most with
  | none =>
    dsimp only
    split
    · exact hm.star
    · exact (hm.copies least).seq hm.star
  | some most =>
    dsimp only
    split
    · exact hm.copies least
    · exact (hm.copies least).seq ((hm.alt idle_empty).copies _)

end Marked

namespace Regex

open Reach

variable {r s : Regex} {u w v : List Char}

/-- The pieces that an expression matches. -/
abbrev pieces (r : Regex) : Reach := Spans r

/-- No bound of a repetition is below the number of turns that it asks for. -/
def WellCounted : Regex → Prop
  | empty => True
  | chars _ => True
  | look _ => True
  | seq r s => r.WellCounted ∧ s.WellCounted
  | alt r s => r.WellCounted ∧ s.WellCounted
  | rep r least most => r.WellCounted ∧ ∀ n, most = some n → least ≤ n

/-! ### What the constructors match -/

theorem pieces_empty : Regex.empty.pieces = skip := by
  refine ext_iff fun u w v => ?_
  constructor
  · rintro ⟨⟩
    rfl
  · rintro rfl
    exact .empty

theorem pieces_chars {t : CharClass} :
    (Regex.chars t).pieces u w v ↔ ∃ c, w = [c] ∧ t.has c = true := by
  constructor
  · rintro ⟨⟩
    exact ⟨_, rfl, ‹_›⟩
  · rintro ⟨c, rfl, hc⟩
    exact .chars hc

theorem pieces_look {l : Look} :
    (Regex.look l).pieces u w v ↔ w = [] ∧ l.holds u.getLast? v.head? = true := by
  constructor
  · rintro ⟨⟩
    exact ⟨rfl, ‹_›⟩
  · rintro ⟨rfl, hl⟩
    exact .look hl

theorem pieces_seq (r s : Regex) : (Regex.seq r s).pieces = r.pieces.andThen s.pieces := by
  refine ext_iff fun u w v => ?_
  constructor
  · rintro ⟨⟩
    exact ⟨_, _, rfl, ‹_›, ‹_›⟩
  · rintro ⟨x, y, rfl, hx, hy⟩
    exact .seq hx hy

theorem pieces_alt (r s : Regex) : (Regex.alt r s).pieces = r.pieces.or s.pieces := by
  refine ext_iff fun u w v => ?_
  constructor
  · intro h
    cases h with
    | altLeft h => exact Or.inl h
    | altRight h => exact Or.inr h
  · rintro (h | h)
    · exact .altLeft h
    · exact .altRight h

/-- A repetition is over, or it takes one turn off. -/
theorem pieces_rep {least : Nat} {most : Option Nat} :
    (Regex.rep r least most).pieces u w v ↔
      least = 0 ∧ w = [] ∨
      most ≠ some 0 ∧
        r.pieces.andThen (Regex.rep r (least - 1) (most.map (· - 1))).pieces u w v := by
  constructor
  · intro h
    cases h with
    | repDone => exact Or.inl ⟨rfl, rfl⟩
    | repTurn hmost hr hs => exact Or.inr ⟨hmost, _, _, rfl, hr, hs⟩
  · rintro (⟨rfl, rfl⟩ | ⟨hmost, x, y, rfl, hx, hy⟩)
    · exact .repDone
    · exact .repTurn hmost hx hy

/-! ### What repetitions match -/

/-- Any number of turns. -/
theorem pieces_rep_many : (Regex.rep r 0 none).pieces = Many r.pieces := by
  refine ext_iff fun u w v => ?_
  constructor
  · intro h
    generalize ht : Regex.rep r 0 none = t at h
    induction h with
    | repDone => exact .done
    | repTurn hmost hx hy ihx ihy =>
      obtain ⟨rfl, rfl, rfl⟩ := Regex.rep.inj ht
      exact .turn hx (ihy rfl)
    | _ => cases ht
  · intro h
    induction h with
    | done => exact .repDone
    | turn hx hy ih => exact .repTurn (by simp) hx ih

/-- One turn that has to be taken. -/
theorem pieces_rep_succ (r : Regex) (least : Nat) {most : Option Nat} (hmost : most ≠ some 0) :
    (Regex.rep r (least + 1) most).pieces =
      r.pieces.andThen (Regex.rep r least (most.map (· - 1))).pieces := by
  refine ext_iff fun u w v => ?_
  rw [pieces_rep, Nat.add_sub_cancel]
  simp [hmost]

/-- The turns that have to be taken, and the others. -/
theorem pieces_rep_add (r : Regex) (least more : Nat) {most : Option Nat}
    (hmost : ∀ n, most = some n → least ≤ n) :
    (Regex.rep r (least + more) most).pieces =
      (r.pieces.power least).andThen (Regex.rep r more (most.map (· - least))).pieces := by
  induction least generalizing most with
  | zero =>
    have hsame : most.map (· - 0) = most := by cases most <;> rfl
    rw [power, skip_andThen, Nat.zero_add, hsame]
  | succ least ih =>
    have hpos : most ≠ some 0 := fun h => absurd (hmost 0 h) (by omega)
    have hrest : ∀ n, most.map (· - 1) = some n → least ≤ n := by
      intro n hn
      obtain ⟨k, hk, rfl⟩ := Option.map_eq_some_iff.1 hn
      have := hmost k hk
      omega
    have hsub : (most.map (· - 1)).map (· - least) = most.map (· - (least + 1)) := by
      rw [Option.map_map]
      congr 1
      funext k
      simp only [Function.comp]
      omega
    rw [Nat.succ_add, pieces_rep_succ r _ hpos, ih hrest, hsub, power, andThen_assoc]

/-- A turn that may be taken or not. -/
theorem pieces_rep_bounded (r : Regex) (n : Nat) :
    (Regex.rep r 0 (some n)).pieces = (r.pieces.or skip).power n := by
  have hstep : ∀ n u w v, (Regex.rep r 0 (some (n + 1))).pieces u w v ↔
      w = [] ∨ r.pieces.andThen (Regex.rep r 0 (some n)).pieces u w v := by
    intro n u w v
    rw [pieces_rep]
    simp
  have hzero : (Regex.rep r 0 (some 0)).pieces = skip := by
    refine ext_iff fun u w v => ?_
    rw [pieces_rep]
    simp [skip]
  -- a greater bound allows what a smaller one allows
  have hmono : ∀ n u w v, (Regex.rep r 0 (some n)).pieces u w v →
      (Regex.rep r 0 (some (n + 1))).pieces u w v := by
    intro n
    induction n with
    | zero =>
      intro u w v h
      rw [hzero] at h
      exact (hstep 0 u w v).2 (Or.inl h)
    | succ n ih =>
      intro u w v h
      rcases (hstep n u w v).1 h with hw | ⟨x, y, rfl, hx, hy⟩
      · exact (hstep (n + 1) u w v).2 (Or.inl hw)
      · exact (hstep (n + 1) u _ v).2 (Or.inr ⟨x, y, rfl, hx, ih _ _ _ hy⟩)
  induction n with
  | zero => exact hzero
  | succ n ih =>
    rw [power, or_andThen, skip_andThen, ← ih]
    refine ext_iff fun u w v => ?_
    rw [hstep]
    constructor
    · rintro (rfl | h)
      · exact Or.inr .repDone
      · exact Or.inl h
    · rintro (h | h)
      · exact Or.inr h
      · exact (hstep n u w v).1 (hmono n u w v h)

/-! ### Unrolling -/

/-- The unrolled repetition of what matches as `r` does matches as the repetition of `r` does. -/
theorem begins_turns {m : Marked} (hm : m.begins = r.pieces) {least : Nat} {most : Option Nat}
    (hmost : ∀ n, most = some n → least ≤ n) :
    (m.turns least most).begins = (Regex.rep r least most).pieces := by
  have hadd := pieces_rep_add r least 0 hmost
  rw [Nat.add_zero] at hadd
  rw [hadd]
  unfold Marked.turns
  cases most with
  | none =>
    rw [Option.map_none, pieces_rep_many]
    dsimp only
    split
    · next h => rw [h, power, skip_andThen, Marked.begins, hm]
    · rw [Marked.begins, Marked.begins_copies, Marked.begins, hm]
  | some n =>
    have hn := hmost n rfl
    rw [Option.map_some, pieces_rep_bounded]
    dsimp only
    split
    · next h =>
      have hequal : n - least = 0 := by omega
      rw [hequal, power, andThen_skip, Marked.begins_copies, hm]
    · rw [Marked.begins, Marked.begins_copies, Marked.begins_copies, Marked.begins, hm]
      rfl

/-- **Unrolling keeps what is matched.** -/
theorem begins_unroll (hr : r.WellCounted) : r.unroll.begins = r.pieces := by
  induction r with
  | empty => exact pieces_empty.symm
  | chars t =>
    refine ext_iff fun u w v => ?_
    rw [pieces_chars]
    rfl
  | look l =>
    refine ext_iff fun u w v => ?_
    rw [pieces_look]
    rfl
  | seq r s ihr ihs =>
    obtain ⟨hr, hs⟩ := hr
    rw [unroll, Marked.begins, ihr hr, ihs hs, pieces_seq]
  | alt r s ihr ihs =>
    obtain ⟨hr, hs⟩ := hr
    rw [unroll, Marked.begins, ihr hr, ihs hs, pieces_alt]
  | rep r least most ih =>
    obtain ⟨hr, hmost⟩ := hr
    exact begins_turns (ih hr) hmost

/-- No match is under way before the first character. -/
theorem idle_unroll (r : Regex) : r.unroll.Idle := by
  induction r with
  | empty => exact Marked.idle_empty
  | chars t => simp [Marked.Idle, unroll, Marked.ends]
  | look l => exact fun _ _ _ => id
  | seq r s ihr ihs => exact ihr.seq ihs
  | alt r s ihr ihs => exact ihr.alt ihs
  | rep r least most ih => exact ih.turns least most

/-- **A search finds what there is.** -/
theorem search_iff_found (hr : r.WellCounted) (t : String) :
    r.search t = true ↔ Found r t.toList := by
  have hrun := Marked.run_iff r.unroll [] t.toList
  have hnone : ¬ Marked.Here r.unroll.ends [] t.toList := by
    rintro ⟨w, x, -, h⟩
    exact idle_unroll r [] w x h
  rw [List.getLast?_nil, or_iff_right hnone, begins_unroll hr] at hrun
  rw [search, hrun]
  constructor
  · rintro ⟨u, y, htext, w, v, rfl, h⟩
    exact ⟨u, w, v, by rw [htext, List.append_assoc], h⟩
  · rintro ⟨u, w, v, htext, h⟩
    exact ⟨u, w ++ v, by rw [htext, List.append_assoc], w, v, rfl, h⟩

end Regex
end VarStore
