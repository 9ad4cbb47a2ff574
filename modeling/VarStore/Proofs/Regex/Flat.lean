import Mathlib.Data.List.Forall2
import VarStore.Proofs.Regex.Reading

/-!
# Patterns without operators

In a pattern that has no operators every sign stands for itself or for a place, and the whole is a
sequence.  Reading it pushes one piece a sign (`run_of_isFlat`), nothing is ever opened, and so all
that can go wrong is that the pattern takes too much room (`read_flat`).

A sign that stands for itself stands for its partners in case as well, if case is ignored.  So what
such a pattern matches is spelled like it, character by character (`Spells`, `pieces_literal`).  It
may stand anywhere in a text, unless a caret in front of the pattern or a dollar sign behind it ties
it to an end (`search_anchored_iff`).

* `metacharacters`, `IsFlat`, `flatPiece`: the signs, and what they become.
* `Spells`: a text with the same characters, up to case.
* `anchored`: a text as a pattern, with or without a caret and a dollar sign.
-/

namespace VarStore
namespace Regex

variable {f : Flags} {c : Char} {cs : List Char}

/-- The signs that do not stand for themselves everywhere in a pattern. -/
def metacharacters : List Char :=
  ['\\', '.', '+', '*', '?', '(', ')', '|', '[', ']', '{', '}', '^', '$']

/-- The sign stands for a place or for itself, whatever stands beside it. -/
def IsFlat (c : Char) : Prop := c = '^' ∨ c = '$' ∨ c ∉ metacharacters

/-- The piece that such a sign becomes. -/
def flatPiece (f : Flags) (c : Char) : Piece :=
  if c = '^' then .ofLook (Reader.caret f)
  else if c = '$' then .ofLook (Reader.dollar f)
  else .ofChar f c

theorem flatPiece_of_notMem (hc : c ∉ metacharacters) (f : Flags) :
    flatPiece f c = .ofChar f c := by
  have hcaret : c ≠ '^' := fun h => hc (h ▸ by decide)
  have hdollar : c ≠ '$' := fun h => hc (h ▸ by decide)
  rw [flatPiece, if_neg hcaret, if_neg hdollar]

/-! ## Reading -/

/-- A sign of its own becomes one piece more. -/
theorem step_of_isFlat (hc : IsFlat c) (s : Reader) (rest : List Char) :
    s.step c rest = .ok (s.push (flatPiece s.flags c) rest) := by
  rcases hc with rfl | rfl | hc
  · rfl
  · rfl
  · rw [flatPiece_of_notMem hc]
    unfold Reader.step
    split
    case h_13 => rfl
    all_goals exact absurd (by decide) hc

/-- A reader outside groups and alternatives, and not in verbose mode. -/
structure Reader.AtTop (s : Reader) : Prop where
  verbose : s.flags.verbose = false
  frames : s.frames = []
  branches : s.branches = []

namespace Reader.AtTop

variable {s : Reader}

theorem skip (hs : s.AtTop) (ds : List Char) : s.flags.skip ds = ds := by
  rw [Flags.skip, hs.verbose, if_neg Bool.false_ne_true]

theorem whole (hs : s.AtTop) : s.whole = .sequence s.pieces := by
  rw [Reader.whole, hs.branches, Piece.choice]

theorem push (hs : s.AtTop) (p : Piece) (rest : List Char) : (s.push p rest).AtTop :=
  ⟨hs.verbose, hs.frames, hs.branches⟩

theorem run_of_rest_eq_nil (hs : s.AtTop) (hrest : s.rest = []) (fuel : Nat) :
    Reader.run fuel s = .ok (.sequence s.pieces) := by
  have hopen : s.frames.isEmpty = true := by rw [hs.frames]; rfl
  cases fuel with
  | zero => rw [Reader.run, if_pos hopen, hs.whole]
  | succ fuel =>
    rw [Reader.run, hs.skip, hrest]
    dsimp only
    rw [if_pos hopen, hs.whole]

end Reader.AtTop

/-- **Reading a flat pattern** makes its signs a sequence. -/
theorem run_of_isFlat (hcs : ∀ c ∈ cs, IsFlat c) {fuel : Nat} (hfuel : cs.length ≤ fuel)
    {s : Reader} (hs : s.AtTop) (hrest : s.rest = cs) :
    Reader.run fuel s = .ok (.sequence ((cs.map (flatPiece s.flags)).reverse ++ s.pieces)) := by
  induction cs generalizing fuel s with
  | nil => exact hs.run_of_rest_eq_nil hrest fuel
  | cons c cs ih =>
    cases fuel with
    | zero => cases hfuel
    | succ fuel =>
      obtain ⟨hc, hothers⟩ := List.forall_mem_cons.1 hcs
      have hpushed := hs.push (flatPiece s.flags c) cs
      rw [Reader.run, hs.skip, hrest]
      dsimp only
      rw [step_of_isFlat hc]
      refine (ih hothers (Nat.le_of_succ_le_succ hfuel) hpushed rfl).trans ?_
      simp [Reader.push]

theorem regex_sequence (ps : List Piece) :
    (Piece.sequence ps).regex = sequence (ps.reverse.map (·.regex)) := by
  unfold Piece.sequence
  split <;> rfl

theorem depth_flatPiece (f : Flags) (c : Char) : (flatPiece f c).depth = 0 := by
  unfold flatPiece Piece.ofLook Piece.ofChar
  split
  · rfl
  · split
    · rfl
    · split <;> rfl

/-- A sequence of pieces that nothing is nested in is one deep. -/
theorem depth_sequence_le {ps : List Piece} (hps : ∀ p ∈ ps, p.depth = 0) :
    (Piece.sequence ps).depth ≤ 1 := by
  have hmax : (ps.map (·.depth)).foldl max 0 = 0 := by
    have hzero : ps.map (·.depth) = List.replicate ps.length 0 := by
      rw [List.eq_replicate_iff]
      refine ⟨List.length_map _, fun n hn => ?_⟩
      obtain ⟨p, hp, rfl⟩ := List.mem_map.1 hn
      exact hps p hp
    rw [hzero]
    induction ps.length with
    | zero => rfl
    | succ n ih => exact ih
  unfold Piece.sequence
  split
  · exact Nat.zero_le 1
  · next p => exact Nat.le_trans (Nat.le_of_eq (hps p List.mem_cons_self)) (Nat.zero_le 1)
  · exact Nat.le_of_eq (congrArg (1 + ·) hmax)

/-- What a flat pattern becomes. -/
def flat (f : Flags) (cs : List Char) : Piece := .sequence (cs.map (flatPiece f)).reverse

/-- **A flat pattern is read**, unless it takes too much room. -/
theorem read_flat {pattern : String} (hpattern : ∀ c ∈ pattern.toList, IsFlat c)
    (ignoreCase : Bool) :
    read ignoreCase pattern =
      if (flat (.initial ignoreCase) pattern.toList).layout.fits then
        .ok (sequence (pattern.toList.map fun c => (flatPiece (.initial ignoreCase) c).regex))
      else .error .tooLarge := by
  have hinitial : (Reader.initial ignoreCase pattern.toList).AtTop := ⟨rfl, rfl, rfl⟩
  have hrun := run_of_isFlat hpattern (Nat.le_of_eq String.length_toList) hinitial rfl
  have hdepth : ¬ depthLimit < (flat (.initial ignoreCase) pattern.toList).depth := by
    have hle : (flat (.initial ignoreCase) pattern.toList).depth ≤ 1 := by
      refine depth_sequence_le fun p hp => ?_
      obtain ⟨c, -, rfl⟩ := List.mem_map.1 (List.mem_reverse.1 hp)
      exact depth_flatPiece _ c
    have hlimit : 1 ≤ depthLimit := by decide
    omega
  have hregex : (flat (.initial ignoreCase) pattern.toList).regex =
      sequence (pattern.toList.map fun c => (flatPiece (.initial ignoreCase) c).regex) := by
    rw [flat, regex_sequence, List.reverse_reverse, List.map_map]
    rfl
  have hnone : (Reader.initial ignoreCase pattern.toList).pieces = [] := rfl
  rw [hnone, List.append_nil] at hrun
  unfold read
  rw [hrun, ← hregex]
  show (if depthLimit < (flat (.initial ignoreCase) pattern.toList).depth then _ else _) = _
  rw [if_neg hdepth]
  rfl

/-! ## What flat patterns match -/

/-- The text has these characters in this order, up to the case that is ignored. -/
def Spells (f : Flags) (cs w : List Char) : Prop :=
  List.Forall₂ (fun c d => d = c ∨ d ∈ f.partners c) cs w

/-- Characters without partners spell themselves only. -/
theorem spells_iff_eq (hcs : ∀ c ∈ cs, f.partners c = []) (w : List Char) :
    Spells f cs w ↔ w = cs := by
  unfold Spells
  induction cs generalizing w with
  | nil => exact List.forall₂_nil_left_iff
  | cons c cs ih =>
    obtain ⟨hc, hothers⟩ := List.forall_mem_cons.1 hcs
    rw [List.forall₂_cons_left_iff]
    constructor
    · rintro ⟨d, y, hd, hy, rfl⟩
      rw [hc] at hd
      rw [(ih hothers y).1 hy, hd.resolve_right List.not_mem_nil]
    · rintro rfl
      exact ⟨c, cs, Or.inl rfl, (ih hothers cs).2 rfl, rfl⟩

/-- The class of some characters has these and no others. -/
theorem has_ranges_map (ds : List Char) (d : Char) :
    (CharClass.ranges (ds.map fun e => (e.toNat, e.toNat))).has d = true ↔ d ∈ ds := by
  rw [CharClass.has_ranges]
  induction ds with
  | nil => simp [Unicode.Ranges.has]
  | cons e ds ih =>
    have hcode : (decide (e.toNat ≤ d.toNat) && decide (d.toNat ≤ e.toNat)) = true ↔ d = e := by
      rw [Bool.and_eq_true, decide_eq_true_eq, decide_eq_true_eq, ← Char.toNat_inj]
      omega
    unfold Unicode.Ranges.has at ih ⊢
    rw [List.map_cons, Unicode.Ranges.hasCode_cons, Bool.or_eq_true, hcode, ih, List.mem_cons]

/-- A sign that stands for itself matches one character that is the same up to case. -/
theorem pieces_ofChar (f : Flags) (c : Char) (u w v : List Char) :
    (Piece.ofChar f c).regex.pieces u w v ↔ ∃ d, w = [d] ∧ (d = c ∨ d ∈ f.partners c) := by
  unfold Piece.ofChar
  split
  · next hnone =>
    rw [pieces_chars]
    simp [hnone]
  · rw [pieces_chars]
    simp only [has_ranges_map, List.mem_cons]

theorem pieces_sequence_cons (r : Regex) (rs : List Regex) :
    (sequence (r :: rs)).pieces = r.pieces.andThen (sequence rs).pieces := by
  cases rs with
  | nil => rw [sequence, sequence, pieces_empty, Reach.andThen_skip]
  | cons s rs =>
    rw [sequence, pieces_seq]
    simp

theorem pieces_sequence_append (rs ss : List Regex) :
    (sequence (rs ++ ss)).pieces = (sequence rs).pieces.andThen (sequence ss).pieces := by
  induction rs with
  | nil => rw [List.nil_append, sequence, pieces_empty, Reach.skip_andThen]
  | cons r rs ih =>
    rw [List.cons_append, pieces_sequence_cons, pieces_sequence_cons, ih, Reach.andThen_assoc]

/-- **A literal pattern** matches what is spelled like it. -/
theorem pieces_literal (hcs : ∀ c ∈ cs, c ∉ metacharacters) (f : Flags) (u w v : List Char) :
    (sequence (cs.map fun c => (flatPiece f c).regex)).pieces u w v ↔ Spells f cs w := by
  induction cs generalizing u w with
  | nil =>
    rw [List.map_nil, sequence, pieces_empty, Spells, List.forall₂_nil_left_iff]
    rfl
  | cons c cs ih =>
    obtain ⟨hc, hothers⟩ := List.forall_mem_cons.1 hcs
    rw [List.map_cons, pieces_sequence_cons, flatPiece_of_notMem hc, Spells,
      List.forall₂_cons_left_iff]
    constructor
    · rintro ⟨x, y, rfl, hx, hy⟩
      obtain ⟨d, rfl, hd⟩ := (pieces_ofChar f c u x _).1 hx
      exact ⟨d, y, hd, (ih hothers _ y).1 hy, rfl⟩
    · rintro ⟨d, y, hd, hy, rfl⟩
      exact ⟨[d], y, rfl, (pieces_ofChar f c u [d] _).2 ⟨d, rfl, hd⟩, (ih hothers _ y).2 hy⟩

/-! ## Searching -/

/-- A compiled flat pattern is the sequence of its signs. -/
theorem regex_of_compile {pattern : String} (hpattern : ∀ c ∈ pattern.toList, IsFlat c)
    {ignoreCase : Bool} {p : KeyPattern} (hp : KeyPattern.compile pattern ignoreCase = .ok p) :
    p.regex = sequence (pattern.toList.map fun c => (flatPiece (.initial ignoreCase) c).regex) := by
  have hread := KeyPattern.read_of_compile hp
  rw [read_flat hpattern] at hread
  split at hread
  · exact (Except.ok.inj hread).symm
  · cases hread

/-- A text with a caret in front of it and a dollar sign behind it, with one of them, or with
none. -/
def anchored (front back : Bool) (s : String) : String :=
  (if front then "^" else "") ++ s ++ if back then "$" else ""

theorem toList_anchored (front back : Bool) (s : String) :
    (anchored front back s).toList =
      (if front then ['^'] else []) ++ s.toList ++ if back then ['$'] else [] := by
  cases front <;> cases back <;> simp [anchored]

theorem isFlat_of_mem_anchored {s : String} (hs : ∀ c ∈ s.toList, c ∉ metacharacters)
    (front back : Bool) : ∀ c ∈ (anchored front back s).toList, IsFlat c := by
  intro c hc
  rw [toList_anchored, List.mem_append, List.mem_append] at hc
  rcases hc with (hc | hc) | hc
  · cases front with
    | false => cases hc
    | true => exact Or.inl (List.mem_singleton.1 hc)
  · exact Or.inr (Or.inr (hs c hc))
  · cases back with
    | false => cases hc
    | true => exact Or.inr (Or.inl (List.mem_singleton.1 hc))

/-- An anchor matches the empty piece, and only where it stands for. -/
theorem pieces_anchor (f : Flags) (b : Bool) {c : Char} {l : Look}
    (hc : (flatPiece f c).regex = .look l) (u w v : List Char) :
    (sequence ((if b then [c] else []).map fun d => (flatPiece f d).regex)).pieces u w v ↔
      w = [] ∧ (b = true → l.holds u.getLast? v.head? = true) := by
  cases b with
  | false => simp [sequence, pieces_empty, Reach.skip]
  | true => simp [sequence, hc, pieces_look]

/-- **Literal patterns with anchors** find the texts that contain what is spelled like them, at the
beginning if there is a caret, and at the end if there is a dollar sign. -/
theorem search_anchored_iff {s : String} (hs : ∀ c ∈ s.toList, c ∉ metacharacters)
    {front back ignoreCase : Bool} {p : KeyPattern}
    (hp : KeyPattern.compile (anchored front back s) ignoreCase = .ok p) (t : String) :
    p.search t = true ↔ ∃ u w v, t.toList = u ++ w ++ v ∧ (front = true → u = []) ∧
      (back = true → v = []) ∧ Spells (.initial ignoreCase) s.toList w := by
  have hregex := regex_of_compile (isFlat_of_mem_anchored hs front back) hp
  rw [toList_anchored, List.map_append, List.map_append] at hregex
  have hcaret := pieces_anchor (.initial ignoreCase) front (c := '^') (l := .textStart) rfl
  have hdollar := pieces_anchor (.initial ignoreCase) back (c := '$') (l := .textEnd) rfl
  have hliteral := pieces_literal hs (.initial ignoreCase)
  have hstart : ∀ u v : List Char, Look.textStart.holds u.getLast? v.head? = true ↔ u = [] := by
    simp [Look.holds]
  have hend : ∀ u v : List Char, Look.textEnd.holds u.getLast? v.head? = true ↔ v = [] := by
    simp [Look.holds]
  rw [KeyPattern.search_iff_found hp]
  constructor
  · rintro ⟨u, w, v, ht, hw⟩
    change p.regex.pieces u w v at hw
    rw [hregex, pieces_sequence_append, pieces_sequence_append] at hw
    obtain ⟨x, z, rfl, ⟨x, y, rfl, hx, hy⟩, hz⟩ := hw
    obtain ⟨rfl, hfront⟩ := (hcaret u x _).1 hx
    obtain ⟨rfl, hback⟩ := (hdollar _ z v).1 hz
    refine ⟨u, y, v, by simpa using ht, fun h => ?_, fun h => ?_, (hliteral _ y _).1 hy⟩
    · exact (hstart u _).1 (hfront h)
    · exact (hend _ v).1 (hback h)
  · rintro ⟨u, w, v, ht, hfront, hback, hw⟩
    refine ⟨u, w, v, ht, ?_⟩
    change p.regex.pieces u w v
    rw [hregex, pieces_sequence_append, pieces_sequence_append]
    refine ⟨w, [], by simp, ⟨[], w, rfl, ?_, (hliteral _ w _).2 hw⟩, ?_⟩
    · exact (hcaret u [] _).2 ⟨rfl, fun h => (hstart u _).2 (hfront h)⟩
    · exact (hdollar _ [] v).2 ⟨rfl, fun h => (hend _ v).2 (hback h)⟩

/-- **A caret in front** finds the texts that begin with what is spelled like the rest of the
pattern. -/
theorem search_caret_iff {pattern : String} (hpattern : pattern.toList = '^' :: cs)
    (hcs : ∀ c ∈ cs, c ∉ metacharacters) {ignoreCase : Bool} {p : KeyPattern}
    (hp : KeyPattern.compile pattern ignoreCase = .ok p) (t : String) :
    p.search t = true ↔ ∃ w, w <+: t.toList ∧ Spells (.initial ignoreCase) cs w := by
  have hanchored : pattern = anchored true false (String.ofList cs) := by
    rw [← String.toList_inj, hpattern, toList_anchored]
    simp
  rw [hanchored] at hp
  rw [search_anchored_iff (by simpa using hcs) hp, String.toList_ofList]
  constructor
  · rintro ⟨u, w, v, ht, hfront, -, hw⟩
    obtain rfl := hfront rfl
    exact ⟨w, ⟨v, ht.symm⟩, hw⟩
  · rintro ⟨w, ⟨v, hv⟩, hw⟩
    exact ⟨[], w, v, hv.symm, fun _ => rfl, fun h => (Bool.false_ne_true h).elim, hw⟩

end Regex
end VarStore
