import VarStore.KeyPattern
import VarStore.Proofs.Regex.Search

/-!
# What is read is well counted

A search finds what there is as long as no repetition has a bound below the number of turns that it
asks for (`search_iff_found`).  A pattern cannot be written so that it has one: the reader compares
the two numbers of a count, and it is the only place at which a repetition comes about.  The number
of turns is changed once more for an expression that matches empty pieces only, where one turn is as
good as several, and there both numbers are cut in the same way (`wellCounted_repeated`).

The reader keeps pieces in three places: the sequence being read, the alternatives before it, and
what the open groups interrupted.  The invariant is that all of these are well counted
(`Reader.Sound`).  A step that does not fail keeps it, whatever sign it reads (`sound_step`), and so
does a run.

* `Reader.Sound`, `Leads`: the invariant, and computations that lead to it if they do not fail.
* `sound_step`, `wellCounted_of_run`: one sign, and a whole pattern.
* `KeyPattern.search_iff_found`: what a compiled pattern finds.
-/

namespace VarStore
namespace Regex

/-! ## Computations that may fail -/

/-- If the computation does not fail, what it gives has the property. -/
def Leads {ε α : Type} (P : α → Prop) (x : Except ε α) : Prop := ∀ a, x = .ok a → P a

section

variable {ε α β : Type} {P : α → Prop} {Q : β → Prop} {x : Except ε α}

theorem leads_error (P : α → Prop) (e : ε) : Leads P (.error e : Except ε α) :=
  fun _ h => nomatch h

theorem leads_ok {a : α} (ha : P a) : Leads P (.ok a : Except ε α) := by
  rintro b hb
  exact Except.ok.inj hb ▸ ha

/-- Nothing is known of what the computation gives. -/
theorem leads_any (x : Except ε α) : Leads (fun _ => True) x := fun _ _ => trivial

theorem leads_bind {f : α → Except ε β} (hx : Leads P x) (hf : ∀ a, P a → Leads Q (f a)) :
    Leads Q (x.bind f) := by
  intro b hb
  cases x with
  | error e => cases hb
  | ok a => exact hf a (hx a rfl) b hb

theorem leads_map {f : α → β} (hx : Leads P x) (hf : ∀ a, P a → Q (f a)) :
    Leads Q (x.map f) := by
  intro b hb
  cases x with
  | error e => cases hb
  | ok a => exact Except.ok.inj hb ▸ hf a (hx a rfl)

theorem leads_ite {p : Prop} [Decidable p] {y : Except ε α} (hx : p → Leads P x)
    (hy : ¬ p → Leads P y) : Leads P (if p then x else y) := by
  split
  · next hp => exact hx hp
  · next hp => exact hy hp

end

/-! ## Pieces -/

/-- All of the pieces are well counted. -/
def AllCounted (ps : List Piece) : Prop := ∀ p ∈ ps, p.regex.WellCounted

theorem allCounted_nil : AllCounted [] := fun _ h => absurd h List.not_mem_nil

theorem allCounted_cons {p : Piece} {ps : List Piece} :
    AllCounted (p :: ps) ↔ p.regex.WellCounted ∧ AllCounted ps := List.forall_mem_cons

theorem wellCounted_sequence {rs : List Regex} (hrs : ∀ r ∈ rs, r.WellCounted) :
    (sequence rs).WellCounted := by
  induction rs with
  | nil => trivial
  | cons r rs ih =>
    obtain ⟨hr, hothers⟩ := List.forall_mem_cons.1 hrs
    cases rs with
    | nil => exact hr
    | cons s rs => exact ⟨hr, ih hothers⟩

theorem wellCounted_choice {rs : List Regex} (hrs : ∀ r ∈ rs, r.WellCounted) :
    (choice rs).WellCounted := by
  induction rs with
  | nil => trivial
  | cons r rs ih =>
    obtain ⟨hr, hothers⟩ := List.forall_mem_cons.1 hrs
    cases rs with
    | nil => exact hr
    | cons s rs => exact ⟨hr, ih hothers⟩

/-- The expressions of well counted pieces, in the order in which they were read. -/
theorem wellCounted_of_mem {ps : List Piece} (hps : AllCounted ps) :
    ∀ r ∈ ps.reverse.map (·.regex), r.WellCounted := by
  intro r hr
  obtain ⟨p, hp, rfl⟩ := List.mem_map.1 hr
  exact hps p (List.mem_reverse.1 hp)

theorem wellCounted_pieceSequence {ps : List Piece} (hps : AllCounted ps) :
    (Piece.sequence ps).regex.WellCounted := by
  unfold Piece.sequence
  split
  · trivial
  · exact (allCounted_cons.1 hps).1
  · exact wellCounted_sequence (wellCounted_of_mem hps)

theorem wellCounted_pieceChoice {ps : List Piece} (hps : AllCounted ps) :
    (Piece.choice ps).regex.WellCounted := by
  unfold Piece.choice
  split
  · exact (allCounted_cons.1 hps).1
  · exact wellCounted_choice (wellCounted_of_mem hps)

theorem wellCounted_ofChar (f : Flags) (c : Char) : (Piece.ofChar f c).regex.WellCounted := by
  unfold Piece.ofChar
  split <;> trivial

theorem wellCounted_escaped (f : Flags) (e : Escape) :
    (Reader.escaped f e).regex.WellCounted := by
  cases e with
  | char c => exact wellCounted_ofChar f c
  | charClass s => trivial
  | look l => trivial

/-- **A counted repetition** is well counted if its numbers are in order. -/
theorem wellCounted_repeated {r : Regex} (hr : r.WellCounted) {least : Nat} {most : Option Nat}
    (hmost : ∀ n, most = some n → least ≤ n) : (r.repeated least most).WellCounted := by
  unfold repeated
  split
  · trivial
  · split
    · refine ⟨hr, fun n hn => ?_⟩
      obtain rfl := Option.some.inj hn
      cases most with
      | none =>
        rw [Option.getD_none]
        omega
      | some m =>
        have hm := hmost m rfl
        rw [Option.getD_some]
        omega
    · exact ⟨hr, hmost⟩

/-! ## The reader -/

/-- All pieces that the reader holds are well counted. -/
structure Reader.Sound (s : Reader) : Prop where
  pieces : AllCounted s.pieces
  branches : AllCounted s.branches
  frames : ∀ f ∈ s.frames, AllCounted f.pieces ∧ AllCounted f.branches

namespace Reader

variable {s : Reader}

theorem Sound.whole (hs : s.Sound) : s.whole.regex.WellCounted :=
  wellCounted_pieceChoice (allCounted_cons.2 ⟨wellCounted_pieceSequence hs.pieces, hs.branches⟩)

theorem Sound.push (hs : s.Sound) {p : Piece} (hp : p.regex.WellCounted) (rest : List Char) :
    (s.push p rest).Sound :=
  ⟨allCounted_cons.2 ⟨hp, hs.pieces⟩, hs.branches, hs.frames⟩

theorem Sound.openGroup (hs : s.Sound) (number : Option Nat) (flags : Flags)
    (rest : List Char) : (s.openGroup number flags rest).Sound :=
  ⟨allCounted_nil, allCounted_nil,
    List.forall_mem_cons.2 ⟨⟨hs.pieces, hs.branches⟩, hs.frames⟩⟩

theorem Sound.openNumbered (hs : s.Sound) (rest : List Char) : (s.openNumbered rest).Sound := by
  have hopen := hs.openGroup (some (s.groups + 1)) s.flags rest
  exact ⟨hopen.pieces, hopen.branches, hopen.frames⟩

theorem leads_openNamed (hs : s.Sound) (cs : List Char) : Leads Sound (s.openNamed cs) := by
  unfold Reader.openNamed
  refine leads_bind (leads_any _) fun p _ => ?_
  dsimp only
  refine leads_ite (fun _ => leads_error _ _) fun _ => leads_ok ?_
  have hopen := hs.openNumbered p.2
  exact ⟨hopen.pieces, hopen.branches, hopen.frames⟩

theorem leads_openFlagged (hs : s.Sound) (cs : List Char) : Leads Sound (s.openFlagged cs) := by
  unfold Reader.openFlagged
  refine leads_ite (fun _ => leads_error _ _) fun _ => leads_bind (leads_any _) fun p _ => ?_
  dsimp only
  split
  · exact leads_ok (hs.openGroup none _ _)
  · refine leads_ite (fun _ => leads_error _ _) fun _ => leads_ok ?_
    have hpush := hs.push (p := .ofDirective) trivial p.2.2.tail
    exact ⟨hpush.pieces, hpush.branches, hpush.frames⟩

theorem leads_openParenthesis (hs : s.Sound) (cs : List Char) :
    Leads Sound (s.openParenthesis cs) := by
  unfold Reader.openParenthesis
  split
  · exact leads_error _ _
  · exact leads_error _ _
  · exact leads_error _ _
  · exact leads_error _ _
  · exact leads_openNamed hs _
  · exact leads_openNamed hs _
  · exact leads_openFlagged hs _
  · exact leads_ok (hs.openNumbered _)

theorem leads_closeGroup (hs : s.Sound) (rest : List Char) : Leads Sound (s.closeGroup rest) := by
  unfold Reader.closeGroup
  split
  · exact leads_error _ _
  · next frame frames hframes =>
    have hall := hs.frames
    rw [hframes] at hall
    obtain ⟨⟨hpieces, hbranches⟩, hframes⟩ := List.forall_mem_cons.1 hall
    exact leads_ok ⟨allCounted_cons.2 ⟨hs.whole, hpieces⟩, hbranches, hframes⟩

theorem leads_repeatPiece {ps : List Piece} (hps : AllCounted ps) {least : Nat}
    {most : Option Nat} (hmost : ∀ n, most = some n → least ≤ n) (greedy : Bool) :
    Leads AllCounted (repeatPiece least most greedy ps) := by
  cases ps with
  | nil => exact leads_error _ _
  | cons p ps =>
    obtain ⟨hp, hps⟩ := allCounted_cons.1 hps
    refine leads_ite (fun _ => leads_error _ _) fun _ => leads_ok ?_
    exact allCounted_cons.2 ⟨wellCounted_repeated hp hmost, hps⟩

theorem leads_quantify (hs : s.Sound) {least : Nat} {most : Option Nat}
    (hmost : ∀ n, most = some n → least ≤ n) (rest : List Char) :
    Leads Sound (s.quantify least most rest) :=
  leads_map (leads_repeatPiece hs.pieces hmost _) fun _ hps => ⟨hps, hs.branches, hs.frames⟩

/-- Without a bound there is nothing to compare. -/
theorem least_le_of_none (least n : Nat) (h : (none : Option Nat) = some n) : least ≤ n := nomatch h

theorem leads_quantifyCounted (hs : s.Sound) (cs : List Char) :
    Leads Sound (s.quantifyCounted cs) := by
  unfold Reader.quantifyCounted
  split
  · exact leads_error _ _
  · refine leads_bind (leads_any _) fun p _ => ?_
    dsimp only
    split
    · exact leads_quantify hs (fun n hn => Nat.le_of_eq (Option.some.inj hn)) _
    · split
      · exact leads_quantify hs (least_le_of_none _) _
      · exact leads_error _ _
      · refine leads_bind (leads_any _) fun q _ => ?_
        split
        · refine leads_ite (fun hle => ?_) fun _ => leads_error _ _
          refine leads_quantify hs (fun n hn => ?_) _
          exact Option.some.inj hn ▸ hle
        · exact leads_error _ _
    · exact leads_error _ _

/-- **A step keeps the invariant**, whatever sign it reads. -/
theorem leads_step (hs : s.Sound) (c : Char) (rest : List Char) : Leads Sound (s.step c rest) := by
  unfold Reader.step
  split
  · exact leads_openParenthesis hs rest
  · exact leads_closeGroup hs rest
  · refine leads_ok ⟨allCounted_nil, ?_, hs.frames⟩
    exact allCounted_cons.2 ⟨wellCounted_pieceSequence hs.pieces, hs.branches⟩
  · exact leads_map (leads_any _) fun p _ => hs.push (p := .ofClass _ _) trivial p.2
  · exact leads_quantify hs (fun n _ => Nat.zero_le n) rest
  · exact leads_quantify hs (least_le_of_none 0) rest
  · exact leads_quantify hs (least_le_of_none 1) rest
  · exact leads_quantifyCounted hs rest
  · exact leads_map (leads_any _) fun p _ => hs.push (wellCounted_escaped _ p.1) p.2
  · exact leads_map (leads_any _) fun r _ => hs.push (p := .ofClass r 0) trivial rest
  · exact leads_ok (hs.push (p := .ofLook _) trivial rest)
  · exact leads_ok (hs.push (p := .ofLook _) trivial rest)
  · exact leads_ok (hs.push (wellCounted_ofChar _ _) rest)

/-- **A run comes to a well counted piece.** -/
theorem leads_run (hs : s.Sound) (fuel : Nat) :
    Leads (fun p => p.regex.WellCounted) (run fuel s) := by
  induction fuel generalizing s with
  | zero => exact leads_ite (fun _ => leads_ok hs.whole) fun _ => leads_error _ _
  | succ fuel ih =>
    unfold run
    split
    · exact leads_ite (fun _ => leads_ok hs.whole) fun _ => leads_error _ _
    · next c rest _ =>
      exact leads_bind (leads_step hs c rest) fun t ht => ih ht

theorem sound_initial (ignoreCase : Bool) (pattern : List Char) :
    (initial ignoreCase pattern).Sound :=
  ⟨allCounted_nil, allCounted_nil, fun _ h => absurd h List.not_mem_nil⟩

end Reader

/-- **What is read is well counted.** -/
theorem leads_read (ignoreCase : Bool) (pattern : String) :
    Leads WellCounted (read ignoreCase pattern) := by
  have hrun := Reader.leads_run (Reader.sound_initial ignoreCase pattern.toList) pattern.length
  refine leads_bind hrun fun p hp => ?_
  refine leads_ite (fun _ => leads_error _ _) fun _ => ?_
  exact leads_ite (fun _ => leads_ok hp) fun _ => leads_error _ _

end Regex

/-- A compiled pattern keeps the expression that was read. -/
theorem KeyPattern.read_of_compile {pattern : String} {ignoreCase : Bool} {p : KeyPattern}
    (hp : compile pattern ignoreCase = .ok p) : Regex.read ignoreCase pattern = .ok p.regex := by
  unfold compile at hp
  split at hp
  · next regex hread =>
    obtain rfl := Except.ok.inj hp
    exact hread
  · cases hp

/-- **What a compiled pattern finds**: the keys in which some piece is matched by the expression
that was read. -/
theorem KeyPattern.search_iff_found {pattern : String} {ignoreCase : Bool} {p : KeyPattern}
    (hp : compile pattern ignoreCase = .ok p) (t : String) :
    p.search t = true ↔ Regex.Found p.regex t.toList :=
  Regex.search_iff_found (Regex.leads_read ignoreCase pattern _ (read_of_compile hp)) t

end VarStore
