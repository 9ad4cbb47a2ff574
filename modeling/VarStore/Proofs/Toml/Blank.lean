import VarStore.Proofs.Toml.Grammar
import VarStore.Toml.Blank
import Mathlib.Data.Bool.AllAny
import Mathlib.Data.List.TakeWhile

/-!
# Reading blanks, comments and the ends of lines in TOML

What is passed over between the things that are read is what the grammar has there.  Each of these
readers is described twice: what the grammar allows is passed over whatever stands behind it, and
whatever is passed over is allowed by the grammar.
-/

namespace VarStore

/-- Where a mapped result comes from. -/
theorem exists_of_map_eq_ok {ε α β : Type} {f : α → β} {x : Except ε α} {b : β}
    (h : x.map f = .ok b) : ∃ a, x = .ok a ∧ f a = b := by
  cases x with
  | error e => nomatch h
  | ok a => exact ⟨a, rfl, Except.ok.inj h⟩

/-- Where a result of two steps comes from. -/
theorem exists_of_bind_eq_ok {ε α β : Type} {f : α → Except ε β} {x : Except ε α} {b : β}
    (h : x.bind f = .ok b) : ∃ a, x = .ok a ∧ f a = .ok b := by
  cases x with
  | error e => nomatch h
  | ok a => exact ⟨a, rfl, h⟩

namespace Toml

variable {c : Char} {b e g r cs rest : List Char}

/-! ## Characters -/

/-- Where characters with one more in front come from. -/
theorem prepend_eq_ok_iff {s : List Char} {r : Except Fault (List Char × List Char)} :
    prepend c r = .ok (s, rest) ↔ ∃ s', s = c :: s' ∧ r = .ok (s', rest) := by
  cases r with
  | error fault => exact iff_of_false nofun fun ⟨_, _, h⟩ => nomatch h
  | ok p =>
    obtain ⟨s', rest'⟩ := p
    simp only [prepend, Except.map, Except.ok.injEq, Prod.mk.injEq]
    constructor
    · rintro ⟨rfl, rfl⟩
      exact ⟨s', rfl, rfl, rfl⟩
    · rintro ⟨_, rfl, rfl, rfl⟩
      exact ⟨rfl, rfl⟩

theorem isBlank_iff : isBlank c = true ↔ Blank c := by
  rw [isBlank, Bool.or_eq_true, decide_eq_true_eq, decide_eq_true_eq, Blank]

theorem isText_iff : isText c = true ↔ Printable c := by
  simp [isText, Printable]

/-- What text may hold is no end of line. -/
theorem Printable.ne (h : Printable c) : c ≠ '\n' ∧ c ≠ '\r' := by
  rw [← isText_iff] at h
  constructor <;> rintro rfl <;> exact absurd h (by decide)

theorem Blank.ne (h : Blank c) : c ≠ '\n' ∧ c ≠ '\r' ∧ c ≠ '#' := by
  rcases h with rfl | rfl <;> decide

/-! ## Blanks -/

theorem skipBlanks_append (h : Blanks b) : skipBlanks (b ++ rest) = skipBlanks rest :=
  List.dropWhile_append_of_pos fun c hc => isBlank_iff.2 (h c hc)

theorem skipBlanks_cons (h : ¬ Blank c) : skipBlanks (c :: rest) = c :: rest :=
  List.dropWhile_cons_of_neg (mt isBlank_iff.1 h)

theorem exists_blanks (cs : List Char) : ∃ b, Blanks b ∧ cs = b ++ skipBlanks cs := by
  refine ⟨cs.takeWhile isBlank, fun c hc => ?_, List.takeWhile_append_dropWhile.symm⟩
  exact isBlank_iff.1 (List.mem_takeWhile_imp hc)

/-! ## Comments and the ends of lines -/

/-- The signs that end a line belong to no comment. -/
theorem LineEnd.not_printable (h : LineEnd e) :
    ∀ c ∈ (e ++ rest).head?, ¬ Printable c ∧ ¬ Blank c ∧ c ≠ '#' := by
  intro c hc
  rw [← isText_iff, ← isBlank_iff]
  cases h <;> obtain rfl := Option.some.inj hc <;> decide

/-- What stands behind a comment is left. -/
theorem skipComment_append (h : Remark r)
    (hrest : ∀ c ∈ rest.head?, ¬ Printable c ∧ ¬ Blank c ∧ c ≠ '#') :
    skipComment (skipBlanks (r ++ rest)) = rest := by
  cases h with
  | none =>
    cases rest with
    | nil => rfl
    | cons c rest =>
      obtain ⟨-, hblank, hsign⟩ := hrest c rfl
      rw [List.nil_append, skipBlanks_cons hblank, skipComment]
      exact fun _ heq => hsign (List.cons.inj heq).1
  | @some text htext =>
    rw [List.cons_append, skipBlanks_cons (by decide), skipComment,
      List.dropWhile_append_of_pos fun c hc => isText_iff.2 (htext c hc)]
    cases rest with
    | nil => rfl
    | cons c rest => exact List.dropWhile_cons_of_neg (mt isText_iff.1 (hrest c rfl).1)

theorem exists_remark (cs : List Char) : ∃ r, Remark r ∧ cs = r ++ skipComment cs := by
  rw [skipComment.eq_def]
  split
  · next rest =>
    refine ⟨'#' :: rest.takeWhile isText, .some fun c hc => ?_, ?_⟩
    · exact isText_iff.1 (List.mem_takeWhile_imp hc)
    · rw [List.cons_append, List.takeWhile_append_dropWhile]
  · exact ⟨[], .none, rfl⟩

/-- **The rest of a line is passed over** if it holds nothing but blanks and a comment. -/
theorem finishLine_append (hb : Blanks b) (hr : Remark r) (he : LineEnd e) :
    finishLine (b ++ (r ++ (e ++ rest))) = .ok rest := by
  rw [finishLine, skipBlanks_append hb, skipComment_append hr he.not_printable]
  cases he <;> rfl

theorem finishLine_end (hb : Blanks b) (hr : Remark r) : finishLine (b ++ r) = .ok [] := by
  have hcomment : skipComment (skipBlanks (r ++ [])) = [] := skipComment_append hr nofun
  rw [List.append_nil] at hcomment
  rw [finishLine, skipBlanks_append hb, hcomment, endLine]

theorem eq_of_endLine (h : endLine cs = .ok rest) :
    (cs = [] ∧ rest = []) ∨ ∃ e, LineEnd e ∧ cs = e ++ rest := by
  rw [endLine.eq_def] at h
  split at h
  · exact .inl ⟨rfl, (Except.ok.inj h).symm⟩
  · obtain rfl := Except.ok.inj h
    exact .inr ⟨_, .feed, rfl⟩
  · obtain rfl := Except.ok.inj h
    exact .inr ⟨_, .pair, rfl⟩
  · nomatch h

/-- A line that can be finished holds nothing more. -/
theorem eq_of_finishLine (h : finishLine cs = .ok rest) : ∃ b r, Blanks b ∧ Remark r ∧
    ((cs = b ++ r ∧ rest = []) ∨ ∃ e, LineEnd e ∧ cs = b ++ (r ++ (e ++ rest))) := by
  obtain ⟨b, hb, hcs⟩ := exists_blanks cs
  obtain ⟨r, hr, hskip⟩ := exists_remark (skipBlanks cs)
  refine ⟨b, r, hb, hr, ?_⟩
  rcases eq_of_endLine h with ⟨hnil, rfl⟩ | ⟨e, he, heq⟩
  · rw [hnil, List.append_nil] at hskip
    exact .inl ⟨hcs.trans (by rw [hskip]), rfl⟩
  · exact .inr ⟨e, he, hcs.trans (by rw [hskip, heq])⟩

/-! ## Gaps -/

/-- In a comment everything is passed over up to the end of the line. -/
theorem skipGap_comment {text : List Char} (h : ∀ c ∈ text, Printable c) :
    skipGap true (text ++ rest) = skipGap true rest := by
  induction text with
  | nil => rfl
  | cons c text ih =>
    obtain ⟨hc, htext⟩ := List.forall_mem_cons.1 h
    rw [List.cons_append, skipGap, if_pos rfl, if_pos (isText_iff.2 hc), ih htext]
    · exact hc.ne.1
    · exact fun _ heq => absurd heq hc.ne.2

theorem skipGap_lineEnd (h : LineEnd e) (inComment : Bool) :
    skipGap inComment (e ++ rest) = skipGap false rest := by
  cases h with
  | feed => rw [List.singleton_append, skipGap]
  | pair =>
    simp only [List.cons_append, List.nil_append]
    rw [skipGap]

/-- **A gap is passed over.** -/
theorem skipGap_append (h : Gap g) : skipGap false (g ++ rest) = skipGap false rest := by
  induction h with
  | nil => rfl
  | @blank c g hc _ ih =>
    rw [List.cons_append, skipGap, if_neg Bool.false_ne_true, if_pos (isBlank_iff.2 hc), ih]
    · exact hc.ne.1
    · exact fun _ heq => absurd heq hc.ne.2.1
  | lineEnd he _ ih => rw [List.append_assoc, skipGap_lineEnd he, ih]
  | @comment text e g htext he _ ih =>
    rw [List.cons_append, skipGap, if_neg Bool.false_ne_true, if_neg (by decide), if_pos rfl,
      List.append_assoc, skipGap_comment htext, List.append_assoc, skipGap_lineEnd he, ih]
    · decide
    · exact fun _ heq => absurd heq (by decide)

/-- The text does not begin with anything that may stand in a gap. -/
def EndsGap (cs : List Char) : Prop :=
  ∀ c ∈ cs.head?, ¬ Blank c ∧ c ≠ '\n' ∧ c ≠ '\r' ∧ c ≠ '#'

/-- Behind the gap the text is left. -/
theorem skipGap_append_of_endsGap (hg : Gap g) (h : EndsGap rest) :
    skipGap false (g ++ rest) = .ok rest := by
  rw [skipGap_append hg]
  cases rest with
  | nil => rfl
  | cons c rest =>
    obtain ⟨hblank, hn, hr, hsign⟩ := h c rfl
    rw [skipGap, if_neg Bool.false_ne_true, if_neg (mt isBlank_iff.1 hblank), if_neg hsign]
    · exact hn
    · exact fun _ heq => absurd heq hr

/-- A comment may be longer. -/
theorem Gap.comment_cons (hc : Printable c) (h : Gap ('#' :: g)) : Gap ('#' :: c :: g) := by
  generalize hw : '#' :: g = w at h
  cases h with
  | nil => nomatch hw
  | blank hblank _ =>
    obtain ⟨rfl, -⟩ := List.cons.inj hw
    exact absurd rfl hblank.ne.2.2
  | lineEnd he _ => cases he <;> nomatch hw
  | @comment u e g hu he hg =>
    obtain ⟨-, rfl⟩ := List.cons.inj hw
    exact .comment (u := c :: u) (List.forall_mem_cons.2 ⟨hc, hu⟩) he hg

/-- **What is passed over is a gap**, or the rest of one if a comment is open. -/
theorem exists_gap_of_skipGap {inComment : Bool} (h : skipGap inComment cs = .ok rest) :
    ∃ g, Gap (if inComment then '#' :: g else g) ∧ cs = g ++ rest := by
  have hlineEnd : ∀ {e g : List Char}, LineEnd e → Gap g → ∀ inComment : Bool,
      Gap (if inComment then '#' :: (e ++ g) else e ++ g) := by
    intro e g he hg inComment
    cases inComment with
    | false => exact .lineEnd he hg
    | true => exact .comment (u := []) nofun he hg
  fun_induction skipGap inComment cs with
  | case1 => nomatch h
  | case2 inComment hopen =>
    obtain rfl := Except.ok.inj h
    exact ⟨[], by simpa [hopen] using Gap.nil, rfl⟩
  | case3 inComment cs ih =>
    obtain ⟨g, hg, rfl⟩ := ih h
    exact ⟨'\n' :: g, hlineEnd .feed hg inComment, rfl⟩
  | case4 inComment cs ih =>
    obtain ⟨g, hg, rfl⟩ := ih h
    exact ⟨'\r' :: '\n' :: g, hlineEnd .pair hg inComment, rfl⟩
  | case5 c cs _ _ htext ih =>
    obtain ⟨g, hg, rfl⟩ := ih h
    exact ⟨c :: g, Gap.comment_cons (isText_iff.1 htext) hg, rfl⟩
  | case6 => nomatch h
  | case7 inComment c cs _ _ hopen hblank ih =>
    obtain ⟨g, hg, rfl⟩ := ih h
    exact ⟨c :: g, by simpa [hopen] using Gap.blank (isBlank_iff.1 hblank) hg, rfl⟩
  | case8 inComment cs hopen _ _ _ ih =>
    obtain ⟨g, hg, rfl⟩ := ih h
    exact ⟨'#' :: g, by simpa [hopen] using hg, rfl⟩
  | case9 inComment c cs _ _ hopen =>
    obtain rfl := Except.ok.inj h
    exact ⟨[], by simpa [hopen] using Gap.nil, rfl⟩

/-- **What is passed over is a gap.** -/
theorem exists_gap (h : skipGap false cs = .ok rest) : ∃ g, Gap g ∧ cs = g ++ rest :=
  exists_gap_of_skipGap h

end Toml
end VarStore
