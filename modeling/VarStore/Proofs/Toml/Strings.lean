import VarStore.Proofs.Text.Digits
import VarStore.Proofs.Toml.Blank
import VarStore.Toml.Quoted

/-!
# Reading strings in TOML

A string is read as the one that the grammar says the text is written for, and what stands behind it
is left (`readString_append`), unless that begins with a quote.  And nothing else is read: whatever
is taken for a string is written as the grammar has it (`exists_quoted_of_readString`).

Between three quotes there are two readers, one for each kind of quotes.  What they have in common is
a list of rows (`ReadsLines`), so that the first half is proved for both at once.

* `readBasic_body`, `readLiteral_body`, `ReadsLines.body`: what may be written is read.
* `exists_body_of_readBasic` and the lemmas behind it: what is read may be written so.
* `exists_quoted`: every string can be written.
-/

namespace VarStore
namespace Toml

variable {c : Char} {s w rest cs : List Char}

/-! ## Escapes -/

/-- The letters of the grammar are the letters that are read. -/
theorem mem_letters_iff {e : Char} : (e, c) ∈ letters ↔ letterEscape? e = some c := by
  constructor
  · intro h
    simp only [letters, List.mem_cons, Prod.mk.injEq, List.not_mem_nil, or_false] at h
    rcases h with ⟨rfl, rfl⟩ | ⟨rfl, rfl⟩ | ⟨rfl, rfl⟩ | ⟨rfl, rfl⟩ | ⟨rfl, rfl⟩ | ⟨rfl, rfl⟩ |
      ⟨rfl, rfl⟩ <;> rfl
  · rw [letterEscape?.eq_def]
    split <;> rintro ⟨⟩ <;> decide

theorem charOfHex?_eq_some_iff {ds : List Char} :
    charOfHex? ds = some c ↔ Text.ofHex? ds = some c.toNat := by
  simp only [charOfHex?, Option.bind_eq_some_iff, Text.charOfCode?_eq_some_iff, exists_eq_right]

/-- Where a string with an escape in front comes from. -/
theorem exists_of_prependEscape {o : Option Char} {r : Except Fault (List Char × List Char)}
    (h : prependEscape o r = .ok (s, rest)) :
    ∃ c s', o = some c ∧ s = c :: s' ∧ r = .ok (s', rest) := by
  cases o with
  | none => nomatch h
  | some c =>
    obtain ⟨s', hs, hr⟩ := prepend_eq_ok_iff.1 h
    exact ⟨c, s', rfl, hs, hr⟩

/-- The letters of escapes are none of the signs that mean something else behind a backslash. -/
theorem ne_of_mem_letters : ∀ p ∈ letters,
    p.1 ≠ 'u' ∧ p.1 ≠ 'U' ∧ p.1 ≠ '\n' ∧ p.1 ≠ '\r' ∧ ¬ Blank p.1 := by
  decide

/-! ## Strings of one line -/

theorem readBasic_self (h : Printable c) (hquote : c ≠ '"') (hslash : c ≠ '\\') :
    readBasic (c :: rest) = prepend c (readBasic rest) := by
  rw [readBasic, if_pos ⟨isText_iff.2 h, hslash⟩]
  -- none of the rows before the last one matches
  · exact hquote
  · exact fun _ _ _ _ _ heq => absurd heq hslash
  · exact fun _ _ _ _ _ _ _ _ _ heq => absurd heq hslash
  · exact fun _ _ heq => absurd heq hslash

theorem readBasic_letter {e : Char} (h : (e, c) ∈ letters) :
    readBasic ('\\' :: e :: rest) = prepend c (readBasic rest) := by
  obtain ⟨hu, hU, -⟩ := ne_of_mem_letters (e, c) h
  rw [readBasic, mem_letters_iff.1 h, prependEscape]
  · exact fun _ _ _ _ _ heq => absurd heq hu
  · exact fun _ _ _ _ _ _ _ _ _ heq => absurd heq hU

/-- **A character between double quotes is read, however it is written.** -/
theorem readBasic_append (h : Escaped c w) : readBasic (w ++ rest) = prepend c (readBasic rest) := by
  cases h with
  | self htext hquote hslash => exact readBasic_self htext hquote hslash
  | letter he => exact readBasic_letter he
  | four hcode =>
    exact congrArg (prependEscape · (readBasic rest)) (charOfHex?_eq_some_iff.2 hcode)
  | eight hcode =>
    exact congrArg (prependEscape · (readBasic rest)) (charOfHex?_eq_some_iff.2 hcode)

theorem readBasic_body (h : Body '"' Escaped s w) : readBasic (w ++ rest) = .ok (s, rest) := by
  induction h with
  | close => rfl
  | char hpiece _ ih =>
    rw [List.append_assoc, readBasic_append hpiece, ih]
    rfl

/-- What is read between double quotes is written so, row by row of the reader. -/
theorem exists_body_of_readBasic (h : readBasic cs = .ok (s, rest)) :
    ∃ w, Body '"' Escaped s w ∧ cs = w ++ rest := by
  fun_induction readBasic cs generalizing s with
  | case1 => nomatch h
  | case2 cs =>
    cases h
    exact ⟨_, .close, rfl⟩
  | case3 i j k l cs ih =>
    obtain ⟨c, s, hcode, rfl, hread⟩ := exists_of_prependEscape h
    obtain ⟨w, hw, rfl⟩ := ih hread
    exact ⟨_, .char (.four (charOfHex?_eq_some_iff.1 hcode)) hw, rfl⟩
  | case4 i j k l m n o p cs ih =>
    obtain ⟨c, s, hcode, rfl, hread⟩ := exists_of_prependEscape h
    obtain ⟨w, hw, rfl⟩ := ih hread
    exact ⟨_, .char (.eight (charOfHex?_eq_some_iff.1 hcode)) hw, rfl⟩
  | case5 e cs _ _ ih =>
    obtain ⟨c, s, hletter, rfl, hread⟩ := exists_of_prependEscape h
    obtain ⟨w, hw, rfl⟩ := ih hread
    exact ⟨_, .char (.letter (mem_letters_iff.2 hletter)) hw, rfl⟩
  | case6 c cs hquote _ _ _ htext ih =>
    obtain ⟨s, rfl, hread⟩ := prepend_eq_ok_iff.1 h
    obtain ⟨w, hw, rfl⟩ := ih hread
    exact ⟨_, .char (.self (isText_iff.1 htext.1) hquote htext.2) hw, rfl⟩
  | case7 => nomatch h

theorem readLiteral_append (h : Itself c w) :
    readLiteral (w ++ rest) = prepend c (readLiteral rest) := by
  cases h with
  | self htext hquote =>
    rw [List.singleton_append, readLiteral, if_pos (isText_iff.2 htext)]
    exact hquote

theorem readLiteral_body (h : Body '\'' Itself s w) : readLiteral (w ++ rest) = .ok (s, rest) := by
  induction h with
  | close => rfl
  | char hpiece _ ih =>
    rw [List.append_assoc, readLiteral_append hpiece, ih]
    rfl

theorem exists_body_of_readLiteral (h : readLiteral cs = .ok (s, rest)) :
    ∃ w, Body '\'' Itself s w ∧ cs = w ++ rest := by
  fun_induction readLiteral cs generalizing s with
  | case1 => nomatch h
  | case2 cs =>
    cases h
    exact ⟨_, .close, rfl⟩
  | case3 c cs hquote htext ih =>
    obtain ⟨s, rfl, hread⟩ := prepend_eq_ok_iff.1 h
    obtain ⟨w, hw, rfl⟩ := ih hread
    exact ⟨_, .char (.self (isText_iff.1 htext) hquote) hw, rfl⟩
  | case4 => nomatch h

/-! ## Strings of several lines are read -/

/-- Up to two quotes right before the closing ones belong to the string. -/
theorem closing_replicate {quote : Char} {n : Nat} (hn : n ≤ 2) (hrest : rest.head? ≠ some quote) :
    closing quote (List.replicate n quote ++ rest) = (List.replicate n quote, rest) := by
  have hfirst : ∀ c ∈ rest.head?, c ≠ quote := by
    rintro c hc rfl
    exact hrest hc
  match n, rest with
  | 0, [] => rfl
  | 0, [c] => simp [closing, hfirst c rfl]
  | 0, c :: d :: _ => simp [closing, hfirst c rfl]
  | 1, [] => simp [closing]
  | 1, c :: _ => simp [closing, hfirst c rfl]
  | 2, _ => simp [closing]

theorem exists_of_closing {quote : Char} (h : closing quote cs = (s, rest)) :
    ∃ n ≤ 2, s = List.replicate n quote ∧ cs = List.replicate n quote ++ rest := by
  rw [closing.eq_def] at h
  split at h
  · next c d cs =>
    split at h
    · next hboth =>
      obtain ⟨rfl, rfl⟩ := hboth
      cases h
      exact ⟨2, by decide, rfl, rfl⟩
    · split at h
      · next hone =>
        obtain rfl := hone
        cases h
        exact ⟨1, by decide, rfl, rfl⟩
      · cases h
        exact ⟨0, by decide, rfl, rfl⟩
  · next c =>
    split at h
    · next hone =>
      obtain rfl := hone
      cases h
      exact ⟨1, by decide, rfl, rfl⟩
    · cases h
      exact ⟨0, by decide, rfl, rfl⟩
  · cases h
    exact ⟨0, by decide, rfl, rfl⟩

theorem lineEndsHere_of_letter {e : Char} (h : (e, c) ∈ letters) :
    lineEndsHere (e :: rest) = false := by
  obtain ⟨-, -, hn, hr, hblank⟩ := ne_of_mem_letters (e, c) h
  rw [lineEndsHere, skipBlanks_cons hblank]
  split
  · next heq => exact absurd (List.cons.inj heq).1 hn
  · next heq => exact absurd (List.cons.inj heq).1 hr
  · rfl

/-- A character that begins no quote, no escape and no pair. -/
theorem readBasicLines_cons (skipping : Bool) (hquote : c ≠ '"') (hslash : c ≠ '\\')
    (hr : c ≠ '\r') :
    readBasicLines skipping (c :: rest) =
      if c = '\n' then
        if skipping then readBasicLines true rest else prepend '\n' (readBasicLines false rest)
      else if skipping ∧ isBlank c then readBasicLines true rest
      else if isText c ∧ c ≠ '\\' then prepend c (readBasicLines false rest)
      else .error .malformed := by
  rw [readBasicLines]
  -- none of the rows before the last one matches
  · exact fun _ heq => absurd heq hquote
  · exact fun _ _ _ _ _ heq => absurd heq hslash
  · exact fun _ _ _ _ _ _ _ _ _ heq => absurd heq hslash
  · exact fun _ heq => absurd heq hr
  · exact fun _ _ heq => absurd heq hslash

/-- A backslash is followed by the end of a line or by a letter. -/
theorem readBasicLines_backslash {e : Char} (hu : e ≠ 'u') (hU : e ≠ 'U') :
    readBasicLines false ('\\' :: e :: rest) =
      if lineEndsHere (e :: rest) then readBasicLines true (e :: rest)
      else prependEscape (letterEscape? e) (readBasicLines false rest) := by
  rw [readBasicLines]
  · exact fun _ _ _ _ _ heq => absurd heq hu
  · exact fun _ _ _ _ _ _ _ _ _ heq => absurd heq hU

/-- A quote behind which there are not two more is a character like others. -/
theorem readBasicLines_quote (h : ∀ cs, rest ≠ '"' :: '"' :: cs) :
    readBasicLines false ('"' :: rest) = prepend '"' (readBasicLines false rest) := by
  rw [readBasicLines, if_neg (by decide), if_neg (by simp), if_pos (by decide)]
  · exact fun cs _ heq => h cs heq
  all_goals simp

theorem readBasicLines_self (h : Printable c) (hquote : c ≠ '"') (hslash : c ≠ '\\') :
    readBasicLines false (c :: rest) = prepend c (readBasicLines false rest) := by
  rw [readBasicLines_cons false hquote hslash h.ne.2, if_neg h.ne.1, if_neg (by simp),
    if_pos ⟨isText_iff.2 h, hslash⟩]

theorem readBasicLines_letter {e : Char} (h : (e, c) ∈ letters) :
    readBasicLines false ('\\' :: e :: rest) = prepend c (readBasicLines false rest) := by
  obtain ⟨hu, hU, -⟩ := ne_of_mem_letters (e, c) h
  rw [readBasicLines_backslash hu hU, lineEndsHere_of_letter h, if_neg Bool.false_ne_true,
    mem_letters_iff.1 h, prependEscape]

theorem readBasicLines_append (h : Escaped c w) :
    readBasicLines false (w ++ rest) = prepend c (readBasicLines false rest) := by
  cases h with
  | self htext hquote hslash => exact readBasicLines_self htext hquote hslash
  | letter he => exact readBasicLines_letter he
  | four hcode =>
    exact congrArg (prependEscape · (readBasicLines false rest)) (charOfHex?_eq_some_iff.2 hcode)
  | eight hcode =>
    exact congrArg (prependEscape · (readBasicLines false rest)) (charOfHex?_eq_some_iff.2 hcode)

theorem readBasicLines_lineEnd {e : List Char} (h : LineEnd e) :
    readBasicLines false (e ++ rest) = prepend '\n' (readBasicLines false rest) := by
  cases h <;> rfl

/-- While a line is folded, blanks and ends of lines are passed over. -/
theorem readBasicLines_spaces {g : List Char} (h : Spaces g) :
    readBasicLines true (g ++ rest) = readBasicLines true rest := by
  induction h with
  | nil => rfl
  | @blank c g hblank _ ih =>
    have hstep : readBasicLines true (c :: (g ++ rest)) = readBasicLines true (g ++ rest) := by
      rcases hblank with rfl | rfl <;> rfl
    rw [List.cons_append, hstep, ih]
  | @lineEnd e g he _ ih =>
    have hstep : readBasicLines true (e ++ (g ++ rest)) = readBasicLines true (g ++ rest) := by
      cases he <;> rfl
    rw [List.append_assoc, hstep, ih]

/-- The next visible character ends the folding. -/
theorem readBasicLines_visible (h : Visible w) : readBasicLines true w = readBasicLines false w := by
  rw [readBasicLines.eq_def true, readBasicLines.eq_def false]
  split
  · rfl
  · rfl
  · rfl
  · rfl
  · exact absurd rfl (h '\r' rfl).2.2
  · rfl
  · next c rest _ _ _ _ _ =>
    obtain ⟨hblank, hn, -⟩ := h c rfl
    simp only [if_neg hn, isBlank_iff, hblank, and_false]

theorem readBasicLines_fold {g : List Char} (hg : Fold g) (h : Visible w) :
    readBasicLines false ('\\' :: (g ++ w)) = readBasicLines false w := by
  obtain @⟨b, e, g, hb, he, hspaces⟩ := hg
  have hall : Spaces (b ++ (e ++ g)) := by
    clear h
    induction b with
    | nil => exact (Spaces.lineEnd he hspaces : Spaces (e ++ g))
    | cons c b ih =>
      obtain ⟨hc, hb⟩ := List.forall_mem_cons.1 hb
      exact .blank hc (ih hb)
  have hends : lineEndsHere (b ++ (e ++ g) ++ w) = true := by
    rw [lineEndsHere, List.append_assoc, skipBlanks_append hb]
    cases he <;> rfl
  have hfirst : ∃ c cs, b ++ (e ++ g) ++ w = c :: cs ∧ c ≠ 'u' ∧ c ≠ 'U' := by
    cases b with
    | nil => cases he <;> exact ⟨_, _, rfl, by decide, by decide⟩
    | cons c b =>
      have hc := (List.forall_mem_cons.1 hb).1
      refine ⟨c, b ++ (e ++ g) ++ w, rfl, ?_, ?_⟩ <;> rintro rfl <;> exact absurd hc (by decide)
  obtain ⟨c, cs, hcs, hu, hU⟩ := hfirst
  rw [← readBasicLines_visible h, ← readBasicLines_spaces hall, hcs]
  rw [hcs] at hends
  rw [readBasicLines_backslash hu hU, hends, if_pos rfl]

theorem readLiteralLines_cons (h : Printable c ∨ c = '\n')
    (hquotes : ∀ cs, c = '\'' → rest ≠ '\'' :: '\'' :: cs) :
    readLiteralLines (c :: rest) = prepend c (readLiteralLines rest) := by
  rw [readLiteralLines, if_pos (h.imp_left isText_iff.2)]
  · exact hquotes
  · rintro cs rfl -
    exact absurd h (by decide)

theorem readLiteralLines_append (h : Itself c w) :
    readLiteralLines (w ++ rest) = prepend c (readLiteralLines rest) := by
  cases h with
  | self htext hquote => exact readLiteralLines_cons (.inl htext) fun _ heq => absurd heq hquote

theorem readLiteralLines_lineEnd {e : List Char} (h : LineEnd e) :
    readLiteralLines (e ++ rest) = prepend '\n' (readLiteralLines rest) := by
  cases h with
  | feed => exact readLiteralLines_cons (.inr rfl) fun _ heq => absurd heq (by decide)
  | pair => rfl

theorem readLiteralLines_quote (h : ∀ cs, rest ≠ '\'' :: '\'' :: cs) :
    readLiteralLines ('\'' :: rest) = prepend '\'' (readLiteralLines rest) :=
  readLiteralLines_cons (.inl (by decide)) fun cs _ => h cs

/-- A string between three quotes is written with two signs at least, since three quotes close it. -/
theorem LinesBody.exists_eq_cons {quote : Char} {Piece : Char → List Char → Prop}
    (h : LinesBody quote Piece s w) : ∃ c d v, w = c :: d :: v := by
  induction h with
  | close => exact ⟨quote, quote, _, rfl⟩
  | @char _ _ w _ _ _ ih =>
    obtain ⟨c, d, v, rfl⟩ := ih
    match w with
    | [] => exact ⟨c, d, v, rfl⟩
    | [x] => exact ⟨x, c, d :: v, rfl⟩
    | x :: y :: w => exact ⟨x, y, w ++ c :: d :: v, rfl⟩
  | lineEnd he _ ih =>
    obtain ⟨c, d, v, rfl⟩ := ih
    cases he
    · exact ⟨'\n', c, d :: v, rfl⟩
    · exact ⟨'\r', '\n', c :: d :: v, rfl⟩
  | quote _ _ ih =>
    obtain ⟨c, d, v, rfl⟩ := ih
    exact ⟨quote, c, d :: v, rfl⟩
  | @fold g _ _ _ _ _ _ ih =>
    obtain ⟨c, d, v, rfl⟩ := ih
    cases g with
    | nil => exact ⟨'\\', c, d :: v, rfl⟩
    | cons x g => exact ⟨'\\', x, g ++ c :: d :: v, rfl⟩

/-- A reader of a string between three quotes, row by row. -/
structure ReadsLines (quote : Char) (Piece : Char → List Char → Prop)
    (read : Reader (List Char)) : Prop where
  close (rest : List Char) : read (quote :: quote :: quote :: rest) = .ok (closing quote rest)
  piece {c : Char} {w rest : List Char} : Piece c w → read (w ++ rest) = prepend c (read rest)
  lineEnd {e rest : List Char} : LineEnd e → read (e ++ rest) = prepend '\n' (read rest)
  one {rest : List Char} : (∀ cs, rest ≠ quote :: quote :: cs) →
    read (quote :: rest) = prepend quote (read rest)
  fold {g w : List Char} : quote = '"' → Fold g → Visible w →
    read ('\\' :: (g ++ w)) = read w

theorem readsLines_basic : ReadsLines '"' Escaped (readBasicLines false) where
  close _ := rfl
  piece := readBasicLines_append
  lineEnd := readBasicLines_lineEnd
  one := readBasicLines_quote
  fold _ := readBasicLines_fold

theorem readsLines_literal : ReadsLines '\'' Itself readLiteralLines where
  close _ := rfl
  piece := readLiteralLines_append
  lineEnd := readLiteralLines_lineEnd
  one := readLiteralLines_quote
  fold h := absurd h (by decide)

/-- **A string between three quotes is read**, and what stands behind it is left. -/
theorem ReadsLines.body {quote : Char} {Piece : Char → List Char → Prop}
    {read : Reader (List Char)} (hread : ReadsLines quote Piece read)
    (h : LinesBody quote Piece s w) (hrest : rest.head? ≠ some quote) :
    read (w ++ rest) = .ok (s, rest) := by
  induction h with
  | @close n hn =>
    change read (quote :: quote :: quote :: (List.replicate n quote ++ rest)) = _
    rw [hread.close, closing_replicate hn hrest]
  | char hpiece _ ih =>
    rw [List.append_assoc, hread.piece hpiece, ih]
    rfl
  | lineEnd he _ ih =>
    rw [List.append_assoc, hread.lineEnd he, ih]
    rfl
  | @quote s v hquotes hbody ih =>
    have hv : ∀ cs, v ++ rest ≠ quote :: quote :: cs := by
      obtain ⟨c, d, v, rfl⟩ := hbody.exists_eq_cons
      intro cs heq
      obtain ⟨rfl, heq⟩ := List.cons.inj heq
      obtain ⟨rfl, -⟩ := List.cons.inj heq
      exact hquotes v rfl
    rw [List.cons_append, hread.one hv, ih]
    rfl
  | @fold g s v hquote hg hvisible hbody ih =>
    have hv : Visible (v ++ rest) := by
      obtain ⟨c, d, v, rfl⟩ := hbody.exists_eq_cons
      exact hvisible
    rw [List.cons_append, List.append_assoc, hread.fold hquote hg hv, ih]

/-! ## Strings of several lines that are read -/

/-- What is left out behind a backslash begins with the rest of a line if the line ends there. -/
theorem fold_of_spaces {g : List Char} (hg : Spaces g) (hw : Visible w)
    (h : lineEndsHere (g ++ w) = true) : Fold g := by
  induction hg with
  | nil =>
    rw [List.nil_append] at h
    cases w with
    | nil => nomatch h
    | cons c w =>
      obtain ⟨hblank, hn, hr⟩ := hw c rfl
      rw [lineEndsHere, skipBlanks_cons hblank] at h
      split at h
      · next heq => exact absurd (List.cons.inj heq).1 hn
      · next heq => exact absurd (List.cons.inj heq).1 hr
      · nomatch h
  | @blank c g hc _ ih =>
    have hskip : lineEndsHere (c :: g ++ w) = lineEndsHere (g ++ w) := by
      rw [lineEndsHere, lineEndsHere, List.cons_append, ← List.singleton_append,
        skipBlanks_append (List.forall_mem_singleton.2 hc)]
    obtain ⟨hb, he, hspaces⟩ := ih (hskip ▸ h)
    exact .intro (List.forall_mem_cons.2 ⟨hc, hb⟩) he hspaces
  | lineEnd he hspaces => exact .intro (b := []) nofun he hspaces

/-- What stands in front of a string between three double quotes that is read: nothing, or what a fold
leaves out. -/
def Folded (skipping : Bool) (s cs rest : List Char) : Prop :=
  ∃ g w, Spaces g ∧ LinesBody '"' Escaped s w ∧ cs = g ++ (w ++ rest) ∧
    if skipping then Visible w else g = []

/-- A visible character ends the folding. -/
theorem folded_of_visible (skipping : Bool) (hw : LinesBody '"' Escaped s w) (hvisible : Visible w) :
    Folded skipping s (w ++ rest) rest := by
  refine ⟨[], w, .nil, hw, rfl, ?_⟩
  cases skipping with
  | false => exact rfl
  | true => exact hvisible

theorem visible_cons (hblank : ¬ Blank c) (hn : c ≠ '\n') (hr : c ≠ '\r') : Visible (c :: w) := by
  rintro d hd
  obtain rfl := Option.some.inj hd
  exact ⟨hblank, hn, hr⟩

theorem visible_slash (w : List Char) : Visible ('\\' :: w) :=
  visible_cons (by decide) (by decide) (by decide)

/-- An escape goes in front of what is read behind it. -/
theorem Folded.escape (skipping : Bool) (h : Folded false s cs rest) (hw : Escaped c ('\\' :: w)) :
    Folded skipping (c :: s) ('\\' :: (w ++ cs)) rest := by
  obtain ⟨_, v, -, hv, rfl, rfl⟩ := h
  have hfolded : Folded skipping (c :: s) ('\\' :: (w ++ v) ++ rest) rest :=
    folded_of_visible skipping (.char hw hv) (visible_slash _)
  simpa using hfolded

/-- An end of line belongs to the string, or is folded too. -/
theorem Folded.lineEnd {e : List Char} (h : Folded false s cs rest) (he : LineEnd e) :
    Folded false ('\n' :: s) (e ++ cs) rest := by
  obtain ⟨_, v, -, hv, rfl, rfl⟩ := h
  exact ⟨[], e ++ v, .nil, .lineEnd he hv, by simp, rfl⟩

theorem Folded.skipLineEnd {e : List Char} (h : Folded true s cs rest) (he : LineEnd e) :
    Folded true s (e ++ cs) rest := by
  obtain ⟨g, v, hg, hv, rfl, hvisible⟩ := h
  exact ⟨e ++ g, v, .lineEnd he hg, hv, by simp, hvisible⟩

/-- A backslash at the end of a line begins a fold. -/
theorem Folded.fold (skipping : Bool) (h : Folded true s cs rest) (hends : lineEndsHere cs = true) :
    Folded skipping s ('\\' :: cs) rest := by
  obtain ⟨g, w, hg, hw, rfl, hvisible⟩ := h
  obtain ⟨c, d, v, rfl⟩ := hw.exists_eq_cons
  have hfold : Fold g := fold_of_spaces (w := c :: d :: v ++ rest) hg hvisible hends
  have hfolded : Folded skipping s ('\\' :: (g ++ c :: d :: v) ++ rest) rest :=
    folded_of_visible skipping (.fold rfl hfold hvisible hw) (visible_slash _)
  simpa using hfolded

/-- Any other character goes in front of what is read behind it, unless it is a blank to be folded. -/
theorem Folded.char {skipping : Bool} (h : Folded false s cs rest)
    (hquotes : c = '"' → ∀ v, cs ≠ '"' :: '"' :: v) (hn : c ≠ '\n')
    (hblank : ¬ (skipping = true ∧ Blank c)) (htext : Printable c) (hslash : c ≠ '\\') :
    Folded skipping (c :: s) (c :: cs) rest := by
  obtain ⟨_, w, -, hw, rfl, rfl⟩ := h
  have hbody : LinesBody '"' Escaped (c :: s) (c :: w) := by
    by_cases hquote : c = '"'
    · subst hquote
      refine .quote ?_ hw
      rintro v rfl
      exact hquotes rfl (v ++ rest) rfl
    · exact .char (.self htext hquote hslash) hw
  cases skipping with
  | false => exact ⟨[], c :: w, .nil, hbody, rfl, rfl⟩
  | true =>
    exact folded_of_visible true hbody
      (visible_cons (fun hc => hblank ⟨rfl, hc⟩) hn htext.ne.2)

/-- What is read between three double quotes is written so, row by row of the reader. -/
theorem folded_of_readBasicLines {skipping : Bool}
    (h : readBasicLines skipping cs = .ok (s, rest)) : Folded skipping s cs rest := by
  fun_induction readBasicLines skipping cs generalizing s with
  | case1 => nomatch h
  | case2 skipping cs =>
    obtain ⟨n, hn, rfl, rfl⟩ := exists_of_closing (Except.ok.inj h)
    exact folded_of_visible skipping (.close hn) (visible_cons (by decide) (by decide) (by decide))
  | case3 skipping i j k l cs ih =>
    obtain ⟨c, s, hcode, rfl, hread⟩ := exists_of_prependEscape h
    exact (ih hread).escape skipping (.four (charOfHex?_eq_some_iff.1 hcode))
  | case4 skipping i j k l m n o p cs ih =>
    obtain ⟨c, s, hcode, rfl, hread⟩ := exists_of_prependEscape h
    exact (ih hread).escape skipping (.eight (charOfHex?_eq_some_iff.1 hcode))
  | case5 cs ih => exact (ih h).skipLineEnd .pair
  | case6 skipping cs hskipping ih =>
    obtain ⟨s, rfl, hread⟩ := prepend_eq_ok_iff.1 h
    obtain rfl : skipping = false := Bool.eq_false_iff.2 hskipping
    exact (ih hread).lineEnd .pair
  | case7 skipping e cs _ _ hends ih => exact (ih h).fold skipping hends
  | case8 skipping e cs _ _ _ ih =>
    obtain ⟨c, s, hletter, rfl, hread⟩ := exists_of_prependEscape h
    exact (ih hread).escape skipping (.letter (mem_letters_iff.2 hletter))
  | case9 cs _ _ _ _ _ ih => exact (ih h).skipLineEnd .feed
  | case10 skipping cs hskipping _ _ _ _ _ ih =>
    obtain ⟨s, rfl, hread⟩ := prepend_eq_ok_iff.1 h
    obtain rfl : skipping = false := Bool.eq_false_iff.2 hskipping
    exact (ih hread).lineEnd .feed
  | case11 skipping c cs _ _ _ _ _ _ hblank ih =>
    obtain ⟨g, w, hg, hw, rfl, hvisible⟩ := ih h
    obtain ⟨rfl, hblank⟩ := hblank
    exact ⟨c :: g, w, .blank (isBlank_iff.1 hblank) hg, hw, rfl, hvisible⟩
  | case12 skipping c cs hquotes _ _ _ _ hn hblank htext ih =>
    obtain ⟨s, rfl, hread⟩ := prepend_eq_ok_iff.1 h
    refine (ih hread).char ?_ hn ?_ (isText_iff.1 htext.1) htext.2
    · exact fun hc v => hquotes v hc
    · exact fun hfolds => hblank ⟨hfolds.1, isBlank_iff.2 hfolds.2⟩
  | case13 => nomatch h

theorem exists_linesBody_of_readBasicLines (h : readBasicLines false cs = .ok (s, rest)) :
    ∃ w, LinesBody '"' Escaped s w ∧ cs = w ++ rest := by
  obtain ⟨_, w, -, hw, hcs, rfl⟩ := folded_of_readBasicLines h
  exact ⟨w, hw, hcs⟩

theorem exists_linesBody_of_readLiteralLines (h : readLiteralLines cs = .ok (s, rest)) :
    ∃ w, LinesBody '\'' Itself s w ∧ cs = w ++ rest := by
  fun_induction readLiteralLines cs generalizing s with
  | case1 => nomatch h
  | case2 cs =>
    obtain ⟨n, hn, rfl, rfl⟩ := exists_of_closing (Except.ok.inj h)
    exact ⟨_, .close hn, rfl⟩
  | case3 cs ih =>
    obtain ⟨s, rfl, hread⟩ := prepend_eq_ok_iff.1 h
    obtain ⟨w, hw, rfl⟩ := ih hread
    exact ⟨_, .lineEnd .pair hw, rfl⟩
  | case4 c cs hquotes _ htext ih =>
    obtain ⟨s, rfl, hread⟩ := prepend_eq_ok_iff.1 h
    obtain ⟨w, hw, rfl⟩ := ih hread
    by_cases hn : c = '\n'
    · subst hn
      exact ⟨_, .lineEnd .feed hw, rfl⟩
    · by_cases hquote : c = '\''
      · subst hquote
        refine ⟨_, .quote ?_ hw, rfl⟩
        rintro cs rfl
        exact hquotes (cs ++ rest) rfl rfl
      · exact ⟨_, .char (.self (isText_iff.1 (htext.resolve_right hn)) hquote) hw, rfl⟩
  | case5 => nomatch h

/-! ## Strings of any kind -/

/-- A piece does not begin with the quote that ends the string. -/
theorem head?_ne_of_escaped (h : Escaped c w) : (w ++ rest).head? ≠ some '"' := by
  cases h with
  | self _ hquote _ => exact fun h => hquote (Option.some.inj h)
  | letter _ => exact fun h => nomatch h
  | four _ => exact fun h => nomatch h
  | eight _ => exact fun h => nomatch h

theorem head?_ne_of_itself (h : Itself c w) : (w ++ rest).head? ≠ some '\'' := by
  cases h with
  | self _ hquote => exact fun h => hquote (Option.some.inj h)

/-- A string of one line does not look like the beginning of one of several lines. -/
theorem body_append_ne {quote : Char} {Piece : Char → List Char → Prop}
    (hpiece : ∀ {c : Char} {w rest : List Char}, Piece c w → (w ++ rest).head? ≠ some quote)
    (h : Body quote Piece s w) (hrest : rest.head? ≠ some quote) (cs : List Char) :
    w ++ rest ≠ quote :: quote :: cs := by
  intro heq
  cases h with
  | close =>
    have hcons : rest = quote :: cs := (List.cons.inj heq).2
    rw [hcons] at hrest
    exact hrest rfl
  | char hc hbody =>
    rw [List.append_assoc] at heq
    exact hpiece hc (congrArg List.head? heq)

/-- The end of line right behind the opening quotes is left out. -/
theorem skipLineEnd_append {c d : Char} {v u : List Char} (h : Below (c :: d :: v) u) :
    skipLineEnd (u ++ rest) = c :: d :: v ++ rest := by
  cases h with
  | next he => cases he <;> rfl
  | same hnot =>
    simp only [List.cons_append]
    rw [skipLineEnd]
    · rintro _ heq
      obtain ⟨rfl, -⟩ := List.cons.inj heq
      exact hnot ['\n'] (d :: v) .feed rfl
    · rintro _ heq
      obtain ⟨rfl, htail⟩ := List.cons.inj heq
      obtain ⟨rfl, -⟩ := List.cons.inj htail
      exact hnot ['\r', '\n'] v .pair rfl

theorem exists_below_of_skipLineEnd (h : skipLineEnd cs = w ++ rest) :
    ∃ v, Below w v ∧ cs = v ++ rest := by
  rw [skipLineEnd.eq_def] at h
  split at h
  · exact ⟨_, .next .feed, by rw [h]; rfl⟩
  · exact ⟨_, .next .pair, by rw [h]; rfl⟩
  · next hn hr =>
    refine ⟨w, .same ?_, h⟩
    rintro e v he rfl
    cases he
    · exact hn _ h
    · exact hr _ h

/-- **However a string is written, it is read**, and what stands behind it is left. -/
theorem readString_append (h : Quoted s w) (hdouble : rest.head? ≠ some '"')
    (hsingle : rest.head? ≠ some '\'') : readString (w ++ rest) = .ok (s, rest) := by
  cases h with
  | basic hbody =>
    rw [List.cons_append, readString, readBasic_body hbody]
    exact body_append_ne head?_ne_of_escaped hbody hdouble
  | literal hbody =>
    rw [List.cons_append, readString, readLiteral_body hbody]
    exact body_append_ne head?_ne_of_itself hbody hsingle
  | basicLines hbody hbelow =>
    have hread := readsLines_basic.body hbody hdouble
    obtain ⟨c, d, v, rfl⟩ := hbody.exists_eq_cons
    simp only [List.cons_append]
    rw [readString, skipLineEnd_append hbelow, hread]
  | literalLines hbody hbelow =>
    have hread := readsLines_literal.body hbody hsingle
    obtain ⟨c, d, v, rfl⟩ := hbody.exists_eq_cons
    simp only [List.cons_append]
    rw [readString, skipLineEnd_append hbelow, hread]

/-- **What is read as a string is written so.** -/
theorem exists_quoted_of_readString (h : readString cs = .ok (s, rest)) :
    ∃ w, Quoted s w ∧ cs = w ++ rest := by
  rw [readString.eq_def] at h
  split at h
  · obtain ⟨w, hw, hskip⟩ := exists_linesBody_of_readBasicLines h
    obtain ⟨v, hv, rfl⟩ := exists_below_of_skipLineEnd hskip
    exact ⟨_, .basicLines hw hv, rfl⟩
  · obtain ⟨w, hw, rfl⟩ := exists_body_of_readBasic h
    exact ⟨_, .basic hw, rfl⟩
  · obtain ⟨w, hw, hskip⟩ := exists_linesBody_of_readLiteralLines h
    obtain ⟨v, hv, rfl⟩ := exists_below_of_skipLineEnd hskip
    exact ⟨_, .literalLines hw hv, rfl⟩
  · obtain ⟨w, hw, rfl⟩ := exists_body_of_readLiteral h
    exact ⟨_, .literal hw, rfl⟩
  · nomatch h

/-- What is written for a string begins with a quote. -/
theorem exists_eq_cons_of_quoted (h : Quoted s w) :
    ∃ q v, w = q :: v ∧ (q = '"' ∨ q = '\'') := by
  cases h with
  | basic => exact ⟨_, _, rfl, .inl rfl⟩
  | literal => exact ⟨_, _, rfl, .inr rfl⟩
  | basicLines => exact ⟨_, _, rfl, .inl rfl⟩
  | literalLines => exact ⟨_, _, rfl, .inr rfl⟩

/-! ## Every string can be written -/

theorem exists_escaped (c : Char) : ∃ w, Escaped c w := by
  by_cases hc : c.toNat < 128
  · exact ⟨_, .four (Text.ofHex?_of_lt c.toNat hc)⟩
  · have hne : ∀ d : Char, d.toNat < 128 → c ≠ d := by
      rintro d hd rfl
      exact hc hd
    have hspace : ' ' ≤ c := by
      change ' '.toNat ≤ c.toNat
      exact Nat.le_trans (by decide) (Nat.le_of_not_lt hc)
    exact ⟨_, .self (.inr ⟨hspace, hne '\x7f' (by decide)⟩) (hne '"' (by decide))
      (hne '\\' (by decide))⟩

/-- **Every string can be written**, between double quotes on one line. -/
theorem exists_quoted (s : List Char) : ∃ w, Quoted s w := by
  have hbody : ∃ w, Body '"' Escaped s w := by
    induction s with
    | nil => exact ⟨_, .close⟩
    | cons c s ih =>
      obtain ⟨v, hv⟩ := ih
      obtain ⟨w, hw⟩ := exists_escaped c
      exact ⟨w ++ v, .char hw hv⟩
  obtain ⟨w, hw⟩ := hbody
  exact ⟨_, .basic hw⟩

end Toml
end VarStore
