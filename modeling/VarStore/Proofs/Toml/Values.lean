import VarStore.Proofs.Toml.Dates
import VarStore.Proofs.Toml.Keys
import VarStore.Proofs.Toml.Tables

/-!
# Reading values in TOML

Every value is read as the one that it is written for, and nothing else is read as a value
(`exact_readValue`).  A value that has others within it is read by a reader that is given one for
these, and what is needed of that one is what is shown of the whole (`Exact`): so the proof goes up one
level of nesting at a time.

What may stand behind a value is always known: within an array a gap and then a comma or the closing
bracket, within braces blanks and then a comma or the closing brace.

* `readPlain_append`, `exists_plain_of_readPlain`: values with nothing in them.
* `Exact`: what a reader of values has to do.
* `Exact.readElements_append`, `Exact.readEntries_append`, and their converses: arrays and tables in
  braces, by induction on how they are written and on the fuel.
* `exists_written_natural`, `exists_written_strings`: some values that can be written.
-/

namespace VarStore
namespace Toml

variable {c : Char} {a b cs ds es g w rest tail : List Char} {n : Nat} {k : Key} {v : Value}
variable {vs : List Value} {ps : List (Key × Value)}

/-! ## Values without parts -/

theorem Numeral.exists_eq_cons {n : Int} (h : Numeral n w) :
    ∃ c u, w = c :: u ∧ (c ∈ ['+', '-'] ∨ Digit 10 c) := by
  cases h with
  | decimal hs hw =>
    obtain ⟨c, u, rfl, hc, -⟩ := hw.exists_eq_cons
    cases hs
    · exact ⟨c, u, rfl, .inr hc⟩
    · exact ⟨_, _, rfl, .inl (by decide)⟩
    · exact ⟨_, _, rfl, .inl (by decide)⟩
  | based => exact ⟨_, _, rfl, .inr (by decide)⟩

theorem Fractional.exists_eq_cons (h : Fractional w) :
    ∃ c u, w = c :: u ∧ (c ∈ ['+', '-', 'i', 'n'] ∨ Digit 10 c) := by
  cases h with
  | infinity hs => cases hs <;> exact ⟨_, _, rfl, .inl (by decide)⟩
  | undefined hs => cases hs <;> exact ⟨_, _, rfl, .inl (by decide)⟩
  | number hs hw =>
    obtain ⟨c, u, rfl, hc, -⟩ := hw.exists_eq_cons
    cases hs
    · exact ⟨c, _, rfl, .inr hc⟩
    · exact ⟨_, _, rfl, .inl (by decide)⟩
    · exact ⟨_, _, rfl, .inl (by decide)⟩

theorem Date.exists_eq_cons (h : Date w) : ∃ c u, w = c :: u ∧ Digit 10 c := by
  obtain @⟨y, m, d, _, _, _, hy, hdigits, -⟩ := h
  match y, hy with
  | c :: y, _ => exact ⟨c, _, rfl, hdigits c List.mem_cons_self⟩

theorem Time.exists_eq_cons (h : Time w) : ∃ c u, w = c :: u ∧ Digit 10 c := by
  obtain ⟨hh, -, -, -, -, -, -⟩ := h
  obtain ⟨a, b, rfl, ha, -, -⟩ := hh.exists_eq_cons
  exact ⟨a, _, rfl, ha⟩

theorem Moment.exists_eq_cons (h : Moment w) : ∃ c u, w = c :: u ∧ Digit 10 c := by
  cases h with
  | date hd => exact hd.exists_eq_cons
  | time ht => exact ht.exists_eq_cons
  | both hd =>
    obtain ⟨c, u, rfl, hc⟩ := hd.exists_eq_cons
    exact ⟨c, _, rfl, hc⟩

/-- Signs that values without parts begin with, apart from digits. -/
def openers : List Char := ['t', 'f', '"', '\'', '+', '-', 'i', 'n']

theorem Plain.exists_eq_cons (h : Plain v w) :
    ∃ c u, w = c :: u ∧ (c ∈ openers ∨ Digit 10 c) := by
  have hmem : ∀ {c : Char} {l : List Char}, (∀ x ∈ l, x ∈ openers) → (c ∈ l ∨ Digit 10 c) →
      c ∈ openers ∨ Digit 10 c := fun hl => .imp_left (hl _)
  cases h with
  | yes => exact ⟨'t', ['r', 'u', 'e'], rfl, .inl (by decide)⟩
  | no => exact ⟨'f', ['a', 'l', 's', 'e'], rfl, .inl (by decide)⟩
  | integer h =>
    obtain ⟨c, u, rfl, hc⟩ := h.exists_eq_cons
    exact ⟨c, u, rfl, hmem (List.all_iff_forall_prop.1 (by decide)) hc⟩
  | float h =>
    obtain ⟨c, u, rfl, hc⟩ := h.exists_eq_cons
    exact ⟨c, u, rfl, hmem (List.all_iff_forall_prop.1 (by decide)) hc⟩
  | moment h =>
    obtain ⟨c, u, rfl, hc⟩ := h.exists_eq_cons
    exact ⟨c, u, rfl, .inr hc⟩
  | string h =>
    obtain ⟨q, u, rfl, rfl | rfl⟩ := exists_eq_cons_of_quoted h
    · exact ⟨_, u, rfl, .inl (by decide)⟩
    · exact ⟨_, u, rfl, .inl (by decide)⟩

/-- What is no word and no string is a number, a date or a time. -/
theorem readPlain_scalar (h : ∃ c u, w = c :: u ∧ (c ∈ ['+', '-', 'i', 'n'] ∨ Digit 10 c)) :
    readPlain (w ++ rest) = readScalar (w ++ rest) := by
  obtain ⟨c, u, rfl, hc⟩ := h
  have hne : ∀ x ∈ ['t', 'f', '"', '\''], c ≠ x := by
    rintro x hx rfl
    have hnot : ∀ x ∈ ['t', 'f', '"', '\''],
        ¬ (x ∈ ['+', '-', 'i', 'n'] ∨ Digit 10 x) := List.all_iff_forall_prop.1 (by decide)
    exact hnot c hx hc
  have hquote : ¬ (c = '"' ∨ c = '\'') :=
    not_or.2 ⟨hne '"' (by decide), hne '\'' (by decide)⟩
  rw [List.cons_append, readPlain, if_neg hquote]
  · exact fun _ heq => absurd heq (hne 't' (by decide))
  · exact fun _ heq => absurd heq (hne 'f' (by decide))

/-- **A value without parts is read**, and what stands behind it is left. -/
theorem readPlain_append (h : Plain v w) (hrest : Follows rest) :
    readPlain (w ++ rest) = .ok (v, rest) := by
  cases h with
  | yes => rfl
  | no => rfl
  | integer h hleast hmost =>
    obtain ⟨c, u, hw, hc⟩ := h.exists_eq_cons
    have hsign : c ∈ ['+', '-'] → c ∈ ['+', '-', 'i', 'n'] := fun hc => List.mem_append_left _ hc
    rw [readPlain_scalar ⟨c, u, hw, hc.imp_left hsign⟩, readScalar_numeral h hleast hmost hrest]
  | float h => rw [readPlain_scalar h.exists_eq_cons, readScalar_fractional h hrest]
  | moment h =>
    obtain ⟨c, u, hw, hc⟩ := h.exists_eq_cons
    rw [readPlain_scalar ⟨c, u, hw, .inr hc⟩, readScalar_moment h hrest]
  | @string s w h =>
    have hread : readString (w ++ rest) = .ok (s.toList, rest) :=
      readString_append h (fun hq => hrest.not_sign hq (by decide))
        fun hq => hrest.not_sign hq (by decide)
    obtain ⟨q, u, rfl, hq⟩ := exists_eq_cons_of_quoted h
    rw [List.cons_append] at hread
    rw [List.cons_append, readPlain, if_pos hq, hread]
    · change Except.ok (Value.string (String.ofList s.toList), rest) = _
      rw [String.ofList_toList]
    · rintro _ rfl
      exact absurd hq (by decide)
    · rintro _ rfl
      exact absurd hq (by decide)

/-- What is read as a value without parts is written so. -/
theorem exists_plain_of_readPlain (h : readPlain cs = .ok (v, rest)) :
    ∃ w, Plain v w ∧ cs = w ++ rest := by
  rw [readPlain.eq_def] at h
  split at h
  · obtain ⟨rfl, rfl⟩ := Prod.mk.inj (Except.ok.inj h)
    exact ⟨_, .yes, rfl⟩
  · obtain ⟨rfl, rfl⟩ := Prod.mk.inj (Except.ok.inj h)
    exact ⟨_, .no, rfl⟩
  · split at h
    · obtain ⟨⟨s, tail⟩, hread, heq⟩ := exists_of_map_eq_ok h
      obtain ⟨rfl, rfl⟩ := Prod.mk.inj heq
      obtain ⟨w, hw, hcs⟩ := exists_quoted_of_readString hread
      exact ⟨w, .string (by rwa [String.toList_ofList]), hcs⟩
    · exact exists_plain_of_readScalar h
  · nomatch h

theorem Plain.orderly (h : Plain v w) : v.Orderly := by
  cases h <;> trivial

/-! ## What a reader of values has to do -/

/-- The reader reads what values may be written as, and nothing else.  None of these texts begins with
what may stand in front of a value, or ends an array. -/
structure Exact (W : Value → List Char → Prop) (value : Reader Value) : Prop where
  append {v : Value} {w rest : List Char} :
    W v w → Follows rest → value (w ++ rest) = .ok (v, rest)
  exists_of {v : Value} {cs rest : List Char} :
    value cs = .ok (v, rest) → ∃ w, W v w ∧ cs = w ++ rest
  head {v : Value} {w : List Char} :
    W v w → ∃ c u, w = c :: u ∧ c ∉ [' ', '\t', '\n', '\r', '#', ']']
  orderly {v : Value} {w : List Char} : W v w → v.Orderly

theorem endsGap_cons (hc : c ∉ [' ', '\t', '\n', '\r', '#', ']']) : EndsGap (c :: rest) := by
  rintro d hd
  obtain rfl := Option.some.inj hd
  simp only [List.mem_cons, List.not_mem_nil, or_false, not_or] at hc
  exact ⟨not_or.2 ⟨hc.1, hc.2.1⟩, hc.2.2.1, hc.2.2.2.1, hc.2.2.2.2.1⟩

theorem endsGap_of_mem (hc : c ∈ [',', ']']) : EndsGap (c :: rest) := by
  rintro d hd
  obtain rfl := Option.some.inj hd
  simp only [List.mem_cons, List.not_mem_nil, or_false] at hc
  rcases hc with rfl | rfl <;> decide

/-- A gap may stand behind a value, if what follows it may. -/
theorem follows_gap (h : Gap g) (hc : c ∈ [',', ']']) : Follows (g ++ c :: rest) := by
  induction h with
  | nil =>
    have hends : ∀ c ∈ [',', ']'], c ∈ [',', ']', '\x7d', '#', '\n', '\r'] :=
      List.all_iff_forall_prop.1 (by decide)
    exact follows_cons (hends c hc)
  | @blank d g hblank _ ih =>
    have hb : Blanks [d] := List.forall_mem_singleton.2 hblank
    rw [List.cons_append, ← List.singleton_append]
    exact follows_append hb ih
  | lineEnd he _ => cases he <;> exact follows_cons (by decide)
  | comment => exact follows_cons (by decide)

section Rows

variable {value : Reader Value}

theorem readElements_close (h : skipGap false cs = .ok (']' :: rest)) :
    readElements value (n + 1) cs = .ok ([], rest) := by
  simp only [readElements, h, bind, Except.bind]
  rfl

/-- Reading the last element. -/
theorem readElements_last (h : skipGap false cs = .ok (c :: w)) (hc : c ≠ ']')
    (hv : value (c :: w) = .ok (v, tail)) (htail : skipGap false tail = .ok (']' :: rest)) :
    readElements value (n + 1) cs = .ok ([v], rest) := by
  simp only [readElements, h, bind, Except.bind]
  split
  · next heq => exact absurd (List.cons.inj heq).1 hc
  · simp only [hv, htail]
    rfl

/-- Reading an element that a comma follows. -/
theorem readElements_comma (h : skipGap false cs = .ok (c :: w)) (hc : c ≠ ']')
    (hv : value (c :: w) = .ok (v, tail)) (htail : skipGap false tail = .ok (',' :: rest)) :
    readElements value (n + 1) cs =
      (readElements value n rest).map fun p => (v :: p.1, p.2) := by
  simp only [readElements, h, bind, Except.bind]
  split
  · next heq => exact absurd (List.cons.inj heq).1 hc
  · simp only [hv, htail]

end Rows

section Nesting

variable {W : Value → List Char → Prop} {value : Reader Value} (hW : Exact W value)

include hW

/-! ## Entries -/

/-- **A key and its value are read**, and what stands behind them is left. -/
theorem Exact.readEntry_append (h : EntryWritten W k v w) (ha : Blanks a) (hrest : Follows rest) :
    readEntry value (a ++ (w ++ rest)) = .ok ((k, v), rest) := by
  obtain @⟨x, b, u, hk, hb, hv⟩ := h
  have hends : EndsKey ('=' :: (b ++ (u ++ rest))) := by
    rintro c hc
    exact .inl (Option.some.inj hc).symm
  have hskip : skipBlanks (b ++ (u ++ rest)) = u ++ rest := by
    obtain ⟨c, u, rfl, hc⟩ := hW.head hv
    have hends : EndsGap (c :: (u ++ rest)) := endsGap_cons hc
    rw [skipBlanks_append hb]
    exact skipBlanks_cons (hends c rfl).1
  simp only [List.append_assoc, List.cons_append]
  simp only [readEntry, readKey_append hk ha hends, bind, Except.bind, expect_cons, hskip,
    hW.append hv hrest]
  rfl

theorem Exact.exists_entry (h : readEntry value cs = .ok ((k, v), rest)) :
    ∃ a w, Blanks a ∧ EntryWritten W k v w ∧ cs = a ++ (w ++ rest) := by
  obtain ⟨⟨k', cs₁⟩, hkey, h₁⟩ := exists_of_bind_eq_ok h
  obtain ⟨cs₂, hequals, h₂⟩ := exists_of_bind_eq_ok h₁
  obtain ⟨⟨v', cs₃⟩, hvalue, h₃⟩ := exists_of_bind_eq_ok h₂
  obtain ⟨a, x, ha, hx, rfl⟩ := exists_key_of_readKey hkey
  obtain rfl := expect_eq_ok_iff.1 hequals
  obtain ⟨b, hb, hcs₂⟩ := exists_blanks cs₂
  obtain ⟨u, hu, hskip⟩ := hW.exists_of hvalue
  obtain ⟨heq, rfl⟩ := Prod.mk.inj (Except.ok.inj h₃)
  obtain ⟨rfl, rfl⟩ := Prod.mk.inj heq
  refine ⟨a, _, ha, .intro hx hb hu, ?_⟩
  rw [hcs₂, hskip]
  simp only [List.append_assoc, List.cons_append]

/-! ## Arrays -/

theorem Exact.skipGap_eq (hg : Gap g) (hv : W v w) :
    skipGap false (g ++ (w ++ rest)) = .ok (w ++ rest) := by
  obtain ⟨c, u, rfl, hc⟩ := hW.head hv
  exact skipGap_append_of_endsGap hg (endsGap_cons hc)

/-- **The elements of an array are read**, by induction on how they are written. -/
theorem Exact.readElements_append (h : Elements W vs w) (hn : w.length < n) :
    readElements value n (w ++ rest) = .ok (vs, rest) := by
  obtain ⟨n, rfl⟩ := Nat.exists_eq_succ_of_ne_zero (Nat.ne_of_gt (Nat.zero_lt_of_lt hn))
  induction h generalizing n with
  | @close g hg =>
    refine readElements_close ?_
    rw [List.append_assoc]
    exact skipGap_append_of_endsGap hg (endsGap_of_mem (by decide))
  | @last v g h w hg hv hh =>
    have hskip : skipGap false (g ++ (w ++ (h ++ ']' :: rest))) = .ok (w ++ (h ++ ']' :: rest)) :=
      hW.skipGap_eq hg hv
    have hread : value (w ++ (h ++ ']' :: rest)) = .ok (v, h ++ ']' :: rest) :=
      hW.append hv (follows_gap hh (by decide))
    have htail : skipGap false (h ++ ']' :: rest) = .ok (']' :: rest) :=
      skipGap_append_of_endsGap hh (endsGap_of_mem (by decide))
    obtain ⟨c, u, rfl, hc⟩ := hW.head hv
    simp only [List.append_assoc, List.singleton_append]
    refine readElements_last hskip ?_ hread htail
    rintro rfl
    exact hc (by decide)
  | @more v vs g h w u hg hv hh _ ih =>
    have hskip : skipGap false (g ++ (w ++ (h ++ ',' :: (u ++ rest)))) =
        .ok (w ++ (h ++ ',' :: (u ++ rest))) := hW.skipGap_eq hg hv
    have hread : value (w ++ (h ++ ',' :: (u ++ rest))) = .ok (v, h ++ ',' :: (u ++ rest)) :=
      hW.append hv (follows_gap hh (by decide))
    have htail : skipGap false (h ++ ',' :: (u ++ rest)) = .ok (',' :: (u ++ rest)) :=
      skipGap_append_of_endsGap hh (endsGap_of_mem (by decide))
    have hroom : u.length < n := by
      simp only [List.length_append, List.length_cons] at hn
      omega
    obtain ⟨n, rfl⟩ := Nat.exists_eq_succ_of_ne_zero (Nat.ne_of_gt (Nat.zero_lt_of_lt hroom))
    obtain ⟨c, x, rfl, hc⟩ := hW.head hv
    have hclose : c ≠ ']' := by
      rintro rfl
      exact hc (by decide)
    simp only [List.append_assoc, List.cons_append]
    refine (readElements_comma hskip hclose hread htail).trans ?_
    rw [ih n hroom]
    rfl

/-- What is read as the elements of an array is written so. -/
theorem Exact.exists_elements (h : readElements value n cs = .ok (vs, rest)) :
    ∃ w, Elements W vs w ∧ cs = w ++ rest := by
  induction n generalizing cs vs with
  | zero => nomatch h
  | succ n ih =>
    rw [readElements] at h
    obtain ⟨cs₁, hgap, h₁⟩ := exists_of_bind_eq_ok h
    obtain ⟨g, hg, rfl⟩ := exists_gap hgap
    split at h₁
    · obtain ⟨rfl, rfl⟩ := Prod.mk.inj (Except.ok.inj h₁)
      exact ⟨_, .close hg, by simp⟩
    · obtain ⟨⟨v, cs₂⟩, hvalue, h₂⟩ := exists_of_bind_eq_ok h₁
      obtain ⟨cs₃, hgap', h₃⟩ := exists_of_bind_eq_ok h₂
      obtain ⟨w, hw, rfl⟩ := hW.exists_of hvalue
      obtain ⟨g', hg', rfl⟩ := exists_gap hgap'
      split at h₃
      · obtain ⟨⟨vs, tail⟩, hread, heq⟩ := exists_of_map_eq_ok h₃
        obtain ⟨rfl, rfl⟩ := Prod.mk.inj heq
        obtain ⟨u, hu, rfl⟩ := ih hread
        exact ⟨_, .more hg hw hg' hu, by simp⟩
      · obtain ⟨rfl, rfl⟩ := Prod.mk.inj (Except.ok.inj h₃)
        exact ⟨_, .last hg hw hg', by simp⟩
      · nomatch h₃

/-! ## Tables in braces -/

theorem Exact.entries_orderly (h : Entries W ps w) : ∀ p ∈ ps, p.2.Orderly := by
  have hentry : ∀ {k : Key} {v : Value} {w : List Char}, EntryWritten W k v w → v.Orderly := by
    rintro k v w ⟨-, -, hv⟩
    exact hW.orderly hv
  induction h with
  | last _ h _ => exact List.forall_mem_singleton.2 (hentry h)
  | more _ h _ _ ih => exact List.forall_mem_cons.2 ⟨hentry h, ih⟩

/-- **The entries of a table in braces are read**, by induction on how they are written. -/
theorem Exact.readEntries_append (h : Entries W ps w) (hn : w.length < n) :
    readEntries value n (w ++ rest) = .ok (ps, rest) := by
  obtain ⟨n, rfl⟩ := Nat.exists_eq_succ_of_ne_zero (Nat.ne_of_gt (Nat.zero_lt_of_lt hn))
  induction h generalizing n with
  | @last k v a w b ha h hb =>
    have hread : readEntry value (a ++ (w ++ (b ++ '\x7d' :: rest))) =
        .ok ((k, v), b ++ '\x7d' :: rest) :=
      hW.readEntry_append h ha (follows_append hb (follows_cons (by decide)))
    have hskip : skipBlanks (b ++ '\x7d' :: rest) = '\x7d' :: rest := by
      rw [skipBlanks_append hb, skipBlanks_cons (by decide)]
    simp only [List.append_assoc, List.singleton_append]
    simp only [readEntries, hread, bind, Except.bind, hskip]
    rfl
  | @more k v ps a w b u ha h hb _ ih =>
    have hread : readEntry value (a ++ (w ++ (b ++ ',' :: (u ++ rest)))) =
        .ok ((k, v), b ++ ',' :: (u ++ rest)) :=
      hW.readEntry_append h ha (follows_append hb (follows_cons (by decide)))
    have hskip : skipBlanks (b ++ ',' :: (u ++ rest)) = ',' :: (u ++ rest) := by
      rw [skipBlanks_append hb, skipBlanks_cons (by decide)]
    have hroom : u.length < n := by
      simp only [List.length_append, List.length_cons] at hn
      omega
    obtain ⟨n, rfl⟩ := Nat.exists_eq_succ_of_ne_zero (Nat.ne_of_gt (Nat.zero_lt_of_lt hroom))
    simp only [List.append_assoc, List.cons_append]
    rw [readEntries]
    simp only [hread, bind, Except.bind, hskip, ih n hroom]
    rfl

/-- What is read as the entries of a table in braces is written so. -/
theorem Exact.exists_entries (h : readEntries value n cs = .ok (ps, rest)) :
    ∃ w, Entries W ps w ∧ cs = w ++ rest := by
  induction n generalizing cs ps with
  | zero => nomatch h
  | succ n ih =>
    rw [readEntries] at h
    obtain ⟨⟨⟨k, v⟩, cs₁⟩, hentry, h₁⟩ := exists_of_bind_eq_ok h
    obtain ⟨a, w, ha, hw, rfl⟩ := hW.exists_entry hentry
    obtain ⟨b, hb, hcs₁⟩ := exists_blanks cs₁
    dsimp only at h₁
    split at h₁
    · next tail hcomma =>
      obtain ⟨⟨qs, tail'⟩, hread, heq⟩ := exists_of_map_eq_ok h₁
      obtain ⟨rfl, rfl⟩ := Prod.mk.inj heq
      obtain ⟨u, hu, rfl⟩ := ih hread
      refine ⟨_, .more ha hw hb hu, ?_⟩
      rw [hcs₁, hcomma]
      simp only [List.append_assoc, List.cons_append]
    · next tail hclose =>
      obtain ⟨rfl, rfl⟩ := Prod.mk.inj (Except.ok.inj h₁)
      refine ⟨_, .last ha hw hb, ?_⟩
      rw [hcs₁, hclose]
      simp only [List.append_assoc, List.singleton_append]
    · nomatch h₁

omit hW in
/-- Blanks in front of the entries are none of theirs. -/
theorem Entries.strip (h : Entries W ps w) : ∃ a c u, Blanks a ∧ w = a ++ c :: u ∧ ¬ Blank c ∧
    c ≠ '\x7d' ∧ Entries W ps (c :: u) := by
  have hentry : ∀ {k : Key} {v : Value} {w : List Char}, EntryWritten W k v w →
      ∃ c u, w = c :: u ∧ ¬ Blank c ∧ c ≠ '\x7d' := by
    rintro k v w ⟨hk, -, -⟩
    obtain ⟨c, u, rfl, hblank, hc⟩ := hk.exists_eq_cons
    refine ⟨c, _, rfl, hblank, ?_⟩
    rintro rfl
    exact hc (by decide)
  cases h with
  | last ha h hb =>
    have hnew : Entries W _ ([] ++ _) := .last nofun h hb
    obtain ⟨c, u, rfl, hblank, hc⟩ := hentry h
    exact ⟨_, c, _, ha, rfl, hblank, hc, hnew⟩
  | more ha h hb hps =>
    have hnew : Entries W _ ([] ++ _) := .more nofun h hb hps
    obtain ⟨c, u, rfl, hblank, hc⟩ := hentry h
    exact ⟨_, c, _, ha, rfl, hblank, hc, hnew⟩

/-- **A table in braces is read**, and put together by the rules. -/
theorem Exact.readBraces_append {t : Table} (h : Entries W ps w) (ht : Fills ps [] t) :
    readBraces value (w ++ rest) = .ok (.table .braces t, rest) := by
  obtain ⟨a, c, u, ha, rfl, hblank, hc, hentries⟩ := h.strip
  have hskip : skipBlanks (a ++ c :: u ++ rest) = c :: u ++ rest := by
    rw [List.append_assoc, skipBlanks_append ha]
    exact skipBlanks_cons hblank
  have hroom : (c :: u).length < (c :: u ++ rest).length + 1 := by
    rw [List.length_append]
    omega
  have hread : readEntries value ((c :: u ++ rest).length + 1) (c :: u ++ rest) = .ok (ps, rest) :=
    hW.readEntries_append hentries hroom
  have hfills := (ofEntries_eq_ok_iff (hW.entries_orderly h)).2 ht
  rw [readBraces, hskip]
  split
  · next heq => exact absurd (List.cons.inj heq).1 hc
  · simp only [hread, bind, Except.bind, hfills]
    rfl

omit hW in
theorem Entries.indent (hb : Blanks b) (h : Entries W ps w) : Entries W ps (b ++ w) := by
  have hblanks : ∀ {a : List Char}, Blanks a → Blanks (b ++ a) := fun ha =>
    List.forall_mem_append.2 ⟨hb, ha⟩
  cases h with
  | last ha h hb' =>
    rw [← List.append_assoc]
    exact .last (hblanks ha) h hb'
  | more ha h hb' hps =>
    rw [← List.append_assoc]
    exact .more (hblanks ha) h hb' hps

/-- What is read as a table in braces is written so. -/
theorem Exact.exists_braces (h : readBraces value cs = .ok (v, rest)) :
    ∃ w, Nested W v ('\x7b' :: w) ∧ cs = w ++ rest := by
  obtain ⟨b, hb, hcs⟩ := exists_blanks cs
  rw [readBraces] at h
  split at h
  · next tail hclose =>
    obtain ⟨rfl, rfl⟩ := Prod.mk.inj (Except.ok.inj h)
    refine ⟨_, .empty hb, ?_⟩
    rw [hcs, hclose]
    simp only [List.append_assoc, List.singleton_append]
  · obtain ⟨⟨ps, cs₁⟩, hread, h₁⟩ := exists_of_bind_eq_ok h
    obtain ⟨t, hentries, h₂⟩ := exists_of_bind_eq_ok h₁
    obtain ⟨rfl, rfl⟩ := Prod.mk.inj (Except.ok.inj h₂)
    obtain ⟨w, hw, hskip⟩ := hW.exists_entries hread
    have ht := (ofEntries_eq_ok_iff (hW.entries_orderly hw)).1 hentries
    refine ⟨_, .table (hw.indent hb) ht, ?_⟩
    rw [hcs, hskip, List.append_assoc]

end Nesting

/-! ## Values -/

theorem Nested.head {W : Value → List Char → Prop} (h : Nested W v w) :
    ∃ c u, w = c :: u ∧ c ∉ [' ', '\t', '\n', '\r', '#', ']'] := by
  cases h with
  | plain h =>
    obtain ⟨c, u, rfl, hc⟩ := h.exists_eq_cons
    have hnot : ∀ c ∈ [' ', '\t', '\n', '\r', '#', ']'], ¬ (c ∈ openers ∨ Digit 10 c) :=
      List.all_iff_forall_prop.1 (by decide)
    exact ⟨c, u, rfl, fun hmem => hnot c hmem hc⟩
  | array => exact ⟨_, _, rfl, by decide⟩
  | empty => exact ⟨_, _, rfl, by decide⟩
  | table => exact ⟨_, _, rfl, by decide⟩

/-- Only arrays and tables in braces have values within them. -/
theorem readValue_plain (depth : Nat) (h : Plain v w) :
    readValue depth (w ++ rest) = readPlain (w ++ rest) := by
  obtain ⟨c, u, rfl, hc⟩ := h.exists_eq_cons
  have hne : ∀ x ∈ ['[', '\x7b'], ∀ cs, c :: (u ++ rest) ≠ x :: cs := by
    intro x hx cs heq
    obtain ⟨rfl, -⟩ := List.cons.inj heq
    have hnot : ∀ x ∈ ['[', '\x7b'], ¬ (x ∈ openers ∨ Digit 10 x) :=
      List.all_iff_forall_prop.1 (by decide)
    exact hnot c hx hc
  rw [List.cons_append, readValue]
  · exact fun cs _ => hne '[' (by decide) cs
  · exact fun cs _ => hne '\x7b' (by decide) cs
  · exact fun _ cs _ => hne '[' (by decide) cs
  · exact fun _ cs _ => hne '\x7b' (by decide) cs

theorem exact_zero : Exact Plain (readValue 0) where
  append h hrest := by rw [readValue_plain 0 h, readPlain_append h hrest]
  exists_of h := by
    rw [readValue.eq_def] at h
    split at h
    · nomatch h
    · nomatch h
    · next heq => nomatch heq
    · next heq => nomatch heq
    · exact exists_plain_of_readPlain h
  head h := (Nested.plain h : Nested Plain _ _).head
  orderly := Plain.orderly

/-- **One level of nesting more.** -/
theorem Exact.succ {W : Value → List Char → Prop} {depth : Nat} (hW : Exact W (readValue depth)) :
    Exact (Nested W) (readValue (depth + 1)) where
  append := by
    rintro v w rest h hrest
    cases h with
    | plain h => rw [readValue_plain _ h, readPlain_append h hrest]
    | @array vs w h =>
      have hroom : w.length < (w ++ rest).length + 1 := by
        rw [List.length_append]
        omega
      rw [List.cons_append, readValue, hW.readElements_append h hroom]
      rfl
    | @empty b hb =>
      have hskip : skipBlanks (b ++ '\x7d' :: rest) = '\x7d' :: rest := by
        rw [skipBlanks_append hb, skipBlanks_cons (by decide)]
      simp only [List.cons_append, List.append_assoc, List.nil_append]
      rw [readValue, readBraces, hskip]
      rfl
    | table h ht => rw [List.cons_append, readValue, hW.readBraces_append h ht]
  exists_of := by
    intro v cs rest h
    rw [readValue.eq_def] at h
    split at h
    · next heq => nomatch heq
    · next heq => nomatch heq
    · next heq =>
      cases heq
      obtain ⟨⟨vs, tail⟩, hread, heq⟩ := exists_of_map_eq_ok h
      obtain ⟨rfl, rfl⟩ := Prod.mk.inj heq
      obtain ⟨w, hw, rfl⟩ := hW.exists_elements hread
      exact ⟨_, .array hw, rfl⟩
    · next heq =>
      cases heq
      obtain ⟨w, hw, rfl⟩ := hW.exists_braces h
      exact ⟨_, hw, rfl⟩
    · obtain ⟨w, hw, hcs⟩ := exists_plain_of_readPlain h
      exact ⟨w, .plain hw, hcs⟩
  head := Nested.head
  orderly := by
    intro v w h
    cases h with
    | plain h => exact h.orderly
    | array => trivial
    | empty => exact fun hbraces => absurd rfl hbraces
    | table => exact fun hbraces => absurd rfl hbraces

/-- **Values are read as they may be written**, and nothing else is read as a value. -/
theorem exact_readValue (depth : Nat) : Exact (Written depth) (readValue depth) := by
  induction depth with
  | zero => exact exact_zero
  | succ depth ih => exact ih.succ

/-! ## Some values that can be written -/

/-- Digits may be written without underscores. -/
theorem digits_self {base : Nat} (h : ∀ d ∈ ds, Digit base d) (hne : ds ≠ []) :
    Digits base ds ds := by
  induction ds with
  | nil => exact absurd rfl hne
  | cons d ds ih =>
    obtain ⟨hd, hds⟩ := List.forall_mem_cons.1 h
    by_cases hnil : ds = []
    · subst hnil
      exact .one hd
    · exact .next hd (ih hds hnil)

theorem whole_toDigits (n : Nat) : Whole (Nat.toDigits 10 n) (Nat.toDigits 10 n) := by
  have hdigits : Digits 10 (Nat.toDigits 10 n) (Nat.toDigits 10 n) :=
    digits_self (fun d hd => isDigit_iff.1 (Text.isDigit_of_mem_toDigits hd)) Nat.toDigits_ne_nil
  obtain ⟨d, ds, hds, hzero⟩ := Text.exists_toDigits_eq_cons n
  by_cases hd : d = '0'
  · obtain rfl := hzero hd
    exact .zero
  · rw [hds] at hdigits ⊢
    exact .digits hd hdigits

theorem exists_written_natural {depth n : Nat} (hn : n < 2 ^ 63) :
    ∃ w, Written (depth + 1) (.integer n) w := by
  have hnumeral := Numeral.decimal .none (whole_toDigits n)
  rw [Text.ofDigits_toDigits, one_mul] at hnumeral
  exact ⟨_, .plain (.integer hnumeral (by omega) (by omega))⟩

theorem exists_written_boolean (depth : Nat) (b : Bool) :
    ∃ w, Written (depth + 1) (.boolean b) w := by
  cases b with
  | true => exact ⟨_, .plain .yes⟩
  | false => exact ⟨_, .plain .no⟩

theorem exists_written_string (depth : Nat) (s : String) : ∃ w, Written depth (.string s) w := by
  obtain ⟨w, hw⟩ := exists_quoted s.toList
  cases depth with
  | zero => exact ⟨w, Plain.string hw⟩
  | succ depth => exact ⟨w, .plain (.string hw)⟩

/-- **Every array of strings can be written**, whatever the strings are. -/
theorem exists_written_strings (depth : Nat) (ss : List String) :
    ∃ w, Written (depth + 1) (.array (ss.map .string)) w := by
  have helements : ∃ w, Elements (Written depth) (ss.map .string) w := by
    induction ss with
    | nil => exact ⟨_, .close .nil⟩
    | cons s ss ih =>
      obtain ⟨w, hw⟩ := exists_written_string depth s
      obtain ⟨v, hv⟩ := ih
      exact ⟨_, .more .nil hw .nil hv⟩
  obtain ⟨w, hw⟩ := helements
  exact ⟨_, .array hw⟩

end Toml
end VarStore
