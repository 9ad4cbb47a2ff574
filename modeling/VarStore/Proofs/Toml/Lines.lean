import VarStore.Proofs.Toml.TopLevel
import VarStore.Proofs.Toml.Values

/-!
# Reading documents in TOML

A text is read line by line into the statements that it is written as, and the statements are put
together by the rules.  So the texts that are read are the documents of the grammar, and the table that
a text is read as is the one that its document makes (`read_eq_ok_iff`).

* `readStatement_append`, `exists_statement_of_readStatement`: one line.
* `readStatements_append`, `lines_of_readStatements`: all lines, by induction on how they are written
  and on the fuel.
* `spelled_iff`, `read_eq_ok_iff`: whole texts.
* `exists_spelled`: entries that can be written.
-/

namespace VarStore
namespace Toml

variable {c : Char} {a b e l r w cs rest tail : List Char} {k : Key} {v : Value} {s : Statement}
variable {ss : List Statement} {n : Nat} {t : Table} {text : String}

/-! ## One line -/

/-- What ends a line ends a value. -/
theorem follows_line (hb : Blanks b) (hr : Remark r) (he : LineEnd e) :
    Follows (b ++ (r ++ (e ++ rest))) := by
  refine follows_append hb ?_
  cases hr with
  | none => cases he <;> exact follows_cons (by decide)
  | some => exact follows_cons (by decide)

theorem follows_end (hb : Blanks b) (hr : Remark r) : Follows (b ++ r) := by
  refine follows_append hb ?_
  cases hr with
  | none => exact nofun
  | some => exact follows_cons (by decide)

/-- What is written for a statement begins with a sign that begins nothing else. -/
theorem StatementWritten.exists_eq_cons (h : StatementWritten s l) : ∃ c u, l = c :: u ∧
    ¬ Blank c ∧ c ∉ ['#', '\n', '\r', '\ufeff'] := by
  cases h with
  | table => exact ⟨_, _, rfl, by decide, by decide⟩
  | element => exact ⟨_, _, rfl, by decide, by decide⟩
  | entry h =>
    obtain ⟨hk, -, -⟩ := h
    obtain ⟨c, u, rfl, hblank, hc⟩ := hk.exists_eq_cons
    simp only [List.mem_cons, List.not_mem_nil, or_false, not_or] at hc
    exact ⟨c, _, rfl, hblank, by simp [hc]⟩

theorem StatementWritten.orderly (h : StatementWritten s l) : s.Orderly := by
  cases h with
  | table => trivial
  | element => trivial
  | entry h =>
    obtain ⟨-, -, hv⟩ := h
    exact (exact_readValue 79).orderly hv

theorem endsKey_bracket (rest : List Char) : EndsKey (']' :: rest) := by
  rintro c hc
  exact .inr (Option.some.inj hc).symm

/-- A key in brackets does not begin with another bracket. -/
theorem append_key_ne (ha : Blanks a) (h : KeyWritten k w) (cs : List Char) :
    a ++ (w ++ rest) ≠ '[' :: cs := by
  intro heq
  cases a with
  | nil =>
    obtain ⟨c, u, rfl, -, hc⟩ := h.exists_eq_cons
    obtain ⟨rfl, -⟩ := List.cons.inj heq
    exact hc (by decide)
  | cons d a =>
    obtain ⟨rfl, -⟩ := List.cons.inj heq
    exact absurd (ha _ List.mem_cons_self) (by decide)

/-- **A line with a statement is read**, if what ends it can be finished. -/
theorem readStatement_append (h : StatementWritten s l) (hends : Follows tail)
    (hfinish : finishLine tail = .ok rest) : readStatement (l ++ tail) = .ok (s, rest) := by
  cases h with
  | table ha hk =>
    have hkey := readKey_append hk ha (endsKey_bracket tail)
    simp only [List.cons_append, List.append_assoc, List.nil_append]
    rw [readStatement]
    · simp only [hkey, bind, Except.bind, expect_cons, hfinish]
      rfl
    · exact fun cs heq => append_key_ne ha hk cs heq
  | element ha hk =>
    have hkey := readKey_append hk ha (endsKey_bracket (']' :: tail))
    simp only [List.cons_append, List.append_assoc, List.nil_append]
    rw [readStatement]
    simp only [hkey, bind, Except.bind, expect_cons, hfinish]
    rfl
  | @entry k v l h =>
    have hentry : readEntry (readValue depthLimit) (l ++ tail) = .ok ((k, v), tail) :=
      (exact_readValue 79).readEntry_append (a := []) h nofun hends
    obtain ⟨hk, -, -⟩ := h
    obtain ⟨c, u, rfl, -, hc⟩ := hk.exists_eq_cons
    have hbracket : c ≠ '[' := by
      rintro rfl
      exact hc (by decide)
    simp only [List.cons_append, List.append_assoc] at hentry ⊢
    rw [readStatement]
    · simp only [hentry, bind, Except.bind, hfinish]
      rfl
    · exact fun _ heq => hbracket (List.cons.inj heq).1
    · exact fun _ heq => hbracket (List.cons.inj heq).1

/-- What is read as a statement is written so. -/
theorem exists_statement_of_readStatement (h : readStatement cs = .ok (s, rest)) :
    ∃ a l tail, Blanks a ∧ StatementWritten s l ∧ finishLine tail = .ok rest ∧
      cs = a ++ (l ++ tail) := by
  rw [readStatement.eq_def] at h
  split at h
  · obtain ⟨⟨k, cs₁⟩, hkey, h₁⟩ := exists_of_bind_eq_ok h
    obtain ⟨cs₂, hbracket, h₂⟩ := exists_of_bind_eq_ok h₁
    obtain ⟨cs₃, hbracket', h₃⟩ := exists_of_bind_eq_ok h₂
    obtain ⟨cs₄, hfinish, h₄⟩ := exists_of_bind_eq_ok h₃
    obtain ⟨rfl, rfl⟩ := Prod.mk.inj (Except.ok.inj h₄)
    obtain ⟨a, w, ha, hw, rfl⟩ := exists_key_of_readKey hkey
    obtain rfl := expect_eq_ok_iff.1 hbracket
    obtain rfl := expect_eq_ok_iff.1 hbracket'
    exact ⟨[], _, _, nofun, .element ha hw, hfinish, by simp⟩
  · obtain ⟨⟨k, cs₁⟩, hkey, h₁⟩ := exists_of_bind_eq_ok h
    obtain ⟨cs₂, hbracket, h₂⟩ := exists_of_bind_eq_ok h₁
    obtain ⟨cs₃, hfinish, h₃⟩ := exists_of_bind_eq_ok h₂
    obtain ⟨rfl, rfl⟩ := Prod.mk.inj (Except.ok.inj h₃)
    obtain ⟨a, w, ha, hw, rfl⟩ := exists_key_of_readKey hkey
    obtain rfl := expect_eq_ok_iff.1 hbracket
    exact ⟨[], _, _, nofun, .table ha hw, hfinish, by simp⟩
  · obtain ⟨⟨⟨k, v⟩, cs₁⟩, hentry, h₁⟩ := exists_of_bind_eq_ok h
    obtain ⟨cs₂, hfinish, h₂⟩ := exists_of_bind_eq_ok h₁
    obtain ⟨rfl, rfl⟩ := Prod.mk.inj (Except.ok.inj h₂)
    obtain ⟨a, w, ha, hw, rfl⟩ := (exact_readValue 79).exists_entry hentry
    exact ⟨a, w, _, ha, .entry hw, hfinish, rfl⟩

/-! ## All lines -/

theorem readStatements_statement (ha : Blanks a) (h : StatementWritten s l) (hends : Follows tail)
    (hfinish : finishLine tail = .ok rest) : readStatements (n + 1) (a ++ (l ++ tail)) =
      (readStatements n rest).map fun ss => s :: ss := by
  have hstatement := readStatement_append h hends hfinish
  obtain ⟨c, u, rfl, hblank, hc⟩ := h.exists_eq_cons
  have hskip : skipBlanks (a ++ (c :: u ++ tail)) = c :: (u ++ tail) := by
    rw [skipBlanks_append ha]
    exact skipBlanks_cons hblank
  have hidle : saysNothing (c :: (u ++ tail)) = false := by
    simp only [List.mem_cons, List.not_mem_nil, or_false, not_or] at hc
    simp [saysNothing, hc]
  rw [List.cons_append] at hstatement
  rw [readStatements, hskip]
  simp only [hidle, Bool.false_eq_true, if_false, hstatement, bind, Except.bind]
  cases readStatements n rest <;> rfl

/-- A line that says nothing is passed over. -/
theorem readStatements_idle (hb : Blanks b) (hr : Remark r) (he : LineEnd e) :
    readStatements (n + 1) (b ++ (r ++ (e ++ rest))) = readStatements n rest := by
  have hfinish : finishLine ([] ++ (r ++ (e ++ rest))) = .ok rest := finishLine_append nofun hr he
  rw [List.nil_append] at hfinish
  have hfirst : ∃ c cs, r ++ (e ++ rest) = c :: cs ∧ ¬ Blank c ∧ saysNothing (c :: cs) = true := by
    cases hr with
    | none => cases he <;> exact ⟨_, _, rfl, by decide, rfl⟩
    | some => exact ⟨_, _, rfl, by decide, rfl⟩
  obtain ⟨c, cs, hcs, hblank, hidle⟩ := hfirst
  rw [readStatements, skipBlanks_append hb, hcs, skipBlanks_cons hblank]
  simp only [hidle, if_true]
  rw [← hcs, hfinish]
  rfl

/-- **The lines of a document are read as its statements.**  The induction is on how they are written;
the fuel is enough, since every line that ends takes at least one sign. -/
theorem readStatements_append (h : Lines ss w) (hn : w.length < n) :
    readStatements n w = .ok ss := by
  induction h generalizing n with
  | @done b r hb hr =>
    obtain ⟨n, rfl⟩ := Nat.exists_eq_succ_of_ne_zero (Nat.ne_of_gt (Nat.zero_lt_of_lt hn))
    cases hr with
    | none =>
      rw [readStatements, skipBlanks_append hb]
      rfl
    | @some text htext =>
      have hfinish := finishLine_end (b := []) nofun (Remark.some htext)
      rw [List.nil_append] at hfinish
      simp only [List.length_append, List.length_cons] at hn
      obtain ⟨n, rfl⟩ := Nat.exists_eq_succ_of_ne_zero (n := n) (by omega)
      rw [readStatements, skipBlanks_append hb, skipBlanks_cons (by decide)]
      simp only [saysNothing, decide_true, Bool.true_or, if_true, hfinish]
      rfl
  | @idle ss b r e w hb hr he _ ih =>
    obtain ⟨n, rfl⟩ := Nat.exists_eq_succ_of_ne_zero (Nat.ne_of_gt (Nat.zero_lt_of_lt hn))
    have hlength : 0 < e.length := by cases he <;> simp
    simp only [List.length_append] at hn
    rw [readStatements_idle hb hr he, ih (by omega)]
  | @last s a l b r ha hl hb hr =>
    obtain ⟨n, rfl⟩ := Nat.exists_eq_succ_of_ne_zero (Nat.ne_of_gt (Nat.zero_lt_of_lt hn))
    obtain ⟨c, u, rfl, -⟩ := hl.exists_eq_cons
    simp only [List.length_append, List.length_cons] at hn
    obtain ⟨n, rfl⟩ := Nat.exists_eq_succ_of_ne_zero (n := n) (by omega)
    rw [readStatements_statement ha hl (follows_end hb hr) (finishLine_end hb hr)]
    rfl
  | @line s ss a l b r e w ha hl hb hr he _ ih =>
    obtain ⟨n, rfl⟩ := Nat.exists_eq_succ_of_ne_zero (Nat.ne_of_gt (Nat.zero_lt_of_lt hn))
    have hlength : 0 < e.length := by cases he <;> simp
    simp only [List.length_append] at hn
    rw [readStatements_statement ha hl (follows_line hb hr he) (finishLine_append hb hr he),
      ih (by omega)]
    rfl

/-- Behind the last line there is nothing to read. -/
theorem eq_nil_of_readStatements_nil (h : readStatements n [] = .ok ss) : ss = [] := by
  cases n with
  | zero => nomatch h
  | succ n => exact (Except.ok.inj h).symm

/-- **What is read as the statements of a document is written so.** -/
theorem lines_of_readStatements (h : readStatements n cs = .ok ss) : Lines ss cs := by
  induction n generalizing cs ss with
  | zero => nomatch h
  | succ n ih =>
    obtain ⟨a, ha, hcs⟩ := exists_blanks cs
    rw [readStatements] at h
    split at h
    · next hnil =>
      obtain rfl := Except.ok.inj h
      rw [hcs, hnil]
      exact .done ha .none
    · split at h
      · obtain ⟨cs₁, hfinish, h₁⟩ := exists_of_bind_eq_ok h
        obtain ⟨b, r, hb, hr, ⟨hskip, rfl⟩ | ⟨e, he, hskip⟩⟩ := eq_of_finishLine hfinish
        · obtain rfl := eq_nil_of_readStatements_nil h₁
          rw [hcs, hskip, ← List.append_assoc]
          exact .done (List.forall_mem_append.2 ⟨ha, hb⟩) hr
        · rw [hcs, hskip, ← List.append_assoc]
          exact .idle (List.forall_mem_append.2 ⟨ha, hb⟩) hr he (ih h₁)
      · obtain ⟨⟨s, cs₁⟩, hstatement, h₁⟩ := exists_of_bind_eq_ok h
        obtain ⟨ss, hread, h₂⟩ := exists_of_bind_eq_ok h₁
        obtain rfl := Except.ok.inj h₂
        obtain ⟨a', l, tail, ha', hl, hfinish, hskip⟩ := exists_statement_of_readStatement hstatement
        rw [hcs, hskip, ← List.append_assoc]
        have hblanks : Blanks (a ++ a') := List.forall_mem_append.2 ⟨ha, ha'⟩
        obtain ⟨b, r, hb, hr, ⟨rfl, rfl⟩ | ⟨e, he, rfl⟩⟩ := eq_of_finishLine hfinish
        · obtain rfl := eq_nil_of_readStatements_nil hread
          exact .last hblanks hl hb hr
        · exact .line hblanks hl hb hr he (ih hread)

/-! ## Whole documents -/

/-- Lines do not begin with a byte-order mark. -/
theorem Lines.head?_ne (h : Lines ss w) : w.head? ≠ some '\ufeff' := by
  have hblanks : ∀ {b rest : List Char}, Blanks b → rest.head? ≠ some '\ufeff' →
      (b ++ rest).head? ≠ some '\ufeff' := by
    intro b rest hb hrest
    cases b with
    | nil => exact hrest
    | cons c b =>
      intro heq
      obtain rfl : c = '\ufeff' := Option.some.inj heq
      exact absurd (hb _ List.mem_cons_self) (by decide)
  have hstatement : ∀ {s : Statement} {l rest : List Char}, StatementWritten s l →
      (l ++ rest).head? ≠ some '\ufeff' := by
    intro s l rest hl heq
    obtain ⟨c, u, rfl, -, hc⟩ := hl.exists_eq_cons
    obtain rfl : c = '\ufeff' := Option.some.inj heq
    exact hc (by decide)
  cases h with
  | done hb hr =>
    refine hblanks hb ?_
    cases hr <;> simp
  | idle hb hr he _ =>
    refine hblanks hb ?_
    cases hr <;> cases he <;> simp
  | last ha hl _ _ => exact hblanks ha (hstatement hl)
  | line ha hl _ _ _ _ => exact hblanks ha (hstatement hl)

theorem Lines.orderly (h : Lines ss w) : ∀ s ∈ ss, s.Orderly := by
  induction h with
  | done => exact nofun
  | idle _ _ _ _ ih => exact ih
  | last _ hl _ _ => exact List.forall_mem_singleton.2 hl.orderly
  | line _ hl _ _ _ _ ih => exact List.forall_mem_cons.2 ⟨hl.orderly, ih⟩

theorem skipMark_of_lines (h : Lines ss w)
    (htext : text.toList = w ∨ text.toList = '\ufeff' :: w) : skipMark text.toList = w := by
  rcases htext with htext | htext
  · rw [htext]
    cases w with
    | nil => rfl
    | cons c w =>
      rw [skipMark]
      intro cs heq
      exact h.head?_ne (congrArg List.head? heq)
  · rw [htext]
    rfl

theorem eq_or_eq_of_skipMark (text : List Char) :
    text = skipMark text ∨ text = '\ufeff' :: skipMark text := by
  rw [skipMark.eq_def]
  split
  · exact .inr rfl
  · exact .inl rfl

/-- **The statements that a text is read as are those that it is written for.** -/
theorem spelled_iff : Spelled ss text ↔
    readStatements ((skipMark text.toList).length + 1) (skipMark text.toList) = .ok ss := by
  constructor
  · rintro ⟨w, hlines, htext⟩
    rw [skipMark_of_lines hlines htext]
    exact readStatements_append hlines (Nat.lt_succ_self _)
  · intro h
    exact ⟨_, lines_of_readStatements h, eq_or_eq_of_skipMark text.toList⟩

theorem Document.ofStatements_eq (h : Document text ss t) : Table.ofStatements ss = .ok t := by
  obtain ⟨⟨w, hlines, -⟩, hruns⟩ := h
  exact (ofStatements_eq_ok_iff hlines.orderly).2 hruns

theorem document_iff : Document text ss t ↔
    readStatements ((skipMark text.toList).length + 1) (skipMark text.toList) = .ok ss ∧
      Table.ofStatements ss = .ok t := by
  constructor
  · exact fun h => ⟨spelled_iff.1 h.spelled, h.ofStatements_eq⟩
  · rintro ⟨hreads, hmakes⟩
    obtain ⟨w, hlines, htext⟩ := spelled_iff.2 hreads
    exact ⟨⟨w, hlines, htext⟩, (ofStatements_eq_ok_iff hlines.orderly).1 hmakes⟩

/-- **The texts that are read are the documents**, and each is read as the table that it makes. -/
theorem read_eq_ok_iff : Table.read text = .ok t ↔ ∃ ss, Document text ss t := by
  simp only [document_iff]
  constructor
  · exact exists_of_bind_eq_ok
  · rintro ⟨ss, hreads, hmakes⟩
    rw [Table.read, hreads]
    exact hmakes

/-! ## Entries that can be written -/

/-- A new entry comes to the table. -/
theorem step_entry {name : String} (h : t.Lacks name) :
    Step ⟨t, []⟩ (.entry ⟨[], name⟩ v) ⟨t ++ [(name, v)], []⟩ :=
  .entry (.here (.here ⟨fun hpath => absurd rfl hpath, .intro h⟩))

theorem runs_statements {es : List (String × Value)} (h : ((t ++ es).map Prod.fst).Nodup) :
    Runs ⟨t, []⟩ (statements es) ⟨t ++ es, []⟩ := by
  induction es generalizing t with
  | nil =>
    rw [List.append_nil]
    exact .nil
  | cons p es ih =>
    have hnew : t.Lacks p.1 := by
      intro q hq
      rw [List.map_append, List.nodup_append] at h
      exact h.2.2 q.1 (List.mem_map_of_mem hq) p.1 (List.mem_map_of_mem List.mem_cons_self)
    rw [List.append_cons] at h ⊢
    exact .cons (step_entry hnew) (ih h)

/-- **Entries make the table that holds them**, if their keys are all different. -/
theorem Spelled.document {es : List (String × Value)} (h : Spelled (statements es) text)
    (hes : (es.map Prod.fst).Nodup) : Document text (statements es) es :=
  ⟨h, [], runs_statements (t := []) hes⟩

/-- Entries can be written, if their keys are bare and their values can be written. -/
theorem exists_spelled {es : List (String × Value)}
    (h : ∀ p ∈ es, (p.1 ≠ "" ∧ ∀ c ∈ p.1.toList, Bare c) ∧ ∃ w, Written 79 p.2 w) :
    ∃ text, Spelled (statements es) text := by
  have hlines : ∃ w, Lines (statements es) w := by
    induction es with
    | nil => exact ⟨_, .done (b := []) nofun .none⟩
    | cons p es ih =>
      obtain ⟨⟨⟨hne, hbare⟩, v, hv⟩, hes⟩ := List.forall_mem_cons.1 h
      obtain ⟨w, hw⟩ := ih hes
      have hkey : KeyWritten ⟨[], p.1⟩ _ :=
        .intro (.last (.bare hne hbare) (b := []) nofun) (by simp)
      have hentry : EntryWritten (Written 79) ⟨[], p.1⟩ p.2 _ := .intro hkey (b := []) nofun hv
      exact ⟨_, .line (a := []) nofun (.entry hentry) (b := []) nofun .none .feed hw⟩
  obtain ⟨w, hw⟩ := hlines
  exact ⟨String.ofList w, w, hw, .inl String.toList_ofList⟩

end Toml
end VarStore
