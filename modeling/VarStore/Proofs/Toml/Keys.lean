import VarStore.Proofs.Toml.Strings
import VarStore.Toml.Reader

/-!
# Reading keys in TOML

A key is read part by part, with the blanks around its parts and its dots, and nothing else is read as
one.  It ends in front of an equals sign or a closing bracket (`EndsKey`), and a part begins with a
sign that begins nothing else in a document.

* `readPart_append`, `exists_part_of_readPart`: one part.
* `readKey_append`, `exists_key_of_readKey`: keys.
-/

namespace VarStore
namespace Toml

variable {c : Char} {a cs w rest : List Char} {p : String} {ps : List String} {k : Key} {n : Nat}

/-! ## Parts -/

theorem isBare_iff : isBare c = true ↔ Bare c := by
  simp [isBare, Bare, or_assoc]

theorem Blank.not_bare (h : Blank c) : ¬ Bare c := by
  rcases h with rfl | rfl <;> decide

/-- What is written for a part begins with a sign that begins nothing else. -/
theorem Part.exists_eq_cons (h : Part p w) : ∃ c v, w = c :: v ∧ ¬ Blank c ∧
    c ∉ ['[', ']', '\x7d', '#', '\n', '\r', '\ufeff'] := by
  cases h with
  | bare hne hbare =>
    obtain ⟨c, v, hv⟩ := List.exists_cons_of_ne_nil (mt String.toList_eq_nil_iff.1 hne)
    have hc : Bare c := hbare c (by simp [hv])
    refine ⟨c, v, hv, fun hblank => hblank.not_bare hc, fun hmem => ?_⟩
    have hsigns : ∀ c ∈ ['[', ']', '\x7d', '#', '\n', '\r', '\ufeff'], ¬ Bare c :=
      List.all_iff_forall_prop.1 (by decide)
    exact hsigns c hmem hc
  | basic => exact ⟨_, _, rfl, by decide, by decide⟩
  | literal => exact ⟨_, _, rfl, by decide, by decide⟩

/-- **A part of a key is read**, and what stands behind it is left. -/
theorem readPart_append (h : Part p w) (hrest : ∀ c ∈ rest.head?, ¬ Bare c) :
    readPart (w ++ rest) = .ok (p, rest) := by
  cases h with
  | bare hne hbare =>
    have hbare' : ∀ c ∈ p.toList, isBare c = true := fun c hc => isBare_iff.2 (hbare c hc)
    have htake : (p.toList ++ rest).takeWhile isBare = p.toList := by
      rw [List.takeWhile_append_of_pos hbare']
      cases rest with
      | nil => simp
      | cons c rest =>
        rw [List.takeWhile_cons_of_neg (mt isBare_iff.1 (hrest c rfl)), List.append_nil]
    have hdrop : (p.toList ++ rest).dropWhile isBare = rest := by
      rw [List.dropWhile_append_of_pos hbare']
      cases rest with
      | nil => rfl
      | cons c rest => exact List.dropWhile_cons_of_neg (mt isBare_iff.1 (hrest c rfl))
    have hempty : p.toList.isEmpty = false := by simpa using hne
    have hfirst : ∀ (x : Char) (cs : List Char), ¬ Bare x → p.toList ++ rest ≠ x :: cs := by
      intro x cs hx heq
      obtain ⟨d, ds, hds⟩ := List.exists_cons_of_ne_nil (mt String.toList_eq_nil_iff.1 hne)
      have hd : Bare d := hbare d (by simp [hds])
      rw [hds, List.cons_append] at heq
      exact hx ((List.cons.inj heq).1 ▸ hd)
    rw [readPart, htake, hdrop, hempty, if_neg Bool.false_ne_true, String.ofList_toList]
    · exact fun cs => hfirst '"' cs (by decide)
    · exact fun cs => hfirst '\'' cs (by decide)
  | basic hbody =>
    rw [List.cons_append, readPart, readBasic_body hbody]
    change Except.ok (String.ofList p.toList, rest) = _
    rw [String.ofList_toList]
  | literal hbody =>
    rw [List.cons_append, readPart, readLiteral_body hbody]
    change Except.ok (String.ofList p.toList, rest) = _
    rw [String.ofList_toList]

/-- What is read as a part is written so. -/
theorem exists_part_of_readPart (h : readPart cs = .ok (p, rest)) :
    ∃ w, Part p w ∧ cs = w ++ rest := by
  rw [readPart.eq_def] at h
  split at h
  · obtain ⟨⟨s, tail⟩, hread, heq⟩ := exists_of_map_eq_ok h
    obtain ⟨rfl, rfl⟩ := Prod.mk.inj heq
    obtain ⟨w, hw, rfl⟩ := exists_body_of_readBasic hread
    exact ⟨_, .basic (by rwa [String.toList_ofList]), rfl⟩
  · obtain ⟨⟨s, tail⟩, hread, heq⟩ := exists_of_map_eq_ok h
    obtain ⟨rfl, rfl⟩ := Prod.mk.inj heq
    obtain ⟨w, hw, rfl⟩ := exists_body_of_readLiteral hread
    exact ⟨_, .literal (by rwa [String.toList_ofList]), rfl⟩
  · split at h
    · nomatch h
    · next hempty =>
      obtain ⟨rfl, rfl⟩ := Prod.mk.inj (Except.ok.inj h)
      refine ⟨_, .bare ?_ ?_, ?_⟩
      · intro heq
        rw [String.ofList_eq_empty_iff] at heq
        rw [heq] at hempty
        exact hempty rfl
      · rw [String.toList_ofList]
        exact fun c hc => isBare_iff.1 (List.mem_takeWhile_imp hc)
      · rw [String.toList_ofList, List.takeWhile_append_dropWhile]

/-! ## Keys -/

/-- The text goes on where a key ends: with an equals sign or a closing bracket. -/
def EndsKey (rest : List Char) : Prop := ∀ c ∈ rest.head?, c = '=' ∨ c = ']'

theorem EndsKey.ne (h : EndsKey rest) : ∀ c ∈ rest.head?, ¬ Blank c ∧ ¬ Bare c ∧ c ≠ '.' := by
  intro c hc
  rcases h c hc with rfl | rfl <;> decide

theorem skipBlanks_of_head {cs : List Char} (h : ∀ c ∈ cs.head?, ¬ Blank c) : skipBlanks cs = cs := by
  cases cs with
  | nil => rfl
  | cons c cs => exact skipBlanks_cons (h c rfl)

/-- Behind a part there are blanks, or what ends it. -/
theorem not_bare_append {b : List Char} (hb : Blanks b) (hrest : ∀ c ∈ rest.head?, ¬ Bare c) :
    ∀ c ∈ (b ++ rest).head?, ¬ Bare c := by
  cases b with
  | nil => exact hrest
  | cons d b =>
    rintro c hc
    obtain rfl := Option.some.inj hc
    exact (hb d List.mem_cons_self).not_bare

theorem skipBlanks_part (ha : Blanks a) (h : Part p w) : skipBlanks (a ++ (w ++ rest)) = w ++ rest := by
  obtain ⟨c, v, rfl, hblank, -⟩ := h.exists_eq_cons
  rw [skipBlanks_append ha]
  exact skipBlanks_cons hblank

/-- **The parts of a key are read**, by induction on how they are written. -/
theorem readParts_append (h : Parts ps w) (hn : ps.length ≤ n) (ha : Blanks a)
    (hrest : EndsKey rest) : readParts n (a ++ (w ++ rest)) = .ok (ps, rest) := by
  induction h generalizing n a with
  | @last p w b hp hb =>
    obtain ⟨n, rfl⟩ := Nat.exists_eq_add_of_le' hn
    have hpart : readPart (w ++ (b ++ rest)) = .ok (p, b ++ rest) :=
      readPart_append hp (not_bare_append hb fun c hc => (hrest.ne c hc).2.1)
    have hskip : skipBlanks (b ++ rest) = rest := by
      rw [skipBlanks_append hb, skipBlanks_of_head fun c hc => (hrest.ne c hc).1]
    rw [List.append_assoc]
    simp only [List.length_singleton, readParts, skipBlanks_part ha hp, hpart, bind, Except.bind,
      hskip]
    split
    · exact absurd rfl (hrest.ne '.' rfl).2.2
    · rfl
  | @more p ps w b a' v hp hb ha' _ ih =>
    obtain ⟨n, rfl⟩ := Nat.exists_eq_succ_of_ne_zero (Nat.ne_of_gt (Nat.zero_lt_of_lt hn))
    have hpart : readPart (w ++ (b ++ '.' :: (a' ++ (v ++ rest)))) =
        .ok (p, b ++ '.' :: (a' ++ (v ++ rest))) := by
      refine readPart_append hp (not_bare_append hb fun c hc => ?_)
      obtain rfl := Option.some.inj hc
      decide
    have hskip : skipBlanks (b ++ '.' :: (a' ++ (v ++ rest))) = '.' :: (a' ++ (v ++ rest)) := by
      rw [skipBlanks_append hb, skipBlanks_cons (by decide)]
    simp only [List.append_assoc, List.cons_append]
    simp only [readParts, skipBlanks_part ha hp, hpart, bind, Except.bind, hskip,
      ih (Nat.le_of_succ_le_succ hn) ha']
    rfl

/-- What is read as the parts of a key is written so. -/
theorem exists_parts_of_readParts (h : readParts n cs = .ok (ps, rest)) :
    ∃ a w, Blanks a ∧ Parts ps w ∧ ps.length ≤ n ∧ cs = a ++ (w ++ rest) := by
  induction n generalizing cs ps with
  | zero => nomatch h
  | succ n ih =>
    rw [readParts] at h
    obtain ⟨⟨p, cs₁⟩, hpart, h₁⟩ := exists_of_bind_eq_ok h
    obtain ⟨a, ha, hcs⟩ := exists_blanks cs
    obtain ⟨w, hw, hskip⟩ := exists_part_of_readPart hpart
    obtain ⟨b, hb, hcs₁⟩ := exists_blanks cs₁
    dsimp only at h₁
    split at h₁
    · next tail hdot =>
      obtain ⟨⟨qs, tail'⟩, hread, heq⟩ := exists_of_map_eq_ok h₁
      obtain ⟨rfl, rfl⟩ := Prod.mk.inj heq
      obtain ⟨a', v, ha', hv, hlength, rfl⟩ := ih hread
      refine ⟨a, _, ha, .more hw hb ha' hv, Nat.succ_le_succ hlength, ?_⟩
      rw [hcs, hskip, hcs₁, hdot]
      simp only [List.append_assoc, List.cons_append]
    · obtain ⟨rfl, rfl⟩ := Prod.mk.inj (Except.ok.inj h₁)
      refine ⟨a, _, ha, .last hw hb, Nat.succ_le_succ (Nat.zero_le n), ?_⟩
      rw [List.append_assoc, ← hcs₁, ← hskip]
      exact hcs

/-- **A key is read**, and what stands behind it is left. -/
theorem readKey_append (h : KeyWritten k w) (ha : Blanks a) (hrest : EndsKey rest) :
    readKey (a ++ (w ++ rest)) = .ok (k, rest) := by
  obtain ⟨hparts, hlength⟩ := h
  have hn : (k.path ++ [k.last]).length ≤ depthLimit := by
    rw [List.length_append, List.length_singleton, depthLimit]
    omega
  rw [readKey, readParts_append hparts hn ha hrest]
  simp only [Except.map, Key.ofParts, List.dropLast_concat, List.getLast?_concat, Option.getD_some]

theorem Parts.ne_nil (h : Parts ps w) : ps ≠ [] := by
  cases h <;> exact List.cons_ne_nil _ _

/-- What is read as a key is written so. -/
theorem exists_key_of_readKey (h : readKey cs = .ok (k, rest)) :
    ∃ a w, Blanks a ∧ KeyWritten k w ∧ cs = a ++ (w ++ rest) := by
  obtain ⟨⟨ps, tail⟩, hread, heq⟩ := exists_of_map_eq_ok h
  obtain ⟨rfl, rfl⟩ := Prod.mk.inj heq
  obtain ⟨a, w, ha, hw, hlength, hcs⟩ := exists_parts_of_readParts hread
  obtain ⟨qs, q, rfl⟩ : ∃ qs q, ps = qs ++ [q] :=
    ⟨_, _, (List.dropLast_append_getLast hw.ne_nil).symm⟩
  refine ⟨a, w, ha, .intro ?_ ?_, hcs⟩
  · simpa only [Key.ofParts, List.dropLast_concat, List.getLast?_concat, Option.getD_some] using hw
  · rw [List.length_append, List.length_singleton, depthLimit] at hlength
    simp only [Key.ofParts, List.dropLast_concat]
    omega

theorem Parts.exists_eq_cons (h : Parts ps w) : ∃ c v, w = c :: v ∧ ¬ Blank c ∧
    c ∉ ['[', ']', '\x7d', '#', '\n', '\r', '\ufeff'] := by
  cases h with
  | last hp _ =>
    obtain ⟨c, v, rfl, hc⟩ := hp.exists_eq_cons
    exact ⟨c, _, rfl, hc⟩
  | more hp _ _ _ =>
    obtain ⟨c, v, rfl, hc⟩ := hp.exists_eq_cons
    exact ⟨c, _, rfl, hc⟩

/-- A key begins with a sign that begins nothing else. -/
theorem KeyWritten.exists_eq_cons (h : KeyWritten k w) : ∃ c v, w = c :: v ∧ ¬ Blank c ∧
    c ∉ ['[', ']', '\x7d', '#', '\n', '\r', '\ufeff'] := by
  obtain ⟨hparts, -⟩ := h
  exact hparts.exists_eq_cons

end Toml
end VarStore
