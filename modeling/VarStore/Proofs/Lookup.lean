/-!
# Looking up in a list of pairs

Registers, datasets and directories are lists of pairs in which things are looked up by name.  The
first pair with the name counts, so a list in which no name occurs twice says the same in any order
(`lookup_eq_some_iff`).
-/

namespace VarStore

variable {α : Type} {name t : String}

theorem lookup_cons_of_ne (hn : name ≠ t) (a : α) (l : List (String × α)) :
    ((t, a) :: l).lookup name = l.lookup name := by
  rw [List.lookup_cons, beq_false_of_ne hn]

/-- What is held under other names stays when a name is taken out. -/
theorem lookup_filter_ne (l : List (String × α)) (t name : String) :
    (l.filter fun p => p.1 ≠ t).lookup name = if t = name then none else l.lookup name := by
  induction l with
  | nil => simp
  | cons p l ih =>
    obtain ⟨u, a⟩ := p
    by_cases hu : u = t
    · rw [List.filter_cons_of_neg (by simpa using hu), ih]
      split
      · rfl
      · next ht => rw [lookup_cons_of_ne fun hn => ht (hu.symm.trans hn.symm)]
    · rw [List.filter_cons_of_pos (by simpa using hu)]
      by_cases hn : name = u
      · rw [hn, List.lookup_cons_self, List.lookup_cons_self, if_neg (Ne.symm hu)]
      · rw [lookup_cons_of_ne hn, lookup_cons_of_ne hn, ih]

/-- In a list in which no name occurs twice, the pairs are what can be looked up. -/
theorem lookup_eq_some_iff {l : List (String × α)} (hl : (l.map (·.1)).Nodup) (name : String)
    (a : α) : l.lookup name = some a ↔ (name, a) ∈ l := by
  induction l with
  | nil => simp
  | cons p l ih =>
    obtain ⟨t, b⟩ := p
    obtain ⟨hfresh, hl⟩ := List.nodup_cons.1 hl
    by_cases hn : name = t
    · subst hn
      have hno : (name, a) ∉ l := fun hmem => hfresh (List.mem_map.2 ⟨_, hmem, rfl⟩)
      rw [List.lookup_cons_self, List.mem_cons, or_iff_left hno, Prod.mk.injEq, Option.some.injEq]
      exact ⟨fun h => ⟨rfl, h.symm⟩, fun h => h.2.symm⟩
    · have hne : (name, a) ≠ (t, b) := fun h => hn (congrArg Prod.fst h)
      rw [lookup_cons_of_ne hn, ih hl, List.mem_cons, or_iff_right hne]

/-- Lists with the same pairs say the same, whatever their order. -/
theorem lookup_eq_of_perm {l m : List (String × α)} (hl : (l.map (·.1)).Nodup) (hlm : l.Perm m)
    (name : String) : l.lookup name = m.lookup name := by
  have hm : (m.map (·.1)).Nodup := (hlm.map _).nodup_iff.1 hl
  refine Option.ext fun a => ?_
  rw [lookup_eq_some_iff hl, lookup_eq_some_iff hm]
  exact hlm.mem_iff

end VarStore
