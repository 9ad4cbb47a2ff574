import VarStore.Proofs.Toml.Blank
import VarStore.Toml.Table
import Mathlib.Data.List.Nodup

/-!
# Putting a table together by the rules of TOML

The grammar says with relations how statements change a table, and the reader looks entries up and
replaces them.  The two agree.  Where the rules allow a change, it is made, and where it is made, the
rules allow it.

The second half needs that no key is there twice, since an entry that is replaced is replaced wherever
its key stands.  This holds of the tables that a path may lead into (`Unique`), and every change that
the rules allow keeps it.  Tables in braces are complete, so nothing need be known of them, and what a
statement enters is a value in which all tables are in braces (`Value.Orderly`).

* `descend_of_along`, `along_of_descend`, `unique_of_along`: following a path.
* `ofEntries_eq_ok_iff`: tables in braces.
* `apply_eq_ok_iff`, `foldlM_apply_eq_ok_iff`: statements, one and many.
-/

namespace VarStore
namespace Toml

variable {t t' u u' : Table} {key : String} {v v' : Value} {k : Key} {ps : List (Key × Value)}
variable {made o : Origin} {path : List String} {ss : List Statement}

/-! ## One entry -/

namespace Table

theorem lookup_eq_none_iff_lacks : t.lookup key = none ↔ t.Lacks key := by
  rw [List.lookup_eq_none_iff]
  simp only [Lacks, bne_iff_ne, ne_comm]

theorem gains_iff : Gains key v t t' ↔ t.lookup key = none ∧ t' = t ++ [(key, v)] := by
  rw [lookup_eq_none_iff_lacks]
  constructor
  · rintro ⟨hlacks⟩
    exact ⟨hlacks, rfl⟩
  · rintro ⟨hlacks, rfl⟩
    exact .intro hlacks

theorem Changes.lookup (h : Changes key v v' t t') : t.lookup key = some v := by
  obtain ⟨hfront, -⟩ := h
  rw [List.lookup_append, lookup_eq_none_iff_lacks.2 hfront, Option.none_or, List.lookup_cons_self]

theorem replace_of_lacks (h : t.Lacks key) : t.replace key v = t := by
  refine (List.map_congr_left fun p hp => ?_).trans (List.map_id t)
  exact if_neg (h p hp)

theorem Changes.replace (h : Changes key v v' t t') : t.replace key v' = t' := by
  obtain @⟨front, back, hfront, hback⟩ := h
  have happend : (front ++ (key, v) :: back).replace key v' =
      front.replace key v' ++ (key, v') :: back.replace key v' := by
    rw [Table.replace, List.map_append, List.map_cons, if_pos rfl]
    rfl
  rw [happend, replace_of_lacks hfront, replace_of_lacks hback]

/-- Where no key is there twice, an entry is replaced in its place. -/
theorem changes_replace {w : Value} (ht : (t.map Prod.fst).Nodup) (h : t.lookup key = some v) :
    Changes key v w t (t.replace key w) := by
  obtain ⟨front, back, rfl, hfront⟩ := List.lookup_eq_some_iff.1 h
  have hfront : Lacks front key := fun p hp => (bne_iff_ne.1 (hfront p hp)).symm
  have hback : Lacks back key := by
    intro p hp heq
    rw [List.map_append, List.map_cons] at ht
    refine (List.nodup_cons.1 (List.nodup_append.1 ht).2.1).1 ?_
    exact List.mem_map.2 ⟨p, hp, heq⟩
  have hchanges : Changes key v w (front ++ (key, v) :: back) (front ++ (key, w) :: back) :=
    .intro hfront hback
  rw [hchanges.replace]
  exact hchanges

theorem add_eq_ok_iff : t.add key v = .ok t' ↔ Gains key v t t' := by
  rw [gains_iff, add]
  split
  · next hlookup => rw [and_iff_right hlookup, Except.ok.injEq, eq_comm]
  · next hlookup => exact iff_of_false nofun fun h => nomatch hlookup.symm.trans h.1

/-! ## Tables in which no key is there twice -/

/-- No key is there twice, neither in the table nor in the tables that a path may lead into from
there. -/
inductive Unique : Table → Prop
  | intro {t : Table} : (t.map Prod.fst).Nodup →
    (∀ key o u, (key, Value.table o u) ∈ t → o ≠ .braces → Unique u) →
    (∀ key us u, (key, Value.tables us) ∈ t → u ∈ us → Unique u) → Unique t

end Table

/-- No key is there twice in the tables that a path may lead into from the value. -/
def Value.Orderly : Value → Prop
  | .table o u => o ≠ .braces → Table.Unique u
  | .tables us => ∀ u ∈ us, Table.Unique u
  | _ => True

namespace Table

theorem unique_iff : t.Unique ↔ (t.map Prod.fst).Nodup ∧ ∀ p ∈ t, p.2.Orderly := by
  constructor
  · rintro ⟨hkeys, htable, htables⟩
    refine ⟨hkeys, ?_⟩
    rintro ⟨key, v⟩ hp
    cases v with
    | table o u => exact htable key o u hp
    | tables us => exact fun u hu => htables key us u hp hu
    | _ => trivial
  · rintro ⟨hkeys, horderly⟩
    exact .intro hkeys (fun key o u hp => horderly (key, .table o u) hp)
      fun key us u hp => horderly (key, .tables us) hp u

theorem unique_nil : Unique [] := unique_iff.2 ⟨List.nodup_nil, nofun⟩

theorem Gains.unique (h : Gains key v t t') (ht : t.Unique) (hv : v.Orderly) : t'.Unique := by
  obtain ⟨hlacks⟩ := h
  obtain ⟨hkeys, horderly⟩ := unique_iff.1 ht
  refine unique_iff.2 ⟨?_, ?_⟩
  · rw [List.map_append, List.nodup_append]
    refine ⟨hkeys, List.nodup_singleton key, ?_⟩
    intro a ha b hb
    obtain ⟨p, hp, rfl⟩ := List.mem_map.1 ha
    rw [List.mem_singleton.1 hb]
    exact hlacks p hp
  · rw [List.forall_mem_append]
    exact ⟨horderly, List.forall_mem_singleton.2 hv⟩

theorem Changes.orderly (h : Changes key v v' t t') (ht : t.Unique) : v.Orderly := by
  obtain @⟨front, back, -, -⟩ := h
  exact (unique_iff.1 ht).2 (key, v) (by simp)

theorem Changes.unique (h : Changes key v v' t t') (ht : t.Unique) (hv : v'.Orderly) :
    t'.Unique := by
  obtain @⟨front, back, -, -⟩ := h
  obtain ⟨hkeys, horderly⟩ := unique_iff.1 ht
  refine unique_iff.2 ⟨?_, ?_⟩
  · rwa [List.map_append, List.map_cons] at hkeys ⊢
  · rw [List.forall_mem_append, List.forall_mem_cons] at horderly ⊢
    exact ⟨horderly.1, hv, horderly.2.2⟩

end Table

/-! ## Following a path -/

section

variable {R : Origin → Table → Table → Prop} {change : Origin → Table → Except Fault Table}

/-- **Where the rules let a path lead, it is followed.** -/
theorem descend_of_along (hR : ∀ {o u u'}, R o u u' → change o u = .ok u')
    (h : Along made R path o t t') : Table.descend made change path o t = .ok t' := by
  induction h with
  | here h => exact hR h
  | new _ hgains ih =>
    obtain ⟨hlookup, rfl⟩ := Table.gains_iff.1 hgains
    rw [Table.descend, hlookup]
    simp only [ih, Except.map]
  | @table key path origin o t t' u u' hbraces hdotted _ hchanges ih =>
    have hopen : ¬ (o = .braces ∨ made = .dotted ∧ o = .header) := by
      rintro (ho | ⟨hmade, ho⟩)
      · exact hbraces ho
      · exact hdotted hmade ho
    rw [Table.descend, hchanges.lookup]
    simp only [if_neg hopen, ih, Except.map, hchanges.replace]
  | element _ hchanges ih =>
    rw [Table.descend, hchanges.lookup]
    simp only [List.getLast?_concat, List.dropLast_concat, ih, Except.map, hchanges.replace]

/-- **A path that is followed leads where the rules let it.** -/
theorem along_of_descend (hR : ∀ {o u u'}, u.Unique → change o u = .ok u' → R o u u')
    (ht : t.Unique) (h : Table.descend made change path o t = .ok t') :
    Along made R path o t t' := by
  induction path generalizing o t t' with
  | nil => exact .here (hR ht h)
  | cons key path ih =>
    have hkeys := (Table.unique_iff.1 ht).1
    rw [Table.descend] at h
    split at h
    · next hlookup =>
      obtain ⟨u, hu, rfl⟩ := exists_of_map_eq_ok h
      exact .new (ih Table.unique_nil hu) (Table.gains_iff.2 ⟨hlookup, rfl⟩)
    · next o' u hlookup =>
      split at h
      · nomatch h
      · next hopen =>
        obtain ⟨u', hu', rfl⟩ := exists_of_map_eq_ok h
        have hchanges := Table.changes_replace (w := .table o' u') hkeys hlookup
        have hbraces : o' ≠ .braces := fun ho => hopen (.inl ho)
        refine .table hbraces (fun hmade ho => hopen (.inr ⟨hmade, ho⟩)) ?_ hchanges
        exact ih (hchanges.orderly ht hbraces) hu'
    · next us hlookup =>
      split at h
      · nomatch h
      · next u hlast =>
        obtain ⟨u', hu', rfl⟩ := exists_of_map_eq_ok h
        obtain ⟨us, rfl⟩ := List.getLast?_eq_some_iff.1 hlast
        have hchanges := Table.changes_replace (w := .tables (us ++ [u'])) hkeys hlookup
        rw [List.dropLast_concat]
        exact .element (ih (hchanges.orderly ht u (by simp)) hu') hchanges
    · nomatch h

/-- What the rules allow along a path makes no key be there twice, if it does not at the end. -/
theorem unique_of_along (hR : ∀ {o u u'}, u.Unique → R o u u' → u'.Unique)
    (h : Along made R path o t t') (ht : t.Unique) : t'.Unique := by
  induction h with
  | here h => exact hR ht h
  | new _ hgains ih => exact hgains.unique ht fun _ => ih Table.unique_nil
  | table hbraces _ _ hchanges ih =>
    exact hchanges.unique ht fun _ => ih (hchanges.orderly ht hbraces)
  | @element _ _ _ _ _ u u' us _ hchanges ih =>
    refine hchanges.unique ht ?_
    have hus := hchanges.orderly ht
    intro x hx
    rcases List.mem_append.1 hx with hx | hx
    · exact hus x (List.mem_append_left _ hx)
    · obtain rfl := List.mem_singleton.1 hx
      exact ih (hus u (by simp))

end

/-! ## Entries -/

theorem addDotted_of_enters (h : Enters k v t t') : t.addDotted k.path k.last v = .ok t' := by
  refine descend_of_along ?_ h
  rintro o u u' ⟨horigin, hgains⟩
  rw [if_neg fun hnot => hnot.2 (horigin hnot.1)]
  exact Table.add_eq_ok_iff.2 hgains

theorem enters_of_addDotted (ht : t.Unique) (h : t.addDotted k.path k.last v = .ok t') :
    Enters k v t t' := by
  refine along_of_descend ?_ ht h
  intro o u u' _ hchange
  split at hchange
  · nomatch hchange
  · next hnot =>
    refine ⟨fun hpath => ?_, Table.add_eq_ok_iff.1 hchange⟩
    by_contra ho
    exact hnot ⟨hpath, ho⟩

theorem Enters.unique (h : Enters k v t t') (hv : v.Orderly) (ht : t.Unique) : t'.Unique :=
  unique_of_along (fun hu h => h.2.unique hu hv) h ht

theorem foldlM_of_fills (h : Fills ps t t') :
    ps.foldlM (fun t p => Table.addDotted t p.1.path p.1.last p.2) t = .ok t' := by
  induction h with
  | nil => rfl
  | cons hentry _ ih =>
    rw [List.foldlM_cons, addDotted_of_enters hentry]
    exact ih

theorem fills_of_foldlM (hps : ∀ p ∈ ps, p.2.Orderly) (ht : t.Unique)
    (h : ps.foldlM (fun t p => Table.addDotted t p.1.path p.1.last p.2) t = .ok t') :
    Fills ps t t' := by
  induction ps generalizing t with
  | nil =>
    obtain rfl := Except.ok.inj h
    exact .nil
  | cons p ps ih =>
    obtain ⟨hp, hps⟩ := List.forall_mem_cons.1 hps
    rw [List.foldlM_cons] at h
    obtain ⟨u, hadd, hrest⟩ := exists_of_bind_eq_ok h
    have henters := enters_of_addDotted ht hadd
    exact .cons henters (ih hps (henters.unique hp ht) hrest)

/-- **Tables in braces are put together by the rules.** -/
theorem ofEntries_eq_ok_iff (hps : ∀ p ∈ ps, p.2.Orderly) :
    Table.ofEntries ps = .ok t ↔ Fills ps [] t :=
  ⟨fills_of_foldlM hps Table.unique_nil, foldlM_of_fills⟩

/-! ## Headers -/

theorem openTable_of_along (h : Along .implied (fun _ => Opens k.last) k.path .header t t') :
    t.openTable k.path k.last = .ok t' := by
  refine descend_of_along ?_ h
  rintro - u u' (hgains | hchanges)
  · obtain ⟨hlookup, rfl⟩ := Table.gains_iff.1 hgains
    rw [hlookup]
  · rw [hchanges.lookup, ← hchanges.replace]

theorem along_of_openTable (ht : t.Unique) (h : t.openTable k.path k.last = .ok t') :
    Along .implied (fun _ => Opens k.last) k.path .header t t' := by
  refine along_of_descend ?_ ht h
  intro _ u u' hu hchange
  split at hchange
  · next hlookup =>
    obtain rfl := Except.ok.inj hchange
    exact .new (Table.gains_iff.2 ⟨hlookup, rfl⟩)
  · next hlookup =>
    obtain rfl := Except.ok.inj hchange
    exact .implied (Table.changes_replace (Table.unique_iff.1 hu).1 hlookup)
  · nomatch hchange

theorem Opens.unique (h : Opens key t t') (ht : t.Unique) : t'.Unique := by
  cases h with
  | new hgains => exact hgains.unique ht fun _ => Table.unique_nil
  | implied hchanges => exact hchanges.unique ht fun _ => hchanges.orderly ht (by decide)

theorem openElement_of_along (h : Along .implied (fun _ => Extends k.last) k.path .header t t') :
    t.openElement k.path k.last = .ok t' := by
  refine descend_of_along ?_ h
  rintro - u u' (hgains | hchanges)
  · obtain ⟨hlookup, rfl⟩ := Table.gains_iff.1 hgains
    rw [hlookup]
  · rw [hchanges.lookup, ← hchanges.replace]

theorem along_of_openElement (ht : t.Unique) (h : t.openElement k.path k.last = .ok t') :
    Along .implied (fun _ => Extends k.last) k.path .header t t' := by
  refine along_of_descend ?_ ht h
  intro _ u u' hu hchange
  split at hchange
  · next hlookup =>
    obtain rfl := Except.ok.inj hchange
    exact .new (Table.gains_iff.2 ⟨hlookup, rfl⟩)
  · next hlookup =>
    obtain rfl := Except.ok.inj hchange
    exact .next (Table.changes_replace (Table.unique_iff.1 hu).1 hlookup)
  · nomatch hchange

theorem Extends.unique (h : Extends key t t') (ht : t.Unique) : t'.Unique := by
  cases h with
  | new hgains =>
    refine hgains.unique ht fun u hu => ?_
    rw [List.mem_singleton.1 hu]
    exact Table.unique_nil
  | next hchanges =>
    refine hchanges.unique ht fun u hu => ?_
    rcases List.mem_append.1 hu with hu | hu
    · exact hchanges.orderly ht u hu
    · rw [List.mem_singleton.1 hu]
      exact Table.unique_nil

/-! ## Statements -/

variable {d d' : Draft} {s : Statement}

/-- What a statement enters is in order. -/
def Statement.Orderly : Statement → Prop
  | .entry _ v => v.Orderly
  | _ => True

theorem apply_of_step (h : Step d s d') : d.apply s = .ok d' := by
  cases h with
  | table h =>
    change (Table.openTable _ _ _).map _ = _
    rw [openTable_of_along h]
    rfl
  | element h =>
    change (Table.openElement _ _ _).map _ = _
    rw [openElement_of_along h]
    rfl
  | @entry k v header t t' h =>
    have hread : Table.descend .implied (fun _ u => u.addDotted k.path k.last v) header .header t =
        .ok t' := descend_of_along (fun henters => addDotted_of_enters henters) h
    change (Table.descend _ _ _ _ _).map _ = _
    rw [hread]
    rfl

theorem step_of_apply (hd : d.table.Unique) (h : d.apply s = .ok d') : Step d s d' := by
  cases s with
  | table k =>
    obtain ⟨t, ht, rfl⟩ := exists_of_map_eq_ok h
    exact .table (along_of_openTable hd ht)
  | element k =>
    obtain ⟨t, ht, rfl⟩ := exists_of_map_eq_ok h
    exact .element (along_of_openElement hd ht)
  | entry k v =>
    obtain ⟨t, ht, rfl⟩ := exists_of_map_eq_ok h
    exact .entry (along_of_descend enters_of_addDotted hd ht)

theorem Step.unique (h : Step d s d') (hs : s.Orderly) (hd : d.table.Unique) : d'.table.Unique := by
  cases h with
  | table h => exact unique_of_along (fun hu h => h.unique hu) h hd
  | element h => exact unique_of_along (fun hu h => h.unique hu) h hd
  | entry h => exact unique_of_along (fun hu h => h.unique hs hu) h hd

theorem foldlM_of_runs (h : Runs d ss d') : ss.foldlM Draft.apply d = .ok d' := by
  induction h with
  | nil => rfl
  | cons hstep _ ih =>
    rw [List.foldlM_cons, apply_of_step hstep]
    exact ih

theorem runs_of_foldlM (hss : ∀ s ∈ ss, s.Orderly) (hd : d.table.Unique)
    (h : ss.foldlM Draft.apply d = .ok d') : Runs d ss d' := by
  induction ss generalizing d with
  | nil =>
    obtain rfl := Except.ok.inj h
    exact .nil
  | cons s ss ih =>
    obtain ⟨hs, hss⟩ := List.forall_mem_cons.1 hss
    rw [List.foldlM_cons] at h
    obtain ⟨e, happly, hrest⟩ := exists_of_bind_eq_ok h
    have hstep := step_of_apply hd happly
    exact .cons hstep (ih hss (hstep.unique hs hd) hrest)

/-- **Statements make the table that the rules say.** -/
theorem ofStatements_eq_ok_iff (hss : ∀ s ∈ ss, s.Orderly) :
    Table.ofStatements ss = .ok t ↔ ∃ h, Runs ⟨[], []⟩ ss ⟨t, h⟩ := by
  constructor
  · intro h
    obtain ⟨⟨_, header⟩, hrun, rfl⟩ := exists_of_map_eq_ok h
    exact ⟨header, runs_of_foldlM hss Table.unique_nil hrun⟩
  · rintro ⟨header, hruns⟩
    rw [Table.ofStatements, foldlM_of_runs hruns]
    rfl

end Toml
end VarStore
