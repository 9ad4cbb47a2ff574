import VarStore.Proofs.Lookup
import VarStore.Proofs.Toml.Blank

/-!
# What a document says at top level

Statements are put together to a table one by one, and each of them changes the table under one name
only: the first part of its key, or of the header that it stands under.  So what can be looked up in
the table is known from the statements alone.

A statement speaks about top level if it is a header, or stands in front of the first header.  A name
is present in the table if one of these speaks about it (`lookup_eq_none_iff`).  A value that is no
table stands there just as it was entered, since nothing is ever added to it
(`lookup_eq_some_iff`).

* `topLevel`, `Present`, `Entered`: what statements say at top level.
* `Table.Grows`: what a statement with a longer path, or a header, does to the table.
-/

namespace VarStore
namespace Toml

/-! ## Statements at top level -/

/-- Is the statement a key with its value? -/
def Statement.isEntry : Statement → Bool
  | .entry .. => true
  | _ => false

/-- The key of a statement. -/
def Statement.key : Statement → Key
  | .table key => key
  | .element key => key
  | .entry key _ => key

/-- The first part of a key. -/
def Key.first (k : Key) : String := k.path.head?.getD k.last

/-- The statements that speak about top level: the entries in front of the first header, and all
headers. -/
def topLevel (ss : List Statement) : List Statement :=
  ss.takeWhile (·.isEntry) ++ ss.filter (!·.isEntry)

/-- The name is present at top level. -/
def Present (ss : List Statement) (name : String) : Prop :=
  ∃ s ∈ topLevel ss, s.key.first = name

/-- The value is entered under the name at top level. -/
def Entered (ss : List Statement) (name : String) (v : Value) : Prop :=
  .entry ⟨[], name⟩ v ∈ topLevel ss

/-- Entries whose keys have no dots, under no header. -/
def statements (es : List (String × Value)) : List Statement :=
  es.map fun p => .entry ⟨[], p.1⟩ p.2

/-- Nothing is ever added to the value: it is no table and no array of tables. -/
def Value.IsWhole : Value → Prop
  | .table .. => False
  | .tables _ => False
  | _ => True

variable {t t' u : Table} {key name : String} {v w : Value} {s : Statement} {ss : List Statement}
variable {d d' : Draft}

/-! ## One name at a time -/

namespace Table

/-- The second table holds the value under the key, and otherwise the same as the first. -/
structure Sets (t t' : Table) (key : String) (v : Value) : Prop where
  self : t'.lookup key = some v
  other : ∀ name, name ≠ key → t'.lookup name = t.lookup name

theorem lookup_append_singleton_of_ne (h : name ≠ key) :
    (t ++ [(key, v)]).lookup name = t.lookup name := by
  induction t with
  | nil => exact lookup_cons_of_ne h v []
  | cons p t ih =>
    obtain ⟨k, x⟩ := p
    rw [List.cons_append, List.lookup_cons, List.lookup_cons, ih]

theorem sets_append (h : t.lookup key = none) : t.Sets (t ++ [(key, v)]) key v where
  other _ hname := lookup_append_singleton_of_ne hname
  self := by
    induction t with
    | nil => exact List.lookup_cons_self
    | cons p t ih =>
      obtain ⟨k, x⟩ := p
      by_cases hk : key = k
      · rw [hk, List.lookup_cons_self] at h
        nomatch h
      · rw [lookup_cons_of_ne hk] at h
        rw [List.cons_append, lookup_cons_of_ne hk, ih h]

theorem replace_cons (p : String × Value) (t : Table) (key : String) (v : Value) :
    replace (p :: t) key v = (if p.1 = key then (key, v) else p) :: t.replace key v := rfl

theorem lookup_replace_of_ne (h : name ≠ key) :
    (t.replace key v).lookup name = t.lookup name := by
  induction t with
  | nil => rfl
  | cons p t ih =>
    obtain ⟨k, x⟩ := p
    rw [replace_cons]
    split
    · next hk =>
      have hk : k = key := hk
      rw [lookup_cons_of_ne h, ih, hk, lookup_cons_of_ne h]
    · rw [List.lookup_cons, List.lookup_cons, ih]

theorem sets_replace (h : t.lookup key = some w) : t.Sets (t.replace key v) key v where
  other _ hname := lookup_replace_of_ne hname
  self := by
    induction t with
    | nil => nomatch h
    | cons p t ih =>
      obtain ⟨k, x⟩ := p
      rw [replace_cons]
      split
      · exact List.lookup_cons_self
      · next hk =>
        have hk : key ≠ k := fun heq => hk heq.symm
        rw [lookup_cons_of_ne hk] at h
        rw [lookup_cons_of_ne hk, ih h]

theorem Sets.lookup_eq_none_iff (h : t.Sets t' key v) :
    t'.lookup name = none ↔ t.lookup name = none ∧ key ≠ name := by
  by_cases hname : name = key
  · subst hname
    rw [h.self]
    exact iff_of_false nofun fun h => h.2 rfl
  · rw [h.other name hname, and_iff_left (Ne.symm hname)]

/-- A value that is entered under a new name comes to what is there already. -/
theorem Sets.lookup_eq_some_iff (h : t.Sets t' key v) (hkey : t.lookup key = none) :
    t'.lookup name = some w ↔ t.lookup name = some w ∨ (key = name ∧ v = w) := by
  by_cases hname : name = key
  · subst hname
    rw [h.self, hkey, Option.some.injEq]
    exact ⟨fun heq => .inr ⟨rfl, heq⟩, fun h => (h.resolve_left nofun).2⟩
  · rw [h.other name hname, or_iff_left fun h => hname h.1.symm]

/-- Under the key there is a table or an array of tables afterwards, and nothing was there before to
which nothing is added. -/
structure Grows (t t' : Table) (key : String) : Prop where
  before : ∀ v, t.lookup key = some v → ¬ v.IsWhole
  after : ∃ v, ¬ v.IsWhole ∧ t.Sets t' key v

theorem grows_append (h : t.lookup key = none) (hv : ¬ v.IsWhole) :
    t.Grows (t ++ [(key, v)]) key where
  before w hw := by
    rw [h] at hw
    nomatch hw
  after := ⟨v, hv, sets_append h⟩

theorem grows_replace (h : t.lookup key = some w) (hw : ¬ w.IsWhole) (hv : ¬ v.IsWhole) :
    t.Grows (t.replace key v) key where
  before x hx := by
    obtain rfl := Option.some.inj (h.symm.trans hx)
    exact hw
  after := ⟨v, hv, sets_replace h⟩

theorem Grows.lookup_eq_none_iff (h : t.Grows t' key) :
    t'.lookup name = none ↔ t.lookup name = none ∧ key ≠ name := by
  obtain ⟨v, -, hsets⟩ := h.after
  exact hsets.lookup_eq_none_iff

/-- Where a table grows, what is no table stays. -/
theorem Grows.lookup_eq_some_iff (h : t.Grows t' key) (hw : w.IsWhole) :
    t'.lookup name = some w ↔ t.lookup name = some w := by
  obtain ⟨v, hv, hsets⟩ := h.after
  by_cases hname : name = key
  · subst hname
    rw [hsets.self]
    refine iff_of_false (fun heq => ?_) fun heq => h.before w heq hw
    exact hv (Option.some.inj heq ▸ hw)
  · rw [hsets.other name hname]

/-- **A path that is followed changes the table under its first part.** -/
theorem grows_of_descend {made origin : Origin} {change : Origin → Table → Except Fault Table}
    {path : List String} (h : descend made change (key :: path) origin t = .ok t') :
    t.Grows t' key := by
  rw [descend] at h
  split at h
  · next hlookup =>
    obtain ⟨u, -, rfl⟩ := exists_of_map_eq_ok h
    exact grows_append hlookup id
  · next o u hlookup =>
    split at h
    · nomatch h
    · obtain ⟨u, -, rfl⟩ := exists_of_map_eq_ok h
      exact grows_replace hlookup id id
  · next us hlookup =>
    split at h
    · nomatch h
    · obtain ⟨u, -, rfl⟩ := exists_of_map_eq_ok h
      exact grows_replace hlookup id id
  · nomatch h

/-- A header changes the table under its first part. -/
theorem grows_of_openTable {path : List String} (h : t.openTable path key = .ok t') :
    t.Grows t' (Key.mk path key).first := by
  cases path with
  | cons k path => exact grows_of_descend h
  | nil =>
    rw [openTable, descend] at h
    split at h
    · next hlookup =>
      cases h
      exact grows_append hlookup id
    · next v hlookup =>
      cases h
      exact grows_replace hlookup id id
    · nomatch h

theorem grows_of_openElement {path : List String} (h : t.openElement path key = .ok t') :
    t.Grows t' (Key.mk path key).first := by
  cases path with
  | cons k path => exact grows_of_descend h
  | nil =>
    rw [openElement, descend] at h
    split at h
    · next hlookup =>
      cases h
      exact grows_append hlookup id
    · next us hlookup =>
      cases h
      exact grows_replace hlookup id id
    · nomatch h

/-- A key without dots must be new, and is entered. -/
theorem sets_of_addDotted_nil (h : t.addDotted [] key v = .ok t') :
    t.lookup key = none ∧ t.Sets t' key v := by
  rw [addDotted, descend, if_neg (fun h => h.1 rfl), add] at h
  split at h
  · next hlookup =>
    cases h
    exact ⟨hlookup, sets_append hlookup⟩
  · nomatch h

end Table

/-! ## One statement at a time -/

/-- A header changes the table under its first part, and what follows stands under it. -/
theorem grows_of_header (h : d.apply s = .ok d') (hs : s.isEntry = false) :
    d.table.Grows d'.table s.key.first ∧ d'.header = s.key.parts := by
  cases s with
  | table k =>
    obtain ⟨t, ht, rfl⟩ := exists_of_map_eq_ok h
    exact ⟨Table.grows_of_openTable ht, rfl⟩
  | element k =>
    obtain ⟨t, ht, rfl⟩ := exists_of_map_eq_ok h
    exact ⟨Table.grows_of_openElement ht, rfl⟩
  | entry k v => nomatch hs

/-- An entry under a header changes the table under the first part of the header. -/
theorem grows_of_entry_below {k : Key} {head : String} {path : List String}
    (h : d.apply (.entry k v) = .ok d') (hheader : d.header = head :: path) :
    d.table.Grows d'.table head ∧ d'.header = d.header := by
  obtain ⟨t, ht, rfl⟩ := exists_of_map_eq_ok h
  rw [hheader] at ht
  exact ⟨Table.grows_of_descend ht, rfl⟩

/-- An entry in front of all headers changes the table under its first part, and if it has only one,
its value is entered there. -/
theorem entry_at_top {k : Key} (h : d.apply (.entry k v) = .ok d') (hheader : d.header = []) :
    d'.header = [] ∧
      ((k.path = [] ∧ d.table.lookup k.last = none ∧ d.table.Sets d'.table k.last v) ∨
        (k.path ≠ [] ∧ d.table.Grows d'.table k.first)) := by
  obtain ⟨t, ht, rfl⟩ := exists_of_map_eq_ok h
  rw [hheader] at ht
  refine ⟨hheader, ?_⟩
  obtain ⟨path, last⟩ := k
  change d.table.addDotted path last v = .ok t at ht
  cases path with
  | nil => exact .inl ⟨rfl, Table.sets_of_addDotted_nil ht⟩
  | cons head path => exact .inr ⟨List.cons_ne_nil _ _, Table.grows_of_descend ht⟩

theorem parts_eq_cons (k : Key) : ∃ path, k.parts = k.first :: path := by
  obtain ⟨path, last⟩ := k
  cases path with
  | nil => exact ⟨[], rfl⟩
  | cons head path => exact ⟨path ++ [last], rfl⟩

/-! ## Whole documents -/

theorem exists_of_foldlM_cons (h : (s :: ss).foldlM Draft.apply d = .ok d') :
    ∃ e, d.apply s = .ok e ∧ ss.foldlM Draft.apply e = .ok d' := by
  rw [List.foldlM_cons] at h
  exact exists_of_bind_eq_ok h

theorem topLevel_cons_header (hs : s.isEntry = false) :
    topLevel (s :: ss) = s :: ss.filter (!·.isEntry) := by
  rw [topLevel, List.takeWhile_cons_of_neg (by simp [hs]), List.filter_cons_of_pos (by simp [hs]),
    List.nil_append]

theorem topLevel_cons_entry (hs : s.isEntry = true) : topLevel (s :: ss) = s :: topLevel ss := by
  rw [topLevel, List.takeWhile_cons_of_pos hs, List.filter_cons_of_neg (by simp [hs]), topLevel,
    List.cons_append]

/-- The statements stand under a header whose table is there. -/
def Draft.Below (d : Draft) : Prop :=
  ∃ head path, d.header = head :: path ∧ d.table.lookup head ≠ none

/-- After a header the statements stand below it. -/
theorem below_of_header (h : d.apply s = .ok d') (hs : s.isEntry = false) : d'.Below := by
  obtain ⟨hgrows, hheader⟩ := grows_of_header h hs
  obtain ⟨path, hparts⟩ := parts_eq_cons s.key
  refine ⟨s.key.first, path, hheader.trans hparts, fun hnone => ?_⟩
  exact (hgrows.lookup_eq_none_iff.1 hnone).2 rfl

/-- **Below a header only further headers speak about top level**, and nothing changes that is no
table. -/
theorem lookup_below (hd : d.Below) (h : ss.foldlM Draft.apply d = .ok d') (name : String) :
    (d'.table.lookup name = none ↔ d.table.lookup name = none ∧
      ∀ s ∈ ss.filter (!·.isEntry), s.key.first ≠ name) ∧
    ∀ v : Value, v.IsWhole → (d'.table.lookup name = some v ↔ d.table.lookup name = some v) := by
  induction ss generalizing d with
  | nil =>
    cases h
    simp
  | cons s ss ih =>
    obtain ⟨e, hstep, hrun⟩ := exists_of_foldlM_cons h
    cases hs : s.isEntry with
    | false =>
      obtain ⟨hgrows, -⟩ := grows_of_header hstep hs
      obtain ⟨hnone, hsome⟩ := ih (below_of_header hstep hs) hrun
      rw [List.filter_cons_of_pos (by simp [hs])]
      refine ⟨?_, fun v hv => (hsome v hv).trans (hgrows.lookup_eq_some_iff hv)⟩
      rw [hnone, hgrows.lookup_eq_none_iff, List.forall_mem_cons, and_assoc]
    | true =>
      obtain ⟨head, path, hheader, hhead⟩ := hd
      cases s with
      | table k => nomatch hs
      | element k => nomatch hs
      | entry k v =>
        obtain ⟨hgrows, hsame⟩ := grows_of_entry_below hstep hheader
        have hbelow : e.Below := by
          refine ⟨head, path, hsame.trans hheader, fun hnone => ?_⟩
          exact hhead (hgrows.lookup_eq_none_iff.1 hnone).1
        obtain ⟨hnone, hsome⟩ := ih hbelow hrun
        rw [List.filter_cons_of_neg (by simp [Statement.isEntry])]
        refine ⟨?_, fun v hv => (hsome v hv).trans (hgrows.lookup_eq_some_iff hv)⟩
        have hkeep : d.table.lookup name = none → head ≠ name := fun hn heq => hhead (heq ▸ hn)
        rw [hnone, hgrows.lookup_eq_none_iff, and_iff_left_of_imp hkeep]

theorem present_cons_entry {k : Key} :
    Present (.entry k v :: ss) name ↔ k.first = name ∨ Present ss name := by
  rw [Present, topLevel_cons_entry rfl, List.exists_mem_cons_iff]
  rfl

theorem entered_cons_entry {k : Key} :
    Entered (.entry k v :: ss) name w ↔ (k = ⟨[], name⟩ ∧ v = w) ∨ Entered ss name w := by
  rw [Entered, topLevel_cons_entry rfl, List.mem_cons, Statement.entry.injEq, eq_comm (b := k),
    eq_comm (b := v)]
  rfl

/-- Where all keys are without dots and under no header, the names that are present are those of the
entries. -/
theorem present_statements_iff {es : List (String × Value)} :
    Present (statements es) name ↔ name ∈ es.map Prod.fst := by
  induction es with
  | nil => simp [Present, topLevel, statements]
  | cons p es ih =>
    rw [statements, List.map_cons, present_cons_entry, ← statements, ih, List.map_cons,
      List.mem_cons, eq_comm]
    rfl

theorem entered_statements_iff {es : List (String × Value)} :
    Entered (statements es) name v ↔ (name, v) ∈ es := by
  induction es with
  | nil => simp [Entered, topLevel, statements]
  | cons p es ih =>
    obtain ⟨k, w⟩ := p
    rw [statements, List.map_cons, entered_cons_entry, ← statements, ih, List.mem_cons,
      Prod.mk.injEq, Key.mk.injEq]
    simp only [true_and, eq_comm]

/-- Headers enter nothing. -/
theorem not_entered_cons_header (hs : s.isEntry = false) : ¬ Entered (s :: ss) name w := by
  rw [Entered, topLevel_cons_header hs, List.mem_cons, List.mem_filter, not_or]
  constructor
  · rintro rfl
    nomatch hs
  · rintro ⟨-, h⟩
    nomatch h

theorem not_present_cons_header (hs : s.isEntry = false) :
    ¬ Present (s :: ss) name ↔
      s.key.first ≠ name ∧ ∀ s ∈ ss.filter (!·.isEntry), s.key.first ≠ name := by
  rw [Present, topLevel_cons_header hs, List.exists_mem_cons_iff, not_or, not_exists]
  simp only [not_and, ne_eq]

/-- **A run over statements in front of which there is no header** enters what they say at top
level. -/
theorem lookup_run (hd : d.header = []) (h : ss.foldlM Draft.apply d = .ok d') (name : String) :
    (d'.table.lookup name = none ↔ d.table.lookup name = none ∧ ¬ Present ss name) ∧
    ∀ w : Value, w.IsWhole →
      (d'.table.lookup name = some w ↔ d.table.lookup name = some w ∨ Entered ss name w) := by
  induction ss generalizing d with
  | nil =>
    cases h
    simp [Present, Entered, topLevel]
  | cons s ss ih =>
    obtain ⟨e, hstep, hrun⟩ := exists_of_foldlM_cons h
    cases hs : s.isEntry with
    | false =>
      obtain ⟨hgrows, -⟩ := grows_of_header hstep hs
      obtain ⟨hnone, hsome⟩ := lookup_below (below_of_header hstep hs) hrun name
      refine ⟨?_, fun w hw => ?_⟩
      · rw [hnone, hgrows.lookup_eq_none_iff, not_present_cons_header hs, and_assoc]
      · rw [hsome w hw, hgrows.lookup_eq_some_iff hw, or_iff_left (not_entered_cons_header hs)]
    | true =>
      cases s with
      | table k => nomatch hs
      | element k => nomatch hs
      | entry k v =>
        obtain ⟨hheader, hcases⟩ := entry_at_top hstep hd
        obtain ⟨hnone, hsome⟩ := ih hheader hrun
        rw [hnone, present_cons_entry, not_or]
        simp only [entered_cons_entry]
        obtain ⟨path, last⟩ := k
        rcases hcases with ⟨rfl, hnew, hsets⟩ | ⟨hpath, hgrows⟩
        · refine ⟨?_, fun w hw => ?_⟩
          · rw [hsets.lookup_eq_none_iff, and_assoc]
            rfl
          · rw [hsome w hw, hsets.lookup_eq_some_iff hnew, or_assoc]
            simp
        · refine ⟨?_, fun w hw => ?_⟩
          · rw [hgrows.lookup_eq_none_iff, and_assoc]
          · have hdots : ¬ (Key.mk path last = ⟨[], name⟩ ∧ v = w) := fun h =>
              hpath (congrArg Key.path h.1)
            rw [hsome w hw, hgrows.lookup_eq_some_iff hw, or_iff_right hdots]

section

variable (h : Table.ofStatements ss = .ok t)

include h

theorem exists_run : ∃ d : Draft, ss.foldlM Draft.apply ⟨[], []⟩ = .ok d ∧ d.table = t :=
  exists_of_map_eq_ok h

/-- **A name is missing in the table of a document if no statement at top level has it.** -/
theorem lookup_eq_none_iff (name : String) : t.lookup name = none ↔ ¬ Present ss name := by
  obtain ⟨d, hrun, rfl⟩ := exists_run h
  rw [(lookup_run rfl hrun name).1]
  exact and_iff_right rfl

/-- **A value that is no table stands in the table if it was entered at top level.** -/
theorem lookup_eq_some_iff (name : String) (hv : v.IsWhole) :
    t.lookup name = some v ↔ Entered ss name v := by
  obtain ⟨d, hrun, rfl⟩ := exists_run h
  rw [(lookup_run rfl hrun name).2 v hv]
  exact or_iff_right nofun

end

end Toml
end VarStore
