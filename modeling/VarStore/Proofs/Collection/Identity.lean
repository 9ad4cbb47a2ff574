import VarStore.Proofs.Collection.Call
import Mathlib.Data.List.InsertIdx

/-!
# Values and the calls that brought them in

Two values under one key may have the same payload and the same expiry, so what is lost, repeated or
put in another order cannot be said of payloads.  Here each value has an identity, the number of the
call that inserted it, and is followed through the run.  The identities are kept beside the
collection (`tagged`): they go through the same edits as the values do, at the same places, and
nothing looks at them.  Leaving them out gives back the buckets (`map_snd_tagged`).

A run never puts a value anywhere but at the end of its bucket, so the identities of a bucket
increase, and that is all there is to their order and to their being different.  What an edit takes
away is found by cases on the edit; that a resolution takes away an expired value, and no other one
in its place, is where the position that the scan has remembered is looked up again.

* `tagged`: the buckets with identities, after any number of calls.
* `no_live_value_is_lost`: where the identities are, and how they go.
-/

namespace VarStore
namespace Collection

variable {c : Collection} {xs : List Call} {b : List (Nat × Entry)} {k : String} {n : Nat}

/-! ## Edits of values with identities -/

/-- Overwrite the payload of the first entry; it stays the same value. -/
def overwriteFirstTagged (value : String) : List (Nat × Entry) → List (Nat × Entry)
  | [] => []
  | t :: b => (t.1, t.2.setPayload value) :: b

/-- What an edit made by call `n` does to the bucket of a key. -/
def Edit.onTagged (n : Nat) (i : String) (b : List (Nat × Entry)) : Edit → List (Nat × Entry)
  | nothing => b
  | insert k value => if i = k then b ++ [(n, .fresh value)] else b
  | overwrite k value => if i = k then overwriteFirstTagged value b else b
  | rearm k expiry => if i = k then b.map fun t => (t.1, { t.2 with expiry }) else b
  | remove p => if i = p.key then b.eraseIdx p.index else b
  | drop k => if i = k then [] else b
  | sweep now => b.filter fun t => !t.2.isExpiredAt now
  | clear => []

/-- The bucket of a key after `n` calls of a run, each value with the number of the call that
inserted it.  The run starts without values. -/
def tagged (c : Collection) (xs : List Call) (k : String) : Nat → List (Nat × Entry)
  | 0 => []
  | n + 1 =>
    match xs[n]? with
    | none => c.tagged xs k n
    | some x => (x.edit (c.run (xs.take n))).onTagged n k (c.tagged xs k n)

theorem tagged_succ_of_none (h : xs[n]? = none) : c.tagged xs k (n + 1) = c.tagged xs k n := by
  rw [tagged, h]

theorem tagged_succ_of_some {x : Call} (h : xs[n]? = some x) :
    c.tagged xs k (n + 1) =
      (x.edit (c.run (xs.take n))).onTagged n k (c.tagged xs k n) := by
  rw [tagged, h]

theorem map_snd_overwriteFirstTagged (value : String) (b : List (Nat × Entry)) :
    (overwriteFirstTagged value b).map (·.2) = overwriteFirst value (b.map (·.2)) := by
  cases b <;> rfl

theorem map_fst_overwriteFirstTagged (value : String) (b : List (Nat × Entry)) :
    (overwriteFirstTagged value b).map (·.1) = b.map (·.1) := by
  cases b <;> rfl

theorem map_fst_rearmed (expiry : Option Instant) (b : List (Nat × Entry)) :
    (b.map fun t => (t.1, { t.2 with expiry })).map (·.1) = b.map (·.1) := by
  rw [List.map_map]
  rfl

/-- The values do not notice their identities. -/
theorem map_snd_onTagged (n : Nat) (i : String) (b : List (Nat × Entry)) (e : Edit) :
    (e.onTagged n i b).map (·.2) = e.onBucket i (b.map (·.2)) := by
  cases e with
  | nothing => rfl
  | insert k value =>
    rw [Edit.onTagged, Edit.onBucket]
    split
    · rw [List.map_append]
      rfl
    · rfl
  | overwrite k value =>
    rw [Edit.onTagged, Edit.onBucket]
    split
    · exact map_snd_overwriteFirstTagged value b
    · rfl
  | rearm k expiry =>
    rw [Edit.onTagged, Edit.onBucket]
    split
    · rw [List.map_map, List.map_map]
      rfl
    · rfl
  | remove p =>
    rw [Edit.onTagged, Edit.onBucket]
    split
    · rw [List.eraseIdx_map]
    · rfl
  | drop k =>
    rw [Edit.onTagged, Edit.onBucket]
    split <;> rfl
  | sweep now =>
    rw [Edit.onTagged, Edit.onBucket, liveEntries, List.filter_map]
    rfl
  | clear => rfl

/-- **Without the identities these are the buckets.** -/
theorem map_snd_tagged (hc : c.buckets = []) (xs : List Call) (k : String) (n : Nat) :
    (c.tagged xs k n).map (·.2) = (c.run (xs.take n)).bucket k := by
  have hwf : c.buckets.WellFormed := hc ▸ Buckets.wellFormed_nil
  induction n with
  | zero =>
    rw [List.take_zero, run_nil, bucket, hc]
    rfl
  | succ n ih =>
    cases hx : xs[n]? with
    | none =>
      rw [tagged_succ_of_none hx, ih, List.take_add_one, hx, Option.toList_none, List.append_nil]
    | some x =>
      rw [tagged_succ_of_some hx, map_snd_onTagged, ih, run_take_succ c hx, fst_perform,
        bucket_apply (wellFormed_run hwf _)]

/-! ## Where the identities are -/

/-- **What an edit can do to the identities of a bucket.**  They stay as they are, or a new one is
put at the end, or all of them go, or those of the expired values, or the one at some place. -/
theorem onTagged_cases (n : Nat) (i : String) (b : List (Nat × Entry)) (e : Edit) :
    (e.onTagged n i b).map (·.1) = b.map (·.1) ∨
      (∃ value, e = .insert i value ∧ e.onTagged n i b = b ++ [(n, .fresh value)]) ∨
      (e = .drop i ∨ e = .clear) ∧ e.onTagged n i b = [] ∨
      (∃ now, e = .sweep now ∧ e.onTagged n i b = b.filter fun t => !t.2.isExpiredAt now) ∨
      ∃ p, e = .remove p ∧ p.key = i ∧ e.onTagged n i b = b.eraseIdx p.index := by
  cases e with
  | nothing => exact Or.inl rfl
  | insert k value =>
    by_cases hi : i = k
    · subst hi
      exact Or.inr (Or.inl ⟨value, rfl, if_pos rfl⟩)
    · exact Or.inl (congrArg _ (if_neg hi))
  | overwrite k value =>
    left
    rw [Edit.onTagged]
    split
    · exact map_fst_overwriteFirstTagged value b
    · rfl
  | rearm k expiry =>
    left
    rw [Edit.onTagged]
    split
    · exact map_fst_rearmed expiry b
    · rfl
  | remove p =>
    by_cases hi : i = p.key
    · exact Or.inr (Or.inr (Or.inr (Or.inr ⟨p, rfl, hi.symm, if_pos hi⟩)))
    · exact Or.inl (congrArg _ (if_neg hi))
  | drop k =>
    by_cases hi : i = k
    · subst hi
      exact Or.inr (Or.inr (Or.inl ⟨Or.inl rfl, if_pos rfl⟩))
    · exact Or.inl (congrArg _ (if_neg hi))
  | sweep now => exact Or.inr (Or.inr (Or.inr (Or.inl ⟨now, rfl, rfl⟩)))
  | clear => exact Or.inr (Or.inr (Or.inl ⟨Or.inr rfl, rfl⟩))

/-- An edit adds at most its own identity, and that at the end. -/
theorem map_fst_onTagged_sublist (n : Nat) (i : String) (b : List (Nat × Entry)) (e : Edit) :
    ((e.onTagged n i b).map (·.1)).Sublist (b.map (·.1) ++ [n]) := by
  have hpart : ∀ {a : List (Nat × Entry)}, a.Sublist b →
      (a.map (·.1)).Sublist (b.map (·.1) ++ [n]) :=
    fun hab => (hab.map _).trans (List.sublist_append_left _ _)
  rcases onTagged_cases n i b e with h | ⟨value, -, h⟩ | ⟨-, h⟩ | ⟨now, -, h⟩ | ⟨p, -, -, h⟩ <;>
    rw [h]
  · exact List.sublist_append_left _ _
  · rw [List.map_append]
    exact List.Sublist.refl _
  · exact List.nil_sublist _
  · exact hpart List.filter_sublist
  · exact hpart (List.eraseIdx_sublist b p.index)

/-- Identities are the numbers of calls that were made. -/
theorem lt_of_mem_tagged {i : Nat} (h : i ∈ (c.tagged xs k n).map (·.1)) : i < n := by
  induction n with
  | zero => exact absurd h List.not_mem_nil
  | succ n ih =>
    cases hx : xs[n]? with
    | none =>
      rw [tagged_succ_of_none hx] at h
      exact Nat.lt_succ_of_lt (ih h)
    | some x =>
      rw [tagged_succ_of_some hx] at h
      rcases List.mem_append.1 ((map_fst_onTagged_sublist n k _ _).subset h) with h | h
      · exact Nat.lt_succ_of_lt (ih h)
      · rw [List.mem_singleton.1 h]
        exact Nat.lt_succ_self n

/-- **The identities of a bucket stand in the order of insertion**, and none of them twice. -/
theorem pairwise_lt_tagged (c : Collection) (xs : List Call) (k : String) (n : Nat) :
    ((c.tagged xs k n).map (·.1)).Pairwise (· < ·) := by
  induction n with
  | zero => exact List.Pairwise.nil
  | succ n ih =>
    cases hx : xs[n]? with
    | none =>
      rw [tagged_succ_of_none hx]
      exact ih
    | some x =>
      rw [tagged_succ_of_some hx]
      refine List.Pairwise.sublist (map_fst_onTagged_sublist n k _ _) ?_
      refine List.pairwise_append.2 ⟨ih, List.pairwise_singleton _ _, fun i hi j hj => ?_⟩
      rw [List.mem_singleton.1 hj]
      exact lt_of_mem_tagged hi

/-- Does call `i` of the run insert a value?  Storing always does, and overwriting the first value
or storing does when there is no first one. -/
def Inserts (c : Collection) (xs : List Call) (i : Nat) (k value : String) : Prop :=
  ∃ x, xs[i]? = some x ∧
    (x.op = .store k value ∨
      x.op = .storeOrUpdateFirst k value ∧ (c.run (xs.take i)).bucket k = [])

/-- A call inserts under one key. -/
theorem Inserts.key_eq {i : Nat} {j value value' : String} (h : c.Inserts xs i k value)
    (h' : c.Inserts xs i j value') : j = k := by
  obtain ⟨x, hx, hop⟩ := h
  obtain ⟨x', hx', hop'⟩ := h'
  obtain rfl : x = x' := Option.some.inj (hx.symm.trans hx')
  rcases hop with hop | ⟨hop, -⟩ <;> rcases hop' with hop' | ⟨hop', -⟩ <;> rw [hop] at hop'
  · exact (Operation.store.inj hop').1.symm
  · cases hop'
  · cases hop'
  · exact (Operation.storeOrUpdateFirst.inj hop').1.symm

/-- A new identity comes from an insertion. -/
theorem exists_insert_of_mem_onTagged {e : Edit} {i : Nat}
    (h : i ∈ (e.onTagged n k b).map (·.1)) (hb : i ∉ b.map (·.1)) :
    i = n ∧ ∃ value, e = .insert k value := by
  have hpart : ∀ {a : List (Nat × Entry)}, a.Sublist b → i ∉ a.map (·.1) :=
    fun hab ha => hb ((hab.map _).subset ha)
  rcases onTagged_cases n k b e with heq | ⟨value, hins, heq⟩ | ⟨-, heq⟩ | ⟨now, -, heq⟩ |
    ⟨p, -, -, heq⟩ <;> rw [heq] at h
  · exact absurd h hb
  · rw [List.map_append, List.mem_append] at h
    exact ⟨List.mem_singleton.1 (h.resolve_left hb), value, hins⟩
  · exact absurd h List.not_mem_nil
  · exact absurd h (hpart List.filter_sublist)
  · exact absurd h (hpart (List.eraseIdx_sublist b p.index))

/-- **A value stays under the key under which it was inserted.** -/
theorem inserts_of_mem_tagged {i : Nat} (h : i ∈ (c.tagged xs k n).map (·.1)) :
    ∃ value, c.Inserts xs i k value := by
  induction n with
  | zero => exact absurd h List.not_mem_nil
  | succ n ih =>
    by_cases hb : i ∈ (c.tagged xs k n).map (·.1)
    · exact ih hb
    · cases hx : xs[n]? with
      | none =>
        rw [tagged_succ_of_none hx] at h
        exact absurd h hb
      | some x =>
        rw [tagged_succ_of_some hx] at h
        obtain ⟨rfl, value, hedit⟩ := exists_insert_of_mem_onTagged h hb
        have hmade := madeBy_edit (c.run (xs.take i)) x
        rw [hedit] at hmade
        exact ⟨value, x, hx, hmade⟩

/-- An inserted value is there. -/
theorem mem_tagged_of_inserts {i : Nat} {value : String} (h : c.Inserts xs i k value) :
    (i, Entry.fresh value) ∈ c.tagged xs k (i + 1) := by
  obtain ⟨x, hx, hop⟩ := h
  have hedit : x.edit (c.run (xs.take i)) = .insert k value := by
    rcases hop with hop | ⟨hop, hb⟩
    · rw [Call.edit, hop]
      rfl
    · rw [Call.edit, hop, Operation.edit, hb]
      rfl
  rw [tagged_succ_of_some hx, hedit, Edit.onTagged, if_pos rfl]
  exact List.mem_append_right _ (List.mem_singleton.2 rfl)

/-! ## How identities go -/

/-- The calls that may take a value away from under a key: those that remove all of its values, and
of the others a resolution or a purge at a reading at which the value is expired. -/
def Call.Discards (x : Call) (k : String) (e : Entry) : Prop :=
  x.op = .erase k ∨ x.op = .clear ∨
    (x.op.isResolution = true ∨ x.op = .purge) ∧ e.isExpiredAt x.now = true

/-- A value that is missing after an erasure was at the place that was erased. -/
theorem mem_eraseIdx_or {t : Nat × Entry} (ht : t ∈ b) (index : Nat) :
    t ∈ b.eraseIdx index ∨ b[index]? = some t := by
  obtain ⟨m, hm⟩ := List.mem_iff_getElem?.1 ht
  by_cases hne : m = index
  · exact Or.inr (hne ▸ hm)
  · exact Or.inl (List.mem_eraseIdx_iff_getElem?.2 ⟨m, hne, hm⟩)

/-- The edits that take a value away. -/
theorem edit_cases_of_notMem {e : Edit} {t : Nat × Entry} (ht : t ∈ b)
    (hlost : t.1 ∉ (e.onTagged n k b).map (·.1)) :
    (e = .drop k ∨ e = .clear) ∨ (∃ now, e = .sweep now ∧ t.2.isExpiredAt now = true) ∨
      ∃ p, e = .remove p ∧ p.key = k ∧ b[p.index]? = some t := by
  have hb : t.1 ∈ b.map (·.1) := List.mem_map_of_mem ht
  have hgone : ∀ {a : List (Nat × Entry)}, t.1 ∉ a.map (·.1) → t ∉ a :=
    fun ha h => ha (List.mem_map_of_mem h)
  rcases onTagged_cases n k b e with heq | ⟨value, -, heq⟩ | ⟨hall, -⟩ | ⟨now, hsweep, heq⟩ |
    ⟨p, hremove, hp, heq⟩
  · rw [heq] at hlost
    exact absurd hb hlost
  · rw [heq, List.map_append] at hlost
    exact absurd (List.mem_append_left _ hb) hlost
  · exact Or.inl hall
  · rw [heq] at hlost
    refine Or.inr (Or.inl ⟨now, hsweep, ?_⟩)
    by_contra hlive
    exact hgone hlost (List.mem_filter.2 ⟨ht, by simp [hlive]⟩)
  · rw [heq] at hlost
    exact Or.inr (Or.inr ⟨p, hremove, hp, (mem_eraseIdx_or ht p.index).resolve_left (hgone hlost)⟩)

/-- The value at the place that a scan has remembered is an expired one. -/
theorem isExpiredAt_of_place (hc : c.buckets = []) {now : Instant} {index : Nat}
    {t : Nat × Entry}
    (hindex : index = ((c.run (xs.take n)).bucket k).findIdx (·.isExpiredAt now))
    (ht : (c.tagged xs k n)[index]? = some t) : t.2.isExpiredAt now = true := by
  have he : ((c.tagged xs k n).map (·.2))[index]? = some t.2 := by
    rw [List.getElem?_map, ht]
    rfl
  rw [map_snd_tagged hc, hindex] at he
  obtain ⟨hlt, he⟩ := List.getElem?_eq_some_iff.1 he
  rw [← he]
  exact List.findIdx_getElem (p := fun e : Entry => e.isExpiredAt now)

/-- **Only an expired value is taken away, unless all are.**  One call. -/
theorem discards_of_notMem_succ (hc : c.buckets = []) {x : Call} (hx : xs[n]? = some x)
    {t : Nat × Entry} (ht : t ∈ c.tagged xs k n)
    (hlost : t.1 ∉ (c.tagged xs k (n + 1)).map (·.1)) : x.Discards k t.2 := by
  have hmade := madeBy_edit (c.run (xs.take n)) x
  rw [tagged_succ_of_some hx] at hlost
  rcases edit_cases_of_notMem ht hlost with (hedit | hedit) | ⟨now, hedit, hexp⟩ |
    ⟨p, hedit, hp, hplace⟩ <;> rw [hedit] at hmade
  · exact Or.inl hmade
  · exact Or.inr (Or.inl hmade)
  · obtain ⟨hop, rfl⟩ := hmade
    exact Or.inr (Or.inr ⟨Or.inr hop, hexp⟩)
  · obtain ⟨hres, -, hindex⟩ := hmade
    rw [hp] at hindex
    exact Or.inr (Or.inr ⟨Or.inl hres, isExpiredAt_of_place hc hindex hplace⟩)

/-- **Values do not vanish.**  Between a state in which a value is there and a later one in which it
is not, there is a call that took it away. -/
theorem exists_discards (hc : c.buckets = []) {m i : Nat} (hmn : m ≤ n)
    (h : i ∈ (c.tagged xs k m).map (·.1)) (hgone : i ∉ (c.tagged xs k n).map (·.1)) :
    ∃ r x e, m ≤ r ∧ r < n ∧ xs[r]? = some x ∧ (i, e) ∈ c.tagged xs k r ∧
      i ∉ (c.tagged xs k (r + 1)).map (·.1) ∧ x.Discards k e := by
  induction n, hmn using Nat.le_induction with
  | base => exact absurd h hgone
  | succ n hmn ih =>
    by_cases hn : i ∈ (c.tagged xs k n).map (·.1)
    · cases hx : xs[n]? with
      | none =>
        rw [tagged_succ_of_none hx] at hgone
        exact absurd hn hgone
      | some x =>
        obtain ⟨⟨i, e⟩, ht, rfl⟩ := List.mem_map.1 hn
        exact ⟨n, x, e, hmn, Nat.lt_succ_self n, hx, ht, hgone,
          discards_of_notMem_succ hc hx ht hgone⟩
    · obtain ⟨r, x, e, hmr, hrn, hrest⟩ := ih hn
      exact ⟨r, x, e, hmr, Nat.lt_succ_of_lt hrn, hrest⟩

/-- **A value that is not expired survives** every resolution and every purge, and is not changed by
them. -/
theorem mem_tagged_succ_of_live (hc : c.buckets = []) {x : Call} (hx : xs[n]? = some x)
    (hop : x.op.isResolution = true ∨ x.op = .purge) {t : Nat × Entry}
    (ht : t ∈ c.tagged xs k n) (hlive : t.2.isExpiredAt x.now = false) :
    t ∈ c.tagged xs k (n + 1) := by
  have hmade := madeBy_edit (c.run (xs.take n)) x
  rw [tagged_succ_of_some hx]
  rcases hop with hres | hpurge
  · rw [edit_of_isResolution hres] at hmade ⊢
    cases hp : x.op.place? (c.run (xs.take n)) x.now with
    | none => exact ht
    | some p =>
      rw [hp] at hmade
      obtain ⟨-, -, hindex⟩ := hmade
      show t ∈ if k = p.key then (c.tagged xs k n).eraseIdx p.index else c.tagged xs k n
      split
      · next hk =>
        rcases mem_eraseIdx_or ht p.index with h | hplace
        · exact h
        · rw [← hk] at hindex
          rw [isExpiredAt_of_place hc hindex hplace] at hlive
          cases hlive
      · exact ht
  · have hedit : x.edit (c.run (xs.take n)) = .sweep x.now := by
      rw [Call.edit, hpurge]
      rfl
    rw [hedit]
    exact List.mem_filter.2 ⟨ht, by rw [hlive]; rfl⟩

/-- **No live value is lost, repeated or put in another order.**  Follow the values of a run that
starts without any.  An inserted value is there, under the key under which it was inserted and
under no other, at one place, and behind the values that were inserted under that key before it.  If
it is not there any more, a call has taken it away, and that call removed everything under the key,
or was a resolution or a purge at a reading of the clock at which the value was expired.  A value
without an expiry, or with one that is still ahead, stays through all resolutions and purges. -/
theorem no_live_value_is_lost {c : Collection} (hc : c.buckets = []) (xs : List Call) :
    (∀ n k, (c.tagged xs k n).map (·.2) = (c.run (xs.take n)).bucket k) ∧
    (∀ i k value, c.Inserts xs i k value → (i, Entry.fresh value) ∈ c.tagged xs k (i + 1)) ∧
    (∀ n k, ((c.tagged xs k n).map (·.1)).Pairwise (· < ·)) ∧
    (∀ n k i, i ∈ (c.tagged xs k n).map (·.1) →
      i < n ∧ (∃ value, c.Inserts xs i k value) ∧
        ∀ m j, i ∈ (c.tagged xs j m).map (·.1) → j = k) ∧
    (∀ m n k i, m ≤ n → i ∈ (c.tagged xs k m).map (·.1) → i ∉ (c.tagged xs k n).map (·.1) →
      ∃ r x e, m ≤ r ∧ r < n ∧ xs[r]? = some x ∧ (i, e) ∈ c.tagged xs k r ∧
        i ∉ (c.tagged xs k (r + 1)).map (·.1) ∧ x.Discards k e) ∧
    (∀ n k i e x, xs[n]? = some x → x.op.isResolution = true ∨ x.op = .purge →
      (i, e) ∈ c.tagged xs k n → (∀ t, e.expiry = some t → ¬ t ≤ x.now) →
      (i, e) ∈ c.tagged xs k (n + 1)) := by
  refine ⟨fun n k => map_snd_tagged hc xs k n, fun i k value h => mem_tagged_of_inserts h,
    fun n k => pairwise_lt_tagged c xs k n, ?_, fun m n k i hmn h hgone => ?_, ?_⟩
  · intro n k i hi
    obtain ⟨value, hins⟩ := inserts_of_mem_tagged hi
    refine ⟨lt_of_mem_tagged hi, ⟨value, hins⟩, fun m j hj => ?_⟩
    obtain ⟨value', hins'⟩ := inserts_of_mem_tagged hj
    exact hins.key_eq hins'
  · exact exists_discards hc hmn h hgone
  · intro n k i e x hx hop ht hahead
    refine mem_tagged_succ_of_live hc hx hop ht ?_
    show e.isExpiredAt x.now = false
    rw [Entry.isExpiredAt]
    cases he : e.expiry with
    | none => rfl
    | some t => exact decide_eq_false (hahead t he)

/-- A value that expires at once, a value that does not expire, and a resolution. -/
def vanishing : List Call :=
  [⟨.zero, .store "a" "x"⟩, ⟨.zero, .setExpiry "a" 0⟩, ⟨.zero, .store "a" "y"⟩,
    ⟨.zero, .resolveKey "a" []⟩]

/-- The first value is taken away as an expired one, and the second one stays. -/
theorem vanishing_loses_an_expired_value :
    (named "vars").buckets = [] ∧ (named "vars").Inserts vanishing 0 "a" "x" ∧
      (0, Entry.fresh "x") ∈ (named "vars").tagged vanishing "a" 1 ∧
      (∃ r x e, 1 ≤ r ∧ r < 4 ∧ vanishing[r]? = some x ∧
        (0, e) ∈ (named "vars").tagged vanishing "a" r ∧
        0 ∉ ((named "vars").tagged vanishing "a" (r + 1)).map (·.1) ∧ x.Discards "a" e) ∧
      (2, Entry.fresh "y") ∈ (named "vars").tagged vanishing "a" 4 := by
  obtain ⟨-, hinserted, -, -, hgone, hlive⟩ :=
    no_live_value_is_lost (c := named "vars") rfl vanishing
  have hx : (named "vars").Inserts vanishing 0 "a" "x" := ⟨_, rfl, Or.inl rfl⟩
  refine ⟨rfl, hx, hinserted 0 "a" "x" hx, ?_, ?_⟩
  · exact hgone 1 4 "a" 0 (by decide) (by decide) (by decide)
  · refine hlive 3 "a" 2 (.fresh "y") _ rfl (Or.inl rfl) (by decide) fun t ht => ?_
    cases ht

end Collection
end VarStore
