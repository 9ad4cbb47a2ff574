import VarStore.Proofs.Collection.Call
import VarStore.Proofs.Stress.Keys

/-!
# Workers never touch each other

The workers of a workload share one collection and take turns in any order.  All that keeps a worker
to its own keys is how it names them.  Most of its calls name a key outright, but resolving by its
pattern looks at every key there is, in an order that is not its own, and erases an expired value
under whichever key it is under.

A pattern can be kept to the worker's keys only if the keys that it may come upon are known.  So the
invariant of a run is that there are values under workers' keys and no others (`Owned`).  With it
the pattern of a worker finds the worker's keys (`search_ownPattern_iff`), and every call of a turn
comes to one of two things: the collection stays as it is, or one bucket under a key of the worker
is replaced (`confined_perform`).  The invariant follows from this in turn.

* `Owns`, `Confined`: the keys of a worker, and calls that keep to some keys.
* `Touchable`, `confined_perform`: the keys that a turn may touch, and that it touches no others.
* `Owned`, `owned_run`: whose values there are.
* `workers_are_isolated`: all of it, for every run.
-/

namespace VarStore

/-- A scan finds records only where there are values. -/
theorem Collection.bucket_ne_nil_of_mem_read {c : Collection} {now : Instant} {order : List String}
    {r : Record} (h : r ∈ c.read now order) : c.bucket r.key ≠ [] := by
  intro hempty
  rw [read, List.mem_append] at h
  rcases h with h | h
  · obtain ⟨k, -, hr⟩ := List.mem_flatMap.1 h
    rw [key_of_mem_recordsUnder hr] at hempty
    rw [recordsUnder, hempty] at hr
    cases hr
  · obtain ⟨k, -, hr⟩ := List.mem_flatMap.1 h
    rw [key_of_mem_liveRecords hr] at hempty
    rw [hempty] at hr
    cases hr

namespace Stress

variable {keys workers w : Nat} {c d : Collection} {records : List Record} {k : String}
  {S : String → Prop} {t : Turn keys}

/-! ## Calls that keep to some keys -/

/-- The key is one of the worker's. -/
def Owns (keys w : Nat) (k : String) : Prop := ∃ i < keys, k = keyName w i

/-- From `c` to `d` nothing was returned and nothing changed but what is under keys with the
property. -/
structure Confined (S : String → Prop) (c d : Collection) (records : List Record) : Prop where
  records : ∀ r ∈ records, S r.key
  collection : d = c ∨ ∃ k b, S k ∧ d = c.setBucket k b

namespace Confined

theorem refl (S : String → Prop) (c : Collection) : Confined S c c [] :=
  ⟨fun _ hr => absurd hr List.not_mem_nil, Or.inl rfl⟩

theorem setBucket (hk : S k) (c : Collection) (b : List Entry) :
    Confined S c (c.setBucket k b) [] :=
  ⟨fun _ hr => absurd hr List.not_mem_nil, Or.inr ⟨k, b, hk, rfl⟩⟩

/-- A scan keeps to those of its keys that have values. -/
theorem scan {order : List String} (horder : ∀ k ∈ order, c.bucket k ≠ [] → S k) (now : Instant) :
    Confined S c (c.afterScan now order) (c.read now order) := by
  refine ⟨fun r hr => ?_, ?_⟩
  · exact horder r.key (Collection.key_mem_of_mem_read hr) (Collection.bucket_ne_nil_of_mem_read hr)
  · unfold Collection.afterScan
    cases hstop : c.stop? now order with
    | none => exact Or.inl rfl
    | some k =>
      have hvalues : c.bucket k ≠ [] := by
        intro hempty
        have hexpired := Collection.hasExpired_of_stop?_eq_some hstop
        rw [hempty] at hexpired
        cases hexpired
      exact Or.inr ⟨k, _, horder k (Collection.mem_of_stop?_eq_some hstop) hvalues, rfl⟩

theorem reverse (h : Confined S c d records) : Confined S c d (records.reverse ++ []) := by
  refine ⟨fun r hr => h.records r ?_, h.collection⟩
  simpa using hr

/-- Under other keys nothing changes. -/
theorem bucket (h : Confined S c d records) (hk : ¬ S k) : d.bucket k = c.bucket k := by
  rcases h.collection with rfl | ⟨i, b, hi, rfl⟩
  · rfl
  · have hne : k ≠ i := fun hki => hk (hki ▸ hi)
    rw [Collection.bucket_setBucket, if_neg hne]

theorem wellFormed (h : Confined S c d records) (hc : c.buckets.WellFormed) :
    d.buckets.WellFormed := by
  rcases h.collection with rfl | ⟨i, b, -, rfl⟩
  · exact hc
  · exact Collection.wellFormed_setBucket hc i b

end Confined

/-! ## A turn -/

/-- There are values under workers' keys and no others. -/
structure Owned (keys workers : Nat) (c : Collection) : Prop where
  wellFormed : c.buckets.WellFormed
  owner : ∀ k, c.bucket k ≠ [] → ∃ w < workers, Owns keys w k

/-- The keys that a turn may touch: those of its worker, without the first one if it resolves them
by its pattern. -/
def Touchable (t : Turn keys) (k : String) : Prop :=
  Owns keys t.worker k ∧ (t.call = .resolveOwn → k ≠ keyName t.worker 0)

theorem touchable_key (ht : t.call ≠ .resolveOwn) : Touchable t t.key :=
  ⟨⟨t.draw.key, t.draw.key.isLt, rfl⟩, fun h => absurd h ht⟩

/-- What a worker leaves out when it resolves its own keys. -/
theorem omits_ownExclusions (w : Nat) : (ownExclusions w).omits (keyName w 0) = true := by
  have hsame : Text.sameIgnoringCase (keyName w 0) (keyName w 0) = true := beq_self_eq_true _
  simp [ownExclusions, Exclusions.excludeKey, Exclusions.push, Exclusions.empty, Exclusions.omits,
    Exclusion.covers, hsame]

/-- Of the keys with values the pattern of a worker finds its own, and the first of them is left
out. -/
theorem confined_resolveOwn (hc : Owned keys workers c) (t : Turn keys) :
    Confined (Touchable t) c
      (outcome c (c.resolveMatching t.now t.order (ownPattern t.worker)
        (ownExclusions t.worker).filter [])).1
      (outcome c (c.resolveMatching t.now t.order (ownPattern t.worker)
        (ownExclusions t.worker).filter [])).2 := by
  cases hp : KeyPattern.compile (ownPattern t.worker) c.ignoreCase with
  | error e =>
    have hsame : c.resolveMatching t.now t.order (ownPattern t.worker)
        (ownExclusions t.worker).filter [] = .ok ⟨c, [], [.patternRejected c.name e]⟩ := by
      rw [Collection.resolveMatching, hp]
    rw [hsame]
    exact .refl _ c
  | ok p =>
    rw [Exclusions.filter, Collection.resolveMatching_omitting hp]
    refine (Confined.scan (fun k hk hvalues => ?_) t.now).reverse
    obtain ⟨w, -, i, hi, rfl⟩ := hc.owner k hvalues
    have hfound := (List.mem_filter.1 hk).2
    rw [Bool.and_eq_true, search_ownPattern_iff hp, Bool.not_eq_true'] at hfound
    obtain ⟨rfl, hkept⟩ := hfound
    refine ⟨⟨i, hi, rfl⟩, fun _ hfirst => ?_⟩
    rw [hfirst, omits_ownExclusions] at hkept
    cases hkept

/-- **A turn keeps to the keys of its worker.** -/
theorem confined_perform (hc : Owned keys workers c) (t : Turn keys) (calls : Nat) :
    Confined (Touchable t) c (t.perform calls c).1 (t.perform calls c).2 := by
  have hscan : t.call ≠ .resolveOwn →
      Confined (Touchable t) c (c.afterScan t.now [t.key]) (c.read t.now [t.key]) := by
    intro ht
    refine .scan (fun k hk _ => ?_) t.now
    rw [List.mem_singleton.1 hk]
    exact touchable_key ht
  unfold Turn.perform
  cases hcall : t.call with
  | store => exact .setBucket (touchable_key (by simp [hcall])) c _
  | upsert =>
    have hkey : Touchable t t.key := touchable_key (by simp [hcall])
    dsimp only
    unfold Collection.storeOrUpdateFirst Collection.updateFirst
    by_cases hempty : (c.bucket t.key).isEmpty = true
    · rw [if_pos hempty]
      exact .setBucket hkey c _
    · rw [if_neg hempty]
      exact .setBucket hkey c _
  | expire => exact .setBucket (touchable_key (by simp [hcall])) c _
  | delete => exact .setBucket (touchable_key (by simp [hcall])) c _
  | resolveAll =>
    have hkey : t.key ≠ "" := keyName_ne_empty _ _
    have hone := c.resolveOrder_omitting t.now [t.key] (fun _ => false) []
    dsimp only
    rw [Collection.resolveAll, if_neg hkey, Filter.keepAll, hone]
    exact (hscan (by simp [hcall])).reverse
  | resolveKey =>
    dsimp only
    rw [Collection.resolveKey_eq]
    exact hscan (by simp [hcall])
  | resolveOwn => exact confined_resolveOwn hc t

/-! ## A run -/

theorem owned_start (name : String) (ignoreCase : Bool) (keys workers : Nat) :
    Owned keys workers ⟨name, ignoreCase, []⟩ :=
  ⟨Buckets.wellFormed_nil, fun _ hk => absurd rfl hk⟩

/-- Where a worker has put a value, it is the owner. -/
theorem Owned.perform (hc : Owned keys workers c) (ht : t.worker < workers) (calls : Nat) :
    Owned keys workers (t.perform calls c).1 := by
  have hconfined := confined_perform hc t calls
  refine ⟨hconfined.wellFormed hc.wellFormed, fun k hk => ?_⟩
  by_cases hown : Owns keys t.worker k
  · exact ⟨t.worker, ht, hown⟩
  · rw [hconfined.bucket fun htouch => hown htouch.1] at hk
    exact hc.owner k hk

/-- **Whose values there are** after any turns of the workers. -/
theorem owned_run {turns : List (Turn keys)} (hturns : ∀ t ∈ turns, t.worker < workers)
    {p : Progress} (hp : Owned keys workers p.collection) :
    Owned keys workers (p.run turns).collection := by
  induction turns generalizing p with
  | nil => exact hp
  | cons t turns ih =>
    obtain ⟨ht, hothers⟩ := List.forall_mem_cons.1 hturns
    exact ih hothers (hp.perform ht _)

/-- **Workers never touch each other.**  In a run of the workers' turns on an empty collection,
whatever is drawn and in whichever order keys are visited, each turn returns records of its worker's
keys only and leaves the buckets under the keys of the others as they were, and a resolution by the
worker's pattern leaves out the worker's first key as well.  Every key that there is in the end is
one of a worker.  Whether case is ignored or not, the pattern of a worker finds its own keys and
nobody else's, and it compiles if the number of the worker is a machine word. -/
theorem workers_are_isolated (name : String) (ignoreCase : Bool) (workers : Nat)
    (turns : List (Turn keys)) (hturns : ∀ t ∈ turns, t.worker < workers) :
    (∀ (n : Nat) (t : Turn keys) (p : Progress), turns[n]? = some t →
      p = (Progress.start ⟨name, ignoreCase, []⟩ workers).run (turns.take n) →
      (∀ r ∈ (t.perform (p.countersOf t.worker).calls p.collection).2,
        ∃ i < keys, r.key = keyName t.worker i) ∧
      (∀ v i, v ≠ t.worker →
        (p.turn t).collection.bucket (keyName v i) = p.collection.bucket (keyName v i)) ∧
      (t.call = .resolveOwn →
        (∀ r ∈ (t.perform (p.countersOf t.worker).calls p.collection).2,
          r.key ≠ keyName t.worker 0) ∧
        (p.turn t).collection.bucket (keyName t.worker 0) =
          p.collection.bucket (keyName t.worker 0))) ∧
    (∀ k ∈ ((Progress.start ⟨name, ignoreCase, []⟩ workers).run turns).collection.keys,
      ∃ w < workers, ∃ i < keys, k = keyName w i) ∧
    (∀ (w : Nat) (p : KeyPattern), KeyPattern.compile (ownPattern w) ignoreCase = .ok p →
      ∀ v i, p.search (keyName v i) = true ↔ v = w) ∧
    ∀ w < UInt64.size, ∃ p, KeyPattern.compile (ownPattern w) ignoreCase = .ok p := by
  have hstart := owned_start name ignoreCase keys workers
  refine ⟨?_, ?_, fun w p => search_ownPattern_iff, fun w hw =>
    exists_compile_ownPattern hw ignoreCase⟩
  · intro n t p _ hp
    have hbefore : ∀ s ∈ turns.take n, s.worker < workers := fun s hs =>
      hturns s (List.mem_of_mem_take hs)
    have howned : Owned keys workers p.collection := by
      rw [hp]
      exact owned_run hbefore hstart
    have hconfined := confined_perform howned t (p.countersOf t.worker).calls
    refine ⟨fun r hr => (hconfined.records r hr).1, fun v i hv => ?_, fun ht => ⟨fun r hr => ?_, ?_⟩⟩
    · refine hconfined.bucket ?_
      rintro ⟨⟨j, -, hj⟩, -⟩
      exact hv (keyName_inj.1 hj).1
    · exact (hconfined.records r hr).2 ht
    · exact hconfined.bucket fun htouch => htouch.2 ht rfl
  · intro k hk
    have hfinal : Owned keys workers
        ((Progress.start ⟨name, ignoreCase, []⟩ workers).run turns).collection :=
      owned_run hturns hstart
    exact hfinal.owner k (hfinal.wellFormed.mem_keys_iff.1 hk)

/-- The turn of a worker at a fixed time that draws this key and this call. -/
def turnOf (worker : Nat) (key : Fin 2) (choice : Fin 100) (order : List String) : Turn 2 :=
  ⟨worker, ⟨key, choice, ⟨0, by decide⟩⟩, .zero, order⟩

/-- Workers 1 and 10 store a value each; then worker 1 stores another one under its first key and
resolves its keys, and comes upon those of worker 10 first. -/
def rivals : List (Turn 2) :=
  [turnOf 1 ⟨1, by decide⟩ ⟨0, by decide⟩ [], turnOf 10 ⟨1, by decide⟩ ⟨0, by decide⟩ [],
    turnOf 1 ⟨0, by decide⟩ ⟨0, by decide⟩ [],
    turnOf 1 ⟨0, by decide⟩ ⟨99, by decide⟩ ["w10:1", "w1:0", "w1:1"]]

/-- What worker 1 gets is its own, and not under its first key; its pattern passes over the key of
worker 10. -/
theorem rivals_are_isolated :
    let before := (Progress.start ⟨"GLOBAL", true, []⟩ 11).run (rivals.take 3)
    let last := turnOf 1 ⟨0, by decide⟩ ⟨99, by decide⟩ ["w10:1", "w1:0", "w1:1"]
    before.collection.keys = ["w1:1", "w10:1", "w1:0"] ∧
    (∀ r ∈ (last.perform (before.countersOf 1).calls before.collection).2,
      (∃ i < 2, r.key = keyName 1 i) ∧ r.key ≠ "w1:0") ∧
    (before.turn last).collection.bucket "w10:1" = before.collection.bucket "w10:1" ∧
    ∃ p, KeyPattern.compile "^w1:" true = .ok p ∧ p.search "w1:1" = true ∧
      p.search "w10:1" = false := by
  have hturns : ∀ t ∈ rivals, t.worker < 11 := by decide
  obtain ⟨hcalls, -, hsearch, hcompile⟩ := workers_are_isolated "GLOBAL" true 11 rivals hturns
  obtain ⟨hrecords, hothers, hown⟩ := hcalls 3 _ _ rfl rfl
  obtain ⟨p, hp⟩ := hcompile 1 (by decide)
  refine ⟨by cbv, ?_, hothers 10 1 (by decide), p, hp, ?_, ?_⟩
  · intro r hr
    exact ⟨hrecords r hr, (hown rfl).1 r hr⟩
  · exact (hsearch 1 p hp 1 1).2 rfl
  · exact Bool.eq_false_iff.2 fun h => absurd ((hsearch 1 p hp 10 1).1 h) (by decide)

end Stress
end VarStore
