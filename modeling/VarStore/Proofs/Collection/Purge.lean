import VarStore.Proofs.Collection.Accounting

/-!
# Purging

A purge removes what is expired and nothing else, wherever in a bucket it stands.  What is left is
determined bucket by bucket (`Purges`), and so is the number of values removed, which is added up while the
buckets are gone through.

Expired values do not come back to life (`isExpiredAt_mono`).  So what a purge leaves is not expired at any
earlier reading either, and no resolution finds anything to erase there.  Nor does it matter whether there
was an earlier purge: what that one has removed would be removed by the later one, and each value is
counted by one of them.  Keys that were emptied by the earlier one are missed by none.

* `liveEntries_liveEntries`, `purged_purged`: an earlier purge makes no difference.
* `run_of_not_hasExpired`: resolutions of a collection without expired values.
* `purging_is_exact`: all of it, for every collection that can come about.
-/

namespace VarStore

namespace Buckets

/-! ## Keys and sums -/

/-- The keys that are left when all buckets are replaced. -/
theorem keys_revise (f : String → List Entry → List Entry) (m : Buckets) :
    (m.revise f).keys = (m.filter fun p => !(f p.1 p.2).isEmpty).map (·.1) := by
  rw [revise, List.filter_map, keys, List.map_map]
  rfl

theorem weight_eq_sum (f : String → List Entry → Nat) (m : Buckets) :
    m.weight f = (m.map fun p => f p.1 p.2).sum := by
  induction m with
  | nil => rfl
  | cons p m ih => rw [weight_cons, ih, List.map_cons, List.sum_cons]

end Buckets

namespace Collection

variable {c : Collection} {s t : Instant} {k : String}

/-! ## Values that are left -/

/-- What is removed at an earlier reading would be removed at a later one. -/
theorem liveEntries_liveEntries (hst : s ≤ t) (b : List Entry) :
    liveEntries t (liveEntries s b) = liveEntries t b := by
  rw [liveEntries, liveEntries, List.filter_filter, liveEntries]
  refine List.filter_congr fun e _ => ?_
  cases hs : e.isExpiredAt s with
  | false => simp
  | true => simp [Entry.isExpiredAt_mono hst hs]

theorem hasExpired_liveEntries (hst : s ≤ t) (b : List Entry) :
    hasExpired s (liveEntries t b) = false := by
  refine hasExpired_eq_false_iff.2 fun e he => ?_
  have hlive := (List.mem_filter.1 he).2
  by_contra hs
  rw [Entry.isExpiredAt_mono hst (Bool.eq_true_of_not_eq_false hs)] at hlive
  cases hlive

theorem isEmpty_liveEntries (now : Instant) (b : List Entry) :
    (!(liveEntries now b).isEmpty) = b.any fun e => !e.isExpiredAt now := by
  rw [liveEntries, Bool.eq_iff_iff]
  simp [List.filter_eq_nil_iff]

/-! ## What a purge does -/

/-- What a purge comes to: of each bucket the values that are not expired are left, in their order, and of
the keys those under which something is left; the number of values removed is counted bucket by bucket,
and told of if it is positive. -/
structure Purges (c : Collection) (now : Instant) (p : Collection × Nat × List Event) : Prop where
  name : p.1.name = c.name
  ignoreCase : p.1.ignoreCase = c.ignoreCase
  bucket : ∀ k, p.1.bucket k = (c.bucket k).filter fun e => !e.isExpiredAt now
  keys : p.1.keys = c.keys.filter fun k => (c.bucket k).any fun e => !e.isExpiredAt now
  removed : p.1.size + p.2.1 = c.size
  counted : p.2.1 = (c.keys.map fun k => (c.bucket k).countP (·.isExpiredAt now)).sum
  swept : c.buckets.sweep now 0 = (p.1.buckets, p.2.1)
  events : p.2.2 = if 0 < p.2.1 then [.purged c.name p.2.1] else []

theorem keys_purged (h : c.buckets.WellFormed) (now : Instant) :
    (c.purged now).keys =
      c.keys.filter fun k => (c.bucket k).any fun e => !e.isExpiredAt now := by
  have hfilter : (c.buckets.filter fun p => !(liveEntries now p.2).isEmpty) =
      c.buckets.filter fun p => (c.bucket p.1).any fun e => !e.isExpiredAt now := by
    refine List.filter_congr fun p hp => ?_
    rw [isEmpty_liveEntries, bucket, Buckets.get_of_mem h.1 hp]
  rw [keys, buckets_purged, Buckets.keys_revise, hfilter, keys, Buckets.keys, List.filter_map]
  rfl

/-- The number of expired values, counted key by key. -/
theorem removed_eq_sum (h : c.buckets.WellFormed) (now : Instant) :
    (c.purge now).2.1 = (c.keys.map fun k => (c.bucket k).countP (·.isExpiredAt now)).sum := by
  have hcount : c.expiredUnder now (fun _ => true) = (c.purge now).2.1 :=
    expiredUnder_eq_removed now fun _ _ => rfl
  rw [← hcount, expiredUnder, Buckets.weight_eq_sum, keys, Buckets.keys, List.map_map]
  congr 1
  refine List.map_congr_left fun p hp => ?_
  show (if true = true then _ else 0) = (c.bucket p.1).countP _
  rw [if_pos rfl, bucket, Buckets.get_of_mem h.1 hp]

/-- What is left and what is removed make up what was there. -/
theorem size_purge_add (c : Collection) (now : Instant) :
    (c.purge now).1.size + (c.purge now).2.1 = c.size := by
  have hcount := Buckets.snd_sweep_add now 0 c.buckets
  rw [purge_eq_sweep]
  show (c.buckets.sweep now 0).1.size + (c.buckets.sweep now 0).2 = c.buckets.size
  omega

theorem purges_purge (h : c.buckets.WellFormed) (now : Instant) : Purges c now (c.purge now) where
  name := rfl
  ignoreCase := rfl
  bucket := bucket_purged h now
  keys := keys_purged h now
  removed := size_purge_add c now
  counted := removed_eq_sum h now
  swept := by rw [purge_eq_sweep]
  events := rfl

/-! ## Resolutions that have nothing to erase -/

/-- A resolution that comes across no expired value erases nothing. -/
theorem perform_of_not_hasExpired {x : Call} (hx : x.op.isResolution = true)
    (hc : ∀ k, hasExpired x.now (c.bucket k) = false) :
    (c.perform x).1 = c ∧ erasures (c.perform x).2.events = 0 := by
  rcases perform_resolution_cases c hx with ⟨hsame, hevents, -⟩ | ⟨k, hk, -, -⟩
  · exact ⟨hsame, hevents⟩
  · rw [hc k] at hk
    cases hk

/-- Any number of them erases nothing. -/
theorem run_of_not_hasExpired {xs : List Call}
    (h : ∀ x ∈ xs, x.op.isResolution = true ∧ ∀ k, hasExpired x.now (c.bucket k) = false) :
    c.run xs = c ∧ erasures (c.log xs) = 0 := by
  induction xs with
  | nil => exact ⟨rfl, rfl⟩
  | cons x xs ih =>
    obtain ⟨hx, hc⟩ := h x List.mem_cons_self
    obtain ⟨hsame, hevents⟩ := perform_of_not_hasExpired hx hc
    obtain ⟨hrun, hlog⟩ := ih fun y hy => h y (List.mem_cons_of_mem _ hy)
    rw [run_cons, log_cons, erasures_append, hevents, hsame, hlog]
    exact ⟨hrun, rfl⟩

/-! ## Several purges -/

/-- An earlier purge makes no difference to a later one. -/
theorem purged_purged (hst : s ≤ t) (c : Collection) : (c.purged s).purged t = c.purged t := by
  have hf : (fun (_ : String) (b : List Entry) => liveEntries t (liveEntries s b)) =
      fun _ => liveEntries t := by
    funext _ b
    exact liveEntries_liveEntries hst b
  have hb := Buckets.revise_revise (f := fun _ => liveEntries t) (fun _ => liveEntries_nil t)
    (fun _ => liveEntries s) c.buckets
  rw [hf] at hb
  exact congrArg (Collection.mk c.name c.ignoreCase) hb

/-- The later of two purges removes what the earlier one has left of what it would have removed. -/
theorem removed_add_removed (hst : s ≤ t) (c : Collection) :
    (c.purge s).2.1 + ((c.purge s).1.purge t).2.1 = (c.purge t).2.1 := by
  have hsame : ((c.purge s).1.purge t).1 = (c.purge t).1 := purged_purged hst c
  have hearlier := size_purge_add c s
  have hlater := size_purge_add (c.purge s).1 t
  have halone := size_purge_add c t
  rw [hsame] at hlater
  omega

/-- Where nothing is expired, a purge does nothing. -/
theorem purge_of_not_hasExpired (h : c.buckets.WellFormed)
    (hc : ∀ k, hasExpired t (c.bucket k) = false) : c.purge t = (c, 0, []) := by
  have hbuckets : c.buckets.revise (fun _ => liveEntries t) = c.buckets := by
    refine Buckets.revise_eq_self h fun p hp => ?_
    have hlive := hc p.1
    rw [bucket, Buckets.get_of_mem h.1 hp] at hlive
    exact liveEntries_eq_self hlive
  have hpurged : c.purged t = c := congrArg (Collection.mk c.name c.ignoreCase) hbuckets
  rw [purge, hpurged, Nat.sub_self, if_neg (Nat.lt_irrefl 0)]

/-- What a purge leaves is not expired, at its reading and at earlier ones. -/
theorem hasExpired_purge (h : c.buckets.WellFormed) (hst : s ≤ t) (k : String) :
    hasExpired s ((c.purge t).1.bucket k) = false := by
  rw [(purges_purge h t).bucket]
  exact hasExpired_liveEntries hst _

/-- **Purging is exact, and purges compose.**  Whatever was done to a collection, a purge leaves of each
bucket the values that are not expired, and returns how many it has removed.  Resolutions made afterwards,
however many, at this reading of the clock or at earlier ones, erase nothing and leave everything as it is,
whatever keys, patterns and filters they come with.  A purge at one reading and then at a later one is a
purge at the later one, with the two numbers added up; and after a purge another one, at this reading or an
earlier one, removes nothing and tells of nothing. -/
theorem purging_is_exact {c : Collection} (h : Reachable c) (t : Instant) :
    Purges c t (c.purge t) ∧
    (∀ xs : List Call, (∀ x ∈ xs, x.now ≤ t ∧ x.op.isResolution = true) →
      (c.purge t).1.run xs = (c.purge t).1 ∧ erasures ((c.purge t).1.log xs) = 0) ∧
    (∀ s, s ≤ t → ((c.purge s).1.purge t).1 = (c.purge t).1 ∧
      (c.purge s).2.1 + ((c.purge s).1.purge t).2.1 = (c.purge t).2.1) ∧
    ∀ s, s ≤ t → (c.purge t).1.purge s = ((c.purge t).1, 0, []) := by
  have hwf := h.wellFormed
  refine ⟨purges_purge hwf t, fun xs hxs => run_of_not_hasExpired fun x hx => ?_,
    fun s hst => ⟨purged_purged hst c, removed_add_removed hst c⟩, fun s hst => ?_⟩
  · obtain ⟨hnow, hresolution⟩ := hxs x hx
    exact ⟨hresolution, hasExpired_purge hwf hnow⟩
  · have hpurged : (c.purge t).1.buckets.WellFormed := hwf.revise fun _ => liveEntries t
    exact purge_of_not_hasExpired hpurged (hasExpired_purge hwf hst)

/-- Ten seconds later. -/
def tenSeconds : Instant := ⟨10000000000, by decide⟩

/-- A value that is expired at once with one behind it that does not expire, and a key whose only value
expires within ten seconds. -/
def aging : Collection :=
  (named "vars").run
    [⟨.zero, .store "a" "x"⟩, ⟨.zero, .setExpiry "a" 0⟩, ⟨.zero, .store "a" "y"⟩,
      ⟨.zero, .store "b" "z"⟩, ⟨.zero, .setExpiry "b" 5⟩]

/-- A purge at once and one after ten seconds remove one value each, and the later one alone removes
both; after it a resolution of everything erases nothing. -/
theorem aging_is_purged :
    Reachable aging ∧ Instant.zero ≤ tenSeconds ∧ (aging.purge .zero).2.1 = 1 ∧
      ((aging.purge .zero).1.purge tenSeconds).2.1 = 1 ∧ (aging.purge tenSeconds).2.1 = 2 ∧
      (aging.purge tenSeconds).1.keys = ["a"] ∧
      ((aging.purge .zero).1.purge tenSeconds).1 = (aging.purge tenSeconds).1 ∧
      erasures ((aging.purge tenSeconds).1.log
        [⟨tenSeconds, .resolveAll .asStored "" .keepAll []⟩]) = 0 ∧
      (aging.purge tenSeconds).1.purge tenSeconds = ((aging.purge tenSeconds).1, 0, []) := by
  have h : Reachable aging := (Reachable.named "vars").run _
  have hle : Instant.zero ≤ tenSeconds := by decide
  obtain ⟨hpurges, hresolutions, hcompose, hagain⟩ := purging_is_exact h tenSeconds
  have hone : (aging.purge .zero).2.1 = 1 := by decide
  have hboth : (aging.purge tenSeconds).2.1 = 2 := by decide
  obtain ⟨hsame, hsum⟩ := hcompose .zero hle
  refine ⟨h, hle, hone, by omega, hboth, ?_, hsame, (hresolutions _ ?_).2,
    hagain tenSeconds (by decide)⟩
  · rw [hpurges.keys]
    decide
  · intro x hx
    rw [List.mem_singleton.1 hx]
    exact ⟨by decide, rfl⟩

end Collection
end VarStore
