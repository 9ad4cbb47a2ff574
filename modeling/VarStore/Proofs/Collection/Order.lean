import Mathlib
import VarStore.Proofs.Collection.Call

/-!
# What depends on the order of a scan

A collection visits its keys in an order of which nothing is promised.  So whatever a caller may rely
on has to be the same for every order, and this file says what that is.

The filter picks the visible keys out of the order, and two orders of the same keys differ in how they
arrange these.  As long as nothing under them is expired a scan comes to all of them: it leaves the
collection alone, and what it finds are the buckets of the visible keys, in one arrangement or another.
The values of a key are read one after the other, so its records are never torn apart (`Together`).

An expired value ends the scan at its key.  If only one visible key has expired values then every order
ends there; which other keys come before it is open, but the erasure and the records of that key are
not.  Only with a second such key does it become a matter of the order what is erased.

* `Together`: the records of a key, side by side.
* `OrderFree`: what a resolution has in common in all orders.
* `orderFree_of_scan`: scans of the visible keys are like that.
* `scan_order_only_arranges`: resolutions of all keys and by a pattern.
-/

namespace VarStore
namespace Collection

variable {c : Collection} {now : Instant} {k j : String} {keys order order' : List String}
  {visible : String → Bool}

/-! ## Records of a key -/

/-- The records of a key among those found: they stand side by side in the order of `block`, and there
is no record of that key in front of them or behind. -/
def Together (found : List Record) (k : String) (block : List Record) : Prop :=
  ∃ front back, found = front ++ block ++ back ∧ ∀ r ∈ front ++ back, r.key ≠ k

/-- Without records of the key there is nothing to stand together. -/
theorem together_nil {found : List Record} (h : ∀ r ∈ found, r.key ≠ k) : Together found k [] := by
  refine ⟨found, [], by simp, fun r hr => h r ?_⟩
  simpa using hr

theorem Together.reverse {found block : List Record} (h : Together found k block) :
    Together found.reverse k block.reverse := by
  obtain ⟨front, back, rfl, hother⟩ := h
  refine ⟨back.reverse, front.reverse, by simp, fun r hr => hother r ?_⟩
  have hmem : r ∈ back ∨ r ∈ front := by simpa using hr
  exact List.mem_append.2 hmem.symm

/-- What stands behind records of other keys still stands together. -/
theorem Together.append_left {found block front : List Record} (h : Together found k block)
    (hfront : ∀ r ∈ front, r.key ≠ k) : Together (front ++ found) k block := by
  obtain ⟨front', back, rfl, hother⟩ := h
  refine ⟨front ++ front', back, by simp, fun r hr => ?_⟩
  rw [List.append_assoc, List.mem_append] at hr
  rcases hr with hr | hr
  · exact hfront r hr
  · exact hother r hr

theorem key_ne_of_mem_flatMap (hk : k ∉ keys) {r : Record}
    (hr : r ∈ keys.flatMap c.recordsUnder) : r.key ≠ k := by
  obtain ⟨i, hi, hri⟩ := List.mem_flatMap.1 hr
  rw [key_of_mem_recordsUnder hri]
  exact fun hik => hk (hik ▸ hi)

/-- All the values of some keys: those of each key stand together.  The induction is on the keys; a key
that comes up does not come up again. -/
theorem together_flatMap (hkeys : keys.Nodup) (hk : k ∈ keys) :
    Together (keys.flatMap c.recordsUnder) k (c.recordsUnder k) := by
  induction keys with
  | nil => exact absurd hk List.not_mem_nil
  | cons i keys ih =>
    obtain ⟨hi, hrest⟩ := List.nodup_cons.1 hkeys
    rw [List.flatMap_cons]
    by_cases hik : i = k
    · subst hik
      refine ⟨[], keys.flatMap c.recordsUnder, by simp, fun r hr => ?_⟩
      exact key_ne_of_mem_flatMap hi (by simpa using hr)
    · have hmem : k ∈ keys := (List.mem_cons.1 hk).resolve_left (Ne.symm hik)
      refine (ih hrest hmem).append_left fun r hr => ?_
      rw [key_of_mem_recordsUnder hr]
      exact hik

/-! ## What is common to all orders -/

/-- A resolution leaves the collection `d` and tells of the events, and whatever records the caller has
already, it puts the records `found` in front of them. -/
def Yields (resolve : List Record → Except String Resolution) (d : Collection)
    (found : List Record) (events : List Event) : Prop :=
  ∀ out, resolve out = .ok ⟨d, found ++ out, events⟩

/-- The records of a key in a scan that does not stop: those of a visible key, the last value first. -/
def reported (c : Collection) (visible : String → Bool) (k : String) : List Record :=
  if visible k then (c.recordsUnder k).reverse else []

/-- What a resolution has in common in all orders.  It puts its records in front of what is there.  If
no visible key has an expired value, it leaves the collection as it is, and finds the same records in
any two orders up to their arrangement, those of each key side by side.  If exactly one key has, it
takes the first expired value from under this key, and finds the values in front of that one. -/
structure OrderFree (c : Collection) (now : Instant) (visible : String → Bool)
    (resolve : List String → List Record → Except String Resolution) : Prop where
  inFront : ∀ order, ∃ d found events, Yields (resolve order) d found events
  live : (∀ k, visible k = true → hasExpired now (c.bucket k) = false) →
    ∀ order order' : List String, order.Perm c.keys → order'.Perm c.keys → ∃ found found',
      Yields (resolve order) c found [] ∧ Yields (resolve order') c found' [] ∧
      found.Perm found' ∧
      ∀ k, Together found k (c.reported visible k) ∧ Together found' k (c.reported visible k)
  stopped : ∀ j, visible j = true → hasExpired now (c.bucket j) = true →
    (∀ k, visible k = true → hasExpired now (c.bucket k) = true → k = j) →
    ∀ order order' : List String, order.Perm c.keys → order'.Perm c.keys → ∃ found found',
      Yields (resolve order) (c.dropExpired now j) found [.erased c.name j] ∧
      Yields (resolve order') (c.dropExpired now j) found' [.erased c.name j] ∧
      Together found j (liveRecords c.name now j (c.bucket j)).reverse ∧
      Together found' j (liveRecords c.name now j (c.bucket j)).reverse

/-! ## One order -/

theorem mem_keys_of_hasExpired (h : hasExpired now (c.bucket k) = true) : k ∈ c.keys := by
  by_contra hk
  have hempty : c.bucket k = [] := Buckets.get_eq_nil_of_notMem hk
  rw [hempty] at h
  cases h

/-- A scan of visible keys without expired values does not stop. -/
theorem stop?_filter_eq_none (h : ∀ k, visible k = true → hasExpired now (c.bucket k) = false)
    (order : List String) : c.stop? now (order.filter visible) = none :=
  stop?_eq_none_iff.2 fun k hk => h k (List.mem_filter.1 hk).2

/-- A scan that comes to the one visible key with expired values stops there. -/
theorem stop?_filter_eq_some (hv : visible j = true) (hexp : hasExpired now (c.bucket j) = true)
    (hone : ∀ k, visible k = true → hasExpired now (c.bucket k) = true → k = j)
    (horder : order.Perm c.keys) : c.stop? now (order.filter visible) = some j := by
  have hmem : j ∈ order.filter visible :=
    List.mem_filter.2 ⟨horder.mem_iff.2 (mem_keys_of_hasExpired hexp), hv⟩
  cases hstop : c.stop? now (order.filter visible) with
  | none =>
    rw [stop?_eq_none_iff.1 hstop j hmem] at hexp
    cases hexp
  | some i =>
    have hi : visible i = true := (List.mem_filter.1 (mem_of_stop?_eq_some hstop)).2
    rw [hone i hi (hasExpired_of_stop?_eq_some hstop)]

/-- In a scan that does not stop, the records of each key stand together. -/
theorem together_reported (hc : c.keys.Nodup) (horder : order.Perm c.keys) (k : String) :
    Together ((order.filter visible).flatMap c.recordsUnder).reverse k (c.reported visible k) := by
  have hnodup : (order.filter visible).Nodup := (horder.nodup_iff.2 hc).filter _
  rw [reported]
  by_cases hmem : k ∈ order.filter visible
  · rw [if_pos (List.mem_filter.1 hmem).2]
    exact (together_flatMap hnodup hmem).reverse
  · have hnone : (if visible k then (c.recordsUnder k).reverse else []) = [] := by
      split
      · next hv =>
        -- a visible key that the scan does not come to is not there
        have hk : k ∉ c.keys := fun hk => hmem (List.mem_filter.2 ⟨horder.mem_iff.2 hk, hv⟩)
        have hempty : c.bucket k = [] := Buckets.get_eq_nil_of_notMem hk
        rw [recordsUnder, hempty, List.map_nil, List.reverse_nil]
      · rfl
    rw [hnone]
    exact together_nil fun r hr => key_ne_of_mem_flatMap hmem (List.mem_reverse.1 hr)

/-- The key at which a scan stops is the last one it reads, so what it finds there comes first in the
end. -/
theorem together_of_stop? (h : c.stop? now keys = some j) :
    Together (c.read now keys).reverse j (liveRecords c.name now j (c.bucket j)).reverse := by
  have hread : c.read now keys = (keys.takeWhile fun k => !hasExpired now (c.bucket k)).flatMap
      c.recordsUnder ++ liveRecords c.name now j (c.bucket j) := by
    rw [read, h]
    simp
  have hbefore : j ∉ keys.takeWhile fun k => !hasExpired now (c.bucket k) := by
    intro hj
    have hlive := List.mem_takeWhile_imp hj
    rw [hasExpired_of_stop?_eq_some h] at hlive
    cases hlive
  refine Together.reverse ⟨_, [], hread.trans (List.append_nil _).symm, fun r hr => ?_⟩
  rw [List.append_nil] at hr
  exact key_ne_of_mem_flatMap hbefore hr

/-! ## Two orders -/

/-- **Scans of the visible keys depend on their order as little as possible.** -/
theorem orderFree_of_scan (hc : c.keys.Nodup)
    {resolve : List String → List Record → Except String Resolution}
    (hscan : ∀ order out, resolve order out = .ok ⟨c.afterScan now (order.filter visible),
      (c.read now (order.filter visible)).reverse ++ out,
      c.scanEvents now (order.filter visible)⟩) :
    OrderFree c now visible resolve := by
  refine ⟨fun order => ⟨_, _, _, hscan order⟩, fun hlive order order' horder horder' => ?_,
    fun j hv hexp hone order order' horder horder' => ?_⟩
  · have hyields : ∀ order : List String,
        Yields (resolve order) c ((order.filter visible).flatMap c.recordsUnder).reverse [] := by
      intro order out
      have hstop := stop?_filter_eq_none hlive order
      rw [hscan, read_of_stop?_eq_none hstop, afterScan, scanEvents, hstop]
      rfl
    have hperm : (order.filter visible).Perm (order'.filter visible) :=
      (horder.trans horder'.symm).filter _
    refine ⟨_, _, hyields order, hyields order', ?_, fun k =>
      ⟨together_reported hc horder k, together_reported hc horder' k⟩⟩
    have harrange := hperm.flatMap_right c.recordsUnder
    exact (List.reverse_perm _).trans (harrange.trans (List.reverse_perm _).symm)
  · have hyields : ∀ order : List String, order.Perm c.keys →
        Yields (resolve order) (c.dropExpired now j) (c.read now (order.filter visible)).reverse
            [.erased c.name j] ∧
          Together (c.read now (order.filter visible)).reverse j
            (liveRecords c.name now j (c.bucket j)).reverse := by
      intro order horder
      have hstop := stop?_filter_eq_some hv hexp hone horder
      refine ⟨fun out => ?_, together_of_stop? hstop⟩
      rw [hscan, afterScan, scanEvents, hstop]
      rfl
    obtain ⟨hfound, htogether⟩ := hyields order horder
    obtain ⟨hfound', htogether'⟩ := hyields order' horder'
    exact ⟨_, _, hfound, hfound', htogether, htogether'⟩

/-- **The order of a scan arranges what is found and decides little else.**  This holds of resolutions
of all keys, and of those by a pattern that compiles with the keys that it finds.  A pattern that does
not compile leaves everything as it is in any order, with one and the same warning. -/
theorem scan_order_only_arranges {c : Collection} (hc : c.keys.Nodup) (now : Instant)
    (hidden : String → Bool) :
    OrderFree c now (fun k => !hidden k)
      (fun order => c.resolveAll now order "" (.omitting hidden)) ∧
    ∀ pattern : String,
      (∀ p, KeyPattern.compile pattern c.ignoreCase = .ok p →
        OrderFree c now (fun k => p.search k && !hidden k)
          (fun order => c.resolveMatching now order pattern (.omitting hidden))) ∧
      ∀ e, KeyPattern.compile pattern c.ignoreCase = .error e → ∀ order : List String,
        Yields (c.resolveMatching now order pattern (.omitting hidden)) c []
          [.patternRejected c.name e] := by
  refine ⟨orderFree_of_scan hc fun order out => ?_, fun pattern => ⟨fun p hp => ?_, ?_⟩⟩
  · exact resolveOrder_omitting c now order hidden out
  · exact orderFree_of_scan hc fun order out => resolveMatching_omitting hp now order hidden out
  · intro e he order out
    rw [resolveMatching, he]
    rfl

/-- Two values under `a`, and an expired one under `b` and under `c`. -/
def mixed : Collection :=
  (named "vars").run
    [⟨.zero, .store "a" "x"⟩, ⟨.zero, .store "a" "y"⟩, ⟨.zero, .store "b" "z"⟩,
      ⟨.zero, .setExpiry "b" 0⟩, ⟨.zero, .store "c" "u"⟩, ⟨.zero, .setExpiry "c" 0⟩]

theorem eq_or_eq_of_hasExpired_mixed (h : hasExpired .zero (mixed.bucket k) = true) :
    k = "b" ∨ k = "c" := by
  have hk : k ∈ ["a", "b", "c"] := mem_keys_of_hasExpired h
  simp only [List.mem_cons, List.not_mem_nil, or_false] at hk
  rcases hk with rfl | hk
  · exact absurd h (by decide)
  · exact hk

/-- With `b` and `c` hidden, all orders find the values of `a`.  With `c` hidden, all orders erase the
value under `b`, and so does a pattern that finds `b`, if nothing but `b` is left to be found. -/
theorem mixed_in_any_order :
    mixed.keys.Nodup ∧
    (∃ found found',
      Yields (mixed.resolveAll .zero ["a", "b", "c"] "" (.omitting (· ≠ "a"))) mixed found [] ∧
      Yields (mixed.resolveAll .zero ["c", "b", "a"] "" (.omitting (· ≠ "a"))) mixed found' [] ∧
      found.Perm found' ∧ Together found "a" [⟨"vars", "a", "y"⟩, ⟨"vars", "a", "x"⟩]) ∧
    (∃ found found',
      Yields (mixed.resolveAll .zero ["a", "b", "c"] "" (.omitting (· = "c")))
        (mixed.dropExpired .zero "b") found [.erased "vars" "b"] ∧
      Yields (mixed.resolveAll .zero ["b", "c", "a"] "" (.omitting (· = "c")))
        (mixed.dropExpired .zero "b") found' [.erased "vars" "b"]) ∧
    ∃ p, KeyPattern.compile "b" mixed.ignoreCase = .ok p ∧ ∃ found found',
      Yields (mixed.resolveMatching .zero ["a", "b", "c"] "b" (.omitting (· ≠ "b")))
        (mixed.dropExpired .zero "b") found [.erased "vars" "b"] ∧
      Yields (mixed.resolveMatching .zero ["c", "b", "a"] "b" (.omitting (· ≠ "b")))
        (mixed.dropExpired .zero "b") found' [.erased "vars" "b"] := by
  have hkeys : mixed.keys.Nodup := by decide
  have hforth : ["a", "b", "c"].Perm mixed.keys := List.Perm.refl _
  have hback : ["c", "b", "a"].Perm mixed.keys := by decide
  have hturned : ["b", "c", "a"].Perm mixed.keys := by decide
  refine ⟨hkeys, ?_, ?_, ?_⟩
  · obtain ⟨hall, -⟩ := scan_order_only_arranges hkeys .zero (· ≠ "a")
    have hlive : ∀ k, (!decide (k ≠ "a")) = true →
        hasExpired .zero (mixed.bucket k) = false := by
      intro k hk
      obtain rfl : k = "a" := by simpa using hk
      decide
    obtain ⟨found, found', hfound, hfound', hperm, htogether⟩ :=
      hall.live hlive _ _ hforth hback
    exact ⟨found, found', hfound, hfound', hperm, (htogether "a").1⟩
  · obtain ⟨hall, -⟩ := scan_order_only_arranges hkeys .zero (· = "c")
    have hone : ∀ k, (!decide (k = "c")) = true → hasExpired .zero (mixed.bucket k) = true →
        k = "b" := by
      intro k hk hexp
      exact (eq_or_eq_of_hasExpired_mixed hexp).resolve_right (by simpa using hk)
    obtain ⟨found, found', hfound, hfound', -, -⟩ :=
      hall.stopped "b" (by decide) (by decide) hone _ _ hforth hturned
    exact ⟨found, found', hfound, hfound'⟩
  · obtain ⟨-, hmatching⟩ := scan_order_only_arranges hkeys .zero (· ≠ "b")
    have hfinds : (KeyPattern.compile "b" mixed.ignoreCase).toOption.map (·.search "b") =
        some true := by cbv
    obtain ⟨p, hp, hsearch⟩ := KeyPattern.exists_of_search_eq hfinds
    have hvisible : (p.search "b" && !decide ("b" ≠ "b")) = true := by simp [hsearch]
    have hone : ∀ k, (p.search k && !decide (k ≠ "b")) = true →
        hasExpired .zero (mixed.bucket k) = true → k = "b" := by
      intro k hk _
      simpa using (Bool.and_eq_true_iff.1 hk).2
    obtain ⟨found, found', hfound, hfound', -, -⟩ :=
      ((hmatching "b").1 p hp).stopped "b" hvisible (by decide) hone _ _ hforth hback
    exact ⟨p, hp, found, found', hfound, hfound'⟩

/-- With both `b` and `c` visible it is a matter of the order which of the two values is erased. -/
example :
    ((mixed.resolveAll .zero ["a", "b", "c"] "" .keepAll []).toOption.map (·.events),
      (mixed.resolveAll .zero ["c", "b", "a"] "" .keepAll []).toOption.map (·.events)) =
    (some [.erased "vars" "b"], some [.erased "vars" "c"]) := by
  decide

end Collection
end VarStore
