import VarStore.Proofs.Collection.Stepwise

/-!
# Hidden keys do not interfere

A client that resolves with a filter is not meant to learn anything about the keys that the filter
hides.  What it gets are records, in some order, and it can see how values go from under the keys that
are visible to it; somebody may look at the events as well.  None of this depends on what is under
hidden keys.  This is a statement about two collections: they agree on visible keys (`AgreeOn`) and
differ elsewhere in any way, in their values, in how many of these are expired, in which keys there
are and in when a scan comes to them.

There are three ways in which something could come through.  An expired value under a hidden key might
stop the scan, it might be erased, or hidden keys might displace the records of others.  All three are
excluded by one fact, that a scan with a filter is a scan of the visible keys in their order
(`resolveOrder_omitting`), and the visible keys in their order are among the things in which the two
collections agree.

The same fact gives the other half.  What is hidden from a client is also safe from it: the client's
resolutions erase no value under a hidden key, however many of them are expired.

* `AgreeOn`, `Indistinguishable`: what is the same before, and what is the same afterwards.
* `indistinguishable_scan`: two scans of what is visible.
* `hidden_keys_do_not_interfere`: resolutions of one key, of all keys and by a pattern.
-/

namespace VarStore
namespace Collection

variable {c d : Collection} {order order' keys keys' : List String} {visible : String → Bool}

/-! ## Two collections -/

/-- Two collections, each with the order in which its keys are visited, that agree on visible keys:
the values under them are the same, and they are visited in the same order.  What the collections are
called and how they read patterns is no secret either. -/
structure AgreeOn (visible : String → Bool) (c : Collection) (order : List String) (d : Collection)
    (order' : List String) : Prop where
  name : c.name = d.name
  ignoreCase : c.ignoreCase = d.ignoreCase
  bucket : ∀ k, visible k = true → c.bucket k = d.bucket k
  order : order.filter visible = order'.filter visible

/-- Resolutions `r` of `c` and `s` of `d` between which the visible keys make no difference.  They
return the same records and tell of the same events, and leave collections that agree on visible keys
as those before did; and each of them has left what is not visible as it was. -/
structure Indistinguishable (visible : String → Bool) (c : Collection) (order : List String)
    (d : Collection) (order' : List String) (r s : Resolution) : Prop where
  records : r.records = s.records
  events : r.events = s.events
  agree : AgreeOn visible r.collection order s.collection order'
  untouched : ∀ k, visible k = false →
    r.collection.bucket k = c.bucket k ∧ s.collection.bucket k = d.bucket k

/-! ## Two scans -/

/-- **Two scans of visible keys.**  They visit the same keys with the same values under them, so they
stop at the same key, and no key that is not visible is among those that they visit. -/
theorem indistinguishable_scan (h : AgreeOn visible c order d order') (now : Instant)
    (hkeys : keys.filter visible = keys'.filter visible) (out : List Record) :
    Indistinguishable visible c order d order'
      ⟨c.afterScan now (keys.filter visible), (c.read now (keys.filter visible)).reverse ++ out,
        c.scanEvents now (keys.filter visible)⟩
      ⟨d.afterScan now (keys'.filter visible), (d.read now (keys'.filter visible)).reverse ++ out,
        d.scanEvents now (keys'.filter visible)⟩ := by
  have hvisible : ∀ k ∈ keys.filter visible, visible k = true := fun k hk =>
    (List.mem_filter.1 hk).2
  have hsame : ∀ k ∈ keys.filter visible, c.bucket k = d.bucket k := fun k hk =>
    h.bucket k (hvisible k hk)
  obtain ⟨hstop, hread⟩ := read_congr h.name now hsame
  rw [← hkeys]
  refine ⟨?_, ?_, ⟨?_, ?_, fun k hk => ?_, h.order⟩, fun k hk => ?_⟩
  · show (c.read now _).reverse ++ out = (d.read now _).reverse ++ out
    rw [hread]
  · show c.scanEvents now _ = d.scanEvents now _
    rw [scanEvents, scanEvents, hstop, h.name]
  · show (c.afterScan now _).name = (d.afterScan now _).name
    rw [name_afterScan, name_afterScan, h.name]
  · show (c.afterScan now _).ignoreCase = (d.afterScan now _).ignoreCase
    rw [ignoreCase_afterScan, ignoreCase_afterScan, h.ignoreCase]
  · show (c.afterScan now _).bucket k = (d.afterScan now _).bucket k
    rw [bucket_afterScan, bucket_afterScan, hstop, h.bucket k hk]
  · have hnot : k ∉ keys.filter visible := by
      intro hmem
      rw [hvisible k hmem] at hk
      cases hk
    exact ⟨bucket_afterScan_of_notMem now hnot, bucket_afterScan_of_notMem now hnot⟩

/-! ## The three resolutions -/

/-- The keys that a pattern finds and that are not hidden.  A pattern that does not compile finds
nothing. -/
def foundBy (pattern : String) (ignoreCase : Bool) (hidden : String → Bool) (k : String) : Bool :=
  match KeyPattern.compile pattern ignoreCase with
  | .ok p => p.search k && !hidden k
  | .error _ => false

theorem foundBy_of_ok {pattern : String} {ignoreCase : Bool} {p : KeyPattern}
    (hp : KeyPattern.compile pattern ignoreCase = .ok p) (hidden : String → Bool) :
    foundBy pattern ignoreCase hidden = fun k => p.search k && !hidden k := by
  funext k
  rw [foundBy, hp]

/-- Resolving one key, or all of them.  For one key it does not matter whether the collections agree
in the order of their keys, and the two orders may be any lists. -/
theorem indistinguishable_resolveAll {hidden : String → Bool}
    (h : AgreeOn (fun k => !hidden k) c order d order') (now : Instant) (k : String)
    (out : List Record) :
    ∃ r s, c.resolveAll now order k (.omitting hidden) out = .ok r ∧
      d.resolveAll now order' k (.omitting hidden) out = .ok s ∧
      Indistinguishable (fun k => !hidden k) c order d order' r s := by
  have hkeys : (if k = "" then order else [k]).filter (fun k => !hidden k) =
      (if k = "" then order' else [k]).filter (fun k => !hidden k) := by
    split
    · exact h.order
    · rfl
  exact ⟨_, _, resolveOrder_omitting c now _ hidden out, resolveOrder_omitting d now _ hidden out,
    indistinguishable_scan h now hkeys out⟩

/-- Resolving by a pattern, which both collections read in the same way. -/
theorem indistinguishable_resolveMatching {pattern : String} {hidden : String → Bool}
    (h : AgreeOn (foundBy pattern c.ignoreCase hidden) c order d order') (now : Instant)
    (out : List Record) :
    ∃ r s, c.resolveMatching now order pattern (.omitting hidden) out = .ok r ∧
      d.resolveMatching now order' pattern (.omitting hidden) out = .ok s ∧
      Indistinguishable (foundBy pattern c.ignoreCase hidden) c order d order' r s := by
  cases hp : KeyPattern.compile pattern c.ignoreCase with
  | ok p =>
    have hp' : KeyPattern.compile pattern d.ignoreCase = .ok p := h.ignoreCase ▸ hp
    rw [foundBy_of_ok hp] at h ⊢
    exact ⟨_, _, resolveMatching_omitting hp now order hidden out,
      resolveMatching_omitting hp' now order' hidden out, indistinguishable_scan h now h.order out⟩
  | error e =>
    have hp' : KeyPattern.compile pattern d.ignoreCase = .error e := h.ignoreCase ▸ hp
    refine ⟨⟨c, out, [.patternRejected c.name e]⟩, ⟨d, out, [.patternRejected d.name e]⟩, ?_, ?_,
      rfl, ?_, h, fun k _ => ⟨rfl, rfl⟩⟩
    · rw [resolveMatching, hp]
    · rw [resolveMatching, hp']
    · rw [h.name]

/-- **Hidden keys do not interfere.**  Take two collections that agree on the keys that a filter does
not hide, and for a resolution by a pattern only on those of them that the pattern finds.  Resolve the
same key in both, or all keys, or the keys that the pattern finds, into the same records: both
resolutions succeed, return the same and tell of the same erasure, and the collections agree on these
keys afterwards.  Neither of the resolutions has changed anything under another key, whatever was
expired there. -/
theorem hidden_keys_do_not_interfere (c d : Collection) (order order' : List String) (now : Instant)
    (hidden : String → Bool) (out : List Record) :
    (AgreeOn (fun k => !hidden k) c order d order' → ∀ k,
      ∃ r s, c.resolveAll now order k (.omitting hidden) out = .ok r ∧
        d.resolveAll now order' k (.omitting hidden) out = .ok s ∧
        Indistinguishable (fun k => !hidden k) c order d order' r s) ∧
    ∀ pattern : String, AgreeOn (foundBy pattern c.ignoreCase hidden) c order d order' →
      ∃ r s, c.resolveMatching now order pattern (.omitting hidden) out = .ok r ∧
        d.resolveMatching now order' pattern (.omitting hidden) out = .ok s ∧
        Indistinguishable (foundBy pattern c.ignoreCase hidden) c order d order' r s :=
  ⟨fun h k => indistinguishable_resolveAll h now k out,
    fun _ h => indistinguishable_resolveMatching h now out⟩

/-- A value under `b`. -/
def unguarded : Collection := (named "vars").run [⟨.zero, .store "b" "y"⟩]

/-- The same, and an expired value under `a`. -/
def guarded : Collection := unguarded.run [⟨.zero, .store "a" "x"⟩, ⟨.zero, .setExpiry "a" 0⟩]

theorem bucket_guarded {k : String} (hk : k ≠ "a") : guarded.bucket k = unguarded.bucket k := by
  show ((unguarded.store "a" "x").setExpiry .zero "a" 0).bucket k = unguarded.bucket k
  rw [setExpiry, bucket_setBucket, if_neg hk, store, bucket_setBucket, if_neg hk]

/-- The expired value is not met by a scan that hides `a`, nor by one with a pattern that does not find
`a`; and it is there afterwards. -/
theorem guarded_like_unguarded :
    AgreeOn (fun k => !decide (k = "a")) guarded ["a", "b"] unguarded ["b"] ∧
    (∃ r s, guarded.resolveAll .zero ["a", "b"] "" (.omitting (· = "a")) [] = .ok r ∧
      unguarded.resolveAll .zero ["b"] "" (.omitting (· = "a")) [] = .ok s ∧
      r.records = s.records ∧ r.events = s.events ∧
      r.collection.bucket "a" = guarded.bucket "a") ∧
    AgreeOn (foundBy "b" guarded.ignoreCase fun _ => false) guarded ["a", "b"] unguarded ["b"] ∧
    ∃ r s, guarded.resolveMatching .zero ["a", "b"] "b" (.omitting fun _ => false) [] = .ok r ∧
      unguarded.resolveMatching .zero ["b"] "b" (.omitting fun _ => false) [] = .ok s ∧
      r.records = s.records ∧ r.collection.bucket "a" = guarded.bucket "a" := by
  obtain ⟨hall, -⟩ := hidden_keys_do_not_interfere guarded unguarded ["a", "b"] ["b"] .zero
    (· = "a") []
  obtain ⟨-, hmatching⟩ := hidden_keys_do_not_interfere guarded unguarded ["a", "b"] ["b"] .zero
    (fun _ => false) []
  have hagree : AgreeOn (fun k => !decide (k = "a")) guarded ["a", "b"] unguarded ["b"] := by
    refine ⟨rfl, rfl, fun k hk => bucket_guarded ?_, by decide⟩
    simpa using hk
  have ha : foundBy "b" guarded.ignoreCase (fun _ => false) "a" = false := by
    obtain ⟨p, hp, ha⟩ := KeyPattern.exists_compile_b guarded.ignoreCase
    simp [foundBy_of_ok hp, ha]
  have hagree' : AgreeOn (foundBy "b" guarded.ignoreCase fun _ => false) guarded ["a", "b"]
      unguarded ["b"] := by
    refine ⟨rfl, rfl, fun k hk => bucket_guarded ?_, List.filter_cons_of_neg (by simp [ha])⟩
    rintro rfl
    rw [ha] at hk
    cases hk
  refine ⟨hagree, ?_, hagree', ?_⟩
  · obtain ⟨r, s, hr, hs, h⟩ := hall hagree ""
    exact ⟨r, s, hr, hs, h.records, h.events, (h.untouched "a" rfl).1⟩
  · obtain ⟨r, s, hr, hs, h⟩ := hmatching "b" hagree'
    exact ⟨r, s, hr, hs, h.records, (h.untouched "a" ha).1⟩

end Collection
end VarStore
