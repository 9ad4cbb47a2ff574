import Mathlib.Data.List.TFAE
import VarStore.Proofs.Collection.Output
import VarStore.Proofs.Registry.Request
import VarStore.Proofs.Text.Utf8

/-!
# What the names of a registry say

A registry is asked for a name in four ways, by `get`, `getOrCreate`, `remove` and the list of its
names, and each of them has to make the same of the spelling of the name.  If one of them did not,
there would be two collections under one name, or one that cannot be reached.  What excludes that is
the bond between the register and the pool (`WellFormed`): names are in upper case and different,
and lead to collections that have these names themselves.

A collection writes its name into every record that it hands out (`Collection.stamps_name`).  So the
records of a collection name the collection under which it is registered.

* `pairwise_names`: the names in a row, sorted and different.
* `Collection.Stamps`: a collection marks its records with a name.
* `names_describe_the_registry`: all of it, for every registry that can come about.
-/

namespace VarStore

/-! ## The name in the records -/

namespace Collection

variable {c : Collection} {now : Instant}

theorem collection_of_mem_readThrough {name : String} {bs : List (String × List Entry)} {v : Record}
    (hv : v ∈ (readThrough name now bs).1) : v.collection = name := by
  induction bs with
  | nil => cases hv
  | cons p bs ih =>
    obtain ⟨k, b⟩ := p
    have hlive : v ∈ liveRecords name now k b → v.collection = name := by
      intro hv
      obtain ⟨e, -, rfl⟩ := List.mem_map.1 hv
      rfl
    rw [readThrough] at hv
    cases hk : firstExpired? now k b with
    | some place =>
      rw [hk] at hv
      exact hlive hv
    | none =>
      rw [hk] at hv
      rcases List.mem_append.1 hv with hv | hv
      · exact hlive hv
      · exact ih hv

theorem records_finish (c : Collection) (stop : Option Place) (records : List Record) :
    (c.finish stop records).records = records := by
  cases stop <;> rfl

theorem collection_of_mem_resolveOrder {keys : List String} {ask : Filter} {res : Resolution}
    (hres : c.resolveOrder now keys ask [] = .ok res) {v : Record} (hv : v ∈ res.records) :
    v.collection = c.name := by
  unfold resolveOrder at hres
  cases hread : readFiltered c.name now ask (c.bucketsOf keys) with
  | error message =>
    rw [hread] at hres
    cases hres
  | ok p =>
    rw [hread] at hres
    obtain rfl := Except.ok.inj hres
    rw [records_finish, List.append_nil, List.mem_reverse, readFiltered_eq_of_ok hread] at hv
    exact collection_of_mem_readThrough hv

/-- What a resolution makes of the empty list has the name of the collection. -/
theorem Query.collection_of_mem {q : Query} {res : Resolution} (hres : q.resolve c now [] = .ok res)
    {v : Record} (hv : v ∈ res.records) : v.collection = c.name := by
  cases q with
  | key k =>
    obtain rfl := Except.ok.inj hres
    rw [resolveKey, records_finish, List.nil_append] at hv
    exact collection_of_mem_readThrough hv
  | all order k ask => exact collection_of_mem_resolveOrder hres hv
  | matching order pattern ask =>
    have hres : c.resolveMatching now (order.arrange c.keys) pattern ask [] = .ok res := hres
    unfold resolveMatching at hres
    cases hp : KeyPattern.compile pattern c.ignoreCase with
    | error e =>
      rw [hp] at hres
      obtain rfl := Except.ok.inj hres
      cases hv
    | ok p =>
      rw [hp] at hres
      exact collection_of_mem_resolveOrder hres hv

/-- Every record that the collection hands out names this collection.  To the list of a caller only
such records are added. -/
structure Stamps (c : Collection) (name : String) : Prop where
  first : ∀ k v, c.firstRecord? k = some v → v.collection = name
  found : ∀ (now : Instant) (q : Query) (out : List Record), ∃ found,
    (c.perform ⟨now, q.onto out⟩).2.answer.listAfter out = q.stack found out ∧
      ∀ v ∈ found, v.collection = name

/-- **A collection writes its name into every record.** -/
theorem stamps_name (c : Collection) : c.Stamps c.name := by
  refine ⟨fun k v hv => ?_, fun now q out => ?_⟩
  · unfold firstRecord? at hv
    obtain ⟨value, -, rfl⟩ := Option.map_eq_some_iff.1 hv
    rfl
  · refine ⟨(Moment.mk c now q).found, ?_, fun v hv => ?_⟩
    · rw [perform_onto, listAfter_restack]
      rfl
    · unfold Moment.found at hv
      rw [q.perform_onto_eq_outcome] at hv
      cases hres : q.resolve c now [] with
      | error message =>
        rw [hres] at hv
        cases hv
      | ok res =>
        rw [hres] at hv
        exact q.collection_of_mem hres hv

end Collection

/-! ## The names in a row -/

namespace Registry

variable {r : Registry} {name s : String}

theorem mem_names_iff : name ∈ r.names ↔ r.registered? name ≠ none := by
  unfold names
  rw [List.mem_mergeSort, Ne, registered?_eq_none_iff, not_not]

theorem length_names (r : Registry) : r.names.length = r.size := by
  unfold names size
  rw [List.length_mergeSort, List.length_map]

theorem isEmpty_iff_names_eq_nil (r : Registry) : r.isEmpty = true ↔ r.names = [] := by
  unfold isEmpty
  rw [List.isEmpty_iff_length_eq_zero, ← List.length_eq_zero_iff, length_names]
  rfl

/-- The names are sorted, and as no two of them are the same, each is smaller than those behind it.
-/
theorem pairwise_names (hr : r.WellFormed) : r.names.Pairwise (· < ·) := by
  have htrans : ∀ a b c : String, decide (a ≤ b) = true → decide (b ≤ c) = true →
      decide (a ≤ c) = true := by
    intro a b c hab hbc
    exact decide_eq_true (String.le_trans (of_decide_eq_true hab) (of_decide_eq_true hbc))
  have htotal : ∀ a b : String, (decide (a ≤ b) || decide (b ≤ a)) = true := by
    intro a b
    simpa using String.le_total a b
  have hsorted := List.pairwise_mergeSort htrans htotal (r.register.map (·.1))
  have hnodup : r.names.Nodup := (List.mergeSort_perm _ _).nodup_iff.2 hr.nodup
  refine (hsorted.and hnodup).imp fun {a b} hab => ?_
  obtain ⟨hle, hne⟩ := hab
  rcases lt_or_eq_of_le (of_decide_eq_true hle) with hlt | heq
  · exact hlt
  · exact absurd heq hne

/-! ## Asking for a name -/

theorem exists_collection_iff (hr : r.WellFormed) :
    (∃ h c, r.get? s = some h ∧ r.collection? h = some c) ↔ r.get? s ≠ none := by
  constructor
  · rintro ⟨h, c, hs, -⟩
    simp [hs]
  · intro hs
    obtain ⟨h, hs⟩ := Option.ne_none_iff_exists'.1 hs
    obtain ⟨c, hc, -⟩ := hr.named _ h hs
    exact ⟨h, c, hs, hc⟩

theorem remove_eq_true_iff : (r.remove s).2.1 = true ↔ r.get? s ≠ none := by
  cases hs : r.get? s with
  | none => simp [remove_of_none hs]
  | some h => simp [remove_of_some hs]

theorem pool_getOrCreate_eq_iff : (r.getOrCreate s).1.pool = r.pool ↔ r.get? s ≠ none := by
  cases hs : r.get? s with
  | none => simp [getOrCreate_of_none hs, create]
  | some h => simp [getOrCreate_of_some hs]

/-- **The names describe the registry.**  In every registry that can come about, whatever the
configuration and whatever has been asked of it, the names are strictly sorted by their bytes in
UTF-8 and in upper case.  Each leads to a collection that has it for its own name and marks its
records with it.  There are as many collections as names.  And whatever is asked for, the collection
is found, would be let go, and would not have to be made, exactly if the upper case of what is asked
for is one of the names. -/
theorem names_describe_the_registry (hr : r.Reachable) :
    r.names.Pairwise (fun s t => Text.bytes s < Text.bytes t) ∧
    (∀ name ∈ r.names, Text.upper name = name ∧ ∃ h c, r.get? name = some h ∧
      r.collection? h = some c ∧ c.name = name ∧ c.Stamps name) ∧
    r.size = r.names.length ∧
    (r.isEmpty = true ↔ r.names = []) ∧
    ∀ s, List.TFAE [∃ h c, r.get? s = some h ∧ r.collection? h = some c,
      (r.remove s).2.1 = true, (r.getOrCreate s).1.pool = r.pool, Text.upper s ∈ r.names] := by
  have hwf := hr.wellFormed
  refine ⟨(pairwise_names hwf).imp Text.bytes_lt_bytes, ?_, (length_names r).symm,
    isEmpty_iff_names_eq_nil r, fun s => ?_⟩
  · intro name hname
    obtain ⟨h, hreg⟩ := Option.ne_none_iff_exists'.1 (mem_names_iff.1 hname)
    have hupper := hwf.upper name h hreg
    obtain ⟨c, hc, rfl⟩ := hwf.named name h hreg
    refine ⟨hupper, h, c, ?_, hc, rfl, c.stamps_name⟩
    unfold get?
    rw [hupper, hreg]
  · refine List.tfae_of_forall (r.get? s ≠ none) _ ?_
    simp only [List.forall_mem_cons]
    exact ⟨exists_collection_iff hwf, remove_eq_true_iff, pool_getOrCreate_eq_iff, mem_names_iff,
      by simp⟩

/-- A configuration that names one collection in three spellings, and others by the empty name and
in letters beyond ASCII. -/
def manySpellings : Config := ⟨10, true, ["Ip", "", "ip", "straße", "éA", "IP"]⟩

/-- A registry that begins with these collections, lets go of one of them and makes another. -/
def respelled : Registry :=
  (withDefaults manySpellings).1.run
    [.use ⟨0⟩ ⟨.zero, .store "k" "v"⟩, .remove "STRAßE", .getOrCreate "z"]

/-- The four that are left are found in any spelling, and the one that was let go is not. -/
theorem respelled_names :
    respelled.Reachable ∧ respelled.names.length = 4 ∧
      respelled.names.Pairwise (fun s t => Text.bytes s < Text.bytes t) ∧
      "IP" ∈ respelled.names ∧ "" ∈ respelled.names ∧ "éA" ∈ respelled.names ∧
      "STRAßE" ∉ respelled.names := by
  have hr : respelled.Reachable := (Reachable.withDefaults manySpellings).run _
  obtain ⟨hsorted, -, hsize, -, hask⟩ := names_describe_the_registry hr
  have hiff : ∀ s, (respelled.remove s).2.1 = true ↔ Text.upper s ∈ respelled.names :=
    fun s => (hask s).out 1 3
  have hip : Text.upper "iP" = "IP" := by decide
  have hnone : Text.upper "" = "" := by decide
  have hea : Text.upper "éa" = "éA" := by decide
  have hstrasse : Text.upper "straßE" = "STRAßE" := by decide
  refine ⟨hr, hsize.symm.trans (by decide), hsorted, ?_, ?_, ?_, ?_⟩
  · rw [← hip, ← hiff]
    decide
  · rw [← hnone, ← hiff]
    decide
  · rw [← hea, ← hiff]
    decide
  · rw [← hstrasse, ← hiff]
    decide

end Registry
end VarStore
