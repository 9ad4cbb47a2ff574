import VarStore.Proofs.Collection.Output
import VarStore.Proofs.Collection.Representation
import VarStore.Proofs.Collection.Settling

/-!
# Places that are good for removal

A scan that meets an expired value does not remove it.  It hands back a place, which is a key and a
position, and when the scan is over the bucket is looked up by the key and whatever is at the position is
removed.  Nothing ties the one to the other but the place: a key that is not there, or a position counted
over anything but the whole bucket, would remove a value that is not expired, or none at all.

So removing is said here with the two ways in which it can go wrong (`Buckets.remove`), and it is shown
that neither happens, whatever pairs of the collection are scanned and in whatever order.  A scan splits
the values it is given, in the order of the scan, at the first expired one (`Meets`): those in front are
the ones of which records are made, and the place is that of this one value.  The induction is on the
pairs; a bucket without expired values is put in front of what is found behind it.

* `values`: the values of some pairs, in the order of a scan.
* `Meets`: a scan meets an expired value.
* `Buckets.remove`: removing at a place, with a look at what is there.
* `stopping_place_is_valid`: what a scan hands back, and that the removal goes through.
-/

namespace VarStore

namespace Buckets

variable {m : Buckets} {k : String} {i : Nat}

/-! ## Removing, with a look at what is there -/

/-- How a removal ends. -/
inductive Removal where
  /-- There is no pair for the key. -/
  | noBucket
  /-- The bucket ends in front of the position. -/
  | noValue
  /-- The value is gone, and these buckets are left. -/
  | done (left : Buckets)

/-- Look the bucket of a key up and remove the value at a position. -/
def remove (m : Buckets) (k : String) (i : Nat) : Removal :=
  match m.lookup k with
  | none => .noBucket
  | some b => if i < b.length then .done (m.removeAt k i) else .noValue

theorem lookup_eq_some_of_mem (h : k ∈ m.keys) : m.lookup k = some (m.get k) := by
  induction m with
  | nil => exact absurd h List.not_mem_nil
  | cons p m ih =>
    obtain ⟨j, b⟩ := p
    rw [get_cons]
    by_cases hjk : j = k
    · rw [if_pos hjk, hjk, List.lookup_cons_self]
    · rw [keys_cons, List.mem_cons] at h
      rw [if_neg hjk, lookup_cons_of_ne (Ne.symm hjk), ih (h.resolve_left (Ne.symm hjk))]

/-- A position in front of the end of a bucket is the position of a value, and its key has a pair. -/
theorem remove_eq_done (hi : i < (m.get k).length) : m.remove k i = .done (m.removeAt k i) := by
  have hk : k ∈ m.keys := by
    by_contra hk
    rw [get_eq_nil_of_notMem hk] at hi
    exact absurd hi (Nat.not_lt_zero i)
  simp only [remove, lookup_eq_some_of_mem hk, if_pos hi]

end Buckets

namespace Collection

variable {c : Collection} {now : Instant} {k : String} {pairs : List (String × List Entry)}
  {seen : List (String × Entry)} {place : Place} {e : Entry}

/-! ## The values of some pairs -/

/-- The values of some pairs with their keys, in the order of a scan. -/
def values (pairs : List (String × List Entry)) : List (String × Entry) :=
  pairs.flatMap fun p => p.2.map fun e => (p.1, e)

/-- The record of a value. -/
def recordOf (name : String) (v : String × Entry) : Record := ⟨name, v.1, v.2.payload⟩

theorem values_cons (k : String) (b : List Entry) (pairs : List (String × List Entry)) :
    values ((k, b) :: pairs) = b.map (Prod.mk k) ++ values pairs :=
  List.flatMap_cons

/-- A scan of the pairs meets the expired value `e` at the place.  The values that it has seen by then are
those of the pairs in front and those in front of `e` in its own bucket. -/
structure Meets (now : Instant) (pairs : List (String × List Entry))
    (seen : List (String × Entry)) (place : Place) (e : Entry) : Prop where
  split : ∃ before live post after, pairs = before ++ (place.key, live ++ e :: post) :: after ∧
    seen = values before ++ live.map (Prod.mk place.key) ∧ place.index = live.length
  live : ∀ v ∈ seen, v.2.isExpiredAt now = false
  expired : e.isExpiredAt now = true

/-- What has been seen stands in front of the value among all values. -/
theorem Meets.values_eq (h : Meets now pairs seen place e) :
    ∃ rest, values pairs = seen ++ (place.key, e) :: rest := by
  obtain ⟨before, live, post, after, rfl, rfl, -⟩ := h.split
  exact ⟨post.map (Prod.mk place.key) ++ values after, by simp [values]⟩

/-- A bucket without expired values in front of the pairs is seen as well. -/
theorem Meets.cons {b : List Entry} (h : Meets now pairs seen place e)
    (hb : ∀ x ∈ b, x.isExpiredAt now = false) (k : String) :
    Meets now ((k, b) :: pairs) (b.map (Prod.mk k) ++ seen) place e := by
  obtain ⟨before, live, post, after, hpairs, hseen, hindex⟩ := h.split
  refine ⟨⟨(k, b) :: before, live, post, after, ?_, ?_, hindex⟩, fun v hv => ?_, h.expired⟩
  · rw [hpairs, List.cons_append]
  · rw [hseen, values_cons, List.append_assoc]
  · rcases List.mem_append.1 hv with hv | hv
    · obtain ⟨x, hx, rfl⟩ := List.mem_map.1 hv
      exact hb x hx
    · exact h.live v hv

/-! ## What a scan hands back -/

/-- The records in front of the first expired value of a bucket, and its position. -/
theorem liveRecords_split {live : List Entry} (name k : String) (post : List Entry)
    (hlive : ∀ x ∈ live, x.isExpiredAt now = false) (he : e.isExpiredAt now = true) :
    liveRecords name now k (live ++ e :: post) =
        (live.map (Prod.mk k)).map (recordOf name) ∧
      firstExpired? now k (live ++ e :: post) = some ⟨k, live.length⟩ := by
  have hfront : (live ++ e :: post).takeWhile (fun x => !x.isExpiredAt now) = live := by
    rw [List.takeWhile_append_of_pos fun x hx => by simp [hlive x hx],
      List.takeWhile_cons_of_neg (by simp [he]), List.append_nil]
  have hindex : (live ++ e :: post).findIdx? (·.isExpiredAt now) = some live.length := by
    rw [List.findIdx?_append, List.findIdx?_eq_none_iff.2 hlive, List.findIdx?_cons, he]
    simp
  rw [liveRecords, firstExpired?, hfront, hindex, List.map_map]
  exact ⟨rfl, rfl⟩

/-- **Either no value is expired and there is a record of each, or the scan meets an expired value** and
there are records of what it has seen by then.  The induction is on the pairs. -/
theorem readThrough_cases (name : String) (now : Instant) (pairs : List (String × List Entry)) :
    ((∀ v ∈ values pairs, v.2.isExpiredAt now = false) ∧
        readThrough name now pairs = ((values pairs).map (recordOf name), none)) ∨
      ∃ seen place e, Meets now pairs seen place e ∧
        readThrough name now pairs = (seen.map (recordOf name), some place) := by
  induction pairs with
  | nil => exact Or.inl ⟨fun _ hv => absurd hv List.not_mem_nil, rfl⟩
  | cons p pairs ih =>
    obtain ⟨k, b⟩ := p
    cases hexp : hasExpired now b with
    | true =>
      obtain ⟨e, live, post, rfl, -, hlive, he⟩ := exists_split_of_hasExpired hexp
      have hlive := hasExpired_eq_false_iff.1 hlive
      obtain ⟨hrecords, hplace⟩ := liveRecords_split name k post hlive he
      refine Or.inr ⟨live.map (Prod.mk k), ⟨k, live.length⟩, e, ⟨?_, fun v hv => ?_, he⟩, ?_⟩
      · exact ⟨[], live, post, pairs, rfl, rfl, rfl⟩
      · obtain ⟨x, hx, rfl⟩ := List.mem_map.1 hv
        exact hlive x hx
      · rw [readThrough, hplace, hrecords]
    | false =>
      have hlive := hasExpired_eq_false_iff.1 hexp
      have hrecords : liveRecords name now k b = (b.map (Prod.mk k)).map (recordOf name) := by
        rw [liveRecords_of_not_hasExpired name hexp, List.map_map]
        rfl
      have hread : readThrough name now ((k, b) :: pairs) =
          ((b.map (Prod.mk k)).map (recordOf name) ++ (readThrough name now pairs).1,
            (readThrough name now pairs).2) := by
        rw [readThrough, firstExpired?_of_not_hasExpired hexp, hrecords]
      rw [hread]
      rcases ih with ⟨hall, hrest⟩ | ⟨seen, place, e, hmeets, hrest⟩
      · refine Or.inl ⟨fun v hv => ?_, ?_⟩
        · rw [values_cons, List.mem_append] at hv
          rcases hv with hv | hv
          · obtain ⟨x, hx, rfl⟩ := List.mem_map.1 hv
            exact hlive x hx
          · exact hall v hv
        · rw [hrest, values_cons, List.map_append]
      · exact Or.inr ⟨_, place, e, hmeets.cons hlive k, by rw [hrest, List.map_append]⟩

/-- **Collecting the records of some pairs**, value by value and with a count of positions. -/
theorem Program.runOn_collect_pairs (name : String) (now : Instant)
    (pairs : List (String × List Entry)) (found : List Record) (w : Workspace) :
    runOn (collect name now (fun _ => pure true) pairs found) w =
      (.ok (found ++ (readThrough name now pairs).1, (readThrough name now pairs).2), w) := by
  induction pairs generalizing found with
  | nil =>
    rw [readThrough, List.append_nil]
    rfl
  | cons p pairs ih =>
    obtain ⟨k, b⟩ := p
    rw [collect, runOn_bind, runOn_pure, readThrough]
    simp only [if_pos, collectBucket_zero]
    cases firstExpired? now k b with
    | some place => rfl
    | none =>
      simp only [ih, List.append_assoc]

/-! ## Looking the place up again -/

/-- The pair at which a scan of pairs of the collection stops is the one that is found under its key, and
the value is at the position. -/
theorem Meets.lookup (h : c.buckets.WellFormed) (hpairs : pairs ⊆ c.buckets)
    (hmeets : Meets now pairs seen place e) :
    place.key ∈ c.keys ∧ (c.bucket place.key)[place.index]? = some e := by
  obtain ⟨before, live, post, after, hsplit, -, hindex⟩ := hmeets.split
  have hmem : (place.key, live ++ e :: post) ∈ c.buckets := hpairs (by rw [hsplit]; simp)
  have hbucket : c.bucket place.key = live ++ e :: post := Buckets.get_of_mem h.1 hmem
  refine ⟨Buckets.mem_keys_of_mem hmem, ?_⟩
  rw [hbucket, hindex, List.getElem?_append_right (Nat.le_refl _), Nat.sub_self]
  rfl

/-- The buckets of some keys are pairs of the collection. -/
theorem bucketsOf_subset {keys : List String} (hkeys : keys ⊆ c.keys) :
    c.bucketsOf keys ⊆ c.buckets := by
  intro p hp
  obtain ⟨k, hk, rfl⟩ := List.mem_map.1 hp
  exact Buckets.mem_of_mem_keys (hkeys hk)

theorem removeAt_eq_buckets_eraseAt (c : Collection) (p : Place) :
    c.buckets.removeAt p.key p.index = (c.eraseAt p).buckets :=
  Buckets.removeAt_eq_put c.buckets p.key p.index

/-- **The place at which a scan stops is good for removal.**  Let some pairs of a collection be scanned, in
any order, with records to which those of the scan are added.  No place comes back exactly if no value of
the pairs is expired, and then one record of each value has been added, in the order of the scan.  If a
place comes back, then its key is there, its position is one of the bucket that is found under the key,
and the value at this position is expired.  All values in front of it in the order of the scan are not,
and one record of each of them has been added, and no other.  So the removal at this place finds a bucket
and a value in it, in whatever state of the events and of the records of the caller it is made, and leaves
no key twice and no bucket empty. -/
theorem stopping_place_is_valid {c : Collection} (h : c.buckets.WellFormed)
    {pairs : List (String × List Entry)} (hpairs : pairs ⊆ c.buckets) (now : Instant)
    (found : List Record) :
    ∃ records stop,
      (∀ w, (Program.collect c.name now (fun _ => pure true) pairs found).runOn w =
        (.ok (records, stop), w)) ∧
      (stop = none ↔ ∀ v ∈ values pairs, v.2.isExpiredAt now = false) ∧
      (stop = none → records = found ++ (values pairs).map (recordOf c.name)) ∧
      ∀ place, stop = some place → ∃ seen e,
        Meets now pairs seen place e ∧
        records = found ++ seen.map (recordOf c.name) ∧
        place.key ∈ c.keys ∧ place.index < (c.bucket place.key).length ∧
        (c.bucket place.key)[place.index]? = some e ∧
        c.buckets.remove place.key place.index = .done (c.eraseAt place).buckets ∧
        (c.eraseAt place).buckets.WellFormed ∧
        ∀ out events asked, (Program.eraseValue place).runOn ⟨c, out, events, asked⟩ =
          (.ok (), ⟨c.eraseAt place, out, events ++ [.erased c.name place.key], asked⟩) := by
  refine ⟨_, _, Program.runOn_collect_pairs c.name now pairs found, ?_⟩
  rcases readThrough_cases c.name now pairs with ⟨hall, hread⟩ | ⟨seen, place, e, hmeets, hread⟩
  · rw [hread]
    exact ⟨⟨fun _ => hall, fun _ => rfl⟩, fun _ => rfl, fun _ hplace => nomatch hplace⟩
  · rw [hread]
    obtain ⟨hkey, hvalue⟩ := hmeets.lookup h hpairs
    obtain ⟨hindex, -⟩ := List.getElem?_eq_some_iff.1 hvalue
    refine ⟨⟨nofun, fun hall => ?_⟩, nofun, ?_⟩
    · obtain ⟨rest, hvalues⟩ := hmeets.values_eq
      have hlive := hall (place.key, e) (by rw [hvalues]; simp)
      rw [hmeets.expired] at hlive
      cases hlive
    · rintro _ ⟨⟩
      refine ⟨seen, e, hmeets, rfl, hkey, hindex, hvalue, ?_, ?_, fun out events asked => ?_⟩
      · rw [Buckets.remove_eq_done hindex, removeAt_eq_buckets_eraseAt]
      · exact h.put place.key _
      · exact Program.runOn_eraseValue (w := ⟨c, out, events, asked⟩) hindex

/-- Three keys, of which the last one has an expired value between two that are not. -/
def lastAged : Collection :=
  ⟨"vars", true,
    [("a", [⟨"u", some .zero⟩]), ("b", [⟨"v", none⟩]),
      ("c", [⟨"x", none⟩, ⟨"y", some .zero⟩, ⟨"z", none⟩])]⟩

/-- Without the first key, and with the last one in front of the other, a scan stops at the second value
of the last one, which is there to be removed. -/
theorem lastAged_stops_at_a_value :
    lastAged.buckets.WellFormed ∧ lastAged.bucketsOf ["c", "b"] ⊆ lastAged.buckets ∧
      (∀ w, (Program.collect "vars" .zero (fun _ => pure true) (lastAged.bucketsOf ["c", "b"])
          [⟨"vars", "d", "t"⟩]).runOn w =
        (.ok ([⟨"vars", "d", "t"⟩, ⟨"vars", "c", "x"⟩], some ⟨"c", 1⟩), w)) ∧
      lastAged.buckets.remove "c" 1 = .done
        [("a", [⟨"u", some .zero⟩]), ("b", [⟨"v", none⟩]),
          ("c", [⟨"x", none⟩, ⟨"z", none⟩])] := by
  have h : lastAged.buckets.WellFormed := ⟨by decide, by decide⟩
  have hpairs : lastAged.bucketsOf ["c", "b"] ⊆ lastAged.buckets := bucketsOf_subset (by decide)
  obtain ⟨records, stop, hrun, -, -, hsome⟩ :=
    stopping_place_is_valid h hpairs .zero [⟨"vars", "d", "t"⟩]
  have hresult : (Except.ok (records, stop) : Except String _) =
      .ok ([⟨"vars", "d", "t"⟩, ⟨"vars", "c", "x"⟩], some ⟨"c", 1⟩) :=
    (congrArg Prod.fst (hrun ⟨lastAged, [], [], []⟩)).symm
  obtain ⟨rfl, rfl⟩ := Prod.mk.inj (Except.ok.inj hresult)
  obtain ⟨_, _, -, -, -, -, -, hremove, -⟩ := hsome ⟨"c", 1⟩ rfl
  exact ⟨h, hpairs, hrun, hremove⟩

end Collection
end VarStore
