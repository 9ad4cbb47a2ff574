import VarStore.Collection.Basic
import VarStore.Proofs.Collection.Buckets
import Mathlib.Data.List.TakeWhile

/-!
# What a resolution does

A resolution reads through buckets until it meets an expired value, remembers where that value
is, and erases it when the reading is over.  Where a resolution stops depends on the keys it visits
and on nothing it does in between, so all of it can be said without reading through anything:

* `stop?` is the first visited key with an expired value;
* `read` is every record of the keys in front of it, and of that key the records in front of its
  first expired value;
* `afterScan` is the collection without the first expired value of that key.

So a scan looks at the buckets of its keys and at no others (`read_congr`), returns records of these
keys (`key_mem_of_mem_read`), and changes at most one bucket (`bucket_afterScan`).

`resolveKey_eq` and `resolveOrder_eq_of_ok` say that a resolution leaves exactly these.  A filter
that never fails might as well have been asked before the scan began (`resolveOrder_omitting`); one
that may fail makes a difference only by failing.
-/

namespace VarStore

/-- A pattern of which it is known whether it finds some key compiles. -/
theorem KeyPattern.exists_of_search_eq {pattern : String} {ignoreCase : Bool} {k : String}
    {found : Bool}
    (h : (KeyPattern.compile pattern ignoreCase).toOption.map (·.search k) = some found) :
    ∃ p, KeyPattern.compile pattern ignoreCase = .ok p ∧ p.search k = found := by
  cases hp : KeyPattern.compile pattern ignoreCase with
  | error e =>
    rw [hp] at h
    cases h
  | ok p =>
    rw [hp] at h
    exact ⟨p, rfl, Option.some.inj h⟩

namespace Collection

variable {c : Collection} {now : Instant} {k : String} {keys : List String}

/-! ## Expired values of a bucket -/

/-- Is some value of the bucket expired? -/
def hasExpired (now : Instant) (b : List Entry) : Bool := b.any (·.isExpiredAt now)

theorem hasExpired_eq_false_iff {b : List Entry} :
    hasExpired now b = false ↔ ∀ e ∈ b, e.isExpiredAt now = false := by
  simp [hasExpired, List.any_eq_false]

/-- The place of the first expired entry, if there is an expired one at all. -/
theorem firstExpired?_eq (now : Instant) (k : String) (b : List Entry) :
    firstExpired? now k b =
      if hasExpired now b then some ⟨k, b.findIdx (·.isExpiredAt now)⟩ else none := by
  rw [firstExpired?]
  cases h : hasExpired now b with
  | false =>
    rw [List.findIdx?_eq_none_iff.2 (hasExpired_eq_false_iff.1 h)]
    rfl
  | true =>
    rw [List.findIdx?_eq_some_of_exists (List.any_eq_true.1 h)]
    rfl

theorem firstExpired?_of_hasExpired {b : List Entry} (h : hasExpired now b = true) (k : String) :
    firstExpired? now k b = some ⟨k, b.findIdx (·.isExpiredAt now)⟩ := by
  rw [firstExpired?_eq, h, if_pos rfl]

theorem firstExpired?_of_not_hasExpired {b : List Entry} (h : hasExpired now b = false)
    (k : String) : firstExpired? now k b = none := by
  rw [firstExpired?_eq, h, if_neg Bool.false_ne_true]

/-- Erasing at the place of the first expired entry erases that entry. -/
theorem eraseIdx_findIdx (now : Instant) {b : List Entry} (h : hasExpired now b = true) :
    b.eraseIdx (b.findIdx (·.isExpiredAt now)) = b.eraseP (·.isExpiredAt now) := by
  rw [List.eraseP_eq_eraseIdx, List.findIdx?_eq_some_of_exists (List.any_eq_true.1 h)]

/-- Nothing is held back of a bucket without expired values. -/
theorem liveRecords_of_not_hasExpired {b : List Entry} (name : String)
    (h : hasExpired now b = false) :
    liveRecords name now k b = b.map fun e => ⟨name, k, e.payload⟩ := by
  rw [liveRecords, List.takeWhile_eq_self_iff.2]
  intro e he
  rw [hasExpired_eq_false_iff.1 h e he]
  rfl

/-! ## The stop, the records and the collection afterwards -/

/-- All the values under a key, as records. -/
def recordsUnder (c : Collection) (k : String) : List Record :=
  (c.bucket k).map fun e => ⟨c.name, k, e.payload⟩

/-- The key at which a scan stops. -/
def stop? (c : Collection) (now : Instant) (keys : List String) : Option String :=
  keys.find? fun k => hasExpired now (c.bucket k)

/-- The records that a scan finds. -/
def read (c : Collection) (now : Instant) (keys : List String) : List Record :=
  (keys.takeWhile fun k => !hasExpired now (c.bucket k)).flatMap c.recordsUnder ++
    (c.stop? now keys).toList.flatMap fun k => liveRecords c.name now k (c.bucket k)

/-- The collection without the first expired value of a key. -/
def dropExpired (c : Collection) (now : Instant) (k : String) : Collection :=
  c.setBucket k ((c.bucket k).eraseP (·.isExpiredAt now))

/-- The collection that a scan leaves. -/
def afterScan (c : Collection) (now : Instant) (keys : List String) : Collection :=
  match c.stop? now keys with
  | none => c
  | some k => c.dropExpired now k

/-- The events of a scan. -/
def scanEvents (c : Collection) (now : Instant) (keys : List String) : List Event :=
  (c.stop? now keys).toList.map (.erased c.name)

theorem stop?_cons_of_not_hasExpired (h : hasExpired now (c.bucket k) = false)
    (keys : List String) : c.stop? now (k :: keys) = c.stop? now keys := by
  rw [stop?, List.find?_cons, h, stop?]

theorem stop?_cons_of_hasExpired (h : hasExpired now (c.bucket k) = true)
    (keys : List String) : c.stop? now (k :: keys) = some k := by
  rw [stop?, List.find?_cons, h]

theorem stop?_eq_none_iff :
    c.stop? now keys = none ↔ ∀ k ∈ keys, hasExpired now (c.bucket k) = false := by
  simp [stop?, List.find?_eq_none]

theorem hasExpired_of_stop?_eq_some (h : c.stop? now keys = some k) :
    hasExpired now (c.bucket k) = true := by
  have hk := List.find?_some h
  exact hk

theorem mem_of_stop?_eq_some (h : c.stop? now keys = some k) : k ∈ keys :=
  List.mem_of_find?_eq_some h

theorem read_cons_of_not_hasExpired (h : hasExpired now (c.bucket k) = false)
    (keys : List String) : c.read now (k :: keys) = c.recordsUnder k ++ c.read now keys := by
  rw [read, stop?_cons_of_not_hasExpired h, List.takeWhile_cons_of_pos (by rw [h]; rfl),
    List.flatMap_cons, List.append_assoc, read]

theorem read_cons_of_hasExpired (h : hasExpired now (c.bucket k) = true) (keys : List String) :
    c.read now (k :: keys) = liveRecords c.name now k (c.bucket k) := by
  rw [read, stop?_cons_of_hasExpired h, List.takeWhile_cons_of_neg (by rw [h]; simp)]
  simp

/-! ## Which keys a scan touches -/

theorem read_singleton (c : Collection) (now : Instant) (k : String) :
    c.read now [k] = liveRecords c.name now k (c.bucket k) := by
  cases h : hasExpired now (c.bucket k) with
  | true => exact read_cons_of_hasExpired h []
  | false =>
    rw [read_cons_of_not_hasExpired h, liveRecords_of_not_hasExpired c.name h]
    exact List.append_nil _

theorem stop?_singleton (c : Collection) (now : Instant) (k : String) :
    c.stop? now [k] = if hasExpired now (c.bucket k) then some k else none := by
  cases h : hasExpired now (c.bucket k) with
  | true => exact stop?_cons_of_hasExpired h []
  | false => exact stop?_cons_of_not_hasExpired h []

theorem bucket_dropExpired (c : Collection) (now : Instant) (k i : String) :
    (c.dropExpired now k).bucket i =
      if i = k then (c.bucket k).eraseP (·.isExpiredAt now) else c.bucket i :=
  bucket_setBucket c k i _

theorem eraseP_of_not_hasExpired {b : List Entry} (h : hasExpired now b = false) :
    b.eraseP (·.isExpiredAt now) = b :=
  List.eraseP_of_forall_not fun e he => by simp [hasExpired_eq_false_iff.1 h e he]

theorem afterScan_singleton (c : Collection) (now : Instant) (k : String) :
    c.afterScan now [k] =
      if hasExpired now (c.bucket k) then c.dropExpired now k else c := by
  rw [afterScan, stop?_singleton]
  cases hasExpired now (c.bucket k) <;> rfl

/-- A scan of one key does to its bucket what a resolution does to a plain list. -/
theorem bucket_afterScan_singleton (c : Collection) (now : Instant) (k i : String) :
    (c.afterScan now [k]).bucket i =
      if i = k then (c.bucket k).eraseP (·.isExpiredAt now) else c.bucket i := by
  rw [afterScan_singleton]
  cases h : hasExpired now (c.bucket k) with
  | true => exact bucket_dropExpired c now k i
  | false =>
    rw [eraseP_of_not_hasExpired h, if_neg Bool.false_ne_true]
    split
    · next hi => rw [hi]
    · rfl

theorem scanEvents_singleton (c : Collection) (now : Instant) (k : String) :
    c.scanEvents now [k] = if hasExpired now (c.bucket k) then [.erased c.name k] else [] := by
  rw [scanEvents, stop?_singleton]
  cases hasExpired now (c.bucket k) <;> rfl

/-- A scan looks at the buckets of its keys and at no others. -/
theorem read_congr {d : Collection} (hname : d.name = c.name) (now : Instant)
    (h : ∀ k ∈ keys, d.bucket k = c.bucket k) :
    d.stop? now keys = c.stop? now keys ∧ d.read now keys = c.read now keys := by
  induction keys with
  | nil => exact ⟨rfl, rfl⟩
  | cons k keys ih =>
    have hk := h k List.mem_cons_self
    obtain ⟨hstop, hread⟩ := ih fun j hj => h j (List.mem_cons_of_mem _ hj)
    cases hexp : hasExpired now (c.bucket k) with
    | true =>
      have hexp' : hasExpired now (d.bucket k) = true := by rw [hk, hexp]
      rw [stop?_cons_of_hasExpired hexp, stop?_cons_of_hasExpired hexp',
        read_cons_of_hasExpired hexp, read_cons_of_hasExpired hexp', hk, hname]
      exact ⟨rfl, rfl⟩
    | false =>
      have hexp' : hasExpired now (d.bucket k) = false := by rw [hk, hexp]
      rw [stop?_cons_of_not_hasExpired hexp, stop?_cons_of_not_hasExpired hexp',
        read_cons_of_not_hasExpired hexp, read_cons_of_not_hasExpired hexp', recordsUnder,
        recordsUnder, hk, hname, hstop, hread]
      exact ⟨rfl, rfl⟩

/-- A scan takes a value away from the key at which it stops, and leaves the other keys alone. -/
theorem bucket_afterScan (c : Collection) (now : Instant) (keys : List String) (k : String) :
    (c.afterScan now keys).bucket k =
      if c.stop? now keys = some k then (c.bucket k).eraseP (·.isExpiredAt now)
      else c.bucket k := by
  rw [afterScan]
  cases c.stop? now keys with
  | none => rfl
  | some j =>
    show (c.dropExpired now j).bucket k = _
    rw [bucket_dropExpired]
    by_cases hk : k = j
    · rw [hk, if_pos rfl, if_pos rfl]
    · rw [if_neg hk, if_neg fun h => hk (Option.some.inj h).symm]

theorem name_afterScan (c : Collection) (now : Instant) (keys : List String) :
    (c.afterScan now keys).name = c.name := by
  rw [afterScan]
  cases c.stop? now keys <;> rfl

theorem ignoreCase_afterScan (c : Collection) (now : Instant) (keys : List String) :
    (c.afterScan now keys).ignoreCase = c.ignoreCase := by
  rw [afterScan]
  cases c.stop? now keys <;> rfl

/-- A scan leaves the keys alone that it does not visit. -/
theorem bucket_afterScan_of_notMem (now : Instant) (h : k ∉ keys) :
    (c.afterScan now keys).bucket k = c.bucket k := by
  have hstop : c.stop? now keys ≠ some k := fun hstop => h (mem_of_stop?_eq_some hstop)
  rw [bucket_afterScan, if_neg hstop]

/-- A scan that does not stop finds all that is under its keys. -/
theorem read_of_stop?_eq_none (h : c.stop? now keys = none) :
    c.read now keys = keys.flatMap c.recordsUnder := by
  have hall : (keys.takeWhile fun k => !hasExpired now (c.bucket k)) = keys := by
    refine List.takeWhile_eq_self_iff.2 fun k hk => ?_
    rw [stop?_eq_none_iff.1 h k hk]
    rfl
  rw [read, h, hall]
  exact List.append_nil _

theorem key_of_mem_recordsUnder {r : Record} (hr : r ∈ c.recordsUnder k) : r.key = k := by
  obtain ⟨e, -, rfl⟩ := List.mem_map.1 hr
  rfl

theorem key_of_mem_liveRecords {name : String} {b : List Entry} {r : Record}
    (hr : r ∈ liveRecords name now k b) : r.key = k := by
  obtain ⟨e, -, rfl⟩ := List.mem_map.1 hr
  rfl

/-- A scan finds records of its keys and of no others. -/
theorem key_mem_of_mem_read {r : Record} (h : r ∈ c.read now keys) : r.key ∈ keys := by
  induction keys with
  | nil => exact absurd h List.not_mem_nil
  | cons k keys ih =>
    cases hexp : hasExpired now (c.bucket k) with
    | true =>
      rw [read_cons_of_hasExpired hexp] at h
      exact key_of_mem_liveRecords h ▸ List.mem_cons_self
    | false =>
      rw [read_cons_of_not_hasExpired hexp, List.mem_append] at h
      rcases h with h | h
      · exact key_of_mem_recordsUnder h ▸ List.mem_cons_self
      · exact List.mem_cons_of_mem _ (ih h)

/-! ## Reading through the buckets -/

/-- **Where a scan stops, and what it has found by then.** -/
theorem readThrough_bucketsOf (c : Collection) (now : Instant) (keys : List String) :
    readThrough c.name now (c.bucketsOf keys) =
      (c.read now keys, (c.stop? now keys).map fun k =>
        ⟨k, (c.bucket k).findIdx (·.isExpiredAt now)⟩) := by
  induction keys with
  | nil => rfl
  | cons k keys ih =>
    rw [bucketsOf, List.map_cons, readThrough, firstExpired?_eq, ← bucketsOf, ih]
    cases h : hasExpired now (c.bucket k) with
    | true =>
      rw [read_cons_of_hasExpired h, stop?_cons_of_hasExpired h]
      rfl
    | false =>
      rw [read_cons_of_not_hasExpired h, stop?_cons_of_not_hasExpired h,
        liveRecords_of_not_hasExpired c.name h]
      rfl

/-- What is erased after a scan is the expired value that stopped it. -/
theorem finish_readThrough (c : Collection) (now : Instant) (keys : List String)
    (out : List Record) :
    c.finish (readThrough c.name now (c.bucketsOf keys)).2 out =
      ⟨c.afterScan now keys, out, c.scanEvents now keys⟩ := by
  rw [readThrough_bucketsOf, afterScan, scanEvents]
  cases h : c.stop? now keys with
  | none => rfl
  | some k =>
    show Resolution.mk (c.eraseAt ⟨k, _⟩) out _ = _
    rw [eraseAt, eraseIdx_findIdx now (hasExpired_of_stop?_eq_some h)]
    rfl

/-! ## Asking a filter -/

/-- The keys that a filter keeps. -/
def kept (ask : Filter) (keys : List String) : List String :=
  keys.filter fun k => ask k = .keep

theorem bucketsOf_kept (c : Collection) (ask : Filter) (keys : List String) :
    (c.bucketsOf keys).filter (fun p => ask p.1 = .keep) = c.bucketsOf (kept ask keys) := by
  rw [bucketsOf, List.filter_map, kept, bucketsOf]
  rfl

section

variable {name : String} {ask : Filter}

theorem readFiltered_cons_of_fail {message : String} (hk : ask k = .fail message)
    (b : List Entry) (bs : List (String × List Entry)) :
    readFiltered name now ask ((k, b) :: bs) = .error message := by
  rw [readFiltered, hk]

theorem readFiltered_cons_of_omit (hk : ask k = .omit) (b : List Entry)
    (bs : List (String × List Entry)) :
    readFiltered name now ask ((k, b) :: bs) = readFiltered name now ask bs := by
  rw [readFiltered, hk]

theorem readFiltered_cons_of_some (hk : ask k = .keep) {b : List Entry} {place : Place}
    (hb : firstExpired? now k b = some place) (bs : List (String × List Entry)) :
    readFiltered name now ask ((k, b) :: bs) = .ok (liveRecords name now k b, some place) := by
  rw [readFiltered, hk]
  simp only [hb]

theorem readFiltered_cons_of_none (hk : ask k = .keep) {b : List Entry}
    (hb : firstExpired? now k b = none) (bs : List (String × List Entry)) :
    readFiltered name now ask ((k, b) :: bs) =
      (readFiltered name now ask bs).map fun p => (liveRecords name now k b ++ p.1, p.2) := by
  rw [readFiltered, hk]
  simp only [hb]

/-- A reading that was not ended by its filter is a reading of the buckets that the filter
keeps. -/
theorem readFiltered_eq_of_ok {bs : List (String × List Entry)}
    {p : List Record × Option Place} (h : readFiltered name now ask bs = .ok p) :
    p = readThrough name now (bs.filter fun b => ask b.1 = .keep) := by
  induction bs generalizing p with
  | nil => exact (Except.ok.inj h).symm
  | cons q bs ih =>
    obtain ⟨k, b⟩ := q
    match hk : ask k with
    | .fail message =>
      rw [readFiltered_cons_of_fail hk] at h
      cases h
    | .omit =>
      rw [readFiltered_cons_of_omit hk] at h
      rw [List.filter_cons_of_neg (by simp [hk])]
      exact ih h
    | .keep =>
      rw [List.filter_cons_of_pos (by simp [hk]), readThrough]
      cases hb : firstExpired? now k b with
      | some place =>
        rw [readFiltered_cons_of_some hk hb] at h
        exact (Except.ok.inj h).symm
      | none =>
        rw [readFiltered_cons_of_none hk hb] at h
        cases hr : readFiltered name now ask bs with
        | error message =>
          rw [hr] at h
          cases h
        | ok q =>
          rw [hr] at h
          rw [← ih hr]
          exact (Except.ok.inj h).symm

end

/-- A filter that cannot fail does not end a reading. -/
theorem readFiltered_omitting (name : String) (now : Instant) (hidden : String → Bool)
    (bs : List (String × List Entry)) :
    ∃ p, readFiltered name now (.omitting hidden) bs = .ok p := by
  induction bs with
  | nil => exact ⟨_, rfl⟩
  | cons q bs ih =>
    obtain ⟨k, b⟩ := q
    obtain ⟨p, hp⟩ := ih
    cases hh : hidden k with
    | true => exact ⟨p, by rw [readFiltered_cons_of_omit (by simp [hh]), hp]⟩
    | false =>
      have hk : Filter.omitting hidden k = .keep := by simp [hh]
      cases hb : firstExpired? now k b with
      | some place => exact ⟨_, readFiltered_cons_of_some hk hb bs⟩
      | none => exact ⟨_, by rw [readFiltered_cons_of_none hk hb, hp]; rfl⟩

/-- The keys that are kept when some are hidden. -/
theorem kept_omitting (hidden : String → Bool) (keys : List String) :
    kept (.omitting hidden) keys = keys.filter fun k => !hidden k := by
  rw [kept]
  congr 1
  funext k
  cases h : hidden k <;> simp [h]

/-! ## The three resolutions -/

/-- **Resolving one key.** -/
theorem resolveKey_eq (c : Collection) (now : Instant) (k : String) (out : List Record) :
    c.resolveKey now k out =
      ⟨c.afterScan now [k], out ++ c.read now [k], c.scanEvents now [k]⟩ := by
  rw [← finish_readThrough, resolveKey, readThrough_bucketsOf]

/-- A key without expired values is returned whole. -/
theorem resolveKey_of_not_hasExpired (h : hasExpired now (c.bucket k) = false)
    (out : List Record) : c.resolveKey now k out = ⟨c, out ++ c.recordsUnder k, []⟩ := by
  rw [resolveKey_eq, afterScan_singleton, scanEvents_singleton, read_singleton, h,
    liveRecords_of_not_hasExpired c.name h]
  rfl

/-- A key with an expired value loses the first one. -/
theorem resolveKey_of_hasExpired (h : hasExpired now (c.bucket k) = true) (out : List Record) :
    c.resolveKey now k out =
      ⟨c.dropExpired now k, out ++ liveRecords c.name now k (c.bucket k),
        [.erased c.name k]⟩ := by
  rw [resolveKey_eq, afterScan_singleton, scanEvents_singleton, read_singleton, h]
  rfl

/-- **Resolving several keys**, by a filter that did not fail on the way. -/
theorem resolveOrder_eq_of_ok {ask : Filter} {out : List Record} {r : Resolution}
    (h : c.resolveOrder now keys ask out = .ok r) :
    r = ⟨c.afterScan now (kept ask keys), (c.read now (kept ask keys)).reverse ++ out,
      c.scanEvents now (kept ask keys)⟩ := by
  rw [resolveOrder] at h
  cases hp : readFiltered c.name now ask (c.bucketsOf keys) with
  | error message =>
    rw [hp] at h
    cases h
  | ok p =>
    rw [hp] at h
    rw [← Except.ok.inj h, readFiltered_eq_of_ok hp, bucketsOf_kept, ← finish_readThrough,
      readThrough_bucketsOf]

section

variable {ask : Filter}

/-- A resolution of one key that is told to go on is a scan of this key. -/
theorem resolveOrder_singleton_of_keep (hk : ask k = .keep) (c : Collection) (now : Instant)
    (out : List Record) :
    c.resolveOrder now [k] ask out =
      .ok ⟨c.afterScan now [k], (c.read now [k]).reverse ++ out, c.scanEvents now [k]⟩ := by
  have hok : ∃ r, c.resolveOrder now [k] ask out = .ok r := by
    simp only [resolveOrder, bucketsOf, List.map_cons, List.map_nil, readFiltered, hk]
    cases firstExpired? now k (c.bucket k) <;> exact ⟨_, rfl⟩
  have hkept : kept ask [k] = [k] := List.filter_cons_of_pos (by simp [hk])
  obtain ⟨r, hr⟩ := hok
  rw [hr, resolveOrder_eq_of_ok hr, hkept]

/-- One that is told to leave the key out does nothing, whatever is under the key. -/
theorem resolveOrder_singleton_of_omit (hk : ask k = .omit) (c : Collection) (now : Instant)
    (out : List Record) : c.resolveOrder now [k] ask out = .ok ⟨c, out, []⟩ := by
  rw [resolveOrder, bucketsOf, List.map_singleton, readFiltered_cons_of_omit hk]
  rfl

/-- One whose filter fails on the key fails. -/
theorem resolveOrder_singleton_of_fail {message : String} (hk : ask k = .fail message)
    (c : Collection) (now : Instant) (out : List Record) :
    c.resolveOrder now [k] ask out = .error message := by
  rw [resolveOrder, bucketsOf, List.map_singleton, readFiltered_cons_of_fail hk]
  rfl

end

/-- A resolution whose filter cannot fail does not fail. -/
theorem resolveOrder_omitting (c : Collection) (now : Instant) (keys : List String)
    (hidden : String → Bool) (out : List Record) :
    c.resolveOrder now keys (.omitting hidden) out =
      .ok ⟨c.afterScan now (keys.filter fun k => !hidden k),
        (c.read now (keys.filter fun k => !hidden k)).reverse ++ out,
        c.scanEvents now (keys.filter fun k => !hidden k)⟩ := by
  obtain ⟨p, hp⟩ := readFiltered_omitting c.name now hidden (c.bucketsOf keys)
  have h : c.resolveOrder now keys (.omitting hidden) out =
      .ok (c.finish p.2 (p.1.reverse ++ out)) := by
    rw [resolveOrder, hp]
    rfl
  rw [h, resolveOrder_eq_of_ok h, kept_omitting]

/-- Asking a filter that cannot fail about the keys with some property hides the other ones as
well. -/
theorem ite_omitting (found hidden : String → Bool) :
    (fun k => if found k then Filter.omitting hidden k else .omit) =
      Filter.omitting fun k => !(found k && !hidden k) := by
  funext k
  cases hk : found k <;> simp [hk]

/-- A resolution by a pattern whose filter cannot fail does not fail: it is a scan of the keys that
the pattern finds and the filter does not hide. -/
theorem resolveMatching_omitting {pattern : String} {p : KeyPattern}
    (hp : KeyPattern.compile pattern c.ignoreCase = .ok p) (now : Instant) (order : List String)
    (hidden : String → Bool) (out : List Record) :
    c.resolveMatching now order pattern (.omitting hidden) out =
      .ok ⟨c.afterScan now (order.filter fun k => p.search k && !hidden k),
        (c.read now (order.filter fun k => p.search k && !hidden k)).reverse ++ out,
        c.scanEvents now (order.filter fun k => p.search k && !hidden k)⟩ := by
  rw [resolveMatching, hp]
  show c.resolveOrder now order
    (fun k => if p.search k then Filter.omitting hidden k else .omit) out = _
  rw [ite_omitting, resolveOrder_omitting]
  simp only [Bool.not_not]

end Collection
end VarStore
