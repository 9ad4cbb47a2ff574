import Mathlib
import VarStore.Proofs.Collection.Call

/-!
# Settling a collection

A resolution erases at most one expired value, and which one it is depends on the order in which it
happens to visit the keys.  Repeated until nothing is left to erase, that no longer matters: there
is only one collection to arrive at, the one without the expired values of the keys that are
visited, and each call but the last is one step on the way to it.

Two things carry the argument.  Erasing an expired value does not change what the collection is
without its expired values (`cleared_dropExpired`), and it lowers by one the number of expired
values that are left (`expiredUnder_dropExpired`).  So a sequence of scans is settled after as many
erasures as there were expired values, wherever each of the scans happened to stop.  The two hold
for any choice of keys, and so the scans of everything, the scans by a pattern and the scans of a
single key are settled by one induction (`settled_settle`).

* `settle`: make calls until one of them erases nothing.
* `cleared`, `expiredUnder`: the collection without the expired values under visible keys, and how
  many of them there are.
* `lazy_expiry_is_confluent`: whatever the orders, repeated resolutions arrive where a purge does.
-/

namespace VarStore
namespace Collection

variable {c : Collection} {now : Instant} {k : String} {visible : String → Bool}

/-! ## Repeating calls -/

/-- Make the calls of a sequence, from the `i`-th on, until one of them leaves as many values as
there were. -/
def settle (next : Nat → Call) (i : Nat) (c : Collection) : Collection × List Reply :=
  if (c.perform (next i)).1.size < c.size then
    ((settle next (i + 1) (c.perform (next i)).1).1,
      (c.perform (next i)).2 :: (settle next (i + 1) (c.perform (next i)).1).2)
  else ((c.perform (next i)).1, [(c.perform (next i)).2])
termination_by c.size

/-- Settle some keys one after the other, each by resolving it again and again. -/
def settleKeys (now : Instant) : List String → Collection → Collection × List Reply
  | [], c => (c, [])
  | k :: ks, c =>
    ((settleKeys now ks (c.settle (fun _ => ⟨now, .resolveKey k []⟩) 0).1).1,
      (c.settle (fun _ => ⟨now, .resolveKey k []⟩) 0).2 ++
        (settleKeys now ks (c.settle (fun _ => ⟨now, .resolveKey k []⟩) 0).1).2)

/-! ## Without the expired values -/

/-- A bucket without its expired values, if its key is visible. -/
def clearedBucket (now : Instant) (visible : String → Bool) (k : String) (b : List Entry) :
    List Entry :=
  if visible k then liveEntries now b else b

/-- How many values of a bucket are expired, if its key is visible. -/
def expiredCount (now : Instant) (visible : String → Bool) (k : String) (b : List Entry) : Nat :=
  if visible k then b.countP (·.isExpiredAt now) else 0

/-- The collection without the expired values under visible keys. -/
def cleared (c : Collection) (now : Instant) (visible : String → Bool) : Collection :=
  { c with buckets := c.buckets.revise (clearedBucket now visible) }

/-- How many expired values there are under visible keys. -/
def expiredUnder (c : Collection) (now : Instant) (visible : String → Bool) : Nat :=
  c.buckets.weight (expiredCount now visible)

theorem clearedBucket_nil (now : Instant) (visible : String → Bool) (k : String) :
    clearedBucket now visible k [] = [] := by
  rw [clearedBucket, liveEntries_nil, ite_self]

theorem expiredCount_nil (now : Instant) (visible : String → Bool) (k : String) :
    expiredCount now visible k [] = 0 := by
  rw [expiredCount, List.countP_nil, ite_self]

theorem liveEntries_eq_self {b : List Entry} (h : hasExpired now b = false) :
    liveEntries now b = b :=
  List.filter_eq_self.2 fun e he => by rw [hasExpired_eq_false_iff.1 h e he]; rfl

theorem countP_eq_zero_of_not_hasExpired {b : List Entry} (h : hasExpired now b = false) :
    b.countP (·.isExpiredAt now) = 0 :=
  List.countP_eq_zero.2 fun e he => by simp [hasExpired_eq_false_iff.1 h e he]

theorem clearedBucket_eq_self {b : List Entry} (h : visible k = true → hasExpired now b = false) :
    clearedBucket now visible k b = b := by
  rw [clearedBucket]
  split
  · next hv => exact liveEntries_eq_self (h hv)
  · rfl

theorem expiredCount_eq_zero {b : List Entry} (h : visible k = true → hasExpired now b = false) :
    expiredCount now visible k b = 0 := by
  rw [expiredCount]
  split
  · next hv => exact countP_eq_zero_of_not_hasExpired (h hv)
  · rfl

theorem bucket_cleared (h : c.buckets.WellFormed) (now : Instant) (visible : String → Bool)
    (k : String) :
    (c.cleared now visible).bucket k =
      if visible k then liveEntries now (c.bucket k) else c.bucket k :=
  Buckets.get_revise (clearedBucket_nil now visible) h.1 k

theorem wellFormed_cleared (h : c.buckets.WellFormed) (now : Instant) (visible : String → Bool) :
    (c.cleared now visible).buckets.WellFormed :=
  h.revise _

/-- The values that are gone are counted by `expiredUnder`. -/
theorem size_cleared_add (c : Collection) (now : Instant) (visible : String → Bool) :
    (c.cleared now visible).size + c.expiredUnder now visible = c.size := by
  have hsize : (c.cleared now visible).size =
      c.buckets.weight fun k b => (clearedBucket now visible k b).length := by
    rw [size, Buckets.size_eq_weight, cleared, Buckets.weight_revise fun _ => rfl]
  rw [hsize, expiredUnder, Buckets.weight_add, size, Buckets.size_eq_weight]
  refine Buckets.weight_congr fun p _ => ?_
  rw [clearedBucket, expiredCount]
  split
  · have hb := List.length_eq_length_filter_add (l := p.2) (·.isExpiredAt now)
    rw [liveEntries, List.countP_eq_length_filter]
    omega
  · rfl

/-- A purge is the case in which every key is visible. -/
theorem cleared_eq_purged (now : Instant) (h : ∀ k ∈ c.keys, visible k = true) :
    c.cleared now visible = c.purged now := by
  have hb : c.buckets.revise (clearedBucket now visible) =
      c.buckets.revise fun _ => liveEntries now :=
    Buckets.revise_congr fun p hp => if_pos (h p.1 (List.mem_map_of_mem hp))
  exact congrArg (Collection.mk c.name c.ignoreCase) hb

/-- A purge tells how many expired values there were. -/
theorem expiredUnder_eq_removed (now : Instant) (h : ∀ k ∈ c.keys, visible k = true) :
    c.expiredUnder now visible = (c.purge now).2.1 := by
  have hsize := size_cleared_add c now visible
  rw [cleared_eq_purged now h] at hsize
  show c.expiredUnder now visible = c.size - (c.purged now).size
  omega

/-- Clearing some keys and then others is clearing all of them. -/
theorem cleared_cleared (c : Collection) (now : Instant) (visible visible' : String → Bool) :
    (c.cleared now visible).cleared now visible' =
      c.cleared now fun k => visible k || visible' k := by
  have hf : (fun k b => clearedBucket now visible' k (clearedBucket now visible k b)) =
      clearedBucket now fun k => visible k || visible' k := by
    funext k b
    cases hv : visible k <;> cases hv' : visible' k <;>
      simp [clearedBucket, liveEntries, hv, hv']
  have hb := Buckets.revise_revise (clearedBucket_nil now visible') (clearedBucket now visible)
    c.buckets
  rw [hf] at hb
  exact congrArg (Collection.mk c.name c.ignoreCase) hb

/-- What is expired under visible keys is counted once when the keys are cleared in two steps. -/
theorem expiredUnder_cleared_add (c : Collection) (now : Instant)
    (visible visible' : String → Bool) :
    c.expiredUnder now visible + (c.cleared now visible).expiredUnder now visible' =
      c.expiredUnder now fun k => visible k || visible' k := by
  have h₁ := size_cleared_add c now visible
  have h₂ := size_cleared_add (c.cleared now visible) now visible'
  have h₃ := size_cleared_add c now fun k => visible k || visible' k
  rw [cleared_cleared] at h₂
  omega

/-! ## One erasure -/

/-- The first expired value of a bucket, between what is in front of it and what is behind. -/
theorem exists_split_of_hasExpired {b : List Entry} (h : hasExpired now b = true) :
    ∃ e pre post, b = pre ++ e :: post ∧ b.eraseP (·.isExpiredAt now) = pre ++ post ∧
      hasExpired now pre = false ∧ e.isExpiredAt now = true := by
  obtain ⟨e, he, hexp⟩ := List.any_eq_true.1 h
  obtain ⟨a, pre, post, hpre, ha, hb, herase⟩ :=
    List.exists_of_eraseP (p := (·.isExpiredAt now)) he hexp
  refine ⟨a, pre, post, hb, herase, hasExpired_eq_false_iff.2 fun e he => ?_, ha⟩
  exact Bool.eq_false_iff.2 (hpre e he)

/-- Erasing an expired value does not change what there is besides expired values. -/
theorem liveEntries_eraseP {b : List Entry} (h : hasExpired now b = true) :
    liveEntries now (b.eraseP (·.isExpiredAt now)) = liveEntries now b := by
  obtain ⟨e, pre, post, rfl, herase, -, he⟩ := exists_split_of_hasExpired h
  rw [herase, liveEntries, liveEntries, List.filter_append, List.filter_append,
    List.filter_cons_of_neg (by simp [he])]

theorem countP_eraseP {b : List Entry} (h : hasExpired now b = true) :
    (b.eraseP (·.isExpiredAt now)).countP (·.isExpiredAt now) + 1 =
      b.countP (·.isExpiredAt now) := by
  obtain ⟨e, pre, post, rfl, herase, -, he⟩ := exists_split_of_hasExpired h
  rw [herase, List.countP_append, List.countP_append,
    List.countP_cons_of_pos (p := fun e : Entry => e.isExpiredAt now) he]
  omega

theorem cleared_dropExpired (h : c.buckets.WellFormed) (hk : hasExpired now (c.bucket k) = true)
    (hv : visible k = true) :
    (c.dropExpired now k).cleared now visible = c.cleared now visible := by
  have hb : clearedBucket now visible k ((c.bucket k).eraseP (·.isExpiredAt now)) =
      clearedBucket now visible k (c.bucket k) := by
    rw [clearedBucket, clearedBucket, if_pos hv, if_pos hv, liveEntries_eraseP hk]
  exact congrArg (Collection.mk c.name c.ignoreCase)
    (Buckets.revise_put (clearedBucket_nil now visible) h.1 hb)

theorem expiredUnder_dropExpired (h : c.buckets.WellFormed)
    (hk : hasExpired now (c.bucket k) = true) (hv : visible k = true) :
    (c.dropExpired now k).expiredUnder now visible + 1 = c.expiredUnder now visible := by
  have hw := Buckets.weight_put (expiredCount_nil now visible) h.1 k
    ((c.bucket k).eraseP (·.isExpiredAt now))
  have hcount := countP_eraseP hk
  have hget : c.buckets.get k = c.bucket k := rfl
  rw [hget, expiredCount, expiredCount, if_pos hv, if_pos hv] at hw
  show Buckets.weight _ (c.buckets.put k _) + 1 = c.buckets.weight _
  omega

theorem size_dropExpired (h : c.buckets.WellFormed) (hk : hasExpired now (c.bucket k) = true) :
    (c.dropExpired now k).size + 1 = c.size := by
  have h₁ := size_cleared_add c now fun _ => true
  have h₂ := size_cleared_add (c.dropExpired now k) now fun _ => true
  have h₃ : (c.dropExpired now k).expiredUnder now (fun _ => true) + 1 =
      c.expiredUnder now fun _ => true := expiredUnder_dropExpired h hk rfl
  rw [cleared_dropExpired h hk rfl] at h₂
  omega

/-! ## Sequences of scans -/

/-- Each call of the sequence is a scan at the reading `now`.  The keys it visits are visible, and
those of the collection that are visible are among them; their order is open.  Nothing is known of
collections in which patterns are read in another way. -/
structure Scans (ignoreCase : Bool) (now : Instant) (visible : String → Bool)
    (visit : Nat → Collection → List String) (deliver : List Record → List Record)
    (next : Nat → Call) : Prop where
  perform : ∀ (i : Nat) (c : Collection), c.ignoreCase = ignoreCase →
    c.perform (next i) = (c.afterScan now (visit i c),
      ⟨.records (deliver (c.read now (visit i c))), c.scanEvents now (visit i c)⟩)
  sound : ∀ i c, ∀ k ∈ visit i c, visible k = true
  complete : ∀ (i : Nat) (c : Collection), ∀ k ∈ c.keys, visible k = true → k ∈ visit i c

/-- What it means that repeated scans have settled a collection: the expired values under visible
keys are gone, each call but the last has erased one value, and the last one has erased nothing and
returned these records. -/
structure Settled (c : Collection) (now : Instant) (visible : String → Bool)
    (records : List Record) (after : Collection × List Reply) : Prop where
  collection : after.1 = c.cleared now visible
  calls : after.2.length = c.expiredUnder now visible + 1
  erasures : ∀ r ∈ after.2.dropLast, ∃ k, visible k = true ∧ r.events = [.erased c.name k]
  last : after.2.getLast? = some ⟨.records records, []⟩

section Scans

variable {visit : Nat → Collection → List String} {deliver : List Record → List Record}
  {next : Nat → Call}

/-- A scan that does not stop has nothing left to erase. -/
theorem Scans.eq_of_stop?_eq_none (hs : Scans c.ignoreCase now visible visit deliver next)
    (h : c.buckets.WellFormed) {i : Nat} (hstop : c.stop? now (visit i c) = none) :
    c.cleared now visible = c ∧ c.expiredUnder now visible = 0 ∧
      c.perform (next i) =
        (c, ⟨.records (deliver ((visit i c).flatMap c.recordsUnder)), []⟩) := by
  have hlive : ∀ p ∈ c.buckets, visible p.1 = true → hasExpired now p.2 = false := by
    intro p hp hv
    have hk := hs.complete i c p.1 (List.mem_map_of_mem hp) hv
    have hb := stop?_eq_none_iff.1 hstop p.1 hk
    rwa [bucket, Buckets.get_of_mem h.1 hp] at hb
  refine ⟨?_, Buckets.weight_eq_zero fun p hp => expiredCount_eq_zero (hlive p hp), ?_⟩
  · exact congrArg (Collection.mk c.name c.ignoreCase)
      (Buckets.revise_eq_self h fun p hp => clearedBucket_eq_self (hlive p hp))
  · rw [hs.perform i c rfl, read_of_stop?_eq_none hstop, afterScan, scanEvents, hstop]
    rfl

/-- One erasure in front of a settled sequence. -/
theorem Settled.cons {d : Collection} {records : List Record} {after : Collection × List Reply}
    {r : Reply} (h : Settled d now visible records after)
    (hcleared : d.cleared now visible = c.cleared now visible)
    (hcount : d.expiredUnder now visible + 1 = c.expiredUnder now visible) (hname : d.name = c.name)
    (hv : visible k = true) (hr : r.events = [.erased c.name k]) :
    Settled c now visible records (after.1, r :: after.2) := by
  have hne : after.2 ≠ [] := List.ne_nil_of_length_pos (by rw [h.calls]; omega)
  refine ⟨h.collection.trans hcleared, ?_, ?_, ?_⟩
  · rw [List.length_cons, h.calls, hcount]
  · rw [List.dropLast_cons_of_ne_nil hne]
    intro q hq
    rcases List.mem_cons.1 hq with rfl | hq
    · exact ⟨k, hv, hr⟩
    · rw [← hname]
      exact h.erasures q hq
  · rw [List.getLast?_cons_of_ne_nil hne, h.last]

/-- **Scans settle a collection.**  The induction is on the number of expired values under visible
keys. -/
theorem settled_settle (hs : Scans c.ignoreCase now visible visit deliver next)
    (h : c.buckets.WellFormed) (i : Nat) :
    Settled c now visible
      (deliver ((visit (i + c.expiredUnder now visible) (c.cleared now visible)).flatMap
        (c.cleared now visible).recordsUnder)) (settle next i c) := by
  induction hn : c.expiredUnder now visible generalizing c i with
  | zero =>
    cases hstop : c.stop? now (visit i c) with
    | some k =>
      have hk := hasExpired_of_stop?_eq_some hstop
      have hv := hs.sound i c k (mem_of_stop?_eq_some hstop)
      have := expiredUnder_dropExpired h hk hv
      omega
    | none =>
      obtain ⟨hcleared, -, hperform⟩ := hs.eq_of_stop?_eq_none h hstop
      rw [settle, hperform, if_neg (Nat.lt_irrefl _), hcleared]
      exact ⟨hcleared.symm, by rw [hn]; rfl, fun r hr => absurd hr List.not_mem_nil, rfl⟩
  | succ n ih =>
    cases hstop : c.stop? now (visit i c) with
    | none =>
      obtain ⟨-, hzero, -⟩ := hs.eq_of_stop?_eq_none h hstop
      omega
    | some k =>
      have hk := hasExpired_of_stop?_eq_some hstop
      have hv := hs.sound i c k (mem_of_stop?_eq_some hstop)
      have hcount := expiredUnder_dropExpired h hk hv
      have hsize := size_dropExpired h hk
      have hrest := ih (c := c.dropExpired now k) hs (wellFormed_setBucket h k _) (i + 1) (by omega)
      rw [cleared_dropExpired h hk hv, Nat.add_right_comm, Nat.add_assoc] at hrest
      have hperform : c.perform (next i) = (c.dropExpired now k,
          ⟨.records (deliver (c.read now (visit i c))), [.erased c.name k]⟩) := by
        rw [hs.perform i c rfl, afterScan, scanEvents, hstop]
        rfl
      have hless : (c.dropExpired now k).size < c.size := by omega
      rw [settle, hperform, if_pos hless]
      exact hrest.cons (cleared_dropExpired h hk hv) hcount rfl hv rfl

end Scans

/-! ## The three resolutions, repeated -/

/-- Resolutions of the whole collection, each in an order of its own. -/
def wideCalls (now : Instant) (hidden : String → Bool) (orders : Nat → ScanOrder) (i : Nat) :
    Call :=
  ⟨now, .resolveAll (orders i) "" (.omitting hidden) []⟩

/-- Resolutions by a pattern, each in an order of its own. -/
def patternCalls (now : Instant) (pattern : String) (hidden : String → Bool)
    (orders : Nat → ScanOrder) (i : Nat) : Call :=
  ⟨now, .resolveMatching (orders i) pattern (.omitting hidden) []⟩

/-- All the values under visible keys, in the order of a scan. -/
def recordsInOrder (c : Collection) (order : ScanOrder) (visible : String → Bool) : List Record :=
  ((order.arrange c.keys).filter visible).flatMap c.recordsUnder

theorem visible_of_mem_filter {order : ScanOrder} (hk : k ∈ (order.arrange c.keys).filter visible) :
    visible k = true :=
  (List.mem_filter.1 hk).2

theorem mem_filter_arrange {order : ScanOrder} (hk : k ∈ c.keys) (hv : visible k = true) :
    k ∈ (order.arrange c.keys).filter visible :=
  List.mem_filter.2 ⟨(order.perm c.keys).mem_iff.2 hk, hv⟩

theorem scans_wideCalls (ignoreCase : Bool) (now : Instant) (hidden : String → Bool)
    (orders : Nat → ScanOrder) :
    Scans ignoreCase now (fun k => !hidden k)
      (fun i c => ((orders i).arrange c.keys).filter fun k => !hidden k) List.reverse
      (wideCalls now hidden orders) := by
  refine ⟨fun i c _ => ?_, fun i c k => visible_of_mem_filter,
    fun i c k hk hv => mem_filter_arrange hk hv⟩
  show c.outcome (c.resolveAll now ((orders i).arrange c.keys) "" (.omitting hidden) []) = _
  rw [resolveAll, if_pos rfl, resolveOrder_omitting, List.append_nil]
  rfl

theorem scans_patternCalls {ignoreCase : Bool} {pattern : String} {p : KeyPattern}
    (hp : KeyPattern.compile pattern ignoreCase = .ok p) (now : Instant) (hidden : String → Bool)
    (orders : Nat → ScanOrder) :
    Scans ignoreCase now (fun k => p.search k && !hidden k)
      (fun i c => ((orders i).arrange c.keys).filter fun k => p.search k && !hidden k) List.reverse
      (patternCalls now pattern hidden orders) := by
  refine ⟨fun i c hc => ?_, fun i c k => visible_of_mem_filter,
    fun i c k hk hv => mem_filter_arrange hk hv⟩
  show c.outcome (c.resolveMatching now ((orders i).arrange c.keys) pattern (.omitting hidden) []) =
    _
  rw [resolveMatching_omitting (hc ▸ hp), List.append_nil]
  rfl

theorem scans_resolveKey (ignoreCase : Bool) (now : Instant) (k : String) :
    Scans ignoreCase now (fun j => j = k) (fun _ _ => [k]) id fun _ => ⟨now, .resolveKey k []⟩ := by
  refine ⟨fun i c _ => ?_, fun i c j hj => ?_, fun i c j _ hj => ?_⟩
  · show c.outcome (.ok (c.resolveKey now k [])) = _
    rw [resolveKey_eq]
    rfl
  · exact decide_eq_true (List.mem_singleton.1 hj)
  · exact List.mem_singleton.2 (of_decide_eq_true hj)

theorem length_flatMap_events {rs : List Reply} (h : ∀ r ∈ rs, r.events.length = 1) :
    (rs.flatMap (·.events)).length = rs.length := by
  induction rs with
  | nil => rfl
  | cons r rs ih =>
    rw [List.flatMap_cons, List.length_append, h r List.mem_cons_self,
      ih fun q hq => h q (List.mem_cons_of_mem _ hq), List.length_cons]
    omega

/-- As many values are erased as there are expired ones. -/
theorem Settled.length_events {records : List Record} {after : Collection × List Reply}
    (h : Settled c now visible records after) :
    (after.2.flatMap (·.events)).length = c.expiredUnder now visible := by
  have hlast := List.dropLast_append_getLast? _ (Option.mem_def.2 h.last)
  have hone : ∀ r ∈ after.2.dropLast, r.events.length = 1 := by
    intro r hr
    obtain ⟨k, -, hevents⟩ := h.erasures r hr
    rw [hevents]
    rfl
  rw [← hlast, List.flatMap_append, List.length_append, length_flatMap_events hone,
    List.length_dropLast, h.calls]
  rfl

/-- **Settling keys one after the other** clears these keys, and each erasure takes one value
away. -/
theorem settleKeys_eq (h : c.buckets.WellFormed) (now : Instant) (ks : List String) :
    (settleKeys now ks c).1 = c.cleared now (fun k => k ∈ ks) ∧
      ((settleKeys now ks c).2.flatMap (·.events)).length =
        c.expiredUnder now (fun k => k ∈ ks) := by
  induction ks generalizing c with
  | nil =>
    refine ⟨congrArg (Collection.mk c.name c.ignoreCase) ?_, ?_⟩
    · exact (Buckets.revise_eq_self h fun p _ => clearedBucket_eq_self fun hv => by simp at hv).symm
    · exact (Buckets.weight_eq_zero fun p _ => expiredCount_eq_zero fun hv => by simp at hv).symm
  | cons k ks ih =>
    have hk := settled_settle (scans_resolveKey c.ignoreCase now k) h 0
    obtain ⟨hcollection, hevents⟩ := ih (wellFormed_cleared h now fun j => j = k)
    have hor : (fun j => decide (j = k) || decide (j ∈ ks)) = fun j => decide (j ∈ k :: ks) := by
      funext j
      rw [← Bool.decide_or]
      exact decide_eq_decide.2 List.mem_cons.symm
    constructor
    · rw [settleKeys, hk.collection, hcollection, cleared_cleared, hor]
    · rw [settleKeys, List.flatMap_append, List.length_append, hk.length_events, hk.collection,
        hevents, expiredUnder_cleared_add, hor]

/-- **Repeated resolutions arrive where a purge does.**  Resolve the whole collection, or the keys
that a pattern finds, again and again in any orders, with the same keys hidden, until nothing is
erased.  That takes one call more than there are expired values under visible keys; these are gone
then, everything else is as it was, and the last call returns all that is left under visible keys.
With nothing hidden this is a purge.  So is settling single keys, as long as every key has its
turn. -/
theorem lazy_expiry_is_confluent {c : Collection} (h : Reachable c) (now : Instant) :
    (∀ (hidden : String → Bool) (orders : Nat → ScanOrder),
      Settled c now (fun k => !hidden k)
        ((c.cleared now fun k => !hidden k).recordsInOrder
          (orders (c.expiredUnder now fun k => !hidden k)) fun k => !hidden k).reverse
        (c.settle (wideCalls now hidden orders) 0)) ∧
    (∀ (pattern : String) (p : KeyPattern), KeyPattern.compile pattern c.ignoreCase = .ok p →
      ∀ (hidden : String → Bool) (orders : Nat → ScanOrder),
        Settled c now (fun k => p.search k && !hidden k)
          ((c.cleared now fun k => p.search k && !hidden k).recordsInOrder
            (orders (c.expiredUnder now fun k => p.search k && !hidden k))
            fun k => p.search k && !hidden k).reverse
          (c.settle (patternCalls now pattern hidden orders) 0)) ∧
    (∀ visible : String → Bool,
      (c.cleared now visible).size + c.expiredUnder now visible = c.size ∧
      ∀ k, (c.cleared now visible).bucket k =
        if visible k then liveEntries now (c.bucket k) else c.bucket k) ∧
    (∀ (hidden : String → Bool) (orders : Nat → ScanOrder), (∀ k, hidden k = false) →
      (c.settle (wideCalls now hidden orders) 0).1 = (c.purge now).1 ∧
      (c.expiredUnder now fun k => !hidden k) = (c.purge now).2.1) ∧
    (∀ ks : List String, c.keys ⊆ ks →
      (settleKeys now ks c).1 = (c.purge now).1 ∧
      ((settleKeys now ks c).2.flatMap (·.events)).length = (c.purge now).2.1) := by
  have hwf := h.wellFormed
  have hwide := fun hidden orders =>
    settled_settle (scans_wideCalls c.ignoreCase now hidden orders) hwf 0
  simp only [Nat.zero_add] at hwide
  refine ⟨hwide, ?_, ?_, ?_, ?_⟩
  · intro pattern p hp hidden orders
    have hpattern := settled_settle (scans_patternCalls hp now hidden orders) hwf 0
    rwa [Nat.zero_add] at hpattern
  · exact fun visible => ⟨size_cleared_add c now visible, bucket_cleared hwf now visible⟩
  · intro hidden orders hnone
    have hall : ∀ k ∈ c.keys, (!hidden k) = true := fun k _ => by rw [hnone k]; rfl
    exact ⟨(hwide hidden orders).collection.trans (cleared_eq_purged now hall),
      expiredUnder_eq_removed now hall⟩
  · intro ks hks
    obtain ⟨hcollection, hevents⟩ := settleKeys_eq hwf now ks
    have hall : ∀ k ∈ c.keys, decide (k ∈ ks) = true := fun k hk => decide_eq_true (hks hk)
    exact ⟨hcollection.trans (cleared_eq_purged now hall),
      hevents.trans (expiredUnder_eq_removed now hall)⟩

/-- An expired value in front of one that does not expire, and another expired one. -/
def stale : Collection :=
  (named "vars").run
    [⟨.zero, .store "a" "x"⟩, ⟨.zero, .setExpiry "a" 0⟩, ⟨.zero, .store "a" "y"⟩,
      ⟨.zero, .store "b" "z"⟩, ⟨.zero, .setExpiry "b" 0⟩]

/-- Three resolutions of the whole collection settle it; a pattern that finds `b` clears `b`. -/
theorem stale_settles :
    Reachable stale ∧
      (stale.settle (wideCalls .zero (fun _ => false) fun _ => .asStored) 0).2.length = 3 ∧
      (stale.settle (wideCalls .zero (fun _ => false) fun _ => .asStored) 0).1.buckets =
        [("a", [⟨"y", none⟩])] ∧
      (∃ p, KeyPattern.compile "b" stale.ignoreCase = .ok p ∧
        (stale.settle (patternCalls .zero "b" (fun _ => false) fun _ => .asStored) 0).1.bucket "b" =
          []) ∧
      (settleKeys .zero ["b", "a"] stale).1.buckets = [("a", [⟨"y", none⟩])] := by
  have h : Reachable stale := (Reachable.named "vars").run _
  obtain ⟨hwide, hpattern, hcleared, hnone, hkeys⟩ := lazy_expiry_is_confluent h .zero
  have hfound : (KeyPattern.compile "b" stale.ignoreCase).toOption.map (·.search "b") =
      some true := by cbv
  refine ⟨h, ?_, ?_, ?_, ?_⟩
  · rw [(hwide (fun _ => false) fun _ => .asStored).calls]
    decide
  · rw [(hnone (fun _ => false) (fun _ => .asStored) fun _ => rfl).1]
    decide
  · cases hp : KeyPattern.compile "b" stale.ignoreCase with
    | error e =>
      rw [hp] at hfound
      cases hfound
    | ok p =>
      rw [hp] at hfound
      have hsearch : (p.search "b" && !false) = true :=
        (Bool.and_true _).trans (Option.some.inj hfound)
      refine ⟨p, rfl, ?_⟩
      rw [(hpattern "b" p hp (fun _ => false) fun _ => .asStored).collection, (hcleared _).2,
        if_pos hsearch]
      decide
  · rw [(hkeys ["b", "a"] (by decide)).1]
    decide

end Collection
end VarStore
