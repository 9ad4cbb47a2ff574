import VarStore.Proofs.Collection.Representation
import VarStore.Proofs.Collection.Settling

/-!
# Every value is accounted for

A collection does not keep count of its values.  Still, its number of values can be told from outside:
by counting the calls that store one, what is thrown away on demand, and the events.  Values that expire
go without being asked for, each time a resolution or a purge happens to come across them, and events
are the only trace of it; so if one of them were missing, or told of something else than what was
erased, the books would not balance any more.

They balance call by call (`size_perform_add`).  For most calls that is by how much one bucket gets longer
or shorter (`size_setBucket`).  A resolution is a scan, which erases the value that has stopped it and
tells of an erasure under the same key, or does neither; and the number of which a purge tells is the
difference that it has made, as it is also when it is counted bucket by bucket
(`purge_eq_sweep`).

* `Call.stored`, `Call.discarded`, `erasures`, `purgedIn`: the books.
* `AccountsForErasure`, `AccountsForPurge`: what resolutions and purges tell of.
* `size_run_add`: the books of a run.
* `every_value_is_accounted_for`: all of it, at any point of a run.
-/

namespace VarStore

namespace Event

/-- Does the event tell of an erasure? -/
def isErasure : Event → Bool
  | erased .. => true
  | _ => false

/-- How many values have been purged, as the event says. -/
def purgedCount : Event → Nat
  | purged _ removed => removed
  | _ => 0

end Event

namespace Collection

variable {c : Collection} {k : String}

/-! ## The books -/

/-- How many values a call stores: one if it is asked to, and one if it finds nothing to overwrite. -/
def Call.stored (c : Collection) (x : Call) : Nat :=
  match x.op with
  | .store _ _ => 1
  | .storeOrUpdateFirst k _ => if k ∈ c.keys then 0 else 1
  | _ => 0

/-- How many values a call throws away on demand, expired or not. -/
def Call.discarded (c : Collection) (x : Call) : Nat :=
  match x.op with
  | .erase k => (c.bucket k).length
  | .clear => c.size
  | _ => 0

/-- A number for each call of a run, added up.  It may depend on the collection that the call finds. -/
def total (f : Collection → Call → Nat) (c : Collection) : List Call → Nat
  | [] => 0
  | x :: xs => f c x + total f (c.perform x).1 xs

/-- The events of a run. -/
def log (c : Collection) (xs : List Call) : List Event := (c.replies xs).flatMap (·.events)

/-- How many erasures the events tell of. -/
def erasures (events : List Event) : Nat := events.countP (·.isErasure)

/-- How many values have been purged according to the events. -/
def purgedIn (events : List Event) : Nat := (events.map (·.purgedCount)).sum

theorem log_cons (c : Collection) (x : Call) (xs : List Call) :
    c.log (x :: xs) = (c.perform x).2.events ++ (c.perform x).1.log xs := by
  rw [log, replies_cons, List.flatMap_cons, log]

theorem erasures_append (events events' : List Event) :
    erasures (events ++ events') = erasures events + erasures events' :=
  List.countP_append

theorem purgedIn_append (events events' : List Event) :
    purgedIn (events ++ events') = purgedIn events + purgedIn events' := by
  rw [purgedIn, List.map_append, List.sum_append, purgedIn, purgedIn]

/-- What is told of patterns is not told of values. -/
theorem erasures_notices (c : Collection) (op : Operation) :
    erasures (op.notices c) = 0 ∧ purgedIn (op.notices c) = 0 := by
  cases op with
  | resolveMatching order pattern ask out =>
    rw [Operation.notices]
    cases KeyPattern.compile pattern c.ignoreCase <;> exact ⟨rfl, rfl⟩
  | _ => exact ⟨rfl, rfl⟩

/-! ## Resolutions -/

/-- A resolution that accounts for what it does.  It leaves everything as it is and tells of no erasure,
or it takes one value from under a key, and the erasure of a value under this key is what it tells
of. -/
def AccountsForErasure (c : Collection) (x : Call) : Prop :=
  ((c.perform x).1 = c ∧ erasures (c.perform x).2.events = 0) ∨
    ∃ k, (c.perform x).2.events = [.erased c.name k] ∧ (c.perform x).1.size + 1 = c.size ∧
      ((c.perform x).1.bucket k).length + 1 = (c.bucket k).length ∧
      ∀ i, i ≠ k → (c.perform x).1.bucket i = c.bucket i

/-- A resolution does nothing that it would have to tell of, or it takes the first expired value from
under the key at which its scan stops, and tells of that. -/
theorem perform_resolution_cases (c : Collection) {x : Call} (hx : x.op.isResolution = true) :
    ((c.perform x).1 = c ∧ erasures (c.perform x).2.events = 0 ∧
        purgedIn (c.perform x).2.events = 0) ∨
      ∃ k, hasExpired x.now (c.bucket k) = true ∧ (c.perform x).1 = c.dropExpired x.now k ∧
        (c.perform x).2.events = [.erased c.name k] := by
  rcases perform_resolution_eq c hx with ⟨message, hfailed⟩ | hscan
  · rw [hfailed]
    exact Or.inl ⟨rfl, rfl, rfl⟩
  · rw [hscan, afterScan, scanEvents]
    cases hstop : c.stop? x.now (x.op.visited c) with
    | none =>
      rw [Option.toList_none, List.map_nil, List.append_nil]
      exact Or.inl ⟨rfl, erasures_notices c x.op⟩
    | some k =>
      have hnone := Operation.notices_eq_nil_of_mem_visited (mem_of_stop?_eq_some hstop)
      rw [hnone]
      exact Or.inr ⟨k, hasExpired_of_stop?_eq_some hstop, rfl, rfl⟩

theorem length_eraseP_add {now : Instant} {b : List Entry} (h : hasExpired now b = true) :
    (b.eraseP (·.isExpiredAt now)).length + 1 = b.length := by
  obtain ⟨e, pre, post, rfl, herase, -, -⟩ := exists_split_of_hasExpired h
  rw [herase, List.length_append, List.length_append, List.length_cons]
  omega

theorem accountsForErasure (h : c.buckets.WellFormed) {x : Call}
    (hx : x.op.isResolution = true) : AccountsForErasure c x := by
  rcases perform_resolution_cases c hx with ⟨hsame, hevents, -⟩ | ⟨k, hexp, hdrop, hevents⟩
  · exact Or.inl ⟨hsame, hevents⟩
  · refine Or.inr ⟨k, hevents, ?_, ?_, fun i hi => ?_⟩
    · rw [hdrop, size_dropExpired h hexp]
    · rw [hdrop, bucket_dropExpired, if_pos rfl, length_eraseP_add hexp]
    · rw [hdrop, bucket_dropExpired, if_neg hi]

/-! ## Purges -/

/-- A purge that accounts for what it does.  It returns by how much the number of values has fallen, it
tells of that number if it is positive, and it is the number to which a sweep through the buckets has
counted. -/
def AccountsForPurge (c : Collection) (now : Instant) : Prop :=
  ∃ n, (c.perform ⟨now, .purge⟩).2 = ⟨.removed n, if 0 < n then [.purged c.name n] else []⟩ ∧
    (c.perform ⟨now, .purge⟩).1.size + n = c.size ∧
    c.buckets.sweep now 0 = ((c.perform ⟨now, .purge⟩).1.buckets, n)

/-- **A purge is a sweep through the buckets**, which counts on what it removes from each of them. -/
theorem purge_eq_sweep (c : Collection) (now : Instant) :
    c.purge now = ({ c with buckets := (c.buckets.sweep now 0).1 }, (c.buckets.sweep now 0).2,
      if 0 < (c.buckets.sweep now 0).2 then [.purged c.name (c.buckets.sweep now 0).2] else []) := by
  have hcount := Buckets.snd_sweep_add now 0 c.buckets
  have hpurged : { c with buckets := (c.buckets.sweep now 0).1 } = c.purged now :=
    congrArg (Collection.mk c.name c.ignoreCase) (Buckets.fst_sweep now 0 c.buckets)
  have hremoved : c.size - (c.purged now).size = (c.buckets.sweep now 0).2 := by
    rw [← hpurged]
    show c.buckets.size - (c.buckets.sweep now 0).1.size = _
    omega
  rw [purge, hpurged, hremoved]

theorem accountsForPurge (c : Collection) (now : Instant) : AccountsForPurge c now := by
  refine ⟨(c.buckets.sweep now 0).2, ?_, ?_, ?_⟩
  · show Reply.mk (.removed (c.purge now).2.1) (c.purge now).2.2 = _
    rw [purge_eq_sweep]
  · have hcount := Buckets.snd_sweep_add now 0 c.buckets
    show (c.purge now).1.size + _ = c.size
    rw [purge_eq_sweep]
    show (c.buckets.sweep now 0).1.size + _ = c.buckets.size
    omega
  · show _ = ((c.purge now).1.buckets, (c.buckets.sweep now 0).2)
    rw [purge_eq_sweep]

/-! ## One call -/

/-- What is neither a resolution nor a purge tells of nothing. -/
theorem events_eq_nil {x : Call} (hx : x.op.isResolution = false) (hpurge : x.op ≠ .purge) :
    (c.perform x).2.events = [] := by
  obtain ⟨now, op⟩ := x
  cases op with
  | resolveKey k out => cases hx
  | resolveAll order k ask out => cases hx
  | resolveMatching order pattern ask out => cases hx
  | purge => exact absurd rfl hpurge
  | _ => rfl

/-- The books of one call balance: the values that are there afterwards, those that were thrown away, and
those of which the events tell are the ones that were there before and those that were stored. -/
def Balances (c : Collection) (x : Call) : Prop :=
  (c.perform x).1.size + x.discarded c + erasures (c.perform x).2.events +
    purgedIn (c.perform x).2.events = c.size + x.stored c

theorem balances_resolution (h : c.buckets.WellFormed) {x : Call}
    (hx : x.op.isResolution = true) : Balances c x := by
  have hbooks : x.stored c = 0 ∧ x.discarded c = 0 := by
    obtain ⟨now, op⟩ := x
    cases op with
    | resolveKey k out => exact ⟨rfl, rfl⟩
    | resolveAll order k ask out => exact ⟨rfl, rfl⟩
    | resolveMatching order pattern ask out => exact ⟨rfl, rfl⟩
    | _ => cases hx
  rw [Balances, hbooks.1, hbooks.2]
  rcases perform_resolution_cases c hx with ⟨hsame, herased, hpurged⟩ | ⟨k, hexp, hdrop, hevents⟩
  · rw [hsame, herased, hpurged]
  · have hsize := size_dropExpired h hexp
    rw [hdrop, hevents]
    show (c.dropExpired x.now k).size + 0 + 1 + 0 = c.size + 0
    omega

/-- **Every call balances the books.** -/
theorem size_perform_add (h : c.buckets.WellFormed) (x : Call) : Balances c x := by
  obtain ⟨now, op⟩ := x
  cases op with
  | store k value =>
    show (c.store k value).size + 0 + 0 + 0 = c.size + 1
    rw [size_store h]
  | updateFirst k value =>
    show (c.updateFirst k value).1.size + 0 + 0 + 0 = c.size + 0
    rw [size_updateFirst h]
  | storeOrUpdateFirst k value =>
    have hsize := size_storeOrUpdateFirst h k value
    have hkeys : k ∈ c.keys ↔ c.bucket k ≠ [] := h.mem_keys_iff
    show (c.storeOrUpdateFirst k value).1.size + 0 + 0 + 0 = c.size + if k ∈ c.keys then 0 else 1
    by_cases hb : c.bucket k = []
    · rw [if_pos hb] at hsize
      rw [hsize, if_neg fun hk => hkeys.1 hk hb]
    · rw [if_neg hb] at hsize
      rw [hsize, if_pos (hkeys.2 hb)]
  | erase k =>
    have hsize := size_setBucket h k []
    show (c.setBucket k []).size + (c.bucket k).length + 0 + 0 = c.size + 0
    rw [List.length_nil] at hsize
    omega
  | setExpiry k seconds =>
    have hsize := size_setBucket h k ((c.bucket k).map (·.setExpiry now seconds))
    rw [List.length_map] at hsize
    show (c.setBucket k ((c.bucket k).map (·.setExpiry now seconds))).size + 0 + 0 + 0 = c.size + 0
    omega
  | first k => rfl
  | firstRecord k => rfl
  | resolveKey k out => exact balances_resolution h rfl
  | resolveAll order k ask out => exact balances_resolution h rfl
  | resolveMatching order pattern ask out => exact balances_resolution h rfl
  | purge =>
    obtain ⟨n, hreply, hsize, -⟩ := accountsForPurge c now
    have htold : erasures (if 0 < n then [.purged c.name n] else []) = 0 ∧
        purgedIn (if 0 < n then [.purged c.name n] else []) = n := by
      by_cases hn : 0 < n
      · rw [if_pos hn]
        exact ⟨rfl, rfl⟩
      · rw [if_neg hn]
        exact ⟨rfl, by show 0 = n; omega⟩
    rw [Balances, hreply, htold.1, htold.2]
    show (c.perform ⟨now, .purge⟩).1.size + 0 + 0 + n = c.size + 0
    omega
  | clear =>
    show 0 + c.size + 0 + 0 = c.size + 0
    omega

/-! ## Runs -/

/-- **The books of a run balance.**  The induction is on the calls. -/
theorem size_run_add (h : c.buckets.WellFormed) (xs : List Call) :
    (c.run xs).size + c.total (fun c x => x.discarded c) xs + erasures (c.log xs) +
      purgedIn (c.log xs) = c.size + c.total (fun c x => x.stored c) xs := by
  induction xs generalizing c with
  | nil => rfl
  | cons x xs ih =>
    have hcall : Balances c x := size_perform_add h x
    have hrest := ih (wellFormed_perform h x)
    rw [Balances] at hcall
    rw [run_cons, log_cons, erasures_append, purgedIn_append, total, total]
    omega

/-- **Every value is accounted for**, at any point of a run that starts without values.  What is there is
what was stored, by storing or by overwriting where there was nothing, without what was thrown away by
erasing keys and by clearing, without one value for each erasure that was told of, and without as many
as were told of as purged.  A resolution takes away no value or one, and tells of the key from under
which it took one; a purge returns and tells of how many it took; and all other calls tell of
nothing. -/
theorem every_value_is_accounted_for {c : Collection} (hc : c.buckets = []) (xs : List Call) :
    (c.run xs).size + c.total (fun c x => x.discarded c) xs + erasures (c.log xs) +
        purgedIn (c.log xs) = c.total (fun c x => x.stored c) xs ∧
      (∀ x : Call, x.op.isResolution = true → AccountsForErasure (c.run xs) x) ∧
      (∀ now, AccountsForPurge (c.run xs) now) ∧
      ∀ x : Call, x.op.isResolution = false → x.op ≠ .purge →
        ((c.run xs).perform x).2.events = [] := by
  have hwf : c.buckets.WellFormed := hc ▸ Buckets.wellFormed_nil
  have hempty : c.size = 0 := by
    rw [size, hc]
    rfl
  refine ⟨?_, fun x hx => accountsForErasure (wellFormed_run hwf xs) hx,
    fun now => accountsForPurge _ now, fun x hx hpurge => events_eq_nil hx hpurge⟩
  have hbooks := size_run_add hwf xs
  omega

/-- Values go in every way there is: with all others, to a resolution, to a purge, and with their key. -/
def turnover : List Call :=
  [⟨.zero, .store "d" "v"⟩, ⟨.zero, .clear⟩, ⟨.zero, .store "a" "x"⟩, ⟨.zero, .setExpiry "a" 0⟩,
    ⟨.zero, .storeOrUpdateFirst "a" "y"⟩, ⟨.zero, .store "a" "z"⟩, ⟨.zero, .resolveKey "a" []⟩,
    ⟨.zero, .storeOrUpdateFirst "b" "u"⟩, ⟨.zero, .setExpiry "b" 0⟩, ⟨.zero, .purge⟩,
    ⟨.zero, .store "c" "w"⟩, ⟨.zero, .erase "c"⟩]

/-- Of the five values that were stored two have been thrown away, one was erased and one purged, so that
one is left. -/
theorem turnover_is_accounted_for :
    (named "vars").buckets = [] ∧
      (named "vars").total (fun c x => x.stored c) turnover = 5 ∧
      (named "vars").total (fun c x => x.discarded c) turnover = 2 ∧
      (named "vars").log turnover = [.erased "vars" "a", .purged "vars" 1] ∧
      ((named "vars").run turnover).size = 1 ∧
      AccountsForErasure ((named "vars").run turnover) ⟨.zero, .resolveKey "a" []⟩ ∧
      (((named "vars").run turnover).perform ⟨.zero, .erase "a"⟩).2.events = [] := by
  obtain ⟨hbooks, hresolutions, -, hsilent⟩ :=
    every_value_is_accounted_for (c := named "vars") rfl turnover
  have hstored : (named "vars").total (fun c x => x.stored c) turnover = 5 := by decide
  have hdiscarded : (named "vars").total (fun c x => x.discarded c) turnover = 2 := by decide
  have hlog : (named "vars").log turnover = [.erased "vars" "a", .purged "vars" 1] := by decide
  refine ⟨rfl, hstored, hdiscarded, hlog, ?_, hresolutions _ rfl,
    hsilent ⟨.zero, .erase "a"⟩ rfl fun h => by cases h⟩
  have htold : erasures [.erased "vars" "a", .purged "vars" 1] = 1 ∧
      purgedIn [.erased "vars" "a", .purged "vars" 1] = 1 := ⟨rfl, rfl⟩
  rw [hstored, hdiscarded, hlog, htold.1, htold.2] at hbooks
  omega

end Collection
end VarStore
