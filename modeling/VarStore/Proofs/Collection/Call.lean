import VarStore.Proofs.Collection.Scan

/-!
# Calls, runs and edits

A run of a collection is a list of calls, each with the reading of the clock at which it is made.
Everything else on which a call depends is part of the call: its filter, its output list, and the
order in which a scan visits the keys.  That order is anything that enumerates the keys
(`ScanOrder`), and each call has its own.  A filter is asked about a key at most once in a call, so
a filter that changes its mind between calls is another filter in each of them.

What a call does to the values is one of a few things, whatever the call: nothing, or an insertion,
or the removal of the value at some place, and so on.  `Operation.edit` says which, and
`fst_perform` that nothing else happens.  Invariants of runs are proved by cases on the edit and
never look at a call again; what has to be known of the calls is only which edits they make, and
that is `place?_eq_some`: a resolution removes the first expired value of the key at which its scan
stops.

* `Call`, `perform`, `run`, `replies`: calls, and runs of calls.
* `Reachable`: the collections that come out of a constructor and a run.
* `Edit`, `Operation.edit`, `fst_perform`: what a call does to the values.
* `Edit.MadeBy`, `madeBy_edit`: from the edit back to the call.
-/

namespace VarStore
namespace Collection

/-! ## Calls -/

/-- An order in which a scan visits the keys: some arrangement of them. -/
structure ScanOrder where
  arrange : List String → List String
  perm : ∀ keys, (arrange keys).Perm keys

/-- The order in which the keys came in. -/
def ScanOrder.asStored : ScanOrder := ⟨id, fun keys => List.Perm.refl keys⟩

instance : Inhabited ScanOrder := ⟨.asStored⟩

/-- What a collection can be asked to do. -/
inductive Operation where
  | store (k value : String)
  | updateFirst (k value : String)
  | storeOrUpdateFirst (k value : String)
  | erase (k : String)
  | setExpiry (k : String) (seconds : Int32)
  | first (k : String)
  | firstRecord (k : String)
  | resolveKey (k : String) (out : List Record)
  | resolveAll (order : ScanOrder) (k : String) (ask : Filter) (out : List Record)
  | resolveMatching (order : ScanOrder) (pattern : String) (ask : Filter) (out : List Record)
  | purge
  | clear

/-- An operation and the reading of the clock at which it is asked for. -/
structure Call where
  now : Instant
  op : Operation

/-- What an operation returns. -/
inductive Answer where
  | done
  | flag (b : Bool)
  | value (v : Option String)
  | record (r : Option Record)
  /-- The output list of a resolution, afterwards. -/
  | records (out : List Record)
  | removed (n : Nat)
  /-- The filter failed, so the output list is what it was. -/
  | failed (message : String)
  deriving DecidableEq

/-- What a call returns, and what happened meanwhile. -/
structure Reply where
  answer : Answer
  events : List Event
  deriving DecidableEq

/-- What a resolution returns. -/
def Answer.ofResolution : Except String Resolution → Answer
  | .ok r => .records r.records
  | .error message => .failed message

/-- What a resolution comes to; one that failed leaves everything as it was. -/
def outcome (c : Collection) (r : Except String Resolution) : Collection × Reply :=
  ((c.resolved r).collection, ⟨.ofResolution r, (c.resolved r).events⟩)

/-- Make a call. -/
def perform (c : Collection) (x : Call) : Collection × Reply :=
  match x.op with
  | .store k value => (c.store k value, ⟨.done, []⟩)
  | .updateFirst k value =>
    ((c.updateFirst k value).1, ⟨.flag (c.updateFirst k value).2, []⟩)
  | .storeOrUpdateFirst k value =>
    ((c.storeOrUpdateFirst k value).1, ⟨.flag (c.storeOrUpdateFirst k value).2, []⟩)
  | .erase k => (c.erase k, ⟨.done, []⟩)
  | .setExpiry k seconds => (c.setExpiry x.now k seconds, ⟨.done, []⟩)
  | .first k => (c, ⟨.value (c.first? k), []⟩)
  | .firstRecord k => (c, ⟨.record (c.firstRecord? k), []⟩)
  | .resolveKey k out => c.outcome (.ok (c.resolveKey x.now k out))
  | .resolveAll order k ask out =>
    c.outcome (c.resolveAll x.now (order.arrange c.keys) k ask out)
  | .resolveMatching order pattern ask out =>
    c.outcome (c.resolveMatching x.now (order.arrange c.keys) pattern ask out)
  | .purge => ((c.purge x.now).1, ⟨.removed (c.purge x.now).2.1, (c.purge x.now).2.2⟩)
  | .clear => (c.clear, ⟨.done, []⟩)

/-! ## Runs -/

/-- The collection after a run. -/
def run (c : Collection) : List Call → Collection
  | [] => c
  | x :: xs => (c.perform x).1.run xs

/-- What the calls of a run return. -/
def replies (c : Collection) : List Call → List Reply
  | [] => []
  | x :: xs => (c.perform x).2 :: (c.perform x).1.replies xs

@[simp] theorem run_nil (c : Collection) : c.run [] = c := rfl

@[simp] theorem run_cons (c : Collection) (x : Call) (xs : List Call) :
    c.run (x :: xs) = (c.perform x).1.run xs := rfl

@[simp] theorem replies_nil (c : Collection) : c.replies [] = [] := rfl

@[simp] theorem replies_cons (c : Collection) (x : Call) (xs : List Call) :
    c.replies (x :: xs) = (c.perform x).2 :: (c.perform x).1.replies xs := rfl

theorem run_append (c : Collection) (xs ys : List Call) :
    c.run (xs ++ ys) = (c.run xs).run ys := by
  induction xs generalizing c with
  | nil => rfl
  | cons x xs ih => rw [List.cons_append, run_cons, ih, run_cons]

/-- One call more. -/
theorem run_take_succ (c : Collection) {xs : List Call} {n : Nat} {x : Call}
    (h : xs[n]? = some x) :
    c.run (xs.take (n + 1)) = ((c.run (xs.take n)).perform x).1 := by
  rw [List.take_add_one, h, run_append]
  rfl

/-- What a call of a run returns is what it returns on the collection that the calls in front of it have
left. -/
theorem getElem?_replies (c : Collection) (xs : List Call) (n : Nat) :
    (c.replies xs)[n]? = xs[n]?.map fun x => ((c.run (xs.take n)).perform x).2 := by
  induction xs generalizing c n with
  | nil => rfl
  | cons x xs ih =>
    cases n with
    | zero => rfl
    | succ n =>
      rw [replies_cons, List.getElem?_cons_succ, List.getElem?_cons_succ, ih, List.take_succ_cons,
        run_cons]

/-- The collections that come out of a constructor and a run. -/
inductive Reachable : Collection → Prop
  | named (name : String) : Reachable (.named name)
  | configured (name : String) (config : Config) : Reachable (.configured name config)
  | perform {c : Collection} (h : Reachable c) (x : Call) : Reachable (c.perform x).1

theorem Reachable.run {c : Collection} (h : Reachable c) (xs : List Call) :
    Reachable (c.run xs) := by
  induction xs generalizing c with
  | nil => exact h
  | cons x xs ih => exact ih (h.perform x)

/-! ## Edits -/

/-- What can be done to the values of a collection. -/
inductive Edit where
  | nothing
  | insert (k value : String)
  | overwrite (k value : String)
  | rearm (k : String) (expiry : Option Instant)
  | remove (p : Place)
  | drop (k : String)
  | sweep (now : Instant)
  | clear

namespace Edit

/-- Carry out an edit. -/
def apply (c : Collection) : Edit → Collection
  | nothing => c
  | insert k value => c.setBucket k (c.bucket k ++ [.fresh value])
  | overwrite k value => c.setBucket k (overwriteFirst value (c.bucket k))
  | rearm k expiry => c.setBucket k ((c.bucket k).map fun e => { e with expiry })
  | remove p => c.eraseAt p
  | drop k => c.setBucket k []
  | sweep now => c.purged now
  | clear => c.clear

/-- What an edit does to the bucket of a key. -/
def onBucket (i : String) (b : List Entry) : Edit → List Entry
  | nothing => b
  | insert k value => if i = k then b ++ [.fresh value] else b
  | overwrite k value => if i = k then overwriteFirst value b else b
  | rearm k expiry => if i = k then b.map fun e => { e with expiry } else b
  | remove p => if i = p.key then b.eraseIdx p.index else b
  | drop k => if i = k then [] else b
  | sweep now => liveEntries now b
  | clear => []

/-- The removal of what is at a place, if there is one. -/
def ofPlace? : Option Place → Edit
  | none => nothing
  | some p => remove p

end Edit

theorem liveEntries_nil (now : Instant) : liveEntries now [] = [] := rfl

theorem buckets_purged (c : Collection) (now : Instant) :
    (c.purged now).buckets = c.buckets.revise fun _ => liveEntries now := rfl

/-- A purge leaves the entries of a bucket that are not expired. -/
theorem bucket_purged {c : Collection} (h : c.buckets.WellFormed) (now : Instant) (i : String) :
    (c.purged now).bucket i = liveEntries now (c.bucket i) := by
  rw [bucket, buckets_purged]
  exact Buckets.get_revise (fun _ => rfl) h.1 i

/-- A bucket that is replaced by something made from it. -/
theorem bucket_setBucket_self (c : Collection) (k i : String) (f : List Entry → List Entry) :
    (c.setBucket k (f (c.bucket k))).bucket i = if i = k then f (c.bucket i) else c.bucket i := by
  rw [bucket_setBucket]
  split
  · next hi => rw [hi]
  · rfl

/-- An edit does to each bucket what it says. -/
theorem bucket_apply {c : Collection} (h : c.buckets.WellFormed) (e : Edit) (i : String) :
    (e.apply c).bucket i = e.onBucket i (c.bucket i) := by
  cases e with
  | nothing => rfl
  | insert k value => exact bucket_setBucket_self c k i fun b => b ++ [.fresh value]
  | overwrite k value => exact bucket_setBucket_self c k i (overwriteFirst value)
  | rearm k expiry => exact bucket_setBucket_self c k i (List.map fun e => { e with expiry })
  | remove p => exact bucket_setBucket_self c p.key i fun b => b.eraseIdx p.index
  | drop k => exact bucket_setBucket c k i []
  | sweep now => exact bucket_purged h now i
  | clear => rfl

theorem wellFormed_setBucket {c : Collection} (h : c.buckets.WellFormed) (k : String)
    (b : List Entry) : (c.setBucket k b).buckets.WellFormed :=
  h.put k b

theorem wellFormed_apply {c : Collection} (h : c.buckets.WellFormed) (e : Edit) :
    (e.apply c).buckets.WellFormed := by
  cases e with
  | nothing => exact h
  | sweep now => exact h.revise fun _ => liveEntries now
  | clear => exact Buckets.wellFormed_nil
  | _ => exact wellFormed_setBucket h _ _

theorem name_apply (c : Collection) (e : Edit) : (e.apply c).name = c.name := by
  cases e <;> rfl

theorem ignoreCase_apply (c : Collection) (e : Edit) : (e.apply c).ignoreCase = c.ignoreCase := by
  cases e <;> rfl

/-! ## The edit of a call -/

namespace Operation

/-- Does the operation scan buckets? -/
def isResolution : Operation → Bool
  | resolveKey .. => true
  | resolveAll .. => true
  | resolveMatching .. => true
  | _ => false

/-- The keys that a resolution visits unless its filter omits them, and that filter.  A pattern
that does not compile visits nothing. -/
def scan? (c : Collection) : Operation → Option (List String × Filter)
  | resolveKey k _ => some ([k], .keepAll)
  | resolveAll order k ask _ => some (if k = "" then order.arrange c.keys else [k], ask)
  | resolveMatching order pattern ask _ =>
    match KeyPattern.compile pattern c.ignoreCase with
    | .ok p => some (order.arrange c.keys, fun k => if p.search k then ask k else .omit)
    | .error _ => none
  | _ => none

/-- The keys that a resolution visits as long as nothing stops it: those its filter keeps. -/
def visited (c : Collection) (op : Operation) : List String :=
  match op.scan? c with
  | none => []
  | some (keys, ask) => kept ask keys

/-- How a resolution hands out what it found: behind the records it is given, or in front of them
with the last one first. -/
def deliver : Operation → List Record → List Record
  | resolveKey _ out, found => out ++ found
  | resolveAll _ _ _ out, found => found.reverse ++ out
  | resolveMatching _ _ _ out, found => found.reverse ++ out
  | _, found => found

/-- The place of the expired value at which a resolution stops. -/
def place? (c : Collection) (now : Instant) (op : Operation) : Option Place :=
  match op.scan? c with
  | none => none
  | some (keys, ask) =>
    match readFiltered c.name now ask (c.bucketsOf keys) with
    | .ok p => p.2
    | .error _ => none

/-- What an operation does to the values. -/
def edit (c : Collection) (now : Instant) : Operation → Edit
  | store k value => .insert k value
  | updateFirst k value => if (c.bucket k).isEmpty then .nothing else .overwrite k value
  | storeOrUpdateFirst k value =>
    if (c.bucket k).isEmpty then .insert k value else .overwrite k value
  | erase k => .drop k
  | setExpiry k seconds => .rearm k (Entry.expiryFrom now seconds)
  | purge => .sweep now
  | clear => .clear
  | op => .ofPlace? (op.place? c now)

end Operation

/-- What a call does to the values. -/
def Call.edit (c : Collection) (x : Call) : Edit := x.op.edit c x.now

theorem collection_finish (c : Collection) (stop : Option Place) (out : List Record) :
    (c.finish stop out).collection = (Edit.ofPlace? stop).apply c := by
  cases stop <;> rfl

theorem fst_outcome_resolveOrder (c : Collection) (now : Instant) (keys : List String)
    (ask : Filter) (out : List Record) :
    (c.outcome (c.resolveOrder now keys ask out)).1 =
      (Edit.ofPlace? (match readFiltered c.name now ask (c.bucketsOf keys) with
        | .ok p => p.2
        | .error _ => none)).apply c := by
  rw [resolveOrder]
  cases readFiltered c.name now ask (c.bucketsOf keys) with
  | error message => rfl
  | ok p => exact collection_finish c p.2 _

/-- Resolving one key is a scan that keeps everything. -/
theorem readFiltered_keepAll (name : String) (now : Instant) (bs : List (String × List Entry)) :
    readFiltered name now .keepAll bs = .ok (readThrough name now bs) := by
  obtain ⟨p, hp⟩ := readFiltered_omitting name now (fun _ => false) bs
  have h := readFiltered_eq_of_ok hp
  rw [List.filter_eq_self.2 fun b _ => by simp] at h
  rw [Filter.keepAll, hp, h]

/-- **A call makes its edit and nothing else.** -/
theorem fst_perform (c : Collection) (x : Call) : (c.perform x).1 = (x.edit c).apply c := by
  obtain ⟨now, op⟩ := x
  rw [Call.edit]
  cases op with
  | store k value => rfl
  | updateFirst k value =>
    show (c.updateFirst k value).1 = _
    rw [updateFirst, Operation.edit]
    split <;> rfl
  | storeOrUpdateFirst k value =>
    show (c.storeOrUpdateFirst k value).1 = _
    rw [storeOrUpdateFirst, updateFirst, Operation.edit]
    cases (c.bucket k).isEmpty <;> rfl
  | erase k => rfl
  | setExpiry k seconds => rfl
  | first k => rfl
  | firstRecord k => rfl
  | resolveKey k out =>
    show (c.resolveKey now k out).collection =
      (Edit.ofPlace? (Operation.place? c now (.resolveKey k out))).apply c
    rw [resolveKey, collection_finish, Operation.place?, Operation.scan?]
    simp only [readFiltered_keepAll]
  | resolveAll order k ask out => exact fst_outcome_resolveOrder c now _ ask out
  | resolveMatching order pattern ask out =>
    show (c.outcome (c.resolveMatching now (order.arrange c.keys) pattern ask out)).1 =
      (Edit.ofPlace? (Operation.place? c now (.resolveMatching order pattern ask out))).apply c
    rw [resolveMatching, Operation.place?, Operation.scan?]
    cases KeyPattern.compile pattern c.ignoreCase with
    | error e => rfl
    | ok p => exact fst_outcome_resolveOrder c now _ _ out
  | purge => rfl
  | clear => rfl

/-- A resolution removes the first expired value of the key at which its scan stops. -/
theorem place?_eq_some {c : Collection} {now : Instant} {op : Operation} {p : Place}
    (h : op.place? c now = some p) :
    ∃ keys ask, op.scan? c = some (keys, ask) ∧ c.stop? now (kept ask keys) = some p.key ∧
      p.index = (c.bucket p.key).findIdx (·.isExpiredAt now) := by
  rw [Operation.place?] at h
  cases hs : op.scan? c with
  | none => simp only [hs] at h; cases h
  | some s =>
    obtain ⟨keys, ask⟩ := s
    simp only [hs] at h
    cases hr : readFiltered c.name now ask (c.bucketsOf keys) with
    | error message => simp only [hr] at h; cases h
    | ok q =>
      simp only [hr] at h
      rw [readFiltered_eq_of_ok hr, bucketsOf_kept, readThrough_bucketsOf] at h
      obtain ⟨k, hk, rfl⟩ := Option.map_eq_some_iff.1 h
      exact ⟨keys, ask, rfl, hk, rfl⟩

theorem outcome_resolveOrder (c : Collection) (now : Instant) (keys : List String) (ask : Filter)
    (out : List Record) :
    (∃ message, c.outcome (c.resolveOrder now keys ask out) = (c, ⟨.failed message, []⟩)) ∨
      c.outcome (c.resolveOrder now keys ask out) = (c.afterScan now (kept ask keys),
        ⟨.records ((c.read now (kept ask keys)).reverse ++ out),
          c.scanEvents now (kept ask keys)⟩) := by
  cases hr : c.resolveOrder now keys ask out with
  | error message => exact Or.inl ⟨message, rfl⟩
  | ok r =>
    rw [resolveOrder_eq_of_ok hr]
    exact Or.inr rfl

/-- What an operation tells of before it looks at the values: a pattern that does not compile. -/
def Operation.notices (c : Collection) : Operation → List Event
  | resolveMatching _ pattern _ _ =>
    match KeyPattern.compile pattern c.ignoreCase with
    | .ok _ => []
    | .error e => [.patternRejected c.name e]
  | _ => []

/-- **What a resolution does, returns and tells of.**  Either its filter failed, or it hands out what a
scan of the visited keys finds, and tells of what the scan erases. -/
theorem perform_resolution_eq (c : Collection) {x : Call} (hx : x.op.isResolution = true) :
    (∃ message, c.perform x = (c, ⟨.failed message, []⟩)) ∨
      c.perform x = (c.afterScan x.now (x.op.visited c),
        ⟨.records (x.op.deliver (c.read x.now (x.op.visited c))),
          x.op.notices c ++ c.scanEvents x.now (x.op.visited c)⟩) := by
  obtain ⟨now, op⟩ := x
  cases op with
  | resolveKey k out =>
    right
    show c.outcome (.ok (c.resolveKey now k out)) = _
    rw [resolveKey_eq]
    rfl
  | resolveAll order k ask out =>
    exact outcome_resolveOrder c now (if k = "" then order.arrange c.keys else [k]) ask out
  | resolveMatching order pattern ask out =>
    have hp : c.perform ⟨now, .resolveMatching order pattern ask out⟩ =
      c.outcome (c.resolveMatching now (order.arrange c.keys) pattern ask out) := rfl
    rw [hp, resolveMatching, Operation.visited, Operation.scan?, Operation.notices]
    cases KeyPattern.compile pattern c.ignoreCase with
    | error e => exact Or.inr rfl
    | ok p => exact outcome_resolveOrder c now _ _ out
  | _ => cases hx

/-- What a resolution returns, whatever it tells of. -/
theorem perform_resolution (c : Collection) {x : Call} (hx : x.op.isResolution = true) :
    (∃ message, c.perform x = (c, ⟨.failed message, []⟩)) ∨
      ∃ events, c.perform x = (c.afterScan x.now (x.op.visited c),
        ⟨.records (x.op.deliver (c.read x.now (x.op.visited c))), events⟩) :=
  (perform_resolution_eq c hx).imp_right fun h => ⟨_, h⟩

/-- An operation that visits a key has had nothing to tell of before. -/
theorem Operation.notices_eq_nil_of_mem_visited {c : Collection} {op : Operation} {k : String}
    (hk : k ∈ op.visited c) : op.notices c = [] := by
  cases op with
  | resolveMatching order pattern ask out =>
    rw [visited, scan?] at hk
    rw [notices]
    cases hp : KeyPattern.compile pattern c.ignoreCase with
    | ok p => rfl
    | error e =>
      rw [hp] at hk
      exact absurd hk List.not_mem_nil
  | _ => rfl

/-- How an edit comes about: the calls that make it, and what they have found before. -/
def Edit.MadeBy (c : Collection) (x : Call) : Edit → Prop
  | nothing => True
  | insert k value =>
    x.op = .store k value ∨ x.op = .storeOrUpdateFirst k value ∧ c.bucket k = []
  | overwrite k value =>
    (x.op = .updateFirst k value ∨ x.op = .storeOrUpdateFirst k value) ∧ c.bucket k ≠ []
  | rearm k expiry =>
    ∃ seconds, x.op = .setExpiry k seconds ∧ expiry = Entry.expiryFrom x.now seconds
  | remove p =>
    x.op.isResolution = true ∧ hasExpired x.now (c.bucket p.key) = true ∧
      p.index = (c.bucket p.key).findIdx (·.isExpiredAt x.now)
  | drop k => x.op = .erase k
  | sweep now => x.op = .purge ∧ now = x.now
  | clear => x.op = .clear

theorem edit_of_isResolution {c : Collection} {x : Call} (hx : x.op.isResolution = true) :
    x.edit c = .ofPlace? (x.op.place? c x.now) := by
  obtain ⟨now, op⟩ := x
  cases op with
  | resolveKey k out => rfl
  | resolveAll order k ask out => rfl
  | resolveMatching order pattern ask out => rfl
  | _ => cases hx

theorem madeBy_ofPlace? {c : Collection} {x : Call} (hx : x.op.isResolution = true) :
    (Edit.ofPlace? (x.op.place? c x.now)).MadeBy c x := by
  cases hp : x.op.place? c x.now with
  | none => trivial
  | some p =>
    obtain ⟨keys, ask, -, hstop, hindex⟩ := place?_eq_some hp
    exact ⟨hx, hasExpired_of_stop?_eq_some hstop, hindex⟩

/-- **Every edit comes about in its own way.** -/
theorem madeBy_edit (c : Collection) (x : Call) : (x.edit c).MadeBy c x := by
  obtain ⟨now, op⟩ := x
  cases op with
  | store k value => exact Or.inl rfl
  | updateFirst k value =>
    rw [Call.edit, Operation.edit]
    split
    · trivial
    · next hb => exact ⟨Or.inl rfl, fun e => hb (List.isEmpty_iff.2 e)⟩
  | storeOrUpdateFirst k value =>
    rw [Call.edit, Operation.edit]
    split
    · next hb => exact Or.inr ⟨rfl, List.isEmpty_iff.1 hb⟩
    · next hb => exact ⟨Or.inr rfl, fun e => hb (List.isEmpty_iff.2 e)⟩
  | erase k => rfl
  | setExpiry k seconds => exact ⟨seconds, rfl, rfl⟩
  | purge => exact ⟨rfl, rfl⟩
  | clear => rfl
  | first k => trivial
  | firstRecord k => trivial
  | resolveKey k out => exact madeBy_ofPlace? (x := ⟨now, .resolveKey k out⟩) rfl
  | resolveAll order k ask out =>
    exact madeBy_ofPlace? (x := ⟨now, .resolveAll order k ask out⟩) rfl
  | resolveMatching order pattern ask out =>
    exact madeBy_ofPlace? (x := ⟨now, .resolveMatching order pattern ask out⟩) rfl

/-! ## Invariants of runs -/

theorem name_perform (c : Collection) (x : Call) : (c.perform x).1.name = c.name := by
  rw [fst_perform, name_apply]

theorem name_run (c : Collection) (xs : List Call) : (c.run xs).name = c.name := by
  induction xs generalizing c with
  | nil => rfl
  | cons x xs ih => rw [run_cons, ih, name_perform]

theorem ignoreCase_perform (c : Collection) (x : Call) :
    (c.perform x).1.ignoreCase = c.ignoreCase := by
  rw [fst_perform, ignoreCase_apply]

theorem wellFormed_perform {c : Collection} (h : c.buckets.WellFormed) (x : Call) :
    (c.perform x).1.buckets.WellFormed := by
  rw [fst_perform]
  exact wellFormed_apply h _

theorem wellFormed_run {c : Collection} (h : c.buckets.WellFormed) (xs : List Call) :
    (c.run xs).buckets.WellFormed := by
  induction xs generalizing c with
  | nil => exact h
  | cons x xs ih => exact ih (wellFormed_perform h x)

/-- **No key has two buckets and no bucket is empty**, whatever was done to the collection. -/
theorem Reachable.wellFormed {c : Collection} (h : Reachable c) : c.buckets.WellFormed := by
  induction h with
  | named name => exact Buckets.wellFormed_nil
  | configured name config => exact Buckets.wellFormed_nil
  | perform _ x ih => exact wellFormed_perform ih x

end Collection
end VarStore
