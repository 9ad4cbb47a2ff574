import VarStore.Proofs.Collection.Call

/-!
# Calls on single keys

A call that is confined to one key might as well be made on a plain list of values.  A collection on
which only such calls are made is a family of lists that know nothing of each other, one for each
key: what a call returns depends on the earlier calls on its key, and on no others.

The plain list is described by `plainPerform`, without buckets, places and scans.  A value is added
at the end, the first one is overwritten, all of them get an expiry, and a resolution hands out the
values in front of the first expired one and deletes that one (`List.takeWhile`, `List.eraseP`).

* `perform_eq_plainPerform`: a call on a key is a call on the plain list of that key, and leaves
  the other buckets alone.
* `keyed_runs_are_isolated`: so is a run; and when several clients keep to keys of their own, then
  in whatever way their calls are interleaved each of them gets the replies it would have got
  alone, and the values in the end are those of the clients taken together.
-/

namespace VarStore
namespace Collection

/-! ## Plain lists -/

/-- The key to which an operation is confined, if it is confined to one. -/
def Operation.key? : Operation → Option String
  | store k _ => some k
  | updateFirst k _ => some k
  | storeOrUpdateFirst k _ => some k
  | erase k => some k
  | setExpiry k _ => some k
  | first k => some k
  | firstRecord k => some k
  | resolveKey k _ => some k
  | resolveAll _ k _ _ => if k = "" then none else some k
  | _ => none

/-- Resolve a plain list: what is in front of the first expired value is handed out, and that value
is deleted. -/
def plainResolve (name k : String) (now : Instant) (b : List Entry)
    (deliver : List Record → List Record) : List Entry × Reply :=
  (b.eraseP (·.isExpiredAt now),
    ⟨.records (deliver ((b.takeWhile fun e => !e.isExpiredAt now).map fun e =>
        ⟨name, k, e.payload⟩)),
      if b.any (·.isExpiredAt now) then [.erased name k] else []⟩)

/-- Resolve a plain list after a filter has been asked about its key. -/
def plainAsk (name k : String) (now : Instant) (b : List Entry) (ask : Filter)
    (out : List Record) : List Entry × Reply :=
  match ask k with
  | .keep => plainResolve name k now b (·.reverse ++ out)
  | .omit => (b, ⟨.records out, []⟩)
  | .fail message => (b, ⟨.failed message, []⟩)

/-- Make a call on the plain list of the values under a key. -/
def plainPerform (name k : String) (b : List Entry) (x : Call) : List Entry × Reply :=
  match x.op with
  | .store _ value => (b ++ [⟨value, none⟩], ⟨.done, []⟩)
  | .updateFirst _ value =>
    match b with
    | [] => ([], ⟨.flag false, []⟩)
    | e :: b => (⟨value, e.expiry⟩ :: b, ⟨.flag true, []⟩)
  | .storeOrUpdateFirst _ value =>
    match b with
    | [] => ([⟨value, none⟩], ⟨.flag true, []⟩)
    | e :: b => (⟨value, e.expiry⟩ :: b, ⟨.flag true, []⟩)
  | .erase _ => ([], ⟨.done, []⟩)
  | .setExpiry _ seconds =>
    (b.map fun e => ⟨e.payload, Entry.expiryFrom x.now seconds⟩, ⟨.done, []⟩)
  | .first _ => (b, ⟨.value (b.head?.map (·.payload)), []⟩)
  | .firstRecord _ => (b, ⟨.record (b.head?.map fun e => ⟨name, k, e.payload⟩), []⟩)
  | .resolveKey _ out => plainResolve name k x.now b (out ++ ·)
  | .resolveAll _ _ ask out => plainAsk name k x.now b ask out
  | _ => (b, ⟨.done, []⟩)

/-- The plain list after some calls. -/
def plainRun (name k : String) (b : List Entry) : List Call → List Entry
  | [] => b
  | x :: xs => plainRun name k (plainPerform name k b x).1 xs

/-- What calls on a plain list return. -/
def plainReplies (name k : String) (b : List Entry) : List Call → List Reply
  | [] => []
  | x :: xs => (plainPerform name k b x).2 :: plainReplies name k (plainPerform name k b x).1 xs

/-! ## One call -/

variable {c : Collection} {now : Instant} {k : String}

/-- Two pairs of a collection and a reply agree with the plain list of a key: the same reply, the
bucket of that key is the list, and the other buckets are as before. -/
structure Simulates (c : Collection) (k : String) (p : Collection × Reply)
    (q : List Entry × Reply) : Prop where
  reply : p.2 = q.2
  bucket : ∀ i, p.1.bucket i = if i = k then q.1 else c.bucket i

theorem Simulates.of_bucket_eq (c : Collection) (k : String) (reply : Reply) :
    Simulates c k (c, reply) (c.bucket k, reply) := by
  refine ⟨rfl, fun i => ?_⟩
  split
  · next hi => rw [hi]
  · rfl

theorem Simulates.setBucket {reply : Reply} (c : Collection) (k : String) (b : List Entry) :
    Simulates c k (c.setBucket k b, reply) (b, reply) :=
  ⟨rfl, fun i => bucket_setBucket c k i b⟩

theorem Simulates.scan (c : Collection) (now : Instant) (k : String)
    (deliver : List Record → List Record) :
    Simulates c k
      (c.afterScan now [k], ⟨.records (deliver (c.read now [k])), c.scanEvents now [k]⟩)
      (plainResolve c.name k now (c.bucket k) deliver) := by
  refine ⟨?_, fun i => bucket_afterScan_singleton c now k i⟩
  rw [read_singleton, scanEvents_singleton]
  rfl

/-- A resolution of one key that asks a filter first. -/
theorem simulates_resolveOrder (c : Collection) (now : Instant) (k : String) (ask : Filter)
    (out : List Record) :
    Simulates c k (c.outcome (c.resolveOrder now [k] ask out))
      (plainAsk c.name k now (c.bucket k) ask out) := by
  rw [plainAsk]
  match h : ask k with
  | .fail message =>
    rw [resolveOrder_singleton_of_fail h]
    exact .of_bucket_eq c k _
  | .omit =>
    rw [resolveOrder_singleton_of_omit h]
    exact .of_bucket_eq c k _
  | .keep =>
    rw [resolveOrder_singleton_of_keep h]
    exact .scan c now k (·.reverse ++ out)

/-- **A call on a key is a call on the plain list of that key.** -/
theorem perform_eq_plainPerform {x : Call} (h : x.op.key? = some k) :
    Simulates c k (c.perform x) (plainPerform c.name k (c.bucket k) x) := by
  obtain ⟨now, op⟩ := x
  cases op with
  | store j value =>
    obtain rfl : j = k := Option.some.inj h
    exact .setBucket c j _
  | updateFirst j value =>
    obtain rfl : j = k := Option.some.inj h
    show Simulates c j ((c.updateFirst j value).1, ⟨.flag (c.updateFirst j value).2, []⟩) _
    rw [updateFirst, plainPerform]
    cases hb : c.bucket j with
    | nil =>
      have hs := Simulates.of_bucket_eq c j ⟨.flag false, []⟩
      rw [hb] at hs
      exact hs
    | cons e b => exact .setBucket c j _
  | storeOrUpdateFirst j value =>
    obtain rfl : j = k := Option.some.inj h
    show Simulates c j
      ((c.storeOrUpdateFirst j value).1, ⟨.flag (c.storeOrUpdateFirst j value).2, []⟩) _
    rw [storeOrUpdateFirst, updateFirst, plainPerform, store]
    cases hb : c.bucket j with
    | nil => exact .setBucket c j _
    | cons e b => exact .setBucket c j _
  | erase j =>
    obtain rfl : j = k := Option.some.inj h
    exact .setBucket c j []
  | setExpiry j seconds =>
    obtain rfl : j = k := Option.some.inj h
    exact .setBucket c j _
  | first j =>
    obtain rfl : j = k := Option.some.inj h
    exact .of_bucket_eq c j _
  | firstRecord j =>
    obtain rfl : j = k := Option.some.inj h
    have hr : c.firstRecord? j = (c.bucket j).head?.map fun e => ⟨c.name, j, e.payload⟩ := by
      rw [firstRecord?, first?, Option.map_map]
      rfl
    show Simulates c j (c, ⟨.record (c.firstRecord? j), []⟩) _
    rw [hr]
    exact .of_bucket_eq c j _
  | resolveKey j out =>
    obtain rfl : j = k := Option.some.inj h
    show Simulates c j (c.outcome (.ok (c.resolveKey now j out))) _
    rw [resolveKey_eq]
    exact .scan c now j (out ++ ·)
  | resolveAll order j ask out =>
    rw [Operation.key?] at h
    by_cases hj : j = ""
    · rw [if_pos hj] at h
      cases h
    · rw [if_neg hj] at h
      obtain rfl : j = k := Option.some.inj h
      show Simulates c j (c.outcome (c.resolveAll now (order.arrange c.keys) j ask out)) _
      rw [resolveAll, if_neg hj]
      exact simulates_resolveOrder c now j ask out
  | resolveMatching order pattern ask out => cases h
  | purge => cases h
  | clear => cases h

/-! ## Runs -/

/-- Of some results in a row, those that belong to chosen items. -/
def pick {α β : Type} (p : α → Bool) : List α → List β → List β
  | x :: xs, r :: rs => if p x then r :: pick p xs rs else pick p xs rs
  | _, _ => []

theorem pick_cons_of_pos {α β : Type} {p : α → Bool} {x : α} (h : p x = true) (r : β)
    (xs : List α) (rs : List β) : pick p (x :: xs) (r :: rs) = r :: pick p xs rs := by
  rw [pick, if_pos h]

theorem pick_cons_of_neg {α β : Type} {p : α → Bool} {x : α} (h : p x = false) (r : β)
    (xs : List α) (rs : List β) : pick p (x :: xs) (r :: rs) = pick p xs rs := by
  rw [pick, h, if_neg Bool.false_ne_true]

/-- Is the call confined to this key? -/
def Call.isOn (k : String) (x : Call) : Bool := x.op.key? = some k

theorem Call.isOn_iff {x : Call} : x.isOn k = true ↔ x.op.key? = some k :=
  decide_eq_true_iff

/-- **A run on single keys is a run on plain lists.**  The induction is on the run; a call on the
key steps the list, and a call on another key leaves its bucket alone. -/
theorem run_eq_plainRun {xs : List Call} (hx : ∀ x ∈ xs, x.op.key? ≠ none) (c : Collection)
    (k : String) :
    pick (·.isOn k) xs (c.replies xs) =
        plainReplies c.name k (c.bucket k) (xs.filter (·.isOn k)) ∧
      (c.run xs).bucket k = plainRun c.name k (c.bucket k) (xs.filter (·.isOn k)) := by
  induction xs generalizing c with
  | nil => exact ⟨rfl, rfl⟩
  | cons x xs ih =>
    obtain ⟨j, hj⟩ := Option.ne_none_iff_exists'.1 (hx x List.mem_cons_self)
    have hs := perform_eq_plainPerform (c := c) hj
    have hxs := ih (fun y hy => hx y (List.mem_cons_of_mem _ hy)) (c.perform x).1
    rw [name_perform, hs.bucket] at hxs
    rw [replies_cons, run_cons]
    by_cases hk : k = j
    · subst hk
      have hon : x.isOn k = true := Call.isOn_iff.2 hj
      rw [if_pos rfl] at hxs
      rw [pick_cons_of_pos hon, List.filter_cons_of_pos hon, hs.reply, hxs.1, hxs.2]
      exact ⟨rfl, rfl⟩
    · have hon : x.isOn k = false := decide_eq_false fun e => hk (Option.some.inj (e.symm.trans hj))
      rw [if_neg hk] at hxs
      rw [pick_cons_of_neg hon, List.filter_cons_of_neg (by simp [hon])]
      exact hxs

/-- A run that never names a key leaves its bucket alone. -/
theorem bucket_run_of_not_isOn {xs : List Call} (hx : ∀ x ∈ xs, x.op.key? ≠ none)
    (hk : ∀ x ∈ xs, x.op.key? ≠ some k) (c : Collection) : (c.run xs).bucket k = c.bucket k := by
  rw [(run_eq_plainRun hx c k).2, List.filter_eq_nil_iff.2 fun x h e => hk x h (Call.isOn_iff.1 e)]
  rfl

/-! ## Clients -/

section Clients

variable {ι : Type} [DecidableEq ι]

/-- Is the call one of this client's? -/
def ofClient (i : ι) (p : ι × Call) : Bool := p.1 = i

/-- The calls of a client, out of those of several. -/
def programOf (merged : List (ι × Call)) (i : ι) : List Call :=
  (merged.filter (ofClient i)).map (·.2)

/-- The calls of several clients, put in one row in any way that keeps the order of each client's
calls. -/
def Interleaves (merged : List (ι × Call)) (programs : ι → List Call) : Prop :=
  ∀ i, programOf merged i = programs i

/-- Each client makes calls on single keys, and no two clients on the same. -/
structure OwnKeys (programs : ι → List Call) : Prop where
  keyed : ∀ i, ∀ x ∈ programs i, x.op.key? ≠ none
  apart : ∀ i j, i ≠ j → ∀ x ∈ programs i, ∀ y ∈ programs j, x.op.key? ≠ y.op.key?

variable {merged : List (ι × Call)} {programs : ι → List Call}

theorem ofClient_self (p : ι × Call) : ofClient p.1 p = true :=
  decide_eq_true rfl

theorem ofClient_of_ne {i : ι} {p : ι × Call} (h : p.1 ≠ i) : ofClient i p = false :=
  decide_eq_false h

theorem programOf_cons_of_eq (p : ι × Call) (merged : List (ι × Call)) :
    programOf (p :: merged) p.1 = p.2 :: programOf merged p.1 := by
  rw [programOf, List.filter_cons_of_pos (ofClient_self p), List.map_cons, programOf]

theorem programOf_cons_of_ne {i : ι} {p : ι × Call} (h : p.1 ≠ i) (merged : List (ι × Call)) :
    programOf (p :: merged) i = programOf merged i := by
  rw [programOf, List.filter_cons_of_neg (by simp [ofClient_of_ne h]), programOf]

theorem Interleaves.mem (h : Interleaves merged programs) {p : ι × Call} (hp : p ∈ merged) :
    p.2 ∈ programs p.1 := by
  rw [← h p.1]
  exact List.mem_map.2 ⟨p, List.mem_filter.2 ⟨hp, ofClient_self p⟩, rfl⟩

/-- Does some call of a program concern the key? -/
def Concerns (xs : List Call) (k : String) : Prop := ∃ x ∈ xs, x.op.key? = some k

/-- **A client among others is a client alone.**  `K` are the keys of the client.  Its calls see
only buckets of `K`, which are the same in the shared collection `c` and in its own `d`; the calls
of the others change none of them. -/
theorem replies_of_client (K : String → Prop) (i : ι)
    (own : ∀ p ∈ merged, p.1 = i → ∃ k, p.2.op.key? = some k ∧ K k)
    (others : ∀ p ∈ merged, p.1 ≠ i → ∃ k, p.2.op.key? = some k ∧ ¬ K k) {c d : Collection}
    (hname : c.name = d.name) (hb : ∀ k, K k → c.bucket k = d.bucket k) :
    pick (ofClient i) merged (c.replies (merged.map (·.2))) = d.replies (programOf merged i) ∧
      ∀ k, K k → (c.run (merged.map (·.2))).bucket k = (d.run (programOf merged i)).bucket k := by
  induction merged generalizing c d with
  | nil => exact ⟨rfl, hb⟩
  | cons p merged ih =>
    have own' := fun q hq => own q (List.mem_cons_of_mem _ hq)
    have others' := fun q hq => others q (List.mem_cons_of_mem _ hq)
    rw [List.map_cons, replies_cons, run_cons]
    by_cases hi : p.1 = i
    · obtain ⟨k, hk, hK⟩ := own p List.mem_cons_self hi
      have hc := perform_eq_plainPerform (c := c) hk
      have hd := perform_eq_plainPerform (c := d) hk
      rw [hname, hb k hK] at hc
      have hb' : ∀ j, K j → (c.perform p.2).1.bucket j = (d.perform p.2).1.bucket j := by
        intro j hj
        rw [hc.bucket, hd.bucket, hb j hj]
      have hrest := ih own' others' (by rw [name_perform, name_perform, hname]) hb'
      subst hi
      rw [pick_cons_of_pos (ofClient_self p), programOf_cons_of_eq, replies_cons, run_cons,
        hc.reply, hd.reply, hrest.1]
      exact ⟨rfl, hrest.2⟩
    · obtain ⟨k, hk, hK⟩ := others p List.mem_cons_self hi
      have hc := perform_eq_plainPerform (c := c) hk
      have hb' : ∀ j, K j → (c.perform p.2).1.bucket j = d.bucket j := by
        intro j hj
        have hjk : j ≠ k := fun e => hK (e ▸ hj)
        rw [hc.bucket, if_neg hjk, hb j hj]
      rw [pick_cons_of_neg (ofClient_of_ne hi), programOf_cons_of_ne hi]
      exact ih own' others' (by rw [name_perform, hname]) hb'

/-- What a client finds among others, in terms of its program. -/
theorem OwnKeys.replies_eq (hown : OwnKeys programs) (hm : Interleaves merged programs)
    (c : Collection) (i : ι) :
    pick (ofClient i) merged (c.replies (merged.map (·.2))) = c.replies (programs i) ∧
      ∀ k, Concerns (programs i) k →
        (c.run (merged.map (·.2))).bucket k = (c.run (programs i)).bucket k := by
  rw [← hm i]
  refine replies_of_client (Concerns (programOf merged i)) i ?_ ?_ rfl fun _ _ => rfl
  · rintro ⟨j, x⟩ hp rfl
    obtain ⟨k, hk⟩ := Option.ne_none_iff_exists'.1 (hown.keyed j x (hm.mem hp))
    rw [hm j]
    exact ⟨k, hk, x, hm.mem hp, hk⟩
  · rintro ⟨j, x⟩ hp hj
    obtain ⟨k, hk⟩ := Option.ne_none_iff_exists'.1 (hown.keyed j x (hm.mem hp))
    rw [hm i]
    refine ⟨k, hk, ?_⟩
    rintro ⟨y, hy, hyk⟩
    exact hown.apart j i hj x (hm.mem hp) y hy (hk.trans hyk.symm)

theorem OwnKeys.keyed_merged (hown : OwnKeys programs) (hm : Interleaves merged programs) :
    ∀ x ∈ merged.map (·.2), x.op.key? ≠ none := by
  intro x hx
  obtain ⟨p, hp, rfl⟩ := List.mem_map.1 hx
  exact hown.keyed p.1 p.2 (hm.mem hp)

/-- From a collection without values, the clients together leave what each of them leaves alone. -/
theorem OwnKeys.mem_buckets_iff (hown : OwnKeys programs) (hm : Interleaves merged programs)
    {c : Collection} (hc : c.buckets = []) (p : String × List Entry) :
    p ∈ (c.run (merged.map (·.2))).buckets ↔ ∃ i, p ∈ (c.run (programs i)).buckets := by
  have hwf : c.buckets.WellFormed := hc ▸ Buckets.wellFormed_nil
  have hnil : ∀ k, c.bucket k = [] := fun k => by rw [bucket, hc, Buckets.get_nil]
  obtain ⟨k, b⟩ := p
  rw [(wellFormed_run hwf _).mem_iff]
  constructor
  · rintro ⟨hb, hne⟩
    -- a key with values in the end is one that some client has named
    have hex : ∃ x ∈ merged.map (·.2), x.op.key? = some k := by
      by_contra hno
      refine hne (hb.symm.trans ?_)
      have := bucket_run_of_not_isOn (hown.keyed_merged hm) (fun x hx e => hno ⟨x, hx, e⟩) c
      exact this.trans (hnil k)
    obtain ⟨x, hx, hk⟩ := hex
    obtain ⟨⟨i, x⟩, hp, rfl⟩ := List.mem_map.1 hx
    have := (hown.replies_eq hm c i).2 k ⟨x, hm.mem hp, hk⟩
    exact ⟨i, (wellFormed_run hwf _).mem_iff.2 ⟨this.symm.trans hb, hne⟩⟩
  · rintro ⟨i, hp⟩
    obtain ⟨hb, hne⟩ := (wellFormed_run hwf _).mem_iff.1 hp
    have hex : Concerns (programs i) k := by
      by_contra hno
      refine hne (hb.symm.trans ?_)
      have := bucket_run_of_not_isOn (hown.keyed i) (fun x hx e => hno ⟨x, hx, e⟩) c
      exact this.trans (hnil k)
    exact ⟨((hown.replies_eq hm c i).2 k hex).trans hb, hne⟩

/-- **Keys do not touch each other.**  In a run of calls on single keys, what the calls on a key
return and what is left under it are those of a plain list that is given only these calls.  So
clients that keep to keys of their own get, in every interleaving of their calls, the replies they
would get alone, and together leave what each of them would leave alone. -/
theorem keyed_runs_are_isolated (c : Collection) :
    (∀ xs : List Call, (∀ x ∈ xs, x.op.key? ≠ none) → ∀ k,
      pick (·.isOn k) xs (c.replies xs) =
          plainReplies c.name k (c.bucket k) (xs.filter (·.isOn k)) ∧
        (c.run xs).bucket k = plainRun c.name k (c.bucket k) (xs.filter (·.isOn k))) ∧
    (∀ (programs : ι → List Call) (merged : List (ι × Call)), OwnKeys programs →
      Interleaves merged programs →
      (∀ i, pick (ofClient i) merged (c.replies (merged.map (·.2))) =
        c.replies (programs i)) ∧
      (∀ i k, Concerns (programs i) k →
        (c.run (merged.map (·.2))).bucket k = (c.run (programs i)).bucket k) ∧
      (∀ k, (∀ i, ¬ Concerns (programs i) k) →
        (c.run (merged.map (·.2))).bucket k = c.bucket k) ∧
      (c.buckets = [] → ∀ p, p ∈ (c.run (merged.map (·.2))).buckets ↔
        ∃ i, p ∈ (c.run (programs i)).buckets)) := by
  refine ⟨fun xs hx k => run_eq_plainRun hx c k, fun programs merged hown hm => ?_⟩
  refine ⟨fun i => (hown.replies_eq hm c i).1, fun i => (hown.replies_eq hm c i).2, ?_,
    fun hc => hown.mem_buckets_iff hm hc⟩
  intro k hno
  refine bucket_run_of_not_isOn (hown.keyed_merged hm) (fun x hx hk => ?_) c
  obtain ⟨p, hp, rfl⟩ := List.mem_map.1 hx
  exact hno p.1 ⟨p.2, hm.mem hp, hk⟩

end Clients

/-- Two clients: the first has a value under `a` that expires at once and one that does not expire,
the second has a value under `b`. -/
def pair : Bool → List Call
  | true => [⟨.zero, .store "a" "x"⟩, ⟨.zero, .setExpiry "a" 0⟩, ⟨.zero, .store "a" "y"⟩,
      ⟨.zero, .resolveKey "a" []⟩]
  | false => [⟨.zero, .storeOrUpdateFirst "b" "z"⟩, ⟨.zero, .resolveAll .asStored "b" .keepAll []⟩]

/-- Their calls, the second client in between. -/
def mergedPair : List (Bool × Call) :=
  [(true, ⟨.zero, .store "a" "x"⟩), (false, ⟨.zero, .storeOrUpdateFirst "b" "z"⟩),
    (true, ⟨.zero, .setExpiry "a" 0⟩), (false, ⟨.zero, .resolveAll .asStored "b" .keepAll []⟩),
    (true, ⟨.zero, .store "a" "y"⟩), (true, ⟨.zero, .resolveKey "a" []⟩)]

/-- The first client finds its expired value erased, as it would alone, and the other one is
there. -/
theorem mergedPair_is_isolated :
    (∀ x ∈ pair true, x.op.key? ≠ none) ∧ OwnKeys pair ∧ Interleaves mergedPair pair ∧
      pick (ofClient true) mergedPair ((named "vars").replies (mergedPair.map (·.2))) =
        [⟨.done, []⟩, ⟨.done, []⟩, ⟨.done, []⟩, ⟨.records [], [.erased "vars" "a"]⟩] ∧
      ((named "vars").run (pair true)).bucket "a" = [⟨"y", none⟩] ∧
      ("b", [⟨"z", none⟩]) ∈ ((named "vars").run (mergedPair.map (·.2))).buckets := by
  obtain ⟨hruns, hclients⟩ := keyed_runs_are_isolated (ι := Bool) (named "vars")
  have hkeyed : ∀ x ∈ pair true, x.op.key? ≠ none := by decide
  have hown : OwnKeys pair := ⟨by decide, by decide⟩
  have hm : Interleaves mergedPair pair := by
    intro i
    cases i <;> rfl
  obtain ⟨hreplies, -, -, hbuckets⟩ := hclients pair mergedPair hown hm
  refine ⟨hkeyed, hown, hm, ?_, ?_, ?_⟩
  · rw [hreplies true]
    decide
  · rw [(hruns (pair true) hkeyed "a").2]
    decide
  · exact (hbuckets rfl _).2 ⟨false, by decide⟩

end Collection
end VarStore
