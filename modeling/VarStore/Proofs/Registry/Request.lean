import VarStore.Proofs.Collection.Isolation
import VarStore.Proofs.Lookup
import VarStore.Registry

/-!
# Requests to a registry

A client of a registry asks for collections by name, lets go of names, and calls the collections
whose handles it has got.  All of that is a `Request`, and what any number of clients do with a
registry is a list of requests, in the order in which they get hold of the registry or of the
collection.

The two parts of a registry are changed by different requests.  The register is changed by requests
that are about names, and `registered?_perform` says what is registered under a name afterwards,
whatever the request.  The pool only grows, by one empty collection at a time (`collection?_new`),
and a collection in it changes by the calls that are made through its handle and by nothing else
(`collection?_run`).

Between the two parts there is one bond (`WellFormed`): a name leads to a collection that has this
name, and names are in upper case.

* `Request`, `perform`, `run`, `responses`: requests, and runs of requests.
* `Reachable`: the registries that come out of a constructor and a run.
* `registered?_perform`, `collection?_run`: what becomes of the two parts.
* `WellFormed`, `Reachable.wellFormed`: what binds them together.
-/

namespace VarStore
namespace Registry

variable {r : Registry} {name s : String} {h : Handle}

/-! ## Requests -/

/-- What can be asked of a registry and of the collections that it has handed out.  To make a
collection the registry looks for the name twice, but the second time it keeps everybody else out
until the collection is there, so only that time counts. -/
inductive Request where
  | get (name : String)
  | getOrCreate (name : String)
  | remove (name : String)
  | clear
  | use (h : Handle) (x : Collection.Call)

/-- What a request returns. -/
inductive Answer where
  | found (h : Option Handle)
  | flag (b : Bool)
  | done
  | called (answer : Collection.Answer)
  /-- There is no collection with this handle. -/
  | unknown
  deriving DecidableEq

/-- What a request returns, and what happened meanwhile. -/
structure Response where
  answer : Answer
  events : List Event
  deriving DecidableEq

/-- What a call of a collection looks like as a request. -/
def Response.ofReply (reply : Collection.Reply) : Response := ⟨.called reply.answer, reply.events⟩

/-- Call the collection with this handle. -/
def call (r : Registry) (h : Handle) (x : Collection.Call) : Registry × Response :=
  match r.collection? h with
  | some c => (r.setCollection h (c.perform x).1, .ofReply (c.perform x).2)
  | none => (r, ⟨.unknown, []⟩)

/-- Make a request. -/
def perform (r : Registry) : Request → Registry × Response
  | .get name => (r, ⟨.found (r.get? name), []⟩)
  | .getOrCreate name =>
    ((r.getOrCreate name).1, ⟨.found (some (r.getOrCreate name).2.1), (r.getOrCreate name).2.2⟩)
  | .remove name => ((r.remove name).1, ⟨.flag (r.remove name).2.1, (r.remove name).2.2⟩)
  | .clear => (r.clear, ⟨.done, []⟩)
  | .use h x => r.call h x

/-- The registry after a run. -/
def run (r : Registry) : List Request → Registry
  | [] => r
  | q :: qs => (r.perform q).1.run qs

/-- What the requests of a run return. -/
def responses (r : Registry) : List Request → List Response
  | [] => []
  | q :: qs => (r.perform q).2 :: (r.perform q).1.responses qs

@[simp] theorem run_nil (r : Registry) : r.run [] = r := rfl

@[simp] theorem run_cons (r : Registry) (q : Request) (qs : List Request) :
    r.run (q :: qs) = (r.perform q).1.run qs := rfl

@[simp] theorem responses_nil (r : Registry) : r.responses [] = [] := rfl

@[simp] theorem responses_cons (r : Registry) (q : Request) (qs : List Request) :
    r.responses (q :: qs) = (r.perform q).2 :: (r.perform q).1.responses qs := rfl

theorem run_append (r : Registry) (ps qs : List Request) :
    r.run (ps ++ qs) = (r.run ps).run qs := by
  induction ps generalizing r with
  | nil => rfl
  | cons p ps ih => rw [List.cons_append, run_cons, ih, run_cons]

/-- One request more. -/
theorem run_take_succ (r : Registry) {qs : List Request} {n : Nat} {q : Request}
    (hq : qs[n]? = some q) :
    r.run (qs.take (n + 1)) = ((r.run (qs.take n)).perform q).1 := by
  rw [List.take_add_one, hq, run_append]
  rfl

/-- What a request of a run returns is what it returns from the registry that the requests in front
of it have left. -/
theorem getElem?_responses (r : Registry) (qs : List Request) (n : Nat) :
    (r.responses qs)[n]? = qs[n]?.map fun q => ((r.run (qs.take n)).perform q).2 := by
  induction qs generalizing r n with
  | nil => rfl
  | cons q qs ih =>
    cases n with
    | zero => rfl
    | succ n =>
      rw [responses_cons, List.getElem?_cons_succ, List.getElem?_cons_succ, ih, List.take_succ_cons,
        run_cons]

theorem drop_responses (r : Registry) (qs : List Request) (n : Nat) :
    (r.responses qs).drop n = (r.run (qs.take n)).responses (qs.drop n) := by
  induction qs generalizing r n with
  | nil => cases n <;> rfl
  | cons q qs ih =>
    cases n with
    | zero => rfl
    | succ n => exact ih (r.perform q).1 n

/-- Making the collections of a configuration is asking for them by name, one after the other. -/
theorem getOrCreateEach_eq (r : Registry) (names : List String) :
    r.getOrCreateEach names =
      (r.run (names.map .getOrCreate),
        (r.responses (names.map .getOrCreate)).flatMap (·.events)) := by
  induction names generalizing r with
  | nil => rfl
  | cons name names ih =>
    show ((r.getOrCreate name).1.getOrCreateEach names |>.1, _ ++
      ((r.getOrCreate name).1.getOrCreateEach names).2) = _
    rw [ih]
    rfl

/-- The registries that come out of a constructor and a run. -/
inductive Reachable : Registry → Prop
  | empty (config : Config) : Reachable (.empty config)
  | withDefaults (config : Config) : Reachable (withDefaults config).1
  | perform {r : Registry} (hr : Reachable r) (q : Request) : Reachable (r.perform q).1

theorem Reachable.run (hr : r.Reachable) (qs : List Request) : (r.run qs).Reachable := by
  induction qs generalizing r with
  | nil => exact hr
  | cons q qs ih => exact ih (hr.perform q)

/-- What an empty registry has, and every request keeps, a reachable registry has. -/
theorem Reachable.induct {P : Registry → Prop} (hempty : ∀ config, P (.empty config))
    (hperform : ∀ r, P r → ∀ q, P (r.perform q).1) (hr : r.Reachable) : P r := by
  have hrun : ∀ qs r, P r → P (r.run qs) := by
    intro qs
    induction qs with
    | nil => exact fun r h => h
    | cons q qs ih => exact fun r h => ih _ (hperform r h q)
  induction hr with
  | empty config => exact hempty config
  | withDefaults config =>
    unfold Registry.withDefaults
    rw [getOrCreateEach_eq]
    exact hrun _ _ (hempty config)
  | perform hr q ih => exact hperform _ ih q

/-! ## The register -/

/-- The request lets go of the collection with this name, if there is one. -/
def Request.LetsGo (name : String) : Request → Prop
  | remove s => Text.upper s = name
  | clear => True
  | _ => False

/-- The request wants a collection with this name to be there. -/
def Request.Wants (name : String) : Request → Prop
  | getOrCreate s => Text.upper s = name
  | _ => False

instance (name : String) : DecidablePred (Request.LetsGo name)
  | .remove _ => inferInstanceAs (Decidable (_ = _))
  | .clear => .isTrue trivial
  | .get _ | .getOrCreate _ | .use .. => .isFalse id

instance (name : String) : DecidablePred (Request.Wants name)
  | .getOrCreate _ => inferInstanceAs (Decidable (_ = _))
  | .get _ | .remove _ | .clear | .use .. => .isFalse id

theorem getOrCreate_of_some (hs : r.get? s = some h) : r.getOrCreate s = (r, h, []) := by
  unfold getOrCreate
  rw [hs]

theorem getOrCreate_of_none (hs : r.get? s = none) :
    r.getOrCreate s = r.create (Text.upper s) := by
  unfold getOrCreate
  rw [hs]

theorem remove_of_none (hs : r.get? s = none) : r.remove s = (r, false, []) := by
  unfold remove
  rw [hs]

theorem remove_of_some (hs : r.get? s = some h) :
    r.remove s =
      ({ r with register := r.register.filter fun p => p.1 ≠ Text.upper s }, true,
        [.collectionRemoved (Text.upper s)]) := by
  unfold remove
  rw [hs]

theorem registered?_create (r : Registry) (s name : String) :
    (r.create s).1.registered? name =
      if s = name ∧ r.registered? name = none then some ⟨r.pool.length⟩
      else r.registered? name := by
  unfold create registered?
  rw [List.lookup_append]
  cases r.register.lookup name with
  | some h => simp
  | none =>
    by_cases hs : s = name
    · simp [hs]
    · rw [lookup_cons_of_ne (Ne.symm hs)]
      simp [hs]

theorem registered?_remove (r : Registry) (s name : String) :
    (r.remove s).1.registered? name =
      if Text.upper s = name then none else r.registered? name := by
  cases hs : r.get? s with
  | none =>
    rw [remove_of_none hs]
    split
    · next hname => rw [← hname]; exact hs
    · rfl
  | some h =>
    rw [remove_of_some hs]
    exact lookup_filter_ne r.register (Text.upper s) name

theorem register_call (r : Registry) (h : Handle) (x : Collection.Call) :
    (r.call h x).1.register = r.register := by
  unfold call
  split <;> rfl

/-- **What a request does to a name.**  The collection with that name is let go, or one is made
because it is wanted and is not there, or everything stays as it is. -/
theorem registered?_perform (r : Registry) (q : Request) (name : String) :
    (r.perform q).1.registered? name =
      if q.LetsGo name then none
      else if q.Wants name ∧ r.registered? name = none then some ⟨r.pool.length⟩
      else r.registered? name := by
  cases q with
  | get s => simp [perform, Request.LetsGo, Request.Wants]
  | getOrCreate s =>
    show (r.getOrCreate s).1.registered? name = _
    rw [if_neg (by exact id)]
    cases hs : r.get? s with
    | some h =>
      rw [getOrCreate_of_some hs, if_neg]
      rintro ⟨hwants, hnone⟩
      have hwants : Text.upper s = name := hwants
      rw [← hwants] at hnone
      exact absurd (hs.symm.trans hnone) (by simp)
    | none =>
      rw [getOrCreate_of_none hs]
      exact registered?_create r (Text.upper s) name
  | remove s =>
    show (r.remove s).1.registered? name = _
    rw [registered?_remove]
    simp [Request.LetsGo, Request.Wants]
  | clear => simp [perform, Request.LetsGo, clear, registered?]
  | use h x =>
    show (r.call h x).1.registered? name = _
    unfold registered?
    rw [register_call]
    simp [Request.LetsGo, Request.Wants]

/-- A name that nobody lets go of keeps its collection. -/
theorem registered?_run_of_some {qs : List Request} (hq : ∀ q ∈ qs, ¬ q.LetsGo name)
    (hname : r.registered? name = some h) : (r.run qs).registered? name = some h := by
  induction qs generalizing r with
  | nil => exact hname
  | cons q qs ih =>
    refine ih (fun p hp => hq p (List.mem_cons_of_mem _ hp)) ?_
    rw [registered?_perform, if_neg (hq q List.mem_cons_self), hname]
    simp

/-- A name that nobody wants stays free. -/
theorem registered?_run_of_none {qs : List Request} (hq : ∀ q ∈ qs, ¬ q.Wants name)
    (hname : r.registered? name = none) : (r.run qs).registered? name = none := by
  induction qs generalizing r with
  | nil => exact hname
  | cons q qs ih =>
    refine ih (fun p hp => hq p (List.mem_cons_of_mem _ hp)) ?_
    rw [registered?_perform, hname]
    simp [hq q List.mem_cons_self]

/-! ## The pool -/

/-- The call that a request makes through this handle. -/
def Request.call? (h : Handle) : Request → Option Collection.Call
  | use i x => if i = h then some x else none
  | _ => none

/-- The calls that are made through a handle. -/
def through (h : Handle) (qs : List Request) : List Collection.Call :=
  qs.filterMap (Request.call? h)

theorem through_cons (h : Handle) (q : Request) (qs : List Request) :
    through h (q :: qs) = (q.call? h).toList ++ through h qs := by
  unfold through
  cases hq : q.call? h with
  | none => rw [List.filterMap_cons_none hq]; rfl
  | some x => rw [List.filterMap_cons_some hq]; rfl

theorem call_of_some {c : Collection} (hc : r.collection? h = some c) (x : Collection.Call) :
    r.call h x = (r.setCollection h (c.perform x).1, .ofReply (c.perform x).2) := by
  unfold call
  rw [hc]

theorem call_of_none (hc : r.collection? h = none) (x : Collection.Call) :
    r.call h x = (r, ⟨.unknown, []⟩) := by
  unfold call
  rw [hc]

theorem call?_self (h : Handle) (x : Collection.Call) : (Request.use h x).call? h = some x :=
  if_pos rfl

theorem call?_of_ne {i : Handle} (hi : i ≠ h) (x : Collection.Call) :
    (Request.use h x).call? i = none :=
  if_neg (Ne.symm hi)

theorem eq_use_of_call? {q : Request} {x : Collection.Call} (hq : q.call? h = some x) :
    q = .use h x := by
  cases q with
  | use i y =>
    by_cases hi : i = h
    · subst hi
      rw [call?_self] at hq
      rw [Option.some.inj hq]
    · rw [call?_of_ne (Ne.symm hi)] at hq
      cases hq
  | _ => cases hq

/-- The collection that a request makes. -/
def made? (r : Registry) : Request → Option Collection
  | .getOrCreate s => if r.get? s = none then some (.configured (Text.upper s) r.config) else none
  | _ => none

theorem made?_of_wants {q : Request} (hq : q.Wants name) (hname : r.registered? name = none) :
    r.made? q = some (.configured name r.config) := by
  cases q with
  | getOrCreate s =>
    obtain rfl : Text.upper s = name := hq
    exact if_pos hname
  | _ => exact absurd hq id

/-- The handle that comes next is free. -/
theorem collection?_next (r : Registry) : r.collection? ⟨r.pool.length⟩ = none :=
  List.getElem?_eq_none (Nat.le_refl _)

theorem collection?_of_idle {q : Request} {i : Handle} (hcall : q.call? i = none)
    (hmade : r.made? q = none) :
    r.collection? i =
      match r.collection? i with
      | some c => some (c.run (q.call? i).toList)
      | none => if i = ⟨r.pool.length⟩ then r.made? q else none := by
  rw [hcall, hmade]
  cases r.collection? i <;> simp

/-- **What a request does to a collection.**  One that is there gets the call that is made through
its handle, if one is.  One that is made gets the first handle that is free. -/
theorem collection?_perform (r : Registry) (q : Request) (i : Handle) :
    (r.perform q).1.collection? i =
      match r.collection? i with
      | some c => some (c.run (q.call? i).toList)
      | none => if i = ⟨r.pool.length⟩ then r.made? q else none := by
  cases q with
  | get s => exact collection?_of_idle rfl rfl
  | getOrCreate s =>
    show (r.getOrCreate s).1.collection? i = _
    cases hs : r.get? s with
    | some h =>
      rw [getOrCreate_of_some hs]
      exact collection?_of_idle rfl (if_neg (by simp [hs]))
    | none =>
      rw [getOrCreate_of_none hs]
      unfold create collection?
      obtain ⟨i⟩ := i
      rcases Nat.lt_trichotomy i r.pool.length with hi | rfl | hi
      · rw [List.getElem?_append_left hi, List.getElem?_eq_getElem hi]
        rfl
      · simp [made?, hs]
      · have hlen : (r.pool ++ [Collection.configured (Text.upper s) r.config]).length ≤ i := by
          rw [List.length_append]
          exact hi
        rw [List.getElem?_eq_none hlen, List.getElem?_eq_none hi.le]
        simp [hi.ne']
  | remove s =>
    have hpool : (r.remove s).1.pool = r.pool := by
      unfold remove
      split <;> rfl
    show (r.remove s).1.collection? i = _
    unfold collection?
    rw [hpool]
    exact collection?_of_idle rfl rfl
  | clear => exact collection?_of_idle rfl rfl
  | use h x =>
    show (r.call h x).1.collection? i = _
    cases hc : r.collection? h with
    | none =>
      rw [call_of_none hc]
      by_cases hi : i = h
      · rw [hi, hc]
        simp [made?]
      · exact collection?_of_idle (call?_of_ne hi x) rfl
    | some c =>
      rw [call_of_some hc, collection?_setCollection]
      by_cases hi : i = h
      · rw [if_pos hi, hi, hc, call?_self]
        rfl
      · rw [if_neg hi]
        exact collection?_of_idle (call?_of_ne hi x) rfl

/-- A call through a handle leaves every other collection alone. -/
theorem collection?_use_of_ne {i : Handle} (hi : i ≠ h) (x : Collection.Call) :
    (r.perform (.use h x)).1.collection? i = r.collection? i := by
  rw [collection?_perform]
  exact (collection?_of_idle (call?_of_ne hi x) rfl).symm

theorem collection?_perform_of_some {c : Collection} (hc : r.collection? h = some c) (q : Request) :
    (r.perform q).1.collection? h = some (c.run (q.call? h).toList) := by
  rw [collection?_perform, hc]

/-- A request that makes a collection gives it the handle that comes next. -/
theorem collection?_perform_next (r : Registry) (q : Request) :
    (r.perform q).1.collection? ⟨r.pool.length⟩ = r.made? q := by
  rw [collection?_perform, collection?_next]
  exact if_pos rfl

/-- Is the request a call through this handle? -/
def Request.isThrough (h : Handle) (q : Request) : Bool := (q.call? h).isSome

/-- **A collection in a pool is a collection alone.**  Whatever else is done with the registry, with
other collections and with names, its calls return what they return on the collection alone, and
leave what they leave there.  The induction is on the run. -/
theorem collection?_run {c : Collection} (hc : r.collection? h = some c) (qs : List Request) :
    (r.run qs).collection? h = some (c.run (through h qs)) ∧
      Collection.pick (·.isThrough h) qs (r.responses qs) =
        (c.replies (through h qs)).map .ofReply := by
  induction qs generalizing r c with
  | nil => exact ⟨hc, rfl⟩
  | cons q qs ih =>
    obtain ⟨hrun, hpick⟩ := ih (collection?_perform_of_some hc q)
    rw [run_cons, responses_cons, through_cons]
    cases hq : q.call? h with
    | none =>
      rw [hq] at hrun hpick
      rw [Collection.pick_cons_of_neg (by simp [Request.isThrough, hq])]
      exact ⟨hrun, hpick⟩
    | some x =>
      rw [hq] at hrun hpick
      rw [Collection.pick_cons_of_pos (by simp [Request.isThrough, hq]), hpick]
      refine ⟨hrun, ?_⟩
      obtain rfl := eq_use_of_call? hq
      show (r.call h x).2 :: _ = _
      rw [call_of_some hc]
      rfl

@[simp] theorem config_perform (r : Registry) (q : Request) :
    (r.perform q).1.config = r.config := by
  cases q with
  | get s => rfl
  | getOrCreate s =>
    show (r.getOrCreate s).1.config = _
    unfold getOrCreate
    split <;> rfl
  | remove s =>
    show (r.remove s).1.config = _
    unfold remove
    split <;> rfl
  | clear => rfl
  | use h x =>
    show (r.call h x).1.config = _
    unfold call
    split <;> rfl

theorem config_run (r : Registry) (qs : List Request) : (r.run qs).config = r.config := by
  induction qs generalizing r with
  | nil => rfl
  | cons q qs ih => rw [run_cons, ih, config_perform]

/-! ## The bond -/

/-- Names are in upper case and different, and lead to collections that have them. -/
structure WellFormed (r : Registry) : Prop where
  nodup : (r.register.map (·.1)).Nodup
  upper : ∀ name h, r.registered? name = some h → Text.upper name = name
  named : ∀ name h, r.registered? name = some h →
    ∃ c, r.collection? h = some c ∧ c.name = name

theorem registered?_eq_none_iff : r.registered? name = none ↔ name ∉ r.register.map (·.1) := by
  unfold registered?
  rw [List.lookup_eq_none_iff, List.mem_map]
  constructor
  · rintro hno ⟨p, hp, rfl⟩
    simpa using hno p hp
  · intro hno p hp
    exact bne_iff_ne.2 fun hname => hno ⟨p, hp, hname.symm⟩

theorem wellFormed_empty (config : Config) : (empty config).WellFormed :=
  ⟨List.nodup_nil, by simp [registered?, empty], by simp [registered?, empty]⟩

theorem nodup_perform (hr : (r.register.map (·.1)).Nodup) (q : Request) :
    ((r.perform q).1.register.map (·.1)).Nodup := by
  cases q with
  | get s => exact hr
  | getOrCreate s =>
    show ((r.getOrCreate s).1.register.map (·.1)).Nodup
    cases hs : r.get? s with
    | some h =>
      rw [getOrCreate_of_some hs]
      exact hr
    | none =>
      rw [getOrCreate_of_none hs]
      have hfresh : Text.upper s ∉ r.register.map (·.1) := registered?_eq_none_iff.1 hs
      rw [create, List.map_append]
      refine List.nodup_append.2 ⟨hr, by simp, ?_⟩
      rintro name hname t ht rfl
      obtain rfl : name = Text.upper s := List.mem_singleton.1 ht
      exact hfresh hname
  | remove s =>
    show ((r.remove s).1.register.map (·.1)).Nodup
    unfold remove
    split
    · exact hr.sublist (List.filter_sublist.map _)
    · exact hr
  | clear => exact List.nodup_nil
  | use h x =>
    show ((r.call h x).1.register.map (·.1)).Nodup
    rw [register_call]
    exact hr

/-- What is registered after a request has been registered before it, or the request has made it. -/
theorem registered?_perform_eq_some {q : Request}
    (hname : (r.perform q).1.registered? name = some h) :
    r.registered? name = some h ∨
      q.Wants name ∧ r.registered? name = none ∧ h = ⟨r.pool.length⟩ := by
  rw [registered?_perform] at hname
  split at hname
  · cases hname
  · split at hname
    · next hq => exact .inr ⟨hq.1, hq.2, (Option.some.inj hname).symm⟩
    · exact .inl hname

theorem Request.Wants.upper_eq {q : Request} (hq : q.Wants name) : Text.upper name = name := by
  cases q with
  | getOrCreate s =>
    obtain rfl : Text.upper s = name := hq
    exact Text.upper_upper s
  | _ => exact absurd hq id

theorem WellFormed.perform (hr : r.WellFormed) (q : Request) : (r.perform q).1.WellFormed := by
  refine ⟨nodup_perform hr.nodup q, ?_, ?_⟩
  · intro name h hname
    rcases registered?_perform_eq_some hname with hold | ⟨hq, -, -⟩
    · exact hr.upper name h hold
    · exact hq.upper_eq
  · intro name h hname
    rcases registered?_perform_eq_some hname with hold | ⟨hq, hnone, rfl⟩
    · obtain ⟨c, hc, hcname⟩ := hr.named name h hold
      refine ⟨_, collection?_perform_of_some hc q, ?_⟩
      rw [Collection.name_run, hcname]
    · rw [collection?_perform_next, made?_of_wants hq hnone]
      exact ⟨_, rfl, rfl⟩

theorem Reachable.wellFormed (hr : r.Reachable) : r.WellFormed :=
  hr.induct wellFormed_empty fun _ h q => h.perform q

end Registry
end VarStore
