import VarStore.Proofs.Registry.Request

/-!
# Which handle is which collection

Several clients may hold handles that they got under several spellings of a name, before and after
the name was let go and taken again.  Two handles are the same exactly if the names were the same
but for the case of ASCII letters and nobody let go of that name in between; and then they are good
for the same collection, which is changed by the calls through them and by nothing else.

Two facts carry this.  As long as nobody lets go of a name, it leads to the same handle
(`registered?_run_of_some`).  And once a name has been let go, it never leads to the handle it has
led to: a handle that is registered later was made later, when the old one was not free any more
(`registered?_run_ne`).  That the names of two equal handles are the same comes from the collection,
which has one name and keeps it.

* `Finds`: a request of a run finds a collection by name.
* `between`: the requests between two others.
* `ne_of_letsGo`: what is let go is not found again.
* `handles_stand_for_collections`: all of it, for every run.
-/

namespace VarStore
namespace Registry

variable {r : Registry} {name s t : String} {h h' : Handle} {qs : List Request} {i j m n : Nat}

/-! ## Look-ups -/

/-- The name that a request looks up. -/
def Request.lookedUp? : Request → Option String
  | get s => some s
  | getOrCreate s => some s
  | _ => none

theorem Request.not_letsGo_of_lookedUp? {q : Request} (hq : q.lookedUp? = some s) (name : String) :
    ¬ q.LetsGo name := by
  cases q with
  | get t => exact id
  | getOrCreate t => exact id
  | _ => cases hq

/-- A look-up returns what is registered under the name when it is over. -/
theorem answer_perform {q : Request} (hq : q.lookedUp? = some s) :
    (r.perform q).2.answer = .found ((r.perform q).1.get? s) := by
  cases q with
  | get t =>
    obtain rfl : t = s := Option.some.inj hq
    rfl
  | getOrCreate t =>
    obtain rfl : t = s := Option.some.inj hq
    show Answer.found (some (r.getOrCreate t).2.1) = .found ((r.getOrCreate t).1.get? t)
    cases ht : r.get? t with
    | some h => rw [getOrCreate_of_some ht, ht]
    | none =>
      have hcreate := registered?_create r (Text.upper t) (Text.upper t)
      rw [if_pos ⟨rfl, ht⟩] at hcreate
      rw [getOrCreate_of_none ht, get?, hcreate]
      rfl
  | _ => cases hq

/-- The `n`-th request of a run looks up a name, and gets a collection. -/
def Finds (r : Registry) (qs : List Request) (n : Nat) (s : String) (h : Handle) : Prop :=
  qs[n]?.bind Request.lookedUp? = some s ∧
    (r.responses qs)[n]?.map (·.answer) = some (.found (some h))

instance : Decidable (r.Finds qs n s h) := inferInstanceAs (Decidable (_ ∧ _))

theorem finds_iff :
    r.Finds qs n s h ↔
      ∃ q, qs[n]? = some q ∧ q.lookedUp? = some s ∧
        (r.run (qs.take (n + 1))).get? s = some h := by
  unfold Finds
  rw [getElem?_responses]
  cases hq : qs[n]? with
  | none => simp
  | some q =>
    rw [run_take_succ r hq]
    constructor
    · rintro ⟨hs, hfound⟩
      refine ⟨q, rfl, hs, ?_⟩
      have hanswer := answer_perform (r := r.run (qs.take n)) hs
      simp only [Option.map_some, Option.some.injEq] at hfound
      rw [hanswer] at hfound
      injection hfound
    · rintro ⟨p, hp, hs, hget⟩
      obtain rfl := Option.some.inj hp
      refine ⟨hs, ?_⟩
      have hanswer := answer_perform (r := r.run (qs.take n)) hs
      simp only [Option.map_some, hanswer, hget]

/-! ## Between two requests -/

/-- The requests behind the `i`-th and in front of the `j`-th. -/
def between (qs : List Request) (i j : Nat) : List Request := (qs.take j).drop (i + 1)

theorem run_between (hij : i < j) (r : Registry) (qs : List Request) :
    (r.run (qs.take (i + 1))).run (between qs i j) = r.run (qs.take j) := by
  have htake : qs.take (i + 1) = (qs.take j).take (i + 1) := by
    rw [List.take_take, Nat.min_eq_left hij]
  unfold between
  rw [htake, ← run_append, List.take_append_drop]

/-- The register as the `j`-th request leaves it, from the register as the `i`-th has left it. -/
theorem run_between_succ (hij : i < j) (r : Registry) {q : Request} (hq : qs[j]? = some q) :
    (r.run (qs.take (i + 1))).run (between qs i j ++ [q]) = r.run (qs.take (j + 1)) := by
  rw [run_append, run_between hij, run_take_succ r hq]
  rfl

/-! ## A name and its handles -/

theorem exists_collection?_run {c : Collection} (hc : r.collection? h = some c)
    (qs : List Request) : ∃ d, (r.run qs).collection? h = some d ∧ d.name = c.name :=
  ⟨_, (collection?_run hc qs).1, Collection.name_run c _⟩

/-- A handle that has been given out is not given out once more. -/
theorem registered?_run_ne {c : Collection} (hc : r.collection? h = some c)
    (hname : r.registered? name ≠ some h) (qs : List Request) :
    (r.run qs).registered? name ≠ some h := by
  induction qs generalizing r c with
  | nil => exact hname
  | cons q qs ih =>
    refine ih (collection?_perform_of_some hc q) fun hafter => ?_
    rcases registered?_perform_eq_some hafter with hbefore | ⟨-, -, rfl⟩
    · exact hname hbefore
    · rw [collection?_next] at hc
      cases hc

/-- **What is let go is not found again.**  The induction is on the run; the request that lets go of
the name comes first, or else the handle is as good after the first request as it was before. -/
theorem ne_of_letsGo {c : Collection} (hc : r.collection? h = some c)
    (hq : ∃ q ∈ qs, q.LetsGo name) : (r.run qs).registered? name ≠ some h := by
  induction qs generalizing r c with
  | nil =>
    obtain ⟨q, hq, -⟩ := hq
    cases hq
  | cons p qs ih =>
    have hc' := collection?_perform_of_some hc p
    by_cases hp : p.LetsGo name
    · refine registered?_run_ne hc' ?_ qs
      rw [registered?_perform, if_pos hp]
      simp
    · refine ih hc' ?_
      obtain ⟨q, hq, hgo⟩ := hq
      rcases List.mem_cons.1 hq with rfl | hq
      · exact absurd hgo hp
      · exact ⟨q, hq, hgo⟩

/-- A collection that was found is there, and has the name it was looked up by. -/
theorem Finds.exists_collection (hr : r.Reachable) (hf : r.Finds qs n s h) :
    ∃ c, (r.run (qs.take (n + 1))).collection? h = some c ∧ c.name = Text.upper s := by
  obtain ⟨q, -, -, hget⟩ := finds_iff.1 hf
  exact (hr.run _).wellFormed.named (Text.upper s) h hget

/-- **When two look-ups find the same collection.** -/
theorem finds_same_iff (hr : r.Reachable) (hij : i < j) (hi : r.Finds qs i s h)
    (hj : r.Finds qs j t h') :
    h = h' ↔ Text.upper s = Text.upper t ∧ ∀ q ∈ between qs i j, ¬ q.LetsGo (Text.upper s) := by
  obtain ⟨c, hc, hcname⟩ := hi.exists_collection hr
  obtain ⟨c', hc', hcname'⟩ := hj.exists_collection hr
  obtain ⟨-, -, -, hget⟩ := finds_iff.1 hi
  obtain ⟨q, hq, hlook, hget'⟩ := finds_iff.1 hj
  have hrun := run_between_succ hij r hq
  constructor
  · rintro rfl
    have hnames : Text.upper s = Text.upper t := by
      obtain ⟨d, hd, hdname⟩ := exists_collection?_run hc (between qs i j ++ [q])
      rw [hrun, hc'] at hd
      obtain rfl := Option.some.inj hd
      rw [← hcname, ← hdname, hcname']
    refine ⟨hnames, fun p hp hgo => ?_⟩
    have hne := ne_of_letsGo hc ⟨p, List.mem_append_left [q] hp, hgo⟩
    rw [hrun, hnames] at hne
    exact hne hget'
  · rintro ⟨hnames, hkept⟩
    have hstill : (r.run (qs.take (j + 1))).registered? (Text.upper s) = some h := by
      rw [← hrun]
      refine registered?_run_of_some (fun p hp => ?_) hget
      rcases List.mem_append.1 hp with hp | hp
      · exact hkept p hp
      · rw [List.mem_singleton.1 hp]
        exact Request.not_letsGo_of_lookedUp? hlook _
    rw [hnames] at hstill
    exact Option.some.inj (hstill.symm.trans hget')

/-- **A name that was let go gets a new collection.**  The handle is free until then, so it is none
of those that have been found before. -/
theorem finds_new (hr : r.Reachable) (hmj : m < j) {q : Request} (hq : qs[m]? = some q)
    (hgo : q.LetsGo (Text.upper s)) (hfree : ∀ p ∈ between qs m j, ¬ p.Wants (Text.upper s))
    (hj : qs[j]? = some (.getOrCreate s)) :
    ∃ h, r.Finds qs j s h ∧ (∀ i t h', i < j → r.Finds qs i t h' → h' ≠ h) ∧
      (r.run (qs.take j)).collection? h = none ∧
      (r.run (qs.take (j + 1))).collection? h = some (.configured (Text.upper s) r.config) := by
  have hnone : (r.run (qs.take j)).get? s = none := by
    rw [← run_between hmj]
    refine registered?_run_of_none hfree ?_
    rw [run_take_succ r hq, registered?_perform, if_pos hgo]
  have hwants : (Request.getOrCreate s).Wants (Text.upper s) := rfl
  refine ⟨⟨(r.run (qs.take j)).pool.length⟩, ?_, ?_, collection?_next _, ?_⟩
  · refine finds_iff.2 ⟨_, hj, rfl, ?_⟩
    rw [run_take_succ r hj, get?, registered?_perform, if_neg (by exact id), if_pos ⟨hwants, hnone⟩]
  · rintro i t h' hij hi rfl
    obtain ⟨c, hc, -⟩ := hi.exists_collection hr
    have hstill := (collection?_run hc (between qs i j)).1
    rw [run_between hij, collection?_next] at hstill
    cases hstill
  · rw [run_take_succ r hj, collection?_perform_next, made?_of_wants hwants hnone, config_run]

/-- **Handles stand for collections.**  From any registry that can come about, let any clients ask
for collections by name, let go of names, and call the collections whose handles they have, in any
order.

Two look-ups that return collections return the same one exactly if their names are the same in
upper case and nobody let go of that name in between.  What a look-up returns is there, with the
upper case of the name for its own.  A call through a handle changes no other collection.  From any
moment on, what the calls through a handle return, whoever makes them and whatever else is done
meanwhile, removals of the name included, is what they return on the collection alone, and it has in
the end what they alone leave in it.  After a name was let go, asking for it yields a new and empty
collection, whose handle is none of those that were found before. -/
theorem handles_stand_for_collections (hr : r.Reachable) (qs : List Request) :
    (∀ i j s t h h', i < j → r.Finds qs i s h → r.Finds qs j t h' →
      (h = h' ↔
        Text.upper s = Text.upper t ∧ ∀ q ∈ between qs i j, ¬ q.LetsGo (Text.upper s))) ∧
    (∀ n s h, r.Finds qs n s h →
      ∃ c, (r.run (qs.take (n + 1))).collection? h = some c ∧ c.name = Text.upper s) ∧
    (∀ (n : Nat) h x, qs[n]? = some (.use h x) → ∀ i, i ≠ h →
      (r.run (qs.take (n + 1))).collection? i = (r.run (qs.take n)).collection? i) ∧
    (∀ n h c, (r.run (qs.take n)).collection? h = some c →
      (r.run qs).collection? h = some (c.run (through h (qs.drop n))) ∧
      Collection.pick (·.isThrough h) (qs.drop n) ((r.responses qs).drop n) =
        (c.replies (through h (qs.drop n))).map .ofReply) ∧
    (∀ (m j : Nat) s q, m < j → qs[m]? = some q → q.LetsGo (Text.upper s) →
      (∀ p ∈ between qs m j, ¬ p.Wants (Text.upper s)) → qs[j]? = some (.getOrCreate s) →
      ∃ h, r.Finds qs j s h ∧ (∀ i t h', i < j → r.Finds qs i t h' → h' ≠ h) ∧
        (r.run (qs.take j)).collection? h = none ∧
        (r.run (qs.take (j + 1))).collection? h =
          some (.configured (Text.upper s) r.config)) := by
  refine ⟨fun i j s t h h' hij => finds_same_iff hr hij, fun n s h => Finds.exists_collection hr,
    ?_, ?_, fun m j s q hmj => finds_new hr hmj⟩
  · intro n h x hn i hi
    rw [run_take_succ r hn]
    exact collection?_use_of_ne hi x
  · intro n h c hc
    have halone := collection?_run hc (qs.drop n)
    rw [← run_append, List.take_append_drop] at halone
    rw [drop_responses]
    exact halone

/-- A client that stores a value in a collection, lets go of its name in another spelling, and asks
for the name again. -/
def renewed : List Request :=
  [.getOrCreate "session", .use ⟨0⟩ ⟨.zero, .store "k" "v"⟩, .get "Session", .remove "SESSION",
    .use ⟨0⟩ ⟨.zero, .first "k"⟩, .getOrCreate "session", .use ⟨1⟩ ⟨.zero, .first "k"⟩]

/-- The second spelling finds the same collection.  The third look-up makes a new one, which has no
value, and the first one still has what was stored. -/
theorem renewed_has_two_collections :
    (empty .standard).Reachable ∧
    (empty .standard).Finds renewed 0 "session" ⟨0⟩ ∧
    (empty .standard).Finds renewed 2 "Session" ⟨0⟩ ∧
    (∀ q ∈ between renewed 0 2, ¬ q.LetsGo "SESSION") ∧
    (∃ h, (empty .standard).Finds renewed 5 "session" h ∧ ⟨0⟩ ≠ h ∧
      ((empty .standard).run (renewed.take 6)).collection? h =
        some (.configured "SESSION" .standard)) ∧
    ((empty .standard).run renewed).collection? ⟨0⟩ =
      some ((Collection.configured "SESSION" .standard).run
        [⟨.zero, .store "k" "v"⟩, ⟨.zero, .first "k"⟩]) := by
  have hr := Reachable.empty .standard
  obtain ⟨hsame, -, -, halone, hnew⟩ := handles_stand_for_collections hr renewed
  have h0 : (empty .standard).Finds renewed 0 "session" ⟨0⟩ := by decide
  have h2 : (empty .standard).Finds renewed 2 "Session" ⟨0⟩ := by decide
  obtain ⟨h, h5, hother, -, hempty⟩ := hnew 3 5 "session" (.remove "SESSION") (by decide) rfl
    (by decide) (by decide) rfl
  refine ⟨hr, h0, h2, ((hsame 0 2 _ _ _ _ (by decide) h0 h2).1 rfl).2,
    ⟨h, h5, hother 0 _ _ (by decide) h0, hempty⟩, ?_⟩
  exact (halone 1 ⟨0⟩ _ rfl).1

end Registry
end VarStore
