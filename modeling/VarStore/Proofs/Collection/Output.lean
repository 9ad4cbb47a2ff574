import Mathlib.Logic.Function.Basic
import VarStore.Proofs.Collection.Stepwise

/-!
# One list for many resolutions

A client may hand one list to many resolutions, of one collection or of several, and do other things
in between.  The resolution of a key works at the far end of the list, and on the list itself: it
adds a record to it whenever it has found one.  The two others collect what they find in a list of
their own, turn that round and put it in front of the client's list.  Nothing of what is in the list
already is ever looked at.

So a resolution is known from what it makes of the empty list (`perform_onto`).  From this it
follows by induction what a run leaves: what was put in front stands in front, the last call first,
what was put behind stands behind, the first call first, and in the middle is what was there in the
beginning. The collections go through the same states whatever is in the list, so that it makes
sense to ask what a call of the run would have made of the empty list (`Moment.found`).

* `Query`, `Query.onto`: what a resolution asks for, and the resolution with its list.
* `perform_onto`: another list makes no other difference than that it is another list.
* `Query.runOn_program`: the resolutions as programs that work on the client's list in place.
* `Gathering`, `Gathering.run`: collections and one list, and what is done with them.
* `gathered_records_are_stacked`: the list after a run.
-/

namespace VarStore
namespace Collection

variable {c : Collection} {now : Instant} {out : List Record}

/-! ## Resolutions without their lists -/

/-- What a resolution asks for, whatever list it is given. -/
inductive Query where
  | key (k : String)
  | all (order : ScanOrder) (k : String) (ask : Filter)
  | matching (order : ScanOrder) (pattern : String) (ask : Filter)

namespace Query

/-- The resolution that puts what it finds into this list. -/
def onto (out : List Record) : Query → Operation
  | key k => .resolveKey k out
  | all order k ask => .resolveAll order k ask out
  | matching order pattern ask => .resolveMatching order pattern ask out

/-- Does the resolution put what it finds behind what is in its list?  If not, then in front. -/
def putsBehind : Query → Bool
  | key _ => true
  | _ => false

/-- A list to which something is added by a resolution. -/
def stack (q : Query) (found out : List Record) : List Record :=
  if q.putsBehind then out ++ found else found ++ out

/-- What a resolution leaves if it succeeds. -/
def resolve (c : Collection) (now : Instant) (out : List Record) : Query → Except String Resolution
  | key k => .ok (c.resolveKey now k out)
  | all order k ask => c.resolveAll now (order.arrange c.keys) k ask out
  | matching order pattern ask => c.resolveMatching now (order.arrange c.keys) pattern ask out

theorem perform_onto_eq_outcome (c : Collection) (now : Instant) (q : Query) (out : List Record) :
    c.perform ⟨now, q.onto out⟩ = c.outcome (q.resolve c now out) := by
  cases q <;> rfl

end Query

/-! ## Another list -/

theorem finish_eq (c : Collection) (stop : Option Place) (records : List Record) :
    c.finish stop records = { c.finish stop [] with records } := by
  cases stop <;> rfl

theorem resolveOrder_eq_map (c : Collection) (now : Instant) (keys : List String) (ask : Filter)
    (out : List Record) :
    c.resolveOrder now keys ask out =
      (c.resolveOrder now keys ask []).map fun r => { r with records := r.records ++ out } := by
  rw [resolveOrder, resolveOrder]
  cases readFiltered c.name now ask (c.bucketsOf keys) with
  | error message => rfl
  | ok p =>
    show Except.ok (c.finish p.2 (p.1.reverse ++ out)) =
      .ok { c.finish p.2 (p.1.reverse ++ []) with
        records := (c.finish p.2 (p.1.reverse ++ [])).records ++ out }
    rw [finish_eq c p.2 (p.1.reverse ++ out), finish_eq c p.2 (p.1.reverse ++ []), List.append_nil]

/-- What a resolution leaves is what it would leave of the empty list, and the list. -/
theorem Query.resolve_eq_map (q : Query) (c : Collection) (now : Instant) (out : List Record) :
    q.resolve c now out =
      (q.resolve c now []).map fun r => { r with records := q.stack r.records out } := by
  cases q with
  | key k =>
    let stop := (readThrough c.name now (c.bucketsOf [k])).2
    show Except.ok (c.finish stop (out ++ _)) =
      .ok { c.finish stop ([] ++ _) with records := out ++ (c.finish stop ([] ++ _)).records }
    rw [finish_eq c _ (out ++ _), finish_eq c _ ([] ++ _), List.nil_append]
  | all order k ask => exact resolveOrder_eq_map c now _ ask out
  | matching order pattern ask =>
    show c.resolveMatching now (order.arrange c.keys) pattern ask out =
      (c.resolveMatching now (order.arrange c.keys) pattern ask []).map _
    rw [resolveMatching, resolveMatching]
    cases KeyPattern.compile pattern c.ignoreCase with
    | error e => rfl
    | ok p => exact resolveOrder_eq_map c now _ _ out

/-- What a resolution answers when it is given a list, and not the empty one. -/
def Query.restack (q : Query) (out : List Record) : Answer → Answer
  | .records found => .records (q.stack found out)
  | answer => answer

/-- **Another list makes no other difference.**  The collection, the events and a failure are the
same, and what is found is added to the list that is given. -/
theorem perform_onto (c : Collection) (now : Instant) (q : Query) (out : List Record) :
    c.perform ⟨now, q.onto out⟩ =
      ((c.perform ⟨now, q.onto []⟩).1,
        ⟨q.restack out (c.perform ⟨now, q.onto []⟩).2.answer,
          (c.perform ⟨now, q.onto []⟩).2.events⟩) := by
  rw [q.perform_onto_eq_outcome c now out, q.perform_onto_eq_outcome c now [],
    q.resolve_eq_map c now out]
  cases q.resolve c now [] <;> rfl

/-! ## Working on the list in place -/

namespace Program

variable {w : Workspace}

/-- Resolve one key.  The records go behind those of the caller while the bucket is read. -/
def resolveKey (now : Instant) (k : String) : Program Unit := do
  let w ← get
  let p ← collect w.collection.name now (fun _ => pure true) (w.collection.bucketsOf [k]) w.out
  modify fun w => { w with out := p.1 }
  eraseStop p.2

/-- A scan that asks nobody sees every key. -/
theorem consults_true : Consults (fun _ => pure true) .keepAll fun _ => [] := by
  intro k w
  rw [List.append_nil]
  rfl

theorem runOn_eraseStop (stop : Option Place) {w : Workspace}
    (h : ∀ p, stop = some p → p.index < (w.collection.bucket p.key).length) :
    runOn (eraseStop stop) w = w.after [] (.ok (w.collection.finish stop w.out)) := by
  rw [Workspace.after, List.append_nil]
  cases stop with
  | none =>
    rw [finish, List.append_nil]
    rfl
  | some p => exact runOn_eraseValue (h p rfl)

/-- **The resolution of one key**, as a program that never has a list of its own. -/
theorem runOn_resolveKey (now : Instant) (k : String) (w : Workspace) :
    runOn (resolveKey now k) w = w.after [] (.ok (w.collection.resolveKey now k w.out)) := by
  have hread := readFiltered_keepAll w.collection.name now (w.collection.bucketsOf [k])
  have hcollect := runOn_collect consults_true w.collection now [k] w.out w
  have hnobody : (w.collection.asked now .keepAll [k]).flatMap (fun _ => []) = ([] : List String) :=
    List.flatMap_eq_nil_iff.2 fun _ _ => rfl
  rw [hread, hnobody, List.append_nil] at hcollect
  have hstop := runOn_eraseStop (readThrough w.collection.name now (w.collection.bucketsOf [k])).2
    (w := { w with
      out := w.out ++ (readThrough w.collection.name now (w.collection.bucketsOf [k])).1 })
    fun place hp => index_lt_of_readFiltered hread hp
  rw [resolveKey, runOn_bind, runOn_get]
  simp only [runOn_bind, hcollect, runOn_modify, Except.map]
  exact hstop

end Program

namespace Query

/-- The resolution as a program on a collection and the list of a caller. -/
def program (now : Instant) (q : Query) : Program Unit := do
  let keys := (← get).collection.keys
  match q with
  | key k => Program.resolveKey now k
  | all order k ask => Program.resolveAll now (order.arrange keys) k ask
  | matching order pattern ask => Program.resolveMatching now (order.arrange keys) pattern ask

/-- The keys about which the resolution asks its filter. -/
def asked (c : Collection) (now : Instant) : Query → List String
  | key _ => []
  | all order k ask => c.asked now ask (if k = "" then order.arrange c.keys else [k])
  | matching order pattern ask =>
    match KeyPattern.compile pattern c.ignoreCase with
    | .ok p => (c.asked now (ask.narrowed p) (order.arrange c.keys)).filter p.search
    | .error _ => []

/-- **The programs do what the resolutions say.** -/
theorem runOn_program (q : Query) (now : Instant) (w : Workspace) :
    (q.program now).runOn w =
      w.after (q.asked w.collection now) (q.resolve w.collection now w.out) := by
  rw [program, Program.runOn_bind, Program.runOn_get]
  cases q with
  | key k => exact Program.runOn_resolveKey now k w
  | all order k ask => exact Program.runOn_resolveAll now _ k ask w
  | matching order pattern ask =>
    rw [asked]
    cases hp : KeyPattern.compile pattern w.collection.ignoreCase with
    | ok p => exact Program.runOn_resolveMatching hp now _ ask
    | error e => exact Program.runOn_resolveMatching_of_error hp now _ ask

end Query

/-! ## Gathering records in one list -/

/-- The list that was given to a call, afterwards.  A call that failed has left it as it was. -/
def Answer.listAfter (out : List Record) : Answer → List Record
  | .records r => r
  | _ => out

theorem listAfter_restack (q : Query) (out : List Record) (answer : Answer) :
    (q.restack out answer).listAfter out = q.stack (answer.listAfter []) out := by
  cases answer with
  | records r => rfl
  | _ => cases h : q.putsBehind <;> simp [Query.restack, Answer.listAfter, Query.stack, h]

/-- A step of a client that gathers records. -/
inductive Turn (κ : Type) where
  /-- Resolve something of a collection into the list. -/
  | gather (i : κ) (now : Instant) (q : Query)
  /-- Call a collection for anything else, a resolution into another list included. -/
  | other (i : κ) (x : Call)

/-- A resolution as it is made in a run: the collection as it is then, and the reading of the clock.
-/
structure Moment where
  collection : Collection
  now : Instant
  query : Query

/-- What the resolution makes of the empty list. -/
def Moment.found (m : Moment) : List Record :=
  (m.collection.perform ⟨m.now, m.query.onto []⟩).2.answer.listAfter []

/-- Some collections, and the list in which records are gathered. -/
structure Gathering (κ : Type) where
  collections : κ → Collection
  out : List Record

namespace Gathering

variable {κ : Type} [DecidableEq κ]

/-- Take a turn. -/
def step (g : Gathering κ) : Turn κ → Gathering κ
  | .gather i now q =>
    let p := (g.collections i).perform ⟨now, q.onto g.out⟩
    ⟨Function.update g.collections i p.1, p.2.answer.listAfter g.out⟩
  | .other i x => { g with
      collections := Function.update g.collections i ((g.collections i).perform x).1 }

/-- Take some turns. -/
def run (g : Gathering κ) : List (Turn κ) → Gathering κ
  | [] => g
  | t :: ts => (g.step t).run ts

/-- The resolutions into the list, as they are made. -/
def moments (g : Gathering κ) : List (Turn κ) → List Moment
  | [] => []
  | .gather i now q :: ts =>
    ⟨g.collections i, now, q⟩ :: (g.step (.gather i now q)).moments ts
  | .other i x :: ts => (g.step (.other i x)).moments ts

/-- A resolution into the list adds to it what it would have made of the empty list. -/
theorem step_gather (g : Gathering κ) (i : κ) (now : Instant) (q : Query) :
    g.step (.gather i now q) =
      ⟨Function.update g.collections i ((g.collections i).perform ⟨now, q.onto []⟩).1,
        q.stack (Moment.mk (g.collections i) now q).found g.out⟩ := by
  rw [step, perform_onto]
  simp only [listAfter_restack, Moment.found]

/-- **What is in the list makes no difference to the collections.** -/
theorem run_collections_eq (collections : κ → Collection) (ts : List (Turn κ))
    (out out' : List Record) :
    (run ⟨collections, out⟩ ts).collections = (run ⟨collections, out'⟩ ts).collections ∧
      moments ⟨collections, out⟩ ts = moments ⟨collections, out'⟩ ts := by
  induction ts generalizing collections out out' with
  | nil => exact ⟨rfl, rfl⟩
  | cons t ts ih =>
    cases t with
    | gather i now q =>
      obtain ⟨hrun, hmoments⟩ := ih
        (Function.update collections i ((collections i).perform ⟨now, q.onto []⟩).1)
        (q.stack (Moment.mk (collections i) now q).found out)
        (q.stack (Moment.mk (collections i) now q).found out')
      rw [run, run, moments, moments, step_gather, step_gather]
      exact ⟨hrun, congrArg _ hmoments⟩
    | other i x => exact ih _ out out'

/-- The resolutions of a run that put what they find in front of the list. -/
def inFront (ms : List Moment) : List Moment := ms.filter fun m => !m.query.putsBehind

/-- The resolutions of a run that put what they find behind the list. -/
def behind (ms : List Moment) : List Moment := ms.filter fun m => m.query.putsBehind

/-- **The list after a run.**  The induction is on the turns; a resolution that puts something in
front is the last one to do so for the turns before it and the first one for those after it. -/
theorem out_run (g : Gathering κ) (ts : List (Turn κ)) :
    (g.run ts).out =
      (inFront (g.moments ts)).reverse.flatMap Moment.found ++ g.out ++
        (behind (g.moments ts)).flatMap Moment.found := by
  induction ts generalizing g with
  | nil => simp [run, moments, inFront, behind]
  | cons t ts ih =>
    cases t with
    | other i x => exact ih _
    | gather i now q =>
      have hstack := congrArg Gathering.out (step_gather g i now q)
      rw [run, moments, ih, hstack]
      cases hq : q.putsBehind with
      | true => simp [inFront, behind, Query.stack, hq]
      | false => simp [inFront, behind, Query.stack, hq]

end Gathering

/-- **Gathered records are stacked.**  A client resolves many things into one list, one collection
or several, and all kinds of other calls are made in between.  The list is in the end what was put
in front, the last call first, then what was in it in the beginning, and then what was put behind,
the first call first; and each call has put there what it would have made of the empty list in the
same state, with the same scan order and at the same reading of the clock.  Neither the states that
the collections go through, nor whether a call fails, what it finds or what it tells of, depends on
what is in the list. This is so although the resolution of a key works on the list itself while it
reads. -/
theorem gathered_records_are_stacked {κ : Type} [DecidableEq κ] (collections : κ → Collection)
    (out : List Record) (ts : List (Turn κ)) :
    ((Gathering.run ⟨collections, out⟩ ts).out =
      (Gathering.inFront (Gathering.moments ⟨collections, out⟩ ts)).reverse.flatMap Moment.found ++
        out ++ (Gathering.behind (Gathering.moments ⟨collections, out⟩ ts)).flatMap Moment.found) ∧
    (∀ out', (Gathering.run ⟨collections, out'⟩ ts).collections =
        (Gathering.run ⟨collections, out⟩ ts).collections ∧
      Gathering.moments ⟨collections, out'⟩ ts = Gathering.moments ⟨collections, out⟩ ts) ∧
    (∀ (c : Collection) (now : Instant) (q : Query), c.perform ⟨now, q.onto out⟩ =
      ((c.perform ⟨now, q.onto []⟩).1, ⟨q.restack out (c.perform ⟨now, q.onto []⟩).2.answer,
        (c.perform ⟨now, q.onto []⟩).2.events⟩)) ∧
    ∀ (c : Collection) (now : Instant) (q : Query) (events : List Event) (asked : List String),
      (q.program now).runOn ⟨c, out, events, asked⟩ =
        Workspace.after ⟨c, out, events, asked⟩ (q.asked c now) (q.resolve c now out) :=
  ⟨Gathering.out_run ⟨collections, out⟩ ts,
    fun out' => Gathering.run_collections_eq collections ts out' out,
    fun c now q => perform_onto c now q out,
    fun c now q events asked => q.runOn_program now ⟨c, out, events, asked⟩⟩

/-- The resolution of a key goes behind what was there before, the wide one in front with its last
record first, and a value that is stored in between is found by the last call. -/
example :
    (Gathering.run
        ⟨fun i : Bool => if i then ((named "p").store "a" "1").store "b" "2" else named "q",
          [⟨"p", "old", "0"⟩]⟩
        [.gather true .zero (.key "a"), .gather true .zero (.all .asStored "" .keepAll),
          .other false ⟨.zero, .store "c" "3"⟩, .gather false .zero (.key "c")]).out =
      [⟨"p", "b", "2"⟩, ⟨"p", "a", "1"⟩, ⟨"p", "old", "0"⟩, ⟨"p", "a", "1"⟩, ⟨"q", "c", "3"⟩] := by
  decide

end Collection
end VarStore
