import Mathlib.Data.List.Induction
import VarStore.Dataset.Memory
import VarStore.Proofs.Lookup

/-!
# Loading is all or nothing

`load` says what loading a dataset comes to, and of a dataset that is not to be had it says that it
comes to a fault.  Whether the builder has been called before that, or an event told of, cannot be
seen from there.  So loading is done here once more, one thing after the other, on a builder that
stays what it was made into whatever happens (`loadOn`).  The calls that the builder receives are
written down.

Nothing is called before the text is there, and the text is all that can be missing.  Hence the
protocol (`loadOn_eq`): no call at all, or one for each pattern line and then, once and last, the
one that makes ready.

The rest is about the datasets in memory that a provider looks in.  Their map need not be there in
the beginning, and comes with the first dataset that is put in.  What a load finds is decided by the
requests made before it: the text that was put in last under just this name (`fetch_run`).  Failed
loads do not count, since they change nothing.

* `Desk`, `loadOn`, `protocol`: loading, and the calls it makes.
* `Bench`, `Request`, `perform`, `run`: datasets in memory and one list of patterns, and what is
  asked of them.
* `loading_is_all_or_nothing`: the protocol, for every builder, and what it means for a run.
-/

namespace VarStore
namespace Dataset

variable {σ : Type} {name text : String}

/-! ## Loading, one thing after the other -/

/-- What loading works on: what is being built, the calls that the builder has received, and the
events. -/
structure Desk (σ : Type) where
  built : σ
  calls : List Call
  events : List Event

/-- The builder receives a call. -/
def Desk.receive (w : Desk σ) (b : Builder σ) (call : Call) : Desk σ :=
  { w with built := b.perform w.built call, calls := w.calls ++ [call] }

/-- Give the builder one pattern after the other, and count on from `n`. -/
def feed (b : Builder σ) : List String → Nat → Desk σ → Nat × Desk σ
  | [], n, w => (n, w)
  | pattern :: patterns, n, w => feed b patterns (n + 1) (w.receive b (.add pattern))

/-- Load a dataset: ask the provider, give the pattern lines to the builder, make ready, and tell of
it.  What was done when it fails stays done. -/
def loadOn (provider : Provider) (name : String) (b : Builder σ) (w : Desk σ) :
    Except Fault Nat × Desk σ :=
  match provider name with
  | .error e => (.error e, w)
  | .ok text =>
    let (n, w) := feed b (patternLines text) 0 w
    let w := w.receive b .prepare
    (.ok n, { w with events := w.events ++ [.datasetLoaded name n] })

/-- The calls by which a text is loaded. -/
def protocol (text : String) : List Call := (patternLines text).map .add ++ [.prepare]

theorem feed_eq (b : Builder σ) (patterns : List String) (n : Nat) (w : Desk σ) :
    feed b patterns n w =
      (n + patterns.length,
        ⟨(patterns.map Call.add).foldl b.perform w.built, w.calls ++ patterns.map .add, w.events⟩) := by
  induction patterns generalizing n w with
  | nil => simp [feed]
  | cons pattern patterns ih =>
    rw [feed, ih]
    simp [Desk.receive, Nat.add_assoc, Nat.add_comm 1]

/-- **What loading does.** -/
theorem loadOn_eq (provider : Provider) (name : String) (b : Builder σ) (w : Desk σ) :
    loadOn provider name b w =
      match provider name with
      | .error e => (.error e, w)
      | .ok text =>
        (.ok (patternLines text).length,
          ⟨(protocol text).foldl b.perform w.built, w.calls ++ protocol text,
            w.events ++ [.datasetLoaded name (patternLines text).length]⟩) := by
  unfold loadOn
  cases provider name with
  | error e => rfl
  | ok text =>
    dsimp only
    rw [feed_eq]
    simp [Desk.receive, protocol, List.foldl_append]

/-- What loading comes to is what it does, less the calls. -/
theorem load_eq (provider : Provider) (name : String) (b : Builder σ) (s : σ) :
    load provider name b s =
      match provider name with
      | .error e => .error e
      | .ok text =>
        .ok ⟨(protocol text).foldl b.perform s, (patternLines text).length,
          [.datasetLoaded name (patternLines text).length]⟩ := by
  unfold load
  cases provider name with
  | error e => rfl
  | ok text =>
    have hbuilt : b.prepare ((patternLines text).foldl b.add s) =
        (protocol text).foldl b.perform s := by
      rw [protocol, List.foldl_append, List.foldl_map]
      rfl
    show Except.ok (Loaded.mk _ _ _) = _
    rw [hbuilt]

/-- A list of patterns takes the pattern lines of a text behind those that it has. -/
theorem foldl_protocol (l : PatternList) (text : String) :
    (protocol text).foldl PatternList.builder.perform l =
      ⟨l.patterns ++ patternLines text, true⟩ := by
  have hadd : ∀ (patterns : List String) (l : PatternList),
      (patterns.map Call.add).foldl PatternList.builder.perform l =
        { l with patterns := l.patterns ++ patterns } := by
    intro patterns
    induction patterns with
    | nil => intro l; simp
    | cons pattern patterns ih =>
      intro l
      rw [List.map_cons, List.foldl_cons, ih]
      simp [Builder.perform, PatternList.builder, PatternList.add]
  rw [protocol, List.foldl_append, hadd]
  rfl

/-! ## Datasets in memory and a list of patterns -/

/-- The ways to make datasets in memory. -/
inductive InMemory.Origin where
  | empty | unset | standard

/-- Make datasets in memory. -/
def InMemory.Origin.make : InMemory.Origin → InMemory
  | empty => .empty
  | unset => .unset
  | standard => default

/-- Datasets in memory, and a list of patterns that they are loaded into. -/
structure Bench where
  datasets : InMemory
  list : PatternList

/-- What can be asked of a bench. -/
inductive Request where
  | insert (name text : String)
  | including (name text : String)
  | load (name : String)
  | add (pattern : String)
  | prepare
  | reset

/-- What a request returns. -/
inductive Answer where
  | done
  | load (result : Except Fault Nat)

/-- What a request returns, and what happened meanwhile. -/
structure Response where
  answer : Answer
  events : List Event

namespace Bench

variable {b : Bench} {q : Request}

/-- Make a request. -/
def perform (b : Bench) : Request → Bench × Response
  | .insert name text => ({ b with datasets := b.datasets.insert name text }, ⟨.done, []⟩)
  | .including name text => ({ b with datasets := b.datasets.including name text }, ⟨.done, []⟩)
  | .load name =>
    let (result, w) := loadOn b.datasets.fetch name PatternList.builder ⟨b.list, [], []⟩
    ({ b with list := w.built }, ⟨.load result, w.events⟩)
  | .add pattern => ({ b with list := b.list.add pattern }, ⟨.done, []⟩)
  | .prepare => ({ b with list := b.list.prepare }, ⟨.done, []⟩)
  | .reset => ({ b with list := .empty }, ⟨.done, []⟩)

/-- The bench after a run. -/
def run (b : Bench) : List Request → Bench
  | [] => b
  | q :: qs => (b.perform q).1.run qs

@[simp] theorem run_nil (b : Bench) : b.run [] = b := rfl

@[simp] theorem run_cons (b : Bench) (q : Request) (qs : List Request) :
    b.run (q :: qs) = (b.perform q).1.run qs := rfl

theorem run_append_singleton (b : Bench) (qs : List Request) (q : Request) :
    b.run (qs ++ [q]) = ((b.run qs).perform q).1 := by
  induction qs generalizing b with
  | nil => rfl
  | cons p qs ih => rw [List.cons_append, run_cons, ih, run_cons]

/-- **What a load does to a bench.** -/
theorem perform_load (b : Bench) (name : String) :
    b.perform (.load name) =
      match b.datasets.fetch name with
      | .error e => (b, ⟨.load (.error e), []⟩)
      | .ok text =>
        ({ b with list := ⟨b.list.patterns ++ patternLines text, true⟩ },
          ⟨.load (.ok (patternLines text).length),
            [.datasetLoaded name (patternLines text).length]⟩) := by
  unfold perform
  dsimp only
  rw [loadOn_eq]
  cases b.datasets.fetch name with
  | error e => rfl
  | ok text =>
    dsimp only
    rw [foldl_protocol]
    rfl

end Bench

/-! ## What has been put in -/

namespace Request

/-- The dataset that a request puts in. -/
def dataset? : Request → Option (String × String)
  | insert name text => some (name, text)
  | including name text => some (name, text)
  | _ => none

/-- The text that a request puts in under a name. -/
def textFor? (name : String) (q : Request) : Option String :=
  q.dataset?.bind fun p => if p.1 = name then some p.2 else none

end Request

/-- The text that was put in last under a name. -/
def lastText? (name : String) (qs : List Request) : Option String :=
  (qs.filterMap (Request.textFor? name)).getLast?

/-- No text has been put in under any name. -/
def NothingInserted (qs : List Request) : Prop := ∀ q ∈ qs, q.dataset? = none

theorem lastText?_append_singleton (name : String) (qs : List Request) (q : Request) :
    lastText? name (qs ++ [q]) = (q.textFor? name).or (lastText? name qs) := by
  unfold lastText?
  rw [List.filterMap_append, List.getLast?_append, List.filterMap_cons, List.filterMap_nil]
  cases q.textFor? name <;> rfl

theorem nothingInserted_append_singleton {qs : List Request} {q : Request} :
    NothingInserted (qs ++ [q]) ↔ NothingInserted qs ∧ q.dataset? = none := by
  unfold NothingInserted
  rw [List.forall_mem_append, List.forall_mem_singleton]

theorem lastText?_eq_none_iff {qs : List Request} :
    lastText? name qs = none ↔ ∀ q ∈ qs, q.textFor? name = none := by
  unfold lastText?
  rw [List.getLast?_eq_none_iff, List.filterMap_eq_nil_iff]

theorem lastText?_of_nothingInserted {qs : List Request} (hqs : NothingInserted qs)
    (name : String) : lastText? name qs = none := by
  refine lastText?_eq_none_iff.2 fun q hq => ?_
  rw [Request.textFor?, hqs q hq, Option.bind_none]

/-- The text of a dataset, if there is a map and it has the dataset. -/
def InMemory.text? (d : InMemory) (name : String) : Option String := (d.texts.getD []).lookup name

theorem InMemory.fetch_eq (d : InMemory) (name : String) :
    d.fetch name =
      match d.text? name with
      | some text => .ok text
      | none => .error (if d.texts.isNone then .mapUnset else .notFound name) := by
  unfold fetch text?
  cases d.texts with
  | none => rfl
  | some texts =>
    dsimp only [Option.getD_some, Option.isNone_some]
    cases texts.lookup name <;> rfl

/-- What is put in is found, and nothing else changes. -/
theorem InMemory.text?_insert (d : InMemory) (t text name : String) :
    (d.insert t text).text? name = if t = name then some text else d.text? name := by
  unfold insert text?
  rw [Option.getD_some]
  by_cases ht : t = name
  · rw [if_pos ht, ht, List.lookup_cons_self]
  · rw [if_neg ht, lookup_cons_of_ne (Ne.symm ht), lookup_filter_ne, if_neg ht]

/-- A request puts in the dataset that it brings, or leaves the datasets alone. -/
theorem Bench.datasets_perform (b : Bench) (q : Request) :
    (b.perform q).1.datasets =
      match q.dataset? with
      | some (name, text) => b.datasets.insert name text
      | none => b.datasets := by
  cases q with
  | load name =>
    rw [perform_load]
    cases b.datasets.fetch name <;> rfl
  | _ => rfl

/-- **The datasets after a run.**  There is a map if there was one or something has been put in, and
it has under each name what was put in last.  The induction is on the run, from its end. -/
theorem Bench.datasets_run (o : InMemory.Origin) (l : PatternList) (qs : List Request) :
    (((Bench.mk o.make l).run qs).datasets.texts = none ↔
      o.make.texts = none ∧ NothingInserted qs) ∧
    ∀ name, ((Bench.mk o.make l).run qs).datasets.text? name = lastText? name qs := by
  induction qs using List.reverseRecOn with
  | nil =>
    refine ⟨by simp [NothingInserted], fun name => ?_⟩
    cases o <;> rfl
  | append_singleton qs q ih =>
    obtain ⟨hmap, htext⟩ := ih
    rw [run_append_singleton, datasets_perform, nothingInserted_append_singleton]
    cases hq : q.dataset? with
    | none =>
      refine ⟨by simp [hmap], fun name => ?_⟩
      rw [lastText?_append_singleton, Request.textFor?, hq]
      exact htext name
    | some p =>
      obtain ⟨t, text⟩ := p
      refine ⟨by simp [InMemory.insert], fun name => ?_⟩
      rw [lastText?_append_singleton, Request.textFor?, hq, InMemory.text?_insert, htext]
      by_cases ht : t = name <;> simp [ht]

/-- **What a provider gives after a run.** -/
theorem Bench.fetch_run (o : InMemory.Origin) (l : PatternList) (qs : List Request)
    (name : String) :
    ((Bench.mk o.make l).run qs).datasets.fetch name =
      match lastText? name qs with
      | some text => .ok text
      | none =>
        .error (if ((Bench.mk o.make l).run qs).datasets.texts.isNone then .mapUnset
          else .notFound name) := by
  rw [InMemory.fetch_eq, (datasets_run o l qs).2 name]

/-- A list that was made ready stays so in every request but the one for a new list. -/
theorem Bench.prepared_perform {b : Bench} {q : Request} (hb : b.list.prepared = true)
    (hq : q ≠ .reset) : (b.perform q).1.list.prepared = true := by
  cases q with
  | load name =>
    rw [perform_load]
    cases b.datasets.fetch name with
    | error e => exact hb
    | ok text => rfl
  | prepare => rfl
  | reset => exact absurd rfl hq
  | _ => exact hb

theorem Bench.prepared_run {b : Bench} {qs : List Request} (hb : b.list.prepared = true)
    (hqs : ∀ q ∈ qs, q ≠ .reset) : (b.run qs).list.prepared = true := by
  induction qs generalizing b with
  | nil => exact hb
  | cons q qs ih =>
    exact ih (prepared_perform hb (hqs q List.mem_cons_self))
      fun p hp => hqs p (List.mem_cons_of_mem q hp)

/-! ## The two together -/

/-- Loading makes no call, tells of nothing and fails with what is wrong with the provider; or it
makes the calls of the protocol, tells of the number of patterns and returns it. -/
def AllOrNothing (provider : Provider) (name : String) (b : Builder σ) (w : Desk σ) : Prop :=
  (∃ fault, provider name = .error fault ∧ loadOn provider name b w = (.error fault, w) ∧
    load provider name b w.built = .error fault) ∨
  ∃ text n, provider name = .ok text ∧ n = (patternLines text).length ∧
    loadOn provider name b w =
      (.ok n, ⟨(protocol text).foldl b.perform w.built, w.calls ++ protocol text,
        w.events ++ [.datasetLoaded name n]⟩) ∧
    load provider name b w.built =
      .ok ⟨(protocol text).foldl b.perform w.built, n, [.datasetLoaded name n]⟩

theorem allOrNothing (provider : Provider) (name : String) (b : Builder σ) (w : Desk σ) :
    AllOrNothing provider name b w := by
  unfold AllOrNothing
  rw [loadOn_eq, load_eq]
  cases provider name with
  | error fault => exact Or.inl ⟨fault, rfl, rfl, rfl⟩
  | ok text => exact Or.inr ⟨text, _, rfl, rfl, rfl, rfl⟩

/-- **Loading is all or nothing**, whatever the provider and the builder.  And of datasets in memory
and one list of patterns, whatever has been asked of them: a load uses the text that was put in last
under just this name, and puts its pattern lines behind those that the list has.  If there is no
such text, the load fails and leaves the datasets and the list as they were: for want of a map if
there was none in the beginning and nothing has been put in, and because the dataset is not found if
that is not so and nothing has been put in under the name.  A list that has been made ready stays so
until a new one is asked for. -/
theorem loading_is_all_or_nothing :
    (∀ (σ : Type) (provider : Provider) (name : String) (b : Builder σ) (w : Desk σ),
      AllOrNothing provider name b w) ∧
    (∀ (o : InMemory.Origin) (l : PatternList) (qs : List Request) (name : String) (b : Bench),
      b = (Bench.mk o.make l).run qs →
      (∀ text, lastText? name qs = some text →
        b.perform (.load name) =
          (⟨b.datasets, ⟨b.list.patterns ++ patternLines text, true⟩⟩,
            ⟨.load (.ok (patternLines text).length),
              [.datasetLoaded name (patternLines text).length]⟩)) ∧
      (lastText? name qs = none →
        ∃ fault, b.perform (.load name) = (b, ⟨.load (.error fault), []⟩)) ∧
      ((b.perform (.load name)).2.answer = .load (.error .mapUnset) ↔
        o.make.texts = none ∧ NothingInserted qs) ∧
      ((b.perform (.load name)).2.answer = .load (.error (.notFound name)) ↔
        ¬ (o.make.texts = none ∧ NothingInserted qs) ∧ ∀ q ∈ qs, q.textFor? name = none)) ∧
    ∀ (b : Bench) (qs : List Request), b.list.prepared = true → (∀ q ∈ qs, q ≠ .reset) →
      (b.run qs).list.prepared = true := by
  refine ⟨fun σ => allOrNothing, ?_, fun b qs => Bench.prepared_run⟩
  rintro o l qs name b rfl
  have hmap := (Bench.datasets_run o l qs).1
  rw [Bench.perform_load, Bench.fetch_run]
  cases htext : lastText? name qs with
  | some text =>
    have hsome : ¬ NothingInserted qs := by
      intro hnothing
      rw [lastText?_of_nothingInserted hnothing] at htext
      cases htext
    have hnamed : ¬ ∀ q ∈ qs, q.textFor? name = none := by
      rw [← lastText?_eq_none_iff, htext]
      simp
    exact ⟨by simp, by simp, by simp [hsome], by simp [hnamed]⟩
  | none =>
    have hnamed := lastText?_eq_none_iff.1 htext
    refine ⟨by simp, fun _ => ⟨_, rfl⟩, ?_, ?_⟩
    · rw [← hmap]
      cases ((Bench.mk o.make l).run qs).datasets.texts <;> simp
    · rw [← hmap, and_iff_left hnamed]
      cases ((Bench.mk o.make l).run qs).datasets.texts <;> simp

/-- A client that begins without a map, loads in vain, puts a dataset in, loads it, and puts another
one in under its name. -/
def restocked : List Request :=
  [.load "a", .insert "a" "x\n# c\ny", .load "a", .including "a" "z\r\n", .load "b"]

/-- The next load takes the second text, behind what the first one has given; the list has been made
ready all along. -/
theorem restocked_loads_the_last_text :
    lastText? "a" restocked = some "z\r\n" ∧
    (((Bench.mk .unset .empty).run restocked).perform (.load "a")).1.list =
      ⟨["x", "y", "z"], true⟩ ∧
    (((Bench.mk .unset .empty).run restocked).run [.load "c", .add "w"]).list.prepared = true := by
  obtain ⟨-, hruns, hprepared⟩ := loading_is_all_or_nothing
  have hlast : lastText? "a" restocked = some "z\r\n" := by decide
  have hlist : ((Bench.mk .unset .empty).run restocked).list = ⟨["x", "y"], true⟩ := by rfl
  have hload := (hruns .unset .empty restocked "a" _ rfl).1 _ hlast
  refine ⟨hlast, ?_, hprepared _ _ (by rw [hlist]) (by simp)⟩
  show (((Bench.mk InMemory.Origin.unset.make .empty).run restocked).perform (.load "a")).1.list = _
  have hlines : patternLines "z\r\n" = ["z"] := by cbv
  rw [hload]
  show PatternList.mk (_ ++ patternLines "z\r\n") true = _
  rw [hlines]
  exact congrArg (fun l : PatternList => PatternList.mk (l.patterns ++ ["z"]) true) hlist

end Dataset
end VarStore
