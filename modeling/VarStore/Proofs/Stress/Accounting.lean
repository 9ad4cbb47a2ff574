import Mathlib
import VarStore.CommandLine.Command
import VarStore.Proofs.Collection.Purge
import VarStore.Proofs.Registry.Request
import VarStore.Proofs.Stress.Workers

/-!
# The report on a workload adds up

The workers count for themselves, each in counters of its own, and the command adds these up when
all of them have ended.  What a worker has counted is determined by its own turns and by what they
returned to it.  So the turns of the others may come in between in any order, and the sums do not
depend on it (`countersOf_run`): each turn is counted once, under what was drawn for it.

No turn can fail.  There is at least one key to draw, and the filters that the workers use have an
answer for every key (`attempt_eq`).

What is left in the end is counted by the collection.  Whatever the workers did, its buckets are
well formed, so there are at least as many values as keys, and the purge removes the difference
between what it found and what is left.

* `Interleaved`: rows of turns in which each worker has as many as were asked for.
* `gains`, `ofGains`: what turns return, and what is to be counted of them.
* `report_adds_up`: all of it, for every row of turns.
-/

namespace VarStore
namespace Stress

variable {keys workers ops w : Nat} {p : Progress} {t : Turn keys} {turns : List (Turn keys)}

/-! ## Turns cannot fail -/

/-- What a turn does, if a resolution that fails is the end of its worker. -/
def Turn.attempt (t : Turn keys) (calls : Nat) (c : Collection) :
    Except String (Collection × List Record) :=
  match t.call with
  | .resolveAll =>
    (c.resolveAll t.now t.order t.key .keepAll []).map fun r => (r.collection, r.records)
  | .resolveOwn =>
    (c.resolveMatching t.now t.order (ownPattern t.worker) (ownExclusions t.worker).filter []).map
      fun r => (r.collection, r.records)
  | _ => .ok (t.perform calls c)

/-- After some turns, if a worker that comes to an end is the end of the command. -/
def Progress.attempt (p : Progress) : List (Turn keys) → Except String Progress
  | [] => .ok p
  | t :: turns =>
    (t.attempt (p.countersOf t.worker).calls p.collection).bind fun _ => (p.turn t).attempt turns

/-- A resolution whose filter cannot fail is carried out. -/
theorem exists_resolveMatching (c : Collection) (now : Instant) (order : List String)
    (pattern : String) (hidden : String → Bool) (out : List Record) :
    ∃ r, c.resolveMatching now order pattern (.omitting hidden) out = .ok r := by
  cases hp : KeyPattern.compile pattern c.ignoreCase with
  | error e => exact ⟨_, by rw [Collection.resolveMatching, hp]⟩
  | ok p => exact ⟨_, Collection.resolveMatching_omitting hp now order hidden out⟩

/-- **No turn fails**, whatever was drawn for it and whatever the collection holds. -/
theorem Turn.attempt_eq (t : Turn keys) (calls : Nat) (c : Collection) :
    t.attempt calls c = .ok (t.perform calls c) := by
  unfold Turn.attempt Turn.perform
  cases t.call with
  | resolveAll =>
    have hall := c.resolveOrder_omitting t.now (if t.key = "" then t.order else [t.key])
      (fun _ => false) []
    simp only [Collection.resolveAll, Filter.keepAll, hall]
    rfl
  | resolveOwn =>
    obtain ⟨r, hr⟩ := exists_resolveMatching c t.now t.order (ownPattern t.worker)
      (ownExclusions t.worker).omits []
    simp only [Exclusions.filter, hr]
    rfl
  | _ => rfl

theorem attempt_eq (p : Progress) (turns : List (Turn keys)) :
    p.attempt turns = .ok (p.run turns) := by
  induction turns generalizing p with
  | nil => rfl
  | cons t turns ih =>
    rw [Progress.attempt, Turn.attempt_eq]
    exact ih (p.turn t)

/-! ## What a worker counts -/

/-- A call that resolves. -/
def Call.isResolution : Call → Bool
  | .resolveAll => true
  | .resolveKey => true
  | .resolveOwn => true
  | _ => false

/-- The turns of a run, each with the number of records that it returns. -/
def Progress.gains (p : Progress) : List (Turn keys) → List (Turn keys × Nat)
  | [] => []
  | t :: turns =>
    (t, (t.perform (p.countersOf t.worker).calls p.collection).2.length) :: (p.turn t).gains turns

/-- What is to be counted of some turns: how many there are of each kind, and how many records they
return. -/
def Counters.ofGains (gains : List (Turn keys × Nat)) : Counters :=
  { stores := gains.countP fun g => g.1.call = .store
    upserts := gains.countP fun g => g.1.call = .upsert
    expiries := gains.countP fun g => g.1.call = .expire
    deletes := gains.countP fun g => g.1.call = .delete
    resolutions := gains.countP fun g => g.1.call.isResolution
    records := (gains.map (·.2)).sum }

/-- The counters after some turns, from those before them. -/
def Counters.after (s : Counters) (gains : List (Turn keys × Nat)) : Counters :=
  gains.foldl (fun s g => s.count g.1.call g.2) s

/-- A call that does not resolve returns no records. -/
theorem snd_perform_eq_nil (ht : t.call.isResolution = false) (calls : Nat) (c : Collection) :
    (t.perform calls c).2 = [] := by
  unfold Turn.perform
  cases hcall : t.call <;> simp_all [Call.isResolution]

/-- In a run only resolutions return records. -/
theorem gain_eq_zero {g : Turn keys × Nat} (hg : g ∈ p.gains turns)
    (hcall : g.1.call.isResolution = false) : g.2 = 0 := by
  induction turns generalizing p with
  | nil => cases hg
  | cons t turns ih =>
    rw [Progress.gains, List.mem_cons] at hg
    rcases hg with rfl | hg
    · dsimp only
      rw [snd_perform_eq_nil hcall]
      rfl
    · exact ih hg

/-- One turn more. -/
theorem ofGains_append (gains : List (Turn keys × Nat)) {g : Turn keys × Nat}
    (hg : g.1.call.isResolution = false → g.2 = 0) :
    Counters.ofGains (gains ++ [g]) = (Counters.ofGains gains).count g.1.call g.2 := by
  obtain ⟨t, n⟩ := g
  simp only [Counters.ofGains, List.countP_append, List.countP_singleton, List.map_append,
    List.sum_append]
  cases hcall : t.call <;> simp_all [Counters.count, Call.isResolution]

/-- **Each turn is counted once**, under what was drawn for it. -/
theorem after_eq_ofGains {gains : List (Turn keys × Nat)}
    (hgains : ∀ g ∈ gains, g.1.call.isResolution = false → g.2 = 0) :
    Counters.zero.after gains = .ofGains gains := by
  induction gains using List.reverseRecOn with
  | nil => rfl
  | append_singleton gains g ih =>
    have hothers := ih fun g' hg' => hgains g' (by simp [hg'])
    rw [ofGains_append gains (hgains g (by simp)), ← hothers]
    simp [Counters.after]

/-! ## Counters under way -/

theorem run_cons (p : Progress) (t : Turn keys) (turns : List (Turn keys)) :
    p.run (t :: turns) = (p.turn t).run turns := rfl

theorem run_append (p : Progress) (turns turns' : List (Turn keys)) :
    p.run (turns ++ turns') = (p.run turns).run turns' := List.foldl_append

theorem length_counters_run (p : Progress) (turns : List (Turn keys)) :
    (p.run turns).counters.length = p.counters.length := by
  induction turns generalizing p with
  | nil => rfl
  | cons t turns ih =>
    rw [run_cons, ih]
    exact List.length_set

/-- A turn changes the counters of its worker and no others. -/
theorem countersOf_turn (hw : w < p.counters.length) (t : Turn keys) :
    (p.turn t).countersOf w =
      if t.worker = w then
        (p.countersOf w).count t.call
          (t.perform (p.countersOf t.worker).calls p.collection).2.length
      else p.countersOf w := by
  have hcounters : (p.turn t).counters = p.counters.set t.worker ((p.countersOf t.worker).count
      t.call (t.perform (p.countersOf t.worker).calls p.collection).2.length) := rfl
  rw [Progress.countersOf, hcounters, List.getD_eq_getElem?_getD, List.getElem?_set]
  by_cases h : t.worker = w
  · subst h
    rw [if_pos rfl, if_pos rfl, if_pos hw, Option.getD_some]
  · rw [if_neg h, if_neg h]
    exact (List.getD_eq_getElem?_getD ..).symm

/-- **A worker counts its own turns**, whatever comes in between. -/
theorem countersOf_run (hw : w < p.counters.length) (turns : List (Turn keys)) :
    (p.run turns).countersOf w =
      (p.countersOf w).after ((p.gains turns).filter fun g => g.1.worker = w) := by
  induction turns generalizing p with
  | nil => rfl
  | cons t turns ih =>
    have hlength : w < (p.turn t).counters.length := by
      rw [Progress.turn, List.length_set]
      exact hw
    rw [run_cons, ih hlength, countersOf_turn hw, Progress.gains, List.filter_cons]
    by_cases h : t.worker = w
    · simp [h, Counters.after]
    · simp [h]

theorem map_fst_gains (p : Progress) (turns : List (Turn keys)) :
    (p.gains turns).map (·.1) = turns := by
  induction turns generalizing p with
  | nil => rfl
  | cons t turns ih => rw [Progress.gains, List.map_cons, ih]

/-- From the start, a worker has counted what there is to be counted of its turns. -/
theorem countersOf_run_start (c : Collection) (hw : w < workers) (turns : List (Turn keys)) :
    ((Progress.start c workers).run turns).countersOf w =
      .ofGains (((Progress.start c workers).gains turns).filter fun g => g.1.worker = w) := by
  have hlength : w < (Progress.start c workers).counters.length := by
    simpa [Progress.start] using hw
  have hzero : (Progress.start c workers).countersOf w = .zero := by
    simp [Progress.countersOf, Progress.start, hw]
  rw [countersOf_run hlength, hzero]
  exact after_eq_ofGains fun g hg => gain_eq_zero (List.mem_of_mem_filter hg)

/-! ## Sums -/

/-- What is added up counter by counter is the sum over the workers. -/
theorem total_eq_sum {f : Counters → Nat} (hzero : f .zero = 0)
    (hadd : ∀ s t : Counters, f (s + t) = f s + f t) (p : Progress) :
    f p.total = ((List.range p.counters.length).map fun w => f (p.countersOf w)).sum := by
  have hfold : ∀ (l : List Counters) (s : Counters),
      f (l.foldl (· + ·) s) = f s + (l.map f).sum := by
    intro l
    induction l with
    | nil => simp
    | cons t l ih =>
      intro s
      rw [List.foldl_cons, ih, hadd, List.map_cons, List.sum_cons]
      omega
  have hworkers : (List.range p.counters.length).map (fun w => f (p.countersOf w)) =
      p.counters.map f := by
    refine List.ext_getElem (by simp) fun i hi hi' => ?_
    simp only [List.length_map] at hi'
    simp [Progress.countersOf, hi']
  rw [Progress.total, hfold, hzero, hworkers, Nat.zero_add]

/-- The counters of a report. -/
def Counters.columns : List (Counters → Nat) :=
  [stores, upserts, expiries, deletes, resolutions, records]

theorem columns_add {f : Counters → Nat} (hf : f ∈ Counters.columns) :
    f .zero = 0 ∧ ∀ s t : Counters, f (s + t) = f s + f t := by
  simp only [Counters.columns, List.mem_cons, List.not_mem_nil, or_false] at hf
  rcases hf with rfl | rfl | rfl | rfl | rfl | rfl <;> exact ⟨rfl, fun _ _ => rfl⟩

/-- The number of calls is added up as well. -/
theorem calls_add (s t : Counters) : (s + t).calls = s.calls + t.calls := by
  show (Counters.add s t).calls = _
  simp only [Counters.add, Counters.calls]
  omega

/-- Each turn is a call of one kind. -/
theorem calls_ofGains (gains : List (Turn keys × Nat)) :
    (Counters.ofGains gains).calls = gains.length := by
  induction gains with
  | nil => rfl
  | cons g gains ih =>
    have hone : (if g.1.call = .store then 1 else 0) + (if g.1.call = .upsert then 1 else 0) +
        (if g.1.call = .expire then 1 else 0) + (if g.1.call = .delete then 1 else 0) +
        (if g.1.call.isResolution = true then 1 else 0) = 1 := by
      cases g.1.call <;> rfl
    simp only [Counters.calls, Counters.ofGains, List.countP_cons, List.length_cons,
      decide_eq_true_eq] at ih ⊢
    omega

/-! ## The name of the collection -/

theorem Confined.name {S : String → Prop} {c d : Collection} {records : List Record}
    (h : Confined S c d records) : d.name = c.name := by
  rcases h.collection with rfl | ⟨k, b, -, rfl⟩
  · rfl
  · rfl

/-- No turn renames the collection. -/
theorem name_run (hturns : ∀ t ∈ turns, t.worker < workers) (hp : Owned keys workers p.collection) :
    (p.run turns).collection.name = p.collection.name := by
  induction turns generalizing p with
  | nil => rfl
  | cons t turns ih =>
    obtain ⟨ht, hothers⟩ := List.forall_mem_cons.1 hturns
    have hconfined := confined_perform hp t (p.countersOf t.worker).calls
    rw [run_cons]
    exact (ih hothers (hp.perform ht _)).trans hconfined.name

/-! ## Rows of turns -/

/-- The turns of so many workers, each of which has so many, in any order. -/
structure Interleaved (workers ops : Nat) (turns : List (Turn keys)) : Prop where
  worker : ∀ t ∈ turns, t.worker < workers
  turns : ∀ w < workers, (turns.countP fun t => t.worker = w) = ops

theorem Interleaved.append {ops' : Nat} {turns' : List (Turn keys)}
    (h : Interleaved workers ops turns) (h' : Interleaved workers ops' turns') :
    Interleaved workers (ops + ops') (turns ++ turns') := by
  refine ⟨fun t ht => ?_, fun w hw => ?_⟩
  · rcases List.mem_append.1 ht with ht | ht
    · exact h.worker t ht
    · exact h'.worker t ht
  · rw [List.countP_append, h.turns w hw, h'.turns w hw]

/-- In each round every worker has one turn. -/
theorem exists_turns_playRound (hkeys : 0 < keys) (now : Instant) (n : Nat)
    (s : Progress × StdGen) :
    ∃ turns : List (Turn keys), Interleaved n 1 turns ∧
      (playRound hkeys now n s).1 = s.1.run turns := by
  induction n generalizing s with
  | zero => exact ⟨[], ⟨fun t ht => absurd ht List.not_mem_nil, fun w hw => by omega⟩, rfl⟩
  | succ n ih =>
    obtain ⟨p, g⟩ := s
    let first : Turn keys := ⟨n, (Draw.random hkeys g).1, now, p.collection.keys⟩
    obtain ⟨turns, hturns, hrun⟩ := ih (p.turn first, (Draw.random hkeys g).2)
    have hlast : (turns.countP fun t => t.worker = n) = 0 := by
      rw [List.countP_eq_zero]
      intro t ht
      have hworker := hturns.worker t ht
      simp only [decide_eq_true_eq]
      omega
    refine ⟨first :: turns, ⟨fun t ht => ?_, fun w hw => ?_⟩, hrun⟩
    · rcases List.mem_cons.1 ht with rfl | ht
      · exact Nat.lt_succ_self n
      · exact Nat.lt_succ_of_lt (hturns.worker t ht)
    · rw [List.countP_cons]
      by_cases hn : n = w
      · subst hn
        simp [first, hlast]
      · have hother := hturns.turns w (by omega)
        simp [first, hn, hother]

/-- A workload that is played is such a row of turns. -/
theorem exists_turns_playRounds (hkeys : 0 < keys) (now : Instant) (workers n : Nat)
    (s : Progress × StdGen) :
    ∃ turns : List (Turn keys), Interleaved workers n turns ∧
      (playRounds hkeys now workers n s).1 = s.1.run turns := by
  induction n generalizing s with
  | zero => exact ⟨[], ⟨fun t ht => absurd ht List.not_mem_nil, fun w _ => rfl⟩, rfl⟩
  | succ n ih =>
    obtain ⟨first, hfirst, hround⟩ := exists_turns_playRound hkeys now workers s
    obtain ⟨turns, hturns, hrun⟩ := ih (playRound hkeys now workers s)
    refine ⟨first ++ turns, ?_, ?_⟩
    · rw [Nat.add_comm]
      exact hfirst.append hturns
    · rw [playRounds, hrun, hround, run_append]

end Stress

namespace CommandLine.StressRequest

open Stress

/-- The registry hands out the collection of the workload, empty, for its name in any case. -/
theorem collection?_getOrCreate (r : StressRequest) (config : Config) :
    ((Registry.empty config).getOrCreate r.collection).1.collection?
      ((Registry.empty config).getOrCreate r.collection).2.1 = some (r.freshCollection config) := by
  have hnone : (Registry.empty config).get? r.collection = none := rfl
  rw [Registry.getOrCreate_of_none hnone]
  rfl

/-- **The report on a workload adds up.**  Take any request, any configuration, and any row of turns
in which each worker has as many as were asked for, whatever is drawn, whatever the clock says and
in whichever order keys are visited.  There is a key to draw, and no turn fails.  The calls of
the report are as many as all workers were to make.  Each of its counters is the sum of those of the
workers, and each worker has counted what there was to be counted of its own turns.  There are at
least as many values left as keys, none exactly if there are no keys, and with those that were
purged they are the values that there were at the end.  The collection has the name that was asked
for, in capital letters, and is the one that a registry hands out for it.  What the command plays is
such a row of turns. -/
theorem report_adds_up (r : StressRequest) (config : Config) :
    0 < r.keyCount ∧
    ((Registry.empty config).getOrCreate r.collection).1.collection?
      ((Registry.empty config).getOrCreate r.collection).2.1 = some (r.start config).collection ∧
    (∀ (turns : List (Turn r.keyCount)) (now : Instant) (elapsed : Nat),
      Interleaved r.workers r.ops.toNat turns →
      let p := (r.start config).run turns
      let report := (r.report p now elapsed).1
      (r.start config).attempt turns = .ok p ∧
      report.operations.stores + report.operations.upserts + report.operations.expiries +
          report.operations.deletes + report.operations.resolutions =
        max r.threads.toNat 1 * r.ops.toNat ∧
      (∀ f ∈ Counters.columns,
        f report.operations = ((List.range r.workers).map fun w => f (p.countersOf w)).sum) ∧
      (∀ w < r.workers, p.countersOf w =
        .ofGains (((r.start config).gains turns).filter fun g => g.1.worker = w)) ∧
      report.remainingKeys ≤ report.remainingEntries ∧
      (report.remainingEntries = 0 ↔ report.remainingKeys = 0) ∧
      report.remainingEntries + report.purgedExpired = p.collection.size ∧
      report.collection.toList = r.collection.toList.map Char.toUpper) ∧
    ∀ (now : Instant) (g : StdGen), ∃ turns : List (Turn r.keyCount),
      Interleaved r.workers r.ops.toNat turns ∧ r.play config now g = (r.start config).run turns := by
  refine ⟨r.keyCount_pos, collection?_getOrCreate r config, fun turns now elapsed hturns => ?_,
    fun now g => exists_turns_playRounds r.keyCount_pos now r.workers r.ops.toNat _⟩
  have hlength : ((r.start config).run turns).counters.length = r.workers := by
    rw [length_counters_run]
    exact List.length_replicate
  have hstart : Owned r.keyCount r.workers (r.start config).collection := owned_start _ _ _ _
  have howned : Owned r.keyCount r.workers ((r.start config).run turns).collection :=
    owned_run hturns.worker hstart
  have hcounted : ∀ w < r.workers, ((r.start config).run turns).countersOf w =
      .ofGains (((r.start config).gains turns).filter fun g => g.1.worker = w) :=
    fun w hw => countersOf_run_start (r.freshCollection config) hw turns
  have hleft := howned.wellFormed.revise fun _ => Collection.liveEntries now
  refine ⟨attempt_eq _ turns, ?_, fun f hf => ?_, hcounted, Collection.keyCount_le_size hleft,
    Collection.size_eq_zero_iff hleft, Collection.size_purge_add _ now, ?_⟩
  · show ((r.start config).run turns).total.calls = r.workers * r.ops.toNat
    have hcalls : ∀ w ∈ List.range r.workers,
        (((r.start config).run turns).countersOf w).calls = r.ops.toNat := by
      intro w hw
      have hlt := List.mem_range.1 hw
      rw [hcounted w hlt, calls_ofGains, ← List.countP_eq_length_filter, ← hturns.turns w hlt]
      nth_rewrite 2 [← map_fst_gains (r.start config) turns]
      rw [List.countP_map]
      rfl
    rw [total_eq_sum (f := Counters.calls) rfl calls_add, hlength, List.map_congr_left hcalls]
    simp
  · obtain ⟨hzero, hadd⟩ := columns_add hf
    rw [← hlength]
    exact total_eq_sum hzero hadd _
  · show ((r.start config).run turns).collection.name.toList = _
    rw [name_run hturns.worker hstart]
    exact String.toList_ofList

/-- Two workers with two operations each on one key; the request asks for no keys, and the name of
the collection is in small letters. -/
def pair : StressRequest := ⟨2, 2, "ip", 0, none⟩

/-- The turns of the two, with what they draw: the second worker stores a value and lets it expire at
once, the first one stores a value and resolves its keys in between. -/
def pairTurns (store expire resolve : Fin 100) (delay : Fin 31) : List (Turn pair.keyCount) :=
  let key : Fin pair.keyCount := ⟨0, pair.keyCount_pos⟩
  [⟨1, ⟨key, store, delay⟩, .zero, []⟩, ⟨0, ⟨key, store, delay⟩, .zero, []⟩,
    ⟨1, ⟨key, expire, delay⟩, .zero, []⟩, ⟨0, ⟨key, resolve, delay⟩, .zero, []⟩]

/-- Four calls are reported, and of two values one is left. -/
theorem pair_adds_up :
    Interleaved pair.workers pair.ops.toNat (pairTurns 0 60 92 0) ∧
    (let p := (pair.start .standard).run (pairTurns 0 60 92 0)
      let report := (pair.report p .zero 0).1
      p.collection.size = 2 ∧ report.purgedExpired = 1 ∧ report.remainingEntries = 1 ∧
      report.operations.stores + report.operations.upserts + report.operations.expiries +
        report.operations.deletes + report.operations.resolutions = 4 ∧
      report.operations.records = 1 ∧ report.collection.toList = "IP".toList) := by
  have hturns : Interleaved pair.workers pair.ops.toNat (pairTurns 0 60 92 0) :=
    ⟨by decide, by decide⟩
  obtain ⟨-, -, hreport, -⟩ := report_adds_up pair .standard
  obtain ⟨-, hcalls, -, -, -, -, hvalues, hname⟩ := hreport (pairTurns 0 60 92 0) .zero 0 hturns
  have hsize : ((pair.start .standard).run (pairTurns 0 60 92 0)).collection.size = 2 := by cbv
  have hpurged : (pair.report ((pair.start .standard).run (pairTurns 0 60 92 0)) .zero
      0).1.purgedExpired = 1 := by cbv
  refine ⟨hturns, hsize, hpurged, by omega, hcalls, by cbv, hname⟩

end CommandLine.StressRequest
end VarStore
