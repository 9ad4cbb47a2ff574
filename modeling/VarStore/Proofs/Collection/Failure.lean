import VarStore.Proofs.Collection.Stepwise

/-!
# Filters that fail

A filter belongs to the caller and may fail in the middle of a scan, while the collection is locked.
All that a resolution has done by then is to read and to ask: what it has found is still its own, it
erases and delivers when the scan is over, and by then no filter can fail any more.  So a resolution
that fails has changed nothing, and the lock, which is poisoned by the failure, guards a collection
that is as good as before.  The next call takes it nevertheless.

A call fails exactly if its filter fails on one of the keys that it is asked about, and these are
known beforehand: the key in question, or in a scan the keys in their order up to the one whose
expired value stops it (`scanned`), or those of them that the pattern finds.  The filter is asked
about them in this order until it fails.

* `FailsCleanly`: when a program fails, what it has asked about, and that it has changed nothing.
* `Shared`: a collection behind a lock, with the resolutions made as programs.
* `Shared.run_eq`: the lock makes no difference to what calls return and leave.
* `failing_filter_changes_nothing`: the two together.
-/

namespace VarStore
namespace Collection

/-! ## When a resolution fails -/

/-- What may come of a program that asks a filter about some keys.  It fails exactly if the filter
fails on one of the keys.  It asks about the keys in their order, about all of them if it does not
fail; if it does, then on the last one about which it has asked, and it leaves the collection, the
records of the caller and the events as they were. -/
structure FailsCleanly (ask : Filter) (keys : List String) (w : Workspace)
    (after : Except String Unit × Workspace) : Prop where
  fails_iff : (∃ message, after.1 = .error message) ↔ ∃ k ∈ keys, ask.failsOn k = true
  inOrder : after.2.asked <+: keys
  complete : after.1 = .ok () → after.2.asked = keys
  last : ∀ message, after.1 = .error message →
    ∃ k, after.2.asked.getLast? = some k ∧ ask k = .fail message
  unchanged : ∀ message, after.1 = .error message →
    after.2.collection = w.collection ∧ after.2.out = w.out ∧ after.2.events = w.events

variable {ask g : Filter} {q : String → Bool} {keys : List String} {w : Workspace}
  {after : Except String Unit × Workspace}

/-- A program that has asked about all the keys, and on none of them the filter fails. -/
theorem FailsCleanly.of_ok (h : after.1 = .ok ()) (hasked : after.2.asked = keys)
    (hno : ∀ k ∈ keys, ask.failsOn k = false) : FailsCleanly ask keys w after := by
  have hne : ∀ message, after.1 ≠ .error message := by
    intro message he
    rw [h] at he
    cases he
  refine ⟨⟨?_, ?_⟩, hasked ▸ List.prefix_refl _, fun _ => hasked, ?_, ?_⟩
  · rintro ⟨message, he⟩
    exact absurd he (hne message)
  · rintro ⟨k, hk, hfails⟩
    rw [hno k hk] at hfails
    cases hfails
  · exact fun message he => absurd he (hne message)
  · exact fun message he => absurd he (hne message)

/-- A program that has failed together with its filter, and has changed nothing before. -/
theorem FailsCleanly.of_error {message : String} {k : String} (h : after.1 = .error message)
    (hasked : after.2.asked <+: keys) (hlast : after.2.asked.getLast? = some k)
    (hk : ask k = .fail message) (hcollection : after.2.collection = w.collection)
    (hout : after.2.out = w.out) (hevents : after.2.events = w.events) :
    FailsCleanly ask keys w after := by
  have hmem : k ∈ keys := hasked.subset (List.mem_of_getLast? hlast)
  refine ⟨⟨fun _ => ⟨k, hmem, Filter.failsOn_iff.2 ⟨message, hk⟩⟩, fun _ => ⟨message, h⟩⟩, hasked,
    fun hok => ?_, fun message' h' => ?_, fun _ _ => ⟨hcollection, hout, hevents⟩⟩
  · rw [h] at hok
    cases hok
  · rw [h] at h'
    exact ⟨k, hlast, hk.trans (congrArg Verdict.fail (Except.error.inj h'))⟩

/-- A filter that hands on some keys to another one fails on those of them on which that one
fails. -/
theorem failsOn_handedOn (hg : ∀ k, g k = if q k then ask k else .omit) (k : String) :
    g.failsOn k = (q k && ask.failsOn k) := by
  rw [Filter.failsOn, hg]
  cases q k <;> rfl

/-- **A scan fails cleanly**, also if its filter hands on to another one only the keys with some
property: it is this other filter that is asked and that fails. -/
theorem failsCleanly_scan (hg : ∀ k, g k = if q k then ask k else .omit) (now : Instant)
    (keys : List String) (hw : w.asked = []) :
    FailsCleanly ask ((w.collection.scanned now g keys).filter q) w
      (w.after ((w.collection.asked now g keys).filter q)
        (w.collection.resolveOrder now keys g w.out)) := by
  have hnil : ∀ l, w.asked ++ l = l := fun l => by rw [hw, List.nil_append]
  rw [resolveOrder]
  rcases readFiltered_cases w.collection now g keys with
    ⟨p, hp, hasked, hno⟩ | ⟨message, hp, k, hlast, hk⟩
  · rw [hp, hasked]
    refine .of_ok rfl (hnil _) fun k hmem => ?_
    obtain ⟨hscanned, hq⟩ := List.mem_filter.1 hmem
    have := hno k hscanned
    rwa [failsOn_handedOn hg, hq, Bool.true_and] at this
  · -- the last key that is asked about is one of those that are handed on
    have hq : q k = true := by
      by_contra hq
      rw [hg, if_neg hq] at hk
      cases hk
    rw [hg, if_pos hq] at hk
    obtain ⟨front, hfront⟩ := List.getLast?_eq_some_iff.1 hlast
    have hlast' : ((w.collection.asked now g keys).filter q).getLast? = some k := by
      rw [hfront, List.filter_append, List.filter_cons_of_pos hq, List.filter_nil,
        List.getLast?_concat]
    rw [hp]
    refine .of_error rfl ?_ ((congrArg List.getLast? (hnil _)).trans hlast') hk rfl rfl rfl
    show w.asked ++ _ <+: _
    rw [hnil]
    exact (asked_prefix_scanned w.collection now g keys).filter q

/-- The resolution of one key or of all of them fails cleanly.  A single key is asked about even if
there is nothing under it. -/
theorem failsCleanly_resolveAll (now : Instant) (order : List String) (k : String) (ask : Filter)
    (hw : w.asked = []) :
    FailsCleanly ask (if k = "" then w.collection.scanned now ask order else [k]) w
      ((Program.resolveAll now order k ask).runOn w) := by
  have hscan := failsCleanly_scan (g := ask) (q := fun _ => true) (fun _ => (if_pos rfl).symm) now
    (if k = "" then order else [k]) hw
  rw [List.filter_true, List.filter_true] at hscan
  have hkeys : (if k = "" then w.collection.scanned now ask order else [k]) =
      w.collection.scanned now ask (if k = "" then order else [k]) := by
    split
    · rfl
    · exact (upTo_singleton _ k).symm
  rw [Program.runOn_resolveAll, hkeys]
  exact hscan

/-- The resolution of the keys that a pattern finds fails cleanly. -/
theorem failsCleanly_resolveMatching {pattern : String} {p : KeyPattern}
    (hp : KeyPattern.compile pattern w.collection.ignoreCase = .ok p) (now : Instant)
    (order : List String) (ask : Filter) (hw : w.asked = []) :
    FailsCleanly ask ((w.collection.scanned now (ask.narrowed p) order).filter p.search) w
      ((Program.resolveMatching now order pattern ask).runOn w) := by
  have hscan := failsCleanly_scan (g := ask.narrowed p) (q := p.search) (fun _ => rfl) now order hw
  rw [Program.runOn_resolveMatching hp, resolveMatching, hp]
  exact hscan

/-- With a pattern that does not compile there is nothing to ask and nothing that fails. -/
theorem failsCleanly_resolveMatching_of_error {pattern : String} {e : InvalidPattern}
    (he : KeyPattern.compile pattern w.collection.ignoreCase = .error e) (now : Instant)
    (order : List String) (ask : Filter) (hw : w.asked = []) :
    FailsCleanly ask [] w ((Program.resolveMatching now order pattern ask).runOn w) := by
  rw [Program.runOn_resolveMatching_of_error he, resolveMatching, he]
  refine .of_ok rfl ?_ fun k hk => absurd hk List.not_mem_nil
  show w.asked ++ [] = []
  rw [hw, List.append_nil]

/-- A program that leaves what a resolution comes to fails together with it. -/
theorem fst_after (w : Workspace) (asked : List String) (r : Except String Resolution) :
    (w.after asked r).1 = r.map fun _ => () := by
  cases r <;> rfl

/-! ## Behind a lock -/

/-- A collection behind a lock.  The lock is poisoned once a call has broken down while holding
it. -/
structure Shared where
  collection : Collection
  poisoned : Bool

namespace Shared

/-- Ask for the lock.  It is given in any case, but a poisoned one only under protest. -/
def acquire (s : Shared) : Except Collection Collection :=
  if s.poisoned then .error s.collection else .ok s.collection

/-- Take the lock, poisoned or not. -/
def lock (s : Shared) : Collection :=
  match s.acquire with
  | .ok c => c
  | .error c => c

/-- Run a program on the locked collection and the records of a caller. -/
def attempt (s : Shared) (out : List Record) (x : Program Unit) : Shared × Reply :=
  match x.runOn ⟨s.lock, out, [], []⟩ with
  | (.ok (), w) => (⟨w.collection, s.poisoned⟩, ⟨.records w.out, w.events⟩)
  | (.error message, w) => (⟨w.collection, true⟩, ⟨.failed message, w.events⟩)

/-- Make a call.  Only resolutions that ask a filter can break down. -/
def perform (s : Shared) (x : Call) : Shared × Reply :=
  match x.op with
  | .resolveAll order k ask out =>
    s.attempt out (Program.resolveAll x.now (order.arrange s.lock.keys) k ask)
  | .resolveMatching order pattern ask out =>
    s.attempt out (Program.resolveMatching x.now (order.arrange s.lock.keys) pattern ask)
  | _ => (⟨(s.lock.perform x).1, s.poisoned⟩, (s.lock.perform x).2)

/-- The collection and its lock after a run. -/
def run (s : Shared) : List Call → Shared
  | [] => s
  | x :: xs => (s.perform x).1.run xs

/-- What the calls of a run return. -/
def replies (s : Shared) : List Call → List Reply
  | [] => []
  | x :: xs => (s.perform x).2 :: (s.perform x).1.replies xs

@[simp] theorem lock_eq (s : Shared) : s.lock = s.collection := by
  rw [lock, acquire]
  cases s.poisoned <;> rfl

/-- A program that leaves what a resolution comes to is that resolution. -/
theorem attempt_eq {s : Shared} {out : List Record} {x : Program Unit} {asked : List String}
    {r : Except String Resolution}
    (h : x.runOn ⟨s.lock, out, [], []⟩ = Workspace.after ⟨s.lock, out, [], []⟩ asked r) :
    (s.attempt out x).1.collection = (s.lock.outcome r).1 ∧
      (s.attempt out x).2 = (s.lock.outcome r).2 := by
  rw [attempt, h]
  cases r <;> exact ⟨rfl, rfl⟩

/-- **A call behind the lock** is the call itself, whether the lock is poisoned or not. -/
theorem perform_eq (s : Shared) (x : Call) :
    (s.perform x).1.collection = (s.collection.perform x).1 ∧
      (s.perform x).2 = (s.collection.perform x).2 := by
  obtain ⟨now, op⟩ := x
  rw [← lock_eq s]
  cases op with
  | resolveAll order k ask out =>
    exact attempt_eq (Program.runOn_resolveAll now (order.arrange s.lock.keys) k ask _)
  | resolveMatching order pattern ask out =>
    cases hp : KeyPattern.compile pattern s.lock.ignoreCase with
    | ok p => exact attempt_eq (Program.runOn_resolveMatching hp now _ ask)
    | error e => exact attempt_eq (Program.runOn_resolveMatching_of_error hp now _ ask)
  | _ => exact ⟨rfl, rfl⟩

/-- A run behind the lock is the run itself. -/
theorem run_eq (s : Shared) (xs : List Call) :
    (s.run xs).collection = s.collection.run xs ∧ s.replies xs = s.collection.replies xs := by
  induction xs generalizing s with
  | nil => exact ⟨rfl, rfl⟩
  | cons x xs ih =>
    obtain ⟨hcollection, hreply⟩ := s.perform_eq x
    obtain ⟨hrun, hreplies⟩ := ih (s.perform x).1
    rw [hcollection] at hrun hreplies
    exact ⟨hrun, congrArg₂ List.cons hreply hreplies⟩

/-- A program that fails poisons the lock. -/
theorem poisoned_attempt {s : Shared} {out : List Record} {x : Program Unit} {message : String}
    (h : (s.attempt out x).2.answer = .failed message) : (s.attempt out x).1.poisoned = true := by
  rw [attempt] at h ⊢
  split at h
  · cases h
  · rfl

end Shared

/-- A call that fails comes to nothing. -/
theorem perform_of_failed {c : Collection} {x : Call} {message : String}
    (h : (c.perform x).2.answer = .failed message) :
    (c.perform x).1 = c ∧ (c.perform x).2.events = [] := by
  cases hx : x.op.isResolution with
  | true =>
    rcases perform_resolution c hx with ⟨message', heq⟩ | ⟨events, heq⟩
    · rw [heq]
      exact ⟨rfl, rfl⟩
    · rw [heq] at h
      cases h
  | false =>
    obtain ⟨now, op⟩ := x
    cases op with
    | resolveKey k out => cases hx
    | resolveAll order k ask out => cases hx
    | resolveMatching order pattern ask out => cases hx
    | _ => cases h

/-- **A call that fails leaves the collection to the next one as it was**, behind a lock that is
poisoned from now on. -/
theorem Shared.perform_of_failed {s : Shared} {x : Call} {message : String}
    (h : (s.perform x).2.answer = .failed message) :
    (s.perform x).1 = ⟨s.collection, true⟩ ∧ (s.perform x).2.events = [] := by
  obtain ⟨hcollection, hreply⟩ := s.perform_eq x
  have hfailed : (s.collection.perform x).2.answer = .failed message := hreply ▸ h
  obtain ⟨hsame, hevents⟩ := Collection.perform_of_failed hfailed
  have hpoisoned : (s.perform x).1.poisoned = true := by
    obtain ⟨now, op⟩ := x
    cases op with
    | resolveAll order k ask out => exact poisoned_attempt h
    | resolveMatching order pattern ask out => exact poisoned_attempt h
    | _ => cases hfailed
  refine ⟨?_, (congrArg Reply.events hreply).trans hevents⟩
  calc (s.perform x).1 = ⟨(s.perform x).1.collection, (s.perform x).1.poisoned⟩ := rfl
    _ = ⟨s.collection, true⟩ := by rw [hcollection, hsame, hpoisoned]

/-! ## Failing and going on -/

/-- **A filter that fails changes nothing.**  Resolving one key or all of them fails exactly if the
filter fails on the key, or on one of the keys up to the one that stops the scan; resolving by a
pattern does if the filter fails on one of these that the pattern finds; and one that fails has asked
up to that key, and has changed neither the collection nor the records of the caller, nor told of an
erasure.  What a call comes to does not depend on the lock being poisoned, so that after a call that
failed, and has poisoned it, every further run returns and leaves what it would have without this
call. -/
theorem failing_filter_changes_nothing (s : Shared) :
    (∀ (now : Instant) (order : List String) (k : String) (ask : Filter) (out : List Record),
      FailsCleanly ask (if k = "" then s.collection.scanned now ask order else [k])
          ⟨s.collection, out, [], []⟩
          ((Program.resolveAll now order k ask).runOn ⟨s.collection, out, [], []⟩) ∧
        ((Program.resolveAll now order k ask).runOn ⟨s.collection, out, [], []⟩).1 =
          (s.collection.resolveAll now order k ask out).map fun _ => ()) ∧
    (∀ (now : Instant) (order : List String) (pattern : String) (ask : Filter)
        (out : List Record),
      (∀ p, KeyPattern.compile pattern s.collection.ignoreCase = .ok p →
        FailsCleanly ask
          ((s.collection.scanned now (ask.narrowed p) order).filter p.search)
          ⟨s.collection, out, [], []⟩
          ((Program.resolveMatching now order pattern ask).runOn ⟨s.collection, out, [], []⟩)) ∧
      (∀ e, KeyPattern.compile pattern s.collection.ignoreCase = .error e →
        FailsCleanly ask [] ⟨s.collection, out, [], []⟩
          ((Program.resolveMatching now order pattern ask).runOn ⟨s.collection, out, [], []⟩)) ∧
      ((Program.resolveMatching now order pattern ask).runOn ⟨s.collection, out, [], []⟩).1 =
        (s.collection.resolveMatching now order pattern ask out).map fun _ => ()) ∧
    (∀ x : Call, (s.perform x).1.collection = (s.collection.perform x).1 ∧
      (s.perform x).2 = (s.collection.perform x).2) ∧
    ∀ (x : Call) (message : String), (s.perform x).2.answer = .failed message →
      (s.perform x).1 = ⟨s.collection, true⟩ ∧ (s.perform x).2.events = [] ∧
        ∀ ys : List Call, ((s.perform x).1.run ys).collection = (s.run ys).collection ∧
          (s.perform x).1.replies ys = s.replies ys := by
  refine ⟨fun now order k ask out => ⟨?_, ?_⟩, fun now order pattern ask out => ⟨?_, ?_, ?_⟩,
    s.perform_eq, fun x message h => ?_⟩
  · exact failsCleanly_resolveAll (w := ⟨s.collection, out, [], []⟩) now order k ask rfl
  · rw [Program.runOn_resolveAll, fst_after]
  · exact fun p hp => failsCleanly_resolveMatching (w := ⟨s.collection, out, [], []⟩) hp now order
      ask rfl
  · exact fun e he => failsCleanly_resolveMatching_of_error (w := ⟨s.collection, out, [], []⟩) he now
      order ask rfl
  · cases hp : KeyPattern.compile pattern s.collection.ignoreCase with
    | ok p => rw [Program.runOn_resolveMatching hp, fst_after]
    | error e => rw [Program.runOn_resolveMatching_of_error hp, fst_after]
  · obtain ⟨hsame, hevents⟩ := Shared.perform_of_failed h
    refine ⟨hsame, hevents, fun ys => ?_⟩
    obtain ⟨hrun, hreplies⟩ := (s.perform x).1.run_eq ys
    obtain ⟨hrun', hreplies'⟩ := s.run_eq ys
    rw [hrun, hreplies, hrun', hreplies', hsame]
    exact ⟨rfl, rfl⟩

/-- Three keys, and an expired value under the second one. -/
def agedMiddle : Collection :=
  (named "vars").run [⟨.zero, .store "a" "x"⟩, ⟨.zero, .store "b" "y"⟩,
    ⟨.zero, .setExpiry "b" 0⟩, ⟨.zero, .store "c" "z"⟩]

/-- A filter that fails on `a` makes a scan fail that comes to `a` first, but not one that is stopped
at `b` before that, nor one by a pattern that does not find `a`.  It makes a resolution of `a` fail
where there is no such key, and all goes on. -/
theorem agedMiddle_fails_cleanly :
    (∃ message, ((Program.resolveAll .zero ["c", "a", "b"] "" (.failingOn "a")).runOn
        ⟨agedMiddle, [], [], []⟩).1 = .error message) ∧
    (¬ ∃ message, ((Program.resolveAll .zero ["c", "b", "a"] "" (.failingOn "a")).runOn
        ⟨agedMiddle, [], [], []⟩).1 = .error message) ∧
    (∃ p, KeyPattern.compile "b" agedMiddle.ignoreCase = .ok p ∧
      ¬ ∃ message, ((Program.resolveMatching .zero ["c", "a", "b"] "b" (.failingOn "a")).runOn
        ⟨agedMiddle, [], [], []⟩).1 = .error message) ∧
    ∀ ys, ((⟨named "vars", false⟩ : Shared).perform
        ⟨.zero, .resolveAll .asStored "a" (.failingOn "a") []⟩).1.replies ys =
      (⟨named "vars", false⟩ : Shared).replies ys := by
  obtain ⟨hall, hmatching, -, -⟩ := failing_filter_changes_nothing ⟨agedMiddle, false⟩
  obtain ⟨-, -, -, hlater⟩ := failing_filter_changes_nothing ⟨named "vars", false⟩
  refine ⟨?_, ?_, ?_, fun ys => ?_⟩
  · refine (hall .zero ["c", "a", "b"] "" (.failingOn "a") []).1.fails_iff.2 ⟨"a", ?_, rfl⟩
    decide
  · rw [(hall .zero ["c", "b", "a"] "" (.failingOn "a") []).1.fails_iff]
    decide
  · obtain ⟨p, hp, ha⟩ := KeyPattern.exists_compile_b agedMiddle.ignoreCase
    refine ⟨p, hp, fun hfails => ?_⟩
    obtain ⟨k, hk, hfails⟩ :=
      ((hmatching .zero ["c", "a", "b"] "b" (.failingOn "a") []).1 p hp).fails_iff.1 hfails
    obtain rfl : k = "a" := by simpa using hfails
    rw [(List.mem_filter.1 hk).2] at ha
    cases ha
  · exact ((hlater _ "out of order" rfl).2.2 ys).2

end Collection
end VarStore
