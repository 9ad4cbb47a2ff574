import VarStore.Proofs.Collection.Stepwise

/-!
# A pattern narrows a scan

A resolution by a pattern is a resolution of the whole collection whose filter omits what the pattern
does not find.  They agree in everything that can be observed: the records and where they are put,
the collection afterwards, what is told by events, and the failure of a filter that fails.  Only the
filter itself could tell the difference, since the wide resolution comes to it with every key, and
`Filter.narrowed` hands on those that the pattern finds.

A pattern that does not compile finds nothing at all.  That is settled before the collection is
looked at, so nothing is read, asked or changed, and there is one warning.

* `resolveMatching_eq_resolveAll`: the two resolutions come to the same.
* `runOn_resolveMatching_eq`: so do their programs, apart from the keys that are asked about.
* `run_map_widened`: in a run, resolutions by patterns may be replaced by wide ones throughout.
-/

namespace VarStore
namespace Collection

variable {c : Collection} {pattern : String} {p : KeyPattern}

/-! ## One resolution -/

/-- A filter that is asked only about keys that the pattern finds is told apart from another one by
such keys only. -/
theorem narrowed_congr {ask ask' : Filter} (h : ∀ k, p.search k = true → ask' k = ask k) :
    ask'.narrowed p = ask.narrowed p := by
  funext k
  rw [Filter.narrowed, Filter.narrowed]
  split
  · next hk => exact h k hk
  · rfl

theorem resolveMatching_eq_resolveAll (hp : KeyPattern.compile pattern c.ignoreCase = .ok p)
    (now : Instant) (order : List String) (ask : Filter) (out : List Record) :
    c.resolveMatching now order pattern ask out =
      c.resolveAll now order "" (ask.narrowed p) out := by
  rw [resolveMatching, hp, resolveAll, if_pos rfl]
  rfl

/-- The keys about which a filter is asked go through the pattern; nothing else distinguishes the
two programs. -/
theorem runOn_resolveMatching_eq {w : Workspace} (hw : w.asked = [])
    (hp : KeyPattern.compile pattern w.collection.ignoreCase = .ok p) (now : Instant)
    (order : List String) (ask : Filter) :
    (Program.resolveMatching now order pattern ask).runOn w =
      (((Program.resolveAll now order "" (ask.narrowed p)).runOn w).1,
        { ((Program.resolveAll now order "" (ask.narrowed p)).runOn w).2 with
          asked := ((Program.resolveAll now order "" (ask.narrowed p)).runOn w).2.asked.filter
            p.search }) := by
  rw [Program.runOn_resolveMatching hp, Program.runOn_resolveAll, if_pos rfl,
    ← resolveMatching_eq_resolveAll hp]
  cases w.collection.resolveMatching now order pattern ask w.out <;>
    simp [Workspace.after, hw]

/-! ## Runs -/

/-- The wide resolution in place of one by a pattern that compiles; all else stays. -/
def Operation.widened (ignoreCase : Bool) : Operation → Operation
  | resolveMatching order pattern ask out =>
    match KeyPattern.compile pattern ignoreCase with
    | .ok p => resolveAll order "" (ask.narrowed p) out
    | .error _ => resolveMatching order pattern ask out
  | op => op

/-- The same in a call. -/
def Call.widened (ignoreCase : Bool) (x : Call) : Call := ⟨x.now, x.op.widened ignoreCase⟩

theorem perform_widened (c : Collection) (x : Call) :
    c.perform (x.widened c.ignoreCase) = c.perform x := by
  obtain ⟨now, op⟩ := x
  cases op with
  | resolveMatching order pattern ask out =>
    rw [Call.widened, Operation.widened]
    cases hp : KeyPattern.compile pattern c.ignoreCase with
    | error e => rfl
    | ok p =>
      show c.outcome (c.resolveAll now (order.arrange c.keys) "" (ask.narrowed p) out) =
        c.outcome (c.resolveMatching now (order.arrange c.keys) pattern ask out)
      rw [resolveMatching_eq_resolveAll hp]
  | _ => rfl

/-- **Patterns may be narrowed scans throughout a run.**  The way in which a collection reads
patterns does not change, so that one filter for each call can be chosen beforehand. -/
theorem run_map_widened (c : Collection) (xs : List Call) :
    c.run (xs.map (Call.widened c.ignoreCase)) = c.run xs ∧
      c.replies (xs.map (Call.widened c.ignoreCase)) = c.replies xs := by
  induction xs generalizing c with
  | nil => exact ⟨rfl, rfl⟩
  | cons x xs ih =>
    obtain ⟨hrun, hreplies⟩ := ih (c.perform x).1
    rw [ignoreCase_perform] at hrun hreplies
    rw [List.map_cons, run_cons, run_cons, replies_cons, replies_cons, perform_widened, hrun,
      hreplies]
    exact ⟨rfl, rfl⟩

/-! ## The two paths -/

/-- **A resolution by a pattern is a narrowed resolution of everything.**  For a pattern that
compiles, the two come to the same result or the same failure, and so do their programs, with the
same collection, records and events; the filter is asked about those of the keys that the pattern
finds, so another filter that differs from it elsewhere does as well.  A pattern that does not
compile leaves everything as it was, asks about nothing and gives one warning.  In a run, patterns
may be replaced by narrowed filters throughout. -/
theorem pattern_scan_is_a_narrowed_scan (c : Collection) :
    (∀ (pattern : String) (p : KeyPattern), KeyPattern.compile pattern c.ignoreCase = .ok p →
      ∀ (now : Instant) (order : List String) (ask : Filter) (out : List Record),
        c.resolveMatching now order pattern ask out =
            c.resolveAll now order "" (ask.narrowed p) out ∧
        (Program.resolveMatching now order pattern ask).runOn ⟨c, out, [], []⟩ =
            (((Program.resolveAll now order "" (ask.narrowed p)).runOn ⟨c, out, [], []⟩).1,
              { ((Program.resolveAll now order "" (ask.narrowed p)).runOn ⟨c, out, [], []⟩).2 with
                asked := ((Program.resolveAll now order "" (ask.narrowed p)).runOn
                  ⟨c, out, [], []⟩).2.asked.filter p.search }) ∧
        ∀ ask' : Filter, (∀ k, p.search k = true → ask' k = ask k) →
          c.resolveMatching now order pattern ask' out =
            c.resolveMatching now order pattern ask out) ∧
    (∀ (pattern : String) (e : InvalidPattern),
      KeyPattern.compile pattern c.ignoreCase = .error e →
      ∀ (now : Instant) (order : List String) (ask : Filter) (out : List Record),
        c.resolveMatching now order pattern ask out =
            .ok ⟨c, out, [.patternRejected c.name e]⟩ ∧
        (Program.resolveMatching now order pattern ask).runOn ⟨c, out, [], []⟩ =
            (.ok (), ⟨c, out, [.patternRejected c.name e], []⟩) ∧
        (Event.patternRejected c.name e).level = .warn) ∧
    ∀ xs : List Call, c.run (xs.map (Call.widened c.ignoreCase)) = c.run xs ∧
      c.replies (xs.map (Call.widened c.ignoreCase)) = c.replies xs := by
  refine ⟨fun pattern p hp now order ask out => ⟨?_, ?_, fun ask' h => ?_⟩,
    fun pattern e he now order ask out => ?_, run_map_widened c⟩
  · exact resolveMatching_eq_resolveAll hp now order ask out
  · exact runOn_resolveMatching_eq rfl hp now order ask
  · rw [resolveMatching_eq_resolveAll hp, resolveMatching_eq_resolveAll hp, narrowed_congr h]
  · have hresolve : c.resolveMatching now order pattern ask out =
        .ok ⟨c, out, [.patternRejected c.name e]⟩ := by
      rw [resolveMatching, he]
    have hrun := Program.runOn_resolveMatching_of_error (w := ⟨c, out, [], []⟩) he now order ask
    rw [hresolve] at hrun
    exact ⟨hresolve, hrun, rfl⟩

/-- A value under `a` and one under `b`. -/
def twoKeys : Collection :=
  (named "vars").run [⟨.zero, .store "a" "x"⟩, ⟨.zero, .store "b" "y"⟩]

/-- A pattern that finds `b` and not `a` keeps a filter from failing on `a`, and an open group does
not compile. -/
theorem twoKeys_narrowed :
    (∃ p, KeyPattern.compile "b" twoKeys.ignoreCase = .ok p ∧
      twoKeys.resolveMatching .zero ["a", "b"] "b" (.failingOn "a") [] =
        twoKeys.resolveAll .zero ["a", "b"] "" ((Filter.failingOn "a").narrowed p) [] ∧
      twoKeys.resolveMatching .zero ["a", "b"] "b" (.failingOn "a") [] =
        twoKeys.resolveMatching .zero ["a", "b"] "b" .keepAll []) ∧
    ∃ e, KeyPattern.compile "(" twoKeys.ignoreCase = .error e ∧
      twoKeys.resolveMatching .zero ["a", "b"] "(" (.failingOn "a") [] =
        .ok ⟨twoKeys, [], [.patternRejected "vars" e]⟩ := by
  obtain ⟨hcompiled, hrejected, -⟩ := pattern_scan_is_a_narrowed_scan twoKeys
  constructor
  · obtain ⟨p, hp, ha⟩ := KeyPattern.exists_compile_b twoKeys.ignoreCase
    obtain ⟨hwide, -, hsame⟩ := hcompiled "b" p hp .zero ["a", "b"] (.failingOn "a") []
    refine ⟨p, hp, hwide, (hsame .keepAll fun k hk => ?_).symm⟩
    have hne : k ≠ "a" := by
      rintro rfl
      rw [ha] at hk
      cases hk
    rw [Filter.failingOn_of_ne hne, Filter.keepAll_apply]
  · have hopen : (KeyPattern.compile "(" true).toOption.isNone = true := by cbv
    cases he : KeyPattern.compile "(" twoKeys.ignoreCase with
    | ok p =>
      have hok : KeyPattern.compile "(" true = .ok p := he
      rw [hok] at hopen
      cases hopen
    | error e => exact ⟨e, rfl, (hrejected "(" e he .zero ["a", "b"] (.failingOn "a") []).1⟩

end Collection
end VarStore
