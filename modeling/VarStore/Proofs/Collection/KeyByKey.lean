import VarStore.Proofs.Collection.Call

/-!
# A scan of everything, key by key

A resolution of the whole collection reads through all the buckets first.  What it has found is put
in front of the records of the caller in one go, and the expired value that stopped it is erased
when the reading is over.  It might as well resolve one key after the other, each into a list of its
own, put what it gets in front of what it has, and stop after the first call that erased something
(`resolveEach`).  The two agree although the second changes the collection on the way, because a call
that changes it is the last one.

Keys that are hidden have no part in it: they are passed over before anything is read, so it does
not matter what is under them.

* `resolveEach`: the loop over single keys.
* `resolveEach_eq`: the loop leaves what a scan of the keys that are not hidden leaves.
* `wide_scan_is_key_by_key`: so does a resolution of the whole collection.
-/

namespace VarStore
namespace Collection

variable {c d : Collection} {now : Instant} {k : String} {keys : List String}
  {hidden : String → Bool}

/-! ## The loop -/

/-- Resolve keys one after the other, those that are hidden apart, and stop after the first call that
erased something. -/
def resolveEach (c : Collection) (now : Instant) (hidden : String → Bool) :
    List String → List Record → Resolution
  | [], out => ⟨c, out, []⟩
  | k :: keys, out =>
    if hidden k then c.resolveEach now hidden keys out
    else
      match c.resolveKey now k [] with
      | ⟨d, found, []⟩ => d.resolveEach now hidden keys (found.reverse ++ out)
      | ⟨d, found, events⟩ => ⟨d, found.reverse ++ out, events⟩

/-- **The loop leaves what a scan leaves** of the keys that are not hidden.  The induction is on the
keys; as long as the loop goes on, the collection is the one it started with. -/
theorem resolveEach_eq (c : Collection) (now : Instant) (hidden : String → Bool)
    (keys : List String) (out : List Record) :
    c.resolveEach now hidden keys out =
      ⟨c.afterScan now (keys.filter fun k => !hidden k),
        (c.read now (keys.filter fun k => !hidden k)).reverse ++ out,
        c.scanEvents now (keys.filter fun k => !hidden k)⟩ := by
  induction keys generalizing out with
  | nil => rfl
  | cons k keys ih =>
    rw [resolveEach]
    cases hk : hidden k with
    | true =>
      rw [if_pos rfl, List.filter_cons_of_neg (by simp [hk]), ih]
    | false =>
      rw [if_neg Bool.false_ne_true, List.filter_cons_of_pos (by simp [hk])]
      cases hexp : hasExpired now (c.bucket k) with
      | true =>
        rw [resolveKey_of_hasExpired hexp, read_cons_of_hasExpired hexp, afterScan, scanEvents,
          stop?_cons_of_hasExpired hexp]
        rfl
      | false =>
        rw [resolveKey_of_not_hasExpired hexp, List.nil_append, read_cons_of_not_hasExpired hexp,
          afterScan, scanEvents, stop?_cons_of_not_hasExpired hexp, List.reverse_append,
          List.append_assoc]
        exact ih _

/-! ## What is hidden -/

/-- A resolution to which hidden keys are nothing: it returns no record of them in front of the
records it was given, it changes nothing under them, and erases no value of theirs. -/
structure Ignores (hidden : String → Bool) (c : Collection) (out : List Record)
    (r : Resolution) : Prop where
  records : ∃ found, r.records = found ++ out ∧ ∀ x ∈ found, hidden x.key = false
  buckets : ∀ k, hidden k = true → r.collection.bucket k = c.bucket k
  events : ∀ e ∈ r.events, ∃ k, hidden k = false ∧ e = .erased c.name k

theorem hidden_eq_false_of_mem {keys : List String}
    (hk : k ∈ keys.filter fun k => !hidden k) : hidden k = false := by
  simpa using (List.mem_filter.1 hk).2

theorem ignores_resolveEach (c : Collection) (now : Instant) (hidden : String → Bool)
    (keys : List String) (out : List Record) :
    Ignores hidden c out (c.resolveEach now hidden keys out) := by
  rw [resolveEach_eq]
  refine ⟨⟨_, rfl, fun r hr => ?_⟩, fun k hk => ?_, fun e he => ?_⟩
  · exact hidden_eq_false_of_mem (key_mem_of_mem_read (List.mem_reverse.1 hr))
  · refine bucket_afterScan_of_notMem now fun hmem => ?_
    rw [hidden_eq_false_of_mem hmem] at hk
    cases hk
  · obtain ⟨k, hk, rfl⟩ := List.mem_map.1 he
    exact ⟨k, hidden_eq_false_of_mem (mem_of_stop?_eq_some (Option.mem_toList.1 hk)), rfl⟩

/-- What is under hidden keys makes no difference to the loop: it cannot stop it either. -/
theorem resolveEach_congr (hname : d.name = c.name)
    (h : ∀ k, hidden k = false → d.bucket k = c.bucket k) (now : Instant) (keys : List String)
    (out : List Record) :
    (d.resolveEach now hidden keys out).records = (c.resolveEach now hidden keys out).records ∧
    (d.resolveEach now hidden keys out).events = (c.resolveEach now hidden keys out).events ∧
    ∀ k, hidden k = false → (d.resolveEach now hidden keys out).collection.bucket k =
      (c.resolveEach now hidden keys out).collection.bucket k := by
  have hvisible : ∀ k ∈ keys.filter fun k => !hidden k, d.bucket k = c.bucket k :=
    fun k hk => h k (hidden_eq_false_of_mem hk)
  obtain ⟨hstop, hread⟩ := read_congr hname now hvisible
  rw [resolveEach_eq, resolveEach_eq, hread, scanEvents, scanEvents, hstop, hname]
  refine ⟨rfl, rfl, fun k hk => ?_⟩
  rw [bucket_afterScan, bucket_afterScan, hstop, h k hk]

/-- **A scan of everything is a sequence of scans of single keys.**  Whatever is in the collection
and in whatever order its keys are visited, a resolution of all of it does not fail as long as its
filter does not, and leaves the collection, the records and the event of the loop that resolves one
key after the other.  Hidden keys are not returned, they lose nothing, and whatever is under them
they do not stop the others from being visited. -/
theorem wide_scan_is_key_by_key (c : Collection) (now : Instant) (order : List String)
    (hidden : String → Bool) (out : List Record) :
    c.resolveAll now order "" (.omitting hidden) out = .ok (c.resolveEach now hidden order out) ∧
    Ignores hidden c out (c.resolveEach now hidden order out) ∧
    ∀ d : Collection, d.name = c.name → (∀ k, hidden k = false → d.bucket k = c.bucket k) →
      (d.resolveEach now hidden order out).records =
          (c.resolveEach now hidden order out).records ∧
        (d.resolveEach now hidden order out).events =
          (c.resolveEach now hidden order out).events ∧
        ∀ k, hidden k = false → (d.resolveEach now hidden order out).collection.bucket k =
          (c.resolveEach now hidden order out).collection.bucket k := by
  refine ⟨?_, ignores_resolveEach c now hidden order out, fun d hname h =>
    resolveEach_congr hname h now order out⟩
  rw [resolveAll, if_pos rfl, resolveOrder_omitting, resolveEach_eq]

/-- Two values under the empty key, and an expired value in front of another one under `a` and under
`b`. -/
def threeKeys : Collection :=
  (named "vars").run
    [⟨.zero, .store "" "x"⟩, ⟨.zero, .store "" "y"⟩, ⟨.zero, .store "a" "z"⟩,
      ⟨.zero, .setExpiry "a" 0⟩, ⟨.zero, .store "b" "u"⟩, ⟨.zero, .setExpiry "b" 0⟩,
      ⟨.zero, .store "b" "v"⟩]

/-- With `a` hidden, the scan stops at `b`; it would do so as well if there were nothing under
`a`. -/
theorem threeKeys_key_by_key :
    threeKeys.resolveAll .zero ["", "a", "b"] "" (.omitting (· = "a")) [] =
        .ok (threeKeys.resolveEach .zero (· = "a") ["", "a", "b"] []) ∧
      (threeKeys.resolveEach .zero (· = "a") ["", "a", "b"] []).records =
        [⟨"vars", "", "y"⟩, ⟨"vars", "", "x"⟩] ∧
      (threeKeys.resolveEach .zero (· = "a") ["", "a", "b"] []).events = [.erased "vars" "b"] ∧
      (threeKeys.resolveEach .zero (· = "a") ["", "a", "b"] []).collection.bucket "a" =
        threeKeys.bucket "a" ∧
      ((threeKeys.erase "a").resolveEach .zero (· = "a") ["", "a", "b"] []).records =
        [⟨"vars", "", "y"⟩, ⟨"vars", "", "x"⟩] := by
  obtain ⟨hwide, hignores, hsame⟩ :=
    wide_scan_is_key_by_key threeKeys .zero ["", "a", "b"] (· = "a") []
  refine ⟨hwide, by decide, by decide, hignores.buckets "a" (by decide), ?_⟩
  rw [(hsame (threeKeys.erase "a") rfl fun k hk => ?_).1]
  · decide
  · rw [erase, bucket_setBucket, if_neg (of_decide_eq_false hk)]

end Collection
end VarStore
