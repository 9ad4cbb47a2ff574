import VarStore.Proofs.Collection.Output
import VarStore.Proofs.Collection.Representation
import VarStore.Proofs.Collection.Settling

/-!
# Resolving one key

Two resolutions read a single bucket: the one that asks nobody and puts what it finds behind the records
of the caller, and the one that asks a filter first and puts what it finds in front, the last record
first.  All else that is known of resolutions goes back to what these two do, so it is said here in full,
down to the pairs of the collection.

`ResolvesKey` says it without scanning anything.  Either no value of the bucket is expired; then all of
them are handed out, and nothing happens.  Or the bucket is split at its first expired value; then the
values in front are handed out, this one value is gone, and every other value is where it was.  The
relation leaves no room: there is one resolution that it allows, and this is the one that is made
(`resolving_a_key_is_exact`).  Payloads may be equal and more values may be expired, so it is the place of
the value that counts, and not what it is.

* `Loses`: a collection that has lost one value.
* `ResolvesKey`: what resolving a key comes to.
* `keyed_scan_agrees_with_resolveKey`: the resolution that asks does the same if it is told to go on, and
  nothing at all if it is told to leave the key out.
-/

namespace VarStore

namespace Buckets

variable {m before after : Buckets} {k : String}

/-! ## One pair among the others -/

theorem keys_append (before after : Buckets) : keys (before ++ after) = before.keys ++ after.keys :=
  List.map_append

theorem place_append (h : k ∉ before.keys) (b c : List Entry) :
    place k b (before ++ (k, c) :: after) = before ++ (k, b) :: after := by
  induction before with
  | nil => exact if_pos rfl
  | cons p before ih =>
    obtain ⟨j, a⟩ := p
    rw [keys_cons, List.mem_cons, not_or] at h
    rw [List.cons_append, place, if_neg (Ne.symm h.1), ih h.2, List.cons_append]

theorem erase_append (hbefore : k ∉ before.keys) (hafter : k ∉ after.keys) (c : List Entry) :
    erase (before ++ (k, c) :: after) k = before ++ after := by
  have hsplit : erase (before ++ (k, c) :: after) k = before.erase k ++ erase ((k, c) :: after) k :=
    List.filter_append ..
  rw [hsplit, erase_cons, if_pos rfl, erase_eq_self hbefore, erase_eq_self hafter]

/-- **The pair of a key stands between the others**, and stays where it is when its bucket is replaced,
unless nothing is left in it. -/
theorem WellFormed.exists_append (h : m.WellFormed) (hk : k ∈ m.keys) :
    ∃ before after, m = before ++ (k, m.get k) :: after ∧
      ∀ b, m.put k b = before ++ if b = [] then after else (k, b) :: after := by
  obtain ⟨before, after, hm⟩ := List.append_of_mem (mem_of_mem_keys hk)
  have hnodup := h.1
  rw [hm, keys_append, keys_cons, List.nodup_append, List.nodup_cons] at hnodup
  obtain ⟨-, ⟨hafter, -⟩, hdisjoint⟩ := hnodup
  have hbefore : k ∉ keys before := fun hmem => hdisjoint k hmem k List.mem_cons_self rfl
  refine ⟨before, after, hm, fun b => ?_⟩
  by_cases hb : b = []
  · rw [if_pos hb, hb, put_nil, hm, erase_append hbefore hafter]
  · rw [if_neg hb, put_of_ne_nil hb]
    conv_lhs => rw [hm]
    exact place_append hbefore b _

end Buckets

namespace Collection

variable {c d : Collection} {now : Instant} {k : String} {live post : List Entry} {e : Entry}

/-! ## Losing one value -/

/-- The collection `c` loses the value `e`, with `live` in front of it and `post` behind it in the bucket
of `k`, and becomes `d`.  All other values keep their places, and so do the other buckets; the pair of
`k` goes if nothing is left in it. -/
structure Loses (c : Collection) (k : String) (live : List Entry) (e : Entry) (post : List Entry)
    (d : Collection) : Prop where
  name : d.name = c.name
  ignoreCase : d.ignoreCase = c.ignoreCase
  pairs : ∃ before after, c.buckets = before ++ (k, live ++ e :: post) :: after ∧
    d.buckets = before ++ if live ++ post = [] then after else (k, live ++ post) :: after
  bucket : ∀ i, d.bucket i = if i = k then live ++ post else c.bucket i
  inPlace : d.buckets = c.buckets.removeAt k live.length

theorem eraseIdx_append_cons (live : List Entry) (e : Entry) (post : List Entry) :
    (live ++ e :: post).eraseIdx live.length = live ++ post := by
  rw [List.eraseIdx_append_of_length_le (Nat.le_refl _), Nat.sub_self, List.eraseIdx_cons_zero]

/-- **Losing a value is removing it at its place.** -/
theorem loses_iff (h : c.buckets.WellFormed) (hb : c.bucket k = live ++ e :: post) :
    Loses c k live e post d ↔ d = c.setBucket k (live ++ post) := by
  have hget : c.buckets.get k = live ++ e :: post := hb
  have hremove : c.buckets.removeAt k live.length = (c.setBucket k (live ++ post)).buckets := by
    rw [Buckets.removeAt_eq_put, hget, eraseIdx_append_cons]
    rfl
  constructor
  · intro hd
    have hbuckets := hd.inPlace.trans hremove
    obtain ⟨name, ignoreCase, buckets⟩ := d
    exact congr (congrArg₂ Collection.mk hd.name hd.ignoreCase) hbuckets
  · rintro rfl
    have hk : k ∈ c.buckets.keys := h.mem_keys_iff.2 (by rw [hget]; simp)
    obtain ⟨before, after, hpairs, hput⟩ := h.exists_append hk
    rw [hget] at hpairs
    exact ⟨rfl, rfl, ⟨before, after, hpairs, hput _⟩, fun i => bucket_setBucket c k i _,
      hremove.symm⟩

/-! ## The relation -/

/-- What resolving a key may come to.  Either no value of the bucket is expired and all of them are
handed out, or the values in front of the first expired one are, and this one is erased. -/
inductive ResolvesKey (c : Collection) (now : Instant) (k : String) (out : List Record) :
    Resolution → Prop
  | whole (hlive : ∀ x ∈ c.bucket k, x.isExpiredAt now = false) :
    ResolvesKey c now k out ⟨c, out ++ (c.bucket k).map fun x => ⟨c.name, k, x.payload⟩, []⟩
  | stopped {live post : List Entry} {e : Entry} {d : Collection}
    (hb : c.bucket k = live ++ e :: post) (hlive : ∀ x ∈ live, x.isExpiredAt now = false)
    (he : e.isExpiredAt now = true) (hd : Loses c k live e post d) :
    ResolvesKey c now k out
      ⟨d, out ++ live.map fun x => ⟨c.name, k, x.payload⟩, [.erased c.name k]⟩

theorem resolveKey_eq_of_live (hlive : ∀ x ∈ c.bucket k, x.isExpiredAt now = false)
    (out : List Record) :
    c.resolveKey now k out =
      ⟨c, out ++ (c.bucket k).map fun x => ⟨c.name, k, x.payload⟩, []⟩ := by
  rw [resolveKey_of_not_hasExpired (hasExpired_eq_false_iff.2 hlive)]
  rfl

theorem resolveKey_eq_of_expired (hb : c.bucket k = live ++ e :: post)
    (hlive : ∀ x ∈ live, x.isExpiredAt now = false) (he : e.isExpiredAt now = true)
    (out : List Record) :
    c.resolveKey now k out =
      ⟨c.setBucket k (live ++ post), out ++ live.map fun x => ⟨c.name, k, x.payload⟩,
        [.erased c.name k]⟩ := by
  have hexp : hasExpired now (c.bucket k) = true :=
    List.any_eq_true.2 ⟨e, by rw [hb]; simp, he⟩
  have herase : (live ++ e :: post).eraseP (·.isExpiredAt now) = live ++ post := by
    rw [List.eraseP_append_right _ fun x hx => by simp [hlive x hx],
      List.eraseP_cons_of_pos (p := fun e : Entry => e.isExpiredAt now) he]
  have hfront : (live ++ e :: post).takeWhile (fun x => !x.isExpiredAt now) = live := by
    rw [List.takeWhile_append_of_pos fun x hx => by simp [hlive x hx],
      List.takeWhile_cons_of_neg (by simp [he]), List.append_nil]
  rw [resolveKey_of_hasExpired hexp, dropExpired, liveRecords, hb, herase, hfront]

/-- The resolution that is made is allowed. -/
theorem resolvesKey_resolveKey (h : c.buckets.WellFormed) (now : Instant) (k : String)
    (out : List Record) : ResolvesKey c now k out (c.resolveKey now k out) := by
  cases hexp : hasExpired now (c.bucket k) with
  | false =>
    have hlive := hasExpired_eq_false_iff.1 hexp
    rw [resolveKey_eq_of_live hlive]
    exact .whole hlive
  | true =>
    obtain ⟨e, live, post, hb, -, hlive, he⟩ := exists_split_of_hasExpired hexp
    have hlive := hasExpired_eq_false_iff.1 hlive
    rw [resolveKey_eq_of_expired hb hlive he]
    exact .stopped hb hlive he ((loses_iff h hb).2 rfl)

/-- No other one is. -/
theorem ResolvesKey.eq {out : List Record} {r : Resolution} (h : c.buckets.WellFormed)
    (hr : ResolvesKey c now k out r) : r = c.resolveKey now k out := by
  cases hr with
  | whole hlive => rw [resolveKey_eq_of_live hlive]
  | stopped hb hlive he hd => rw [resolveKey_eq_of_expired hb hlive he, (loses_iff h hb).1 hd]

/-- **Resolving a key is exact.**  Behind the records of the caller come those of the values in front of
the first expired one, in their order, or those of all values if none is expired.  If there is an expired
value, the first one is lost, its erasure is told of, and everything else is where it was; otherwise
nothing happens.  A key without values changes nothing at all.  All this is so too when the records are
put into the list of the caller while the bucket is read, and the value is erased afterwards by its
position. -/
theorem resolving_a_key_is_exact {c : Collection} (h : c.buckets.WellFormed) (now : Instant)
    (k : String) (out : List Record) :
    (∀ r, ResolvesKey c now k out r ↔ r = c.resolveKey now k out) ∧
    (k ∉ c.keys → c.resolveKey now k out = ⟨c, out, []⟩) ∧
    ∀ events asked, (Program.resolveKey now k).runOn ⟨c, out, events, asked⟩ =
      (.ok (), ⟨(c.resolveKey now k out).collection, (c.resolveKey now k out).records,
        events ++ (c.resolveKey now k out).events, asked⟩) := by
  refine ⟨fun r => ⟨fun hr => hr.eq h, ?_⟩, fun hk => ?_, fun events asked => ?_⟩
  · rintro rfl
    exact resolvesKey_resolveKey h now k out
  · have hb : c.bucket k = [] := Buckets.get_eq_nil_of_notMem hk
    have hlive : ∀ x ∈ c.bucket k, x.isExpiredAt now = false := by simp [hb]
    rw [resolveKey_eq_of_live hlive, hb, List.map_nil, List.append_nil]
  · rw [Program.runOn_resolveKey, Workspace.after, List.append_nil]

/-- Two expired values between two that are not, all with the same payload, and a key whose only value is
expired. -/
def speckled : Collection :=
  ⟨"vars", true,
    [("a", [⟨"x", none⟩, ⟨"x", some .zero⟩, ⟨"x", some .zero⟩, ⟨"x", none⟩]),
      ("b", [⟨"y", some .zero⟩]), ("c", [⟨"z", none⟩])]⟩

/-- The value in the second place is lost; the other key goes with its value. -/
theorem speckled_loses_one_value :
    speckled.buckets.WellFormed ∧
      (∃ d, ResolvesKey speckled .zero "a" [⟨"vars", "c", "z"⟩]
          ⟨d, [⟨"vars", "c", "z"⟩, ⟨"vars", "a", "x"⟩], [.erased "vars" "a"]⟩ ∧
        d.buckets = [("a", [⟨"x", none⟩, ⟨"x", some .zero⟩, ⟨"x", none⟩]),
          ("b", [⟨"y", some .zero⟩]), ("c", [⟨"z", none⟩])]) ∧
      (∃ d, ResolvesKey speckled .zero "b" [] ⟨d, [], [.erased "vars" "b"]⟩ ∧
        d.keys = ["a", "c"]) ∧
      speckled.resolveKey .zero "d" [] = ⟨speckled, [], []⟩ := by
  have h : speckled.buckets.WellFormed := ⟨by decide, by decide⟩
  refine ⟨h, ?_, ?_, (resolving_a_key_is_exact h .zero "d" []).2.1 (by decide)⟩
  · refine ⟨(speckled.resolveKey .zero "a" []).collection, ?_, by decide⟩
    exact ((resolving_a_key_is_exact h .zero "a" [⟨"vars", "c", "z"⟩]).1 _).2 rfl
  · refine ⟨(speckled.resolveKey .zero "b" []).collection, ?_, by decide⟩
    exact ((resolving_a_key_is_exact h .zero "b" []).1 _).2 rfl

/-! ## Asking first -/

/-- **The two ways to resolve one key agree.**  Let the filter keep the key.  Then the resolution that
asks leaves the same collection and tells of the same events as the one that asks nobody, whatever lists
they are given, and puts the records that this one makes of the empty list in front of its own list, the
last one first.  Let it omit the key.  Then nothing happens, even if values under the key are expired.
The filter is asked about this key, once, and about no other; so nothing depends on what it says of
others. -/
theorem keyed_scan_agrees_with_resolveKey {k : String} (hk : k ≠ "") (c : Collection)
    (now : Instant) (order : List String) (ask : Filter) (out : List Record) :
    (ask k = .keep → ∀ out', c.resolveAll now order k ask out =
      .ok ⟨(c.resolveKey now k out').collection,
        (c.resolveKey now k []).records.reverse ++ out, (c.resolveKey now k out').events⟩) ∧
    (ask k = .omit → c.resolveAll now order k ask out = .ok ⟨c, out, []⟩) ∧
    ∀ events asked, (Program.resolveAll now order k ask).runOn ⟨c, out, events, asked⟩ =
      Workspace.after ⟨c, out, events, asked⟩ [k] (c.resolveAll now order k ask out) := by
  have hkey : c.resolveAll now order k ask out = c.resolveOrder now [k] ask out := by
    rw [resolveAll, if_neg hk]
  refine ⟨fun hkeep out' => ?_, fun homit => ?_, fun events asked => ?_⟩
  · rw [hkey, resolveOrder_singleton_of_keep hkeep, resolveKey_eq, resolveKey_eq, List.nil_append]
  · rw [hkey, resolveOrder_singleton_of_omit homit]
  · rw [Program.runOn_resolveAll, if_neg hk, Collection.asked, upTo_singleton]

/-- With the key kept, the value in front of the expired one comes in front of the list and the expired
one is gone; with the key omitted, it stays. -/
theorem speckled_agrees :
    "a" ≠ "" ∧
      speckled.resolveAll .zero [] "a" .keepAll [⟨"vars", "c", "z"⟩] =
        .ok ⟨(speckled.resolveKey .zero "a" []).collection,
          [⟨"vars", "a", "x"⟩, ⟨"vars", "c", "z"⟩], [.erased "vars" "a"]⟩ ∧
      speckled.resolveAll .zero [] "a" (.omitting (· = "a")) [] = .ok ⟨speckled, [], []⟩ := by
  have ha : "a" ≠ "" := by decide
  obtain ⟨hkeep, -, -⟩ := keyed_scan_agrees_with_resolveKey ha speckled .zero [] .keepAll
    [⟨"vars", "c", "z"⟩]
  obtain ⟨-, homit, -⟩ := keyed_scan_agrees_with_resolveKey ha speckled .zero []
    (.omitting (· = "a")) []
  exact ⟨ha, hkeep rfl [], homit (by decide)⟩

end Collection
end VarStore
