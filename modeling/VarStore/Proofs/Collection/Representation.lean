import VarStore.Proofs.Collection.Call
import VarStore.Proofs.Lookup
import Mathlib.Data.List.TFAE
import Mathlib.Tactic.TFAE

/-!
# No empty buckets

A key is there as long as it has values.  `isEmpty` looks for keys and not for values, `updateFirst`
takes a bucket that it finds to have a first value, and a caller who is told of a key expects to find
something under it.  All this relies on buckets that are not empty.

`Buckets.put` says for each bucket what it is afterwards, and a pair without values is out of the
question there.  That is not how buckets are changed.  A value is pushed onto the bucket that is there,
or onto a new one; payloads and expiries are written into the entries of a bucket, which stays where it
is; and only where values are removed, by an index or by a sweep, somebody looks whether anything is
left and takes the pair away.  Where nobody looks, an empty bucket would stay for good.  So the edits are
made in place here (`Edit.inPlace`), each with the one look that belongs to it, and it is shown that
nothing is missing: on well-formed buckets they come to the same as `Buckets.put`
(`inPlace_eq_buckets_apply`), and so does a whole run of them.

* `Buckets.alter`, `Buckets.push`, `Buckets.removeAt`, `Buckets.sweep`: changes in place.
* `runInPlace`: a run in which they are made.
* `reachable_buckets_are_well_formed`: no key twice and no bucket empty, and what can be relied on
  because of it.
-/

namespace VarStore

namespace Buckets

variable {m : Buckets} {k : String} {f : List Entry → List Entry}

/-! ## Changes in place -/

/-- Change the bucket of a key where it is.  Without a pair nothing happens. -/
def alter (f : List Entry → List Entry) (k : String) : Buckets → Buckets
  | [] => []
  | (j, b) :: m => if j = k then (j, f b) :: m else (j, b) :: alter f k m

/-- Push a value onto the bucket of a key, which is made if there is none. -/
def push (k : String) (e : Entry) : Buckets → Buckets
  | [] => [(k, [e])]
  | (j, b) :: m => if j = k then (j, b ++ [e]) :: m else (j, b) :: push k e m

/-- Remove the value at a position of the bucket of a key, and the pair if no value is left. -/
def removeAt (k : String) (i : Nat) (m : Buckets) : Buckets :=
  if (m.alter (·.eraseIdx i) k).lookup k = some [] then (m.alter (·.eraseIdx i) k).erase k
  else m.alter (·.eraseIdx i) k

/-- Go through the buckets, keep of each the values that are not expired, and the pair if there are any,
and count on what is removed. -/
def sweep (now : Instant) : Nat → Buckets → Buckets × Nat
  | removed, [] => ([], removed)
  | removed, (k, b) :: m =>
    let live := Collection.liveEntries now b
    let (rest, total) := sweep now (removed + (b.length - live.length)) m
    (if live.isEmpty then rest else (k, live) :: rest, total)

theorem lookup_place (m : Buckets) (k : String) (b : List Entry) :
    (m.place k b).lookup k = some b := by
  induction m with
  | nil => exact List.lookup_cons_self
  | cons p m ih =>
    obtain ⟨j, c⟩ := p
    rw [place]
    split
    · exact List.lookup_cons_self
    · next hjk => rw [lookup_cons_of_ne (Ne.symm hjk), ih]

theorem lookup_eq_none_of_notMem (h : k ∉ m.keys) : m.lookup k = none := by
  refine List.lookup_eq_none_iff.2 fun p hp => bne_iff_ne.2 ?_
  rintro rfl
  exact h (List.mem_map_of_mem hp)

theorem erase_place (m : Buckets) (k : String) (b : List Entry) :
    (m.place k b).erase k = m.erase k := by
  induction m with
  | nil => rw [place, erase_cons, if_pos rfl]
  | cons p m ih =>
    obtain ⟨j, c⟩ := p
    rw [place]
    split
    · next hjk => rw [erase_cons, if_pos rfl, erase_cons, if_pos hjk]
    · next hjk => rw [erase_cons, if_neg hjk, ih, erase_cons, if_neg hjk]

/-- A pair that is there is changed where it is. -/
theorem alter_eq_place (h : k ∈ m.keys) : m.alter f k = m.place k (f (m.get k)) := by
  induction m with
  | nil => exact absurd h List.not_mem_nil
  | cons p m ih =>
    obtain ⟨j, c⟩ := p
    rw [alter, place, get_cons]
    by_cases hjk : j = k
    · rw [if_pos hjk, if_pos hjk, if_pos hjk, hjk]
    · rw [keys_cons, List.mem_cons] at h
      rw [if_neg hjk, if_neg hjk, if_neg hjk, ih (h.resolve_left (Ne.symm hjk))]

theorem alter_eq_self (h : k ∉ m.keys) : m.alter f k = m := by
  induction m with
  | nil => rfl
  | cons p m ih =>
    obtain ⟨j, c⟩ := p
    rw [keys_cons, List.mem_cons, not_or] at h
    rw [alter, if_neg (Ne.symm h.1), ih h.2]

theorem push_eq_place (m : Buckets) (k : String) (e : Entry) :
    m.push k e = m.place k (m.get k ++ [e]) := by
  induction m with
  | nil => rfl
  | cons p m ih =>
    obtain ⟨j, c⟩ := p
    rw [push, place, get_cons]
    by_cases hjk : j = k
    · rw [if_pos hjk, if_pos hjk, if_pos hjk, hjk]
    · rw [if_neg hjk, if_neg hjk, if_neg hjk, ih]

/-! ### What they come to -/

theorem put_of_ne_nil {b : List Entry} (hb : b ≠ []) : m.put k b = m.place k b := by
  rw [put, if_neg fun h => hb (List.isEmpty_iff.1 h)]

theorem put_nil (m : Buckets) (k : String) : m.put k [] = m.erase k := by
  rw [put, if_pos List.isEmpty_nil]

theorem put_nil_eq_self (h : k ∉ m.keys) : m.put k [] = m := by
  rw [put_nil, erase_eq_self h]

/-- A push never leaves an empty bucket. -/
theorem push_eq_put (m : Buckets) (k : String) (e : Entry) :
    m.push k e = m.put k (m.get k ++ [e]) := by
  rw [push_eq_place, put_of_ne_nil (List.append_ne_nil_of_right_ne_nil _ (List.cons_ne_nil _ _))]

/-- **Writing into the entries of a bucket needs no look at what is left**: a bucket with values keeps
values, and a key without a pair does not get one. -/
theorem alter_eq_put (h : m.WellFormed) (hf : ∀ b, f b = [] ↔ b = []) :
    m.alter f k = m.put k (f (m.get k)) := by
  by_cases hk : k ∈ m.keys
  · have hne : f (m.get k) ≠ [] := fun he => h.mem_keys_iff.1 hk ((hf _).1 he)
    rw [alter_eq_place hk, put_of_ne_nil hne]
  · have hnil : f (m.get k) = [] := (hf _).2 (get_eq_nil_of_notMem hk)
    rw [alter_eq_self hk, hnil, put_nil_eq_self hk]

/-- **Removing a value takes a look at what is left**, and that is enough. -/
theorem removeAt_eq_put (m : Buckets) (k : String) (i : Nat) :
    m.removeAt k i = m.put k ((m.get k).eraseIdx i) := by
  rw [removeAt]
  by_cases hk : k ∈ m.keys
  · rw [alter_eq_place hk, lookup_place]
    by_cases hb : (m.get k).eraseIdx i = []
    · rw [hb, if_pos rfl, erase_place, put_nil]
    · rw [if_neg fun he => hb (Option.some.inj he), put_of_ne_nil hb]
  · rw [alter_eq_self hk, lookup_eq_none_of_notMem hk, if_neg (Option.some_ne_none _).symm,
      get_eq_nil_of_notMem hk, List.eraseIdx_nil, put_nil_eq_self hk]

theorem fst_sweep (now : Instant) (removed : Nat) (m : Buckets) :
    (m.sweep now removed).1 = m.revise fun _ => Collection.liveEntries now := by
  induction m generalizing removed with
  | nil => rfl
  | cons p m ih =>
    obtain ⟨j, b⟩ := p
    simp only [sweep, revise_cons, List.isEmpty_iff, ih]

/-- **The count of a sweep is by how much the buckets get shorter.** -/
theorem snd_sweep_add (now : Instant) (removed : Nat) (m : Buckets) :
    (m.sweep now removed).2 + (m.sweep now removed).1.size = removed + m.size := by
  induction m generalizing removed with
  | nil => rfl
  | cons p m ih =>
    obtain ⟨j, b⟩ := p
    have hrest := ih (removed + (b.length - (Collection.liveEntries now b).length))
    have hle : (Collection.liveEntries now b).length ≤ b.length := List.length_filter_le _ _
    simp only [sweep, List.isEmpty_iff, size_cons]
    split
    · next hnil =>
      rw [hnil, List.length_nil] at hle hrest ⊢
      omega
    · rw [size_cons]
      omega

/-- Buckets that are not empty have at least one value each. -/
theorem length_le_size (h : ∀ p ∈ m, p.2 ≠ []) : m.length ≤ m.size := by
  induction m with
  | nil => exact Nat.le_refl 0
  | cons p m ih =>
    have hb : 0 < p.2.length := List.length_pos_iff.2 (h p List.mem_cons_self)
    have hm := ih fun q hq => h q (List.mem_cons_of_mem _ hq)
    rw [List.length_cons, size_cons]
    omega

end Buckets

namespace Collection

variable {c : Collection} {k : String}

/-! ## Runs in place -/

/-- Make an edit in place. -/
def Edit.inPlace (m : Buckets) : Edit → Buckets
  | nothing => m
  | insert k value => m.push k (.fresh value)
  | overwrite k value => m.alter (overwriteFirst value) k
  | rearm k expiry => m.alter (List.map fun e => { e with expiry }) k
  | remove p => m.removeAt p.key p.index
  | drop k => m.erase k
  | sweep now => (m.sweep now 0).1
  | clear => []

theorem overwriteFirst_eq_nil_iff (value : String) (b : List Entry) :
    overwriteFirst value b = [] ↔ b = [] := by
  cases b <;> simp [overwriteFirst]

/-- **Every edit in place comes to what it says of each bucket.** -/
theorem inPlace_eq_buckets_apply (h : c.buckets.WellFormed) (e : Edit) :
    e.inPlace c.buckets = (e.apply c).buckets := by
  cases e with
  | nothing => rfl
  | insert k value => exact Buckets.push_eq_put c.buckets k (.fresh value)
  | overwrite k value => exact Buckets.alter_eq_put h (overwriteFirst_eq_nil_iff value)
  | rearm k expiry => exact Buckets.alter_eq_put h fun b => List.map_eq_nil_iff
  | remove p => exact Buckets.removeAt_eq_put c.buckets p.key p.index
  | drop k => exact (Buckets.put_nil c.buckets k).symm
  | sweep now => exact Buckets.fst_sweep now 0 c.buckets
  | clear => rfl

/-- Make the calls of a run, each with its edit in place. -/
def runInPlace (c : Collection) : List Call → Collection
  | [] => c
  | x :: xs => runInPlace { c with buckets := (x.edit c).inPlace c.buckets } xs

/-- **A run in place is the run.**  The induction is on the calls; each of them finds the well-formed
buckets that the one before has left. -/
theorem runInPlace_eq (h : c.buckets.WellFormed) (xs : List Call) : c.runInPlace xs = c.run xs := by
  induction xs generalizing c with
  | nil => rfl
  | cons x xs ih =>
    have hstep : { c with buckets := (x.edit c).inPlace c.buckets } = (c.perform x).1 := by
      rw [fst_perform, inPlace_eq_buckets_apply h, ← name_apply c (x.edit c),
        ← ignoreCase_apply c (x.edit c)]
    rw [runInPlace, hstep, ih (wellFormed_perform h x), run_cons]

/-! ## Counting keys and values -/

theorem size_setBucket (h : c.buckets.WellFormed) (k : String) (b : List Entry) :
    (c.setBucket k b).size + (c.bucket k).length = c.size + b.length := by
  have hweight := Buckets.weight_put (f := fun _ b => b.length) (fun _ => rfl) h.1 k b
  rw [← Buckets.size_eq_weight, ← Buckets.size_eq_weight] at hweight
  exact hweight

/-- There are at least as many values as keys. -/
theorem keyCount_le_size (h : c.buckets.WellFormed) : c.keyCount ≤ c.size :=
  Buckets.length_le_size h.2

theorem isEmpty_iff : c.isEmpty = true ↔ c.keyCount = 0 := by
  rw [isEmpty, keyCount, List.isEmpty_iff, List.length_eq_zero_iff]

/-- There are no values exactly if there are no keys. -/
theorem size_eq_zero_iff (h : c.buckets.WellFormed) : c.size = 0 ↔ c.keyCount = 0 := by
  constructor
  · intro hsize
    have hle := keyCount_le_size h
    omega
  · intro hcount
    rw [size, List.eq_nil_of_length_eq_zero hcount]
    rfl

/-! ## The first value -/

theorem exists_first?_iff : (∃ value, c.first? k = some value) ↔ c.bucket k ≠ [] := by
  rw [first?]
  cases c.bucket k <;> simp

theorem snd_updateFirst_iff (c : Collection) (k value : String) :
    (c.updateFirst k value).2 = true ↔ c.bucket k ≠ [] := by
  rw [updateFirst]
  cases c.bucket k <;> simp

/-- Overwriting neither adds a value nor takes one away. -/
theorem size_updateFirst (h : c.buckets.WellFormed) (k value : String) :
    (c.updateFirst k value).1.size = c.size := by
  have hsize := size_setBucket h k (overwriteFirst value (c.bucket k))
  have hlength : (overwriteFirst value (c.bucket k)).length = (c.bucket k).length := by
    cases c.bucket k <;> rfl
  rw [updateFirst]
  split
  · rfl
  · show (c.setBucket k (overwriteFirst value (c.bucket k))).size = c.size
    omega

theorem size_store (h : c.buckets.WellFormed) (k value : String) :
    (c.store k value).size = c.size + 1 := by
  have hsize := size_setBucket h k (c.bucket k ++ [.fresh value])
  rw [List.length_append, List.length_singleton] at hsize
  rw [store]
  omega

/-- Overwriting or storing stores exactly if there is nothing to overwrite. -/
theorem size_storeOrUpdateFirst (h : c.buckets.WellFormed) (k value : String) :
    (c.storeOrUpdateFirst k value).1.size = if c.bucket k = [] then c.size + 1 else c.size := by
  have hflag := snd_updateFirst_iff c k value
  have hupdate := size_updateFirst h k value
  rw [storeOrUpdateFirst]
  rcases hu : c.updateFirst k value with ⟨d, flag⟩
  rw [hu] at hflag hupdate
  cases flag with
  | true =>
    rw [if_neg (hflag.1 rfl)]
    exact hupdate
  | false =>
    have hb : c.bucket k = [] := by
      by_contra hne
      cases hflag.2 hne
    rw [if_pos hb]
    exact size_store h k value

/-! ## What can be relied on -/

/-- **No key has two buckets and no bucket is empty**, whatever was done to a collection, and although
its buckets are changed in place.  So there are at least as many values as keys, and none at all exactly
if `isEmpty` says so; and a key is among the keys exactly if it has a first value, exactly if that can be
overwritten, and exactly if overwriting or storing does not store. -/
theorem reachable_buckets_are_well_formed {c : Collection} (h : Reachable c) :
    c.buckets.WellFormed ∧
    (∀ xs : List Call, c.runInPlace xs = c.run xs ∧ (c.runInPlace xs).buckets.WellFormed) ∧
    c.keyCount ≤ c.size ∧
    (c.isEmpty = true ↔ c.size = 0) ∧ (c.size = 0 ↔ c.keyCount = 0) ∧
    ∀ k value : String,
      [k ∈ c.keys, ∃ v, c.first? k = some v, (c.updateFirst k value).2 = true,
        (c.storeOrUpdateFirst k value).1.size = c.size].TFAE := by
  have hwf := h.wellFormed
  refine ⟨hwf, fun xs => ?_, keyCount_le_size hwf, isEmpty_iff.trans (size_eq_zero_iff hwf).symm,
    size_eq_zero_iff hwf, fun k value => ?_⟩
  · rw [runInPlace_eq hwf]
    exact ⟨rfl, wellFormed_run hwf xs⟩
  · tfae_have 1 ↔ 2 := hwf.mem_keys_iff.trans exists_first?_iff.symm
    tfae_have 2 ↔ 3 := exists_first?_iff.trans (snd_updateFirst_iff c k value).symm
    tfae_have 3 ↔ 4 := by
      rw [snd_updateFirst_iff, size_storeOrUpdateFirst hwf]
      split
      · next hb => simp [hb]
      · next hb => simp [hb]
    tfae_finish

/-- A key that is emptied by a resolution, one that is emptied by a purge, and one that stays. -/
def emptied : Collection :=
  (named "vars").run
    [⟨.zero, .store "a" "x"⟩, ⟨.zero, .setExpiry "a" 0⟩, ⟨.zero, .resolveKey "a" []⟩,
      ⟨.zero, .store "b" "y"⟩, ⟨.zero, .setExpiry "b" 0⟩, ⟨.zero, .purge⟩,
      ⟨.zero, .store "c" "z"⟩]

/-- One key is left.  There is nothing to overwrite under the first one, so that overwriting or storing
stores; and erasing the last one leaves no keys, also in place. -/
theorem emptied_keeps_one_key :
    Reachable emptied ∧ emptied.keys = ["c"] ∧ (emptied.updateFirst "a" "w").2 = false ∧
      (emptied.storeOrUpdateFirst "a" "w").1.size ≠ emptied.size ∧
      (∃ v, emptied.first? "c" = some v) ∧
      emptied.runInPlace [⟨.zero, .erase "c"⟩] = emptied.run [⟨.zero, .erase "c"⟩] := by
  have h : Reachable emptied := (Reachable.named "vars").run _
  obtain ⟨-, hruns, -, -, -, hkeys⟩ := reachable_buckets_are_well_formed h
  have hleft : emptied.keys = ["c"] := by decide
  have ha : "a" ∉ emptied.keys := by rw [hleft]; decide
  have hc : "c" ∈ emptied.keys := by rw [hleft]; decide
  refine ⟨h, hleft, ?_, ?_, ?_, (hruns _).1⟩
  · exact Bool.eq_false_iff.2 fun hflag => ha (((hkeys "a" "w").out 0 2).2 hflag)
  · exact fun hsize => ha (((hkeys "a" "w").out 0 3).2 hsize)
  · exact ((hkeys "c" "w").out 0 1).1 hc

end Collection

end VarStore
