import VarStore.Proofs.Collection.Isolation
import VarStore.Proofs.Collection.Representation

/-!
# A key that is only upserted has one value

`storeOrUpdateFirst` looks whether there is a value to overwrite, and stores one if there is none.
Two clients that do this at the same time must not both find nothing and both store.  They do not,
since a call is made as a whole; but between two calls anything may happen to the key: its value may
expire, be erased by somebody's scan, be purged, be removed, and be written again.  What survives
all this is that there is at most one value as long as nobody uses `store`, and that its payload is
the last one that was written.

A write is a call that leaves its value in the first place of the bucket, and that is known from the
call and its reply (`Call.Writes`).  So the history of the key is a list of writes with something in
between that only takes away (`payloads_onBucket_sublist`), and the induction on the run carries the
payloads of the bucket: there are none, or there is the one of the last write (`LastWrite`).

* `payloads_perform`: what one call does to a bucket with at most one value.
* `payloads_run_take`: what is under the key at any time of a run.
* `upserts_never_multiply_a_key`: the same for clients whose calls are interleaved.
-/

namespace VarStore
namespace Collection

variable {c : Collection} {x : Call} {xs : List Call} {k value : String} {n : Nat}

/-! ## Writes -/

/-- Does the call write this value under this key?  Overwriting or storing always does, and
overwriting does if it says that it did. -/
def Call.Writes (c : Collection) (x : Call) (k value : String) : Prop :=
  x.op = .storeOrUpdateFirst k value ∨
    x.op = .updateFirst k value ∧ (c.perform x).2.answer = .flag true

/-- Does call `i` of the run write this value under this key? -/
def WritesAt (c : Collection) (xs : List Call) (i : Nat) (k value : String) : Prop :=
  ∃ x, xs[i]? = some x ∧ x.Writes (c.run (xs.take i)) k value

/-- Of the first `n` calls of the run, call `i` is the last one that writes under the key, and this
is what it writes. -/
def LastWrite (c : Collection) (xs : List Call) (k : String) (n i : Nat) (value : String) : Prop :=
  i < n ∧ c.WritesAt xs i k value ∧
    ∀ j value', i < j → j < n → ¬ c.WritesAt xs j k value'

/-- Overwriting says that it did if there was something to overwrite. -/
theorem answer_updateFirst_iff {now : Instant} :
    (c.perform ⟨now, .updateFirst k value⟩).2.answer = .flag true ↔ c.bucket k ≠ [] := by
  rw [← snd_updateFirst_iff c k value]
  show Answer.flag (c.updateFirst k value).2 = .flag true ↔ _
  rw [Answer.flag.injEq]

theorem snd_storeOrUpdateFirst (c : Collection) (k value : String) :
    (c.storeOrUpdateFirst k value).2 = true := by
  rw [storeOrUpdateFirst]
  rcases c.updateFirst k value with ⟨d, _ | _⟩ <;> rfl

/-- A write stores the value or overwrites the first one. -/
theorem edit_of_writes (h : x.Writes c k value) :
    x.edit c = .insert k value ∨ x.edit c = .overwrite k value := by
  obtain ⟨now, op⟩ := x
  rcases h with hop | ⟨hop, hanswer⟩
  · obtain rfl : op = .storeOrUpdateFirst k value := hop
    exact ite_eq_or_eq _ _ _
  · obtain rfl : op = .updateFirst k value := hop
    have hb : c.bucket k ≠ [] := answer_updateFirst_iff.1 hanswer
    exact Or.inr (if_neg fun hempty => hb (List.isEmpty_iff.1 hempty))

/-- A value is overwritten by writes only. -/
theorem writes_of_edit_eq_overwrite (h : x.edit c = .overwrite k value) : x.Writes c k value := by
  have hmade := madeBy_edit c x
  rw [h] at hmade
  obtain ⟨hop | hop, hb⟩ := hmade
  · obtain ⟨now, op⟩ := x
    obtain rfl : op = .updateFirst k value := hop
    exact Or.inr ⟨rfl, answer_updateFirst_iff.2 hb⟩
  · exact Or.inl hop

/-- A value is inserted by writes only, if it is not stored. -/
theorem writes_of_edit_eq_insert (h : x.edit c = .insert k value) (hx : x.op ≠ .store k value) :
    x.Writes c k value ∧ c.bucket k = [] := by
  have hmade := madeBy_edit c x
  rw [h] at hmade
  rcases hmade with hop | ⟨hop, hb⟩
  · exact absurd hop hx
  · exact ⟨Or.inl hop, hb⟩

/-! ## One call -/

/-- The payloads of a bucket. -/
def payloads (b : List Entry) : List String := b.map (·.payload)

@[simp] theorem length_payloads (b : List Entry) : (payloads b).length = b.length :=
  List.length_map _

/-- **What neither stores nor overwrites under a key only takes away from it.** -/
theorem payloads_onBucket_sublist {e : Edit} (hinsert : ∀ value, e ≠ .insert k value)
    (hoverwrite : ∀ value, e ≠ .overwrite k value) (b : List Entry) :
    (payloads (e.onBucket k b)).Sublist (payloads b) := by
  have hpart : ∀ {a : List Entry}, a.Sublist b → (payloads a).Sublist (payloads b) :=
    fun hab => hab.map _
  cases e with
  | nothing => exact hpart (List.Sublist.refl b)
  | insert j value =>
    have hk : k ≠ j := by
      rintro rfl
      exact hinsert value rfl
    rw [Edit.onBucket, if_neg hk]
  | overwrite j value =>
    have hk : k ≠ j := by
      rintro rfl
      exact hoverwrite value rfl
    rw [Edit.onBucket, if_neg hk]
  | rearm j expiry =>
    rw [Edit.onBucket]
    split
    · have hsame : payloads (b.map fun e => { e with expiry }) = payloads b := by
        simp [payloads]
      rw [hsame]
    · exact List.Sublist.refl _
  | remove p =>
    rw [Edit.onBucket]
    split
    · exact hpart (List.eraseIdx_sublist b p.index)
    · exact List.Sublist.refl _
  | drop j =>
    rw [Edit.onBucket]
    split
    · exact List.nil_sublist _
    · exact List.Sublist.refl _
  | sweep now => exact hpart List.filter_sublist
  | clear => exact List.nil_sublist _

/-- A write leaves its value in the place of the only one, whether that is expired or not there at
all. -/
theorem payloads_perform_of_writes (hwf : c.buckets.WellFormed) (hb : (c.bucket k).length ≤ 1)
    (hx : x.op ≠ .store k value) (hwrites : x.Writes c k value) :
    payloads ((c.perform x).1.bucket k) = [value] := by
  rw [fst_perform, bucket_apply hwf]
  rcases edit_of_writes hwrites with hedit | hedit
  · obtain ⟨-, hnil⟩ := writes_of_edit_eq_insert hedit hx
    rw [hedit, Edit.onBucket, if_pos rfl, hnil]
    rfl
  · have hmade := madeBy_edit c x
    rw [hedit] at hmade
    obtain ⟨e, he⟩ : ∃ e, c.bucket k = [e] := by
      have hpos := List.length_pos_of_ne_nil hmade.2
      exact List.length_eq_one_iff.1 (by omega)
    rw [hedit, Edit.onBucket, if_pos rfl, he]
    rfl

/-- **One call on a key that has at most one value.**  The call writes, and then what it writes is
the only value; or it does not, and then there is no other value than before. -/
theorem payloads_perform (hwf : c.buckets.WellFormed) (hb : (c.bucket k).length ≤ 1)
    (hx : ∀ value, x.op ≠ .store k value) :
    (∃ value, x.Writes c k value ∧ payloads ((c.perform x).1.bucket k) = [value]) ∨
      (∀ value, ¬ x.Writes c k value) ∧
        (payloads ((c.perform x).1.bucket k)).Sublist (payloads (c.bucket k)) := by
  by_cases hw : ∃ value, x.Writes c k value
  · obtain ⟨value, hwrites⟩ := hw
    exact Or.inl ⟨value, hwrites, payloads_perform_of_writes hwf hb (hx value) hwrites⟩
  · have hno : ∀ value, ¬ x.Writes c k value := fun value hwrites => hw ⟨value, hwrites⟩
    refine Or.inr ⟨hno, ?_⟩
    rw [fst_perform, bucket_apply hwf]
    refine payloads_onBucket_sublist (fun value hedit => ?_) (fun value hedit => ?_) _
    · exact hno value (writes_of_edit_eq_insert hedit (hx value)).1
    · exact hno value (writes_of_edit_eq_overwrite hedit)

/-! ## Runs -/

/-- A write is the last one as long as no other one follows. -/
theorem LastWrite.succ {i : Nat} (h : c.LastWrite xs k n i value)
    (hno : ∀ value', ¬ c.WritesAt xs n k value') : c.LastWrite xs k (n + 1) i value := by
  obtain ⟨hin, hi, hlast⟩ := h
  refine ⟨by omega, hi, fun j value' hij hj => ?_⟩
  by_cases hjn : j = n
  · rw [hjn]
    exact hno value'
  · exact hlast j value' hij (by omega)

theorem lastWrite_succ_self (h : c.WritesAt xs n k value) : c.LastWrite xs k (n + 1) n value :=
  ⟨Nat.lt_succ_self n, h, fun j _ hnj hj => by omega⟩

/-- **What is under a key that nobody stores under**, after any number of calls: nothing, or what
was written last. -/
theorem payloads_run_take (hc : c.buckets = []) (hxs : ∀ x ∈ xs, ∀ value, x.op ≠ .store k value)
    (n : Nat) :
    payloads ((c.run (xs.take n)).bucket k) = [] ∨
      ∃ i value, c.LastWrite xs k n i value ∧
        payloads ((c.run (xs.take n)).bucket k) = [value] := by
  have hwf : c.buckets.WellFormed := hc ▸ Buckets.wellFormed_nil
  induction n with
  | zero =>
    left
    rw [List.take_zero, run_nil, bucket, hc]
    rfl
  | succ n ih =>
    cases hx : xs[n]? with
    | none =>
      -- there is no such call, so nothing was written either
      have hno : ∀ value, ¬ c.WritesAt xs n k value := by
        rintro value ⟨x, hx', -⟩
        rw [hx] at hx'
        cases hx'
      rw [List.take_add_one, hx, Option.toList_none, List.append_nil]
      rcases ih with hb | ⟨i, value, hlast, hb⟩
      · exact Or.inl hb
      · exact Or.inr ⟨i, value, hlast.succ hno, hb⟩
    | some x =>
      have hone : ((c.run (xs.take n)).bucket k).length ≤ 1 := by
        rw [← length_payloads]
        rcases ih with hb | ⟨i, value, -, hb⟩ <;> simp [hb]
      rw [run_take_succ c hx]
      rcases payloads_perform (wellFormed_run hwf _) hone (hxs x (List.mem_of_getElem? hx)) with
        ⟨value, hwrites, hb⟩ | ⟨hno, hsub⟩
      · exact Or.inr ⟨n, value, lastWrite_succ_self ⟨x, hx, hwrites⟩, hb⟩
      · have hno' : ∀ value, ¬ c.WritesAt xs n k value := by
          rintro value ⟨x', hx', hwrites⟩
          obtain rfl : x = x' := Option.some.inj (hx.symm.trans hx')
          exact hno value hwrites
        rcases ih with hb | ⟨i, value, hlast, hb⟩
        · rw [hb] at hsub
          exact Or.inl (List.sublist_nil.1 hsub)
        · rw [hb] at hsub
          rcases List.sublist_singleton.1 hsub with hnil | hsame
          · exact Or.inl hnil
          · exact Or.inr ⟨i, value, hlast.succ hno', hsame⟩

/-- **Upserts never multiply a key.**  Clients make calls of all kinds on a collection that has no
values in the beginning, interleaved in any way, and none of them stores under a certain key.  Then
at any time there is at most one value under the key, and its payload is what was written last;
after each write there is one.  And overwriting or storing, under whatever key, always says that it
did. -/
theorem upserts_never_multiply_a_key {ι : Type} [DecidableEq ι] {c : Collection}
    (hc : c.buckets = []) {programs : ι → List Call} {merged : List (ι × Call)}
    (hm : Interleaves merged programs) {k : String}
    (hk : ∀ i, ∀ x ∈ programs i, ∀ value, x.op ≠ .store k value) :
    (∀ n, ((c.run ((merged.map (·.2)).take n)).bucket k).length ≤ 1) ∧
    (∀ n e, e ∈ (c.run ((merged.map (·.2)).take n)).bucket k →
      ∃ i, c.LastWrite (merged.map (·.2)) k n i e.payload) ∧
    (∀ i value, c.WritesAt (merged.map (·.2)) i k value →
      payloads ((c.run ((merged.map (·.2)).take (i + 1))).bucket k) = [value]) ∧
    ∀ (n : Nat) (x : Call) j value, (merged.map (·.2))[n]? = some x →
      x.op = .storeOrUpdateFirst j value →
        (c.replies (merged.map (·.2)))[n]? = some ⟨.flag true, []⟩ := by
  have hxs : ∀ x ∈ merged.map (·.2), ∀ value, x.op ≠ .store k value := by
    intro x hx
    obtain ⟨p, hp, rfl⟩ := List.mem_map.1 hx
    exact hk p.1 p.2 (hm.mem hp)
  have hcases := payloads_run_take hc hxs
  have hlength : ∀ n, ((c.run ((merged.map (·.2)).take n)).bucket k).length ≤ 1 := by
    intro n
    rw [← length_payloads]
    rcases hcases n with hb | ⟨i, value, -, hb⟩ <;> simp [hb]
  refine ⟨hlength, fun n e he => ?_, ?_, ?_⟩
  · have hmem : e.payload ∈ payloads ((c.run ((merged.map (·.2)).take n)).bucket k) :=
      List.mem_map_of_mem he
    rcases hcases n with hb | ⟨i, value, hlast, hb⟩
    · rw [hb] at hmem
      exact absurd hmem List.not_mem_nil
    · rw [hb] at hmem
      rw [List.mem_singleton.1 hmem]
      exact ⟨i, hlast⟩
  · rintro i value ⟨x, hx, hwrites⟩
    have hwf : c.buckets.WellFormed := hc ▸ Buckets.wellFormed_nil
    rw [run_take_succ c hx]
    exact payloads_perform_of_writes (wellFormed_run hwf _) (hlength i)
      (hxs x (List.mem_of_getElem? hx) value) hwrites
  · rintro n ⟨now, op⟩ j value hx hop
    obtain rfl : op = .storeOrUpdateFirst j value := hop
    rw [getElem?_replies, hx]
    show some (Reply.mk (.flag (Collection.storeOrUpdateFirst _ j value).2) []) = _
    rw [snd_storeOrUpdateFirst]

/-- Two clients that upsert one key, while its value expires, is overwritten nevertheless, and is
erased by a scan; overwriting finds nothing then. -/
def raced : List (Bool × Call) :=
  [(true, ⟨.zero, .storeOrUpdateFirst "a" "x"⟩), (false, ⟨.zero, .storeOrUpdateFirst "a" "y"⟩),
    (true, ⟨.zero, .setExpiry "a" 0⟩), (false, ⟨.zero, .updateFirst "a" "z"⟩),
    (true, ⟨.zero, .resolveAll .asStored "" .keepAll []⟩), (false, ⟨.zero, .updateFirst "a" "u"⟩),
    (true, ⟨.zero, .storeOrUpdateFirst "a" "v"⟩), (false, ⟨.zero, .store "b" "w"⟩)]

/-- The second client's value takes the place of the first one's, and after the erasure there is the
one that was written then. -/
theorem raced_has_one_value :
    (named "vars").buckets = [] ∧ Interleaves raced (programOf raced) ∧
      (∀ i, ∀ x ∈ programOf raced i, ∀ value, x.op ≠ .store "a" value) ∧
      (∀ n, (((named "vars").run ((raced.map (·.2)).take n)).bucket "a").length ≤ 1) ∧
      payloads (((named "vars").run ((raced.map (·.2)).take 2)).bucket "a") = ["y"] ∧
      (∃ i, (named "vars").LastWrite (raced.map (·.2)) "a" 4 i "z") ∧
      (∃ i, (named "vars").LastWrite (raced.map (·.2)) "a" 8 i "v") ∧
      ((named "vars").replies (raced.map (·.2)))[1]? = some ⟨.flag true, []⟩ := by
  have hm : Interleaves raced (programOf raced) := fun _ => rfl
  have hk : ∀ i, ∀ x ∈ programOf raced i, ∀ value, x.op ≠ .store "a" value := by
    have hall : ∀ p ∈ raced, ∀ value, p.2.op ≠ .store "a" value := by simp [raced]
    intro i x hx
    obtain ⟨p, hp, rfl⟩ := List.mem_map.1 hx
    exact hall p (List.mem_of_mem_filter hp)
  obtain ⟨hlength, hlast, hwritten, hflag⟩ :=
    upserts_never_multiply_a_key (c := named "vars") rfl hm hk
  refine ⟨rfl, hm, hk, hlength, hwritten 1 "y" ⟨_, rfl, Or.inl rfl⟩, ?_, ?_,
    hflag 1 _ "a" "y" rfl rfl⟩
  · have he : ⟨"z", Entry.expiryFrom .zero 0⟩ ∈
        ((named "vars").run ((raced.map (·.2)).take 4)).bucket "a" := by decide
    exact hlast 4 _ he
  · have he : ⟨"v", none⟩ ∈ ((named "vars").run ((raced.map (·.2)).take 8)).bucket "a" := by
      decide
    exact hlast 8 _ he

end Collection
end VarStore
