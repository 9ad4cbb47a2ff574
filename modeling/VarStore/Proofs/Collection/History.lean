import VarStore.Proofs.Collection.Identity

/-!
# Expiries and the calls that set them

What expiry a value has can be read off the calls that were made since it was inserted.  It begins
without one, and the only thing that ever gives it one is `setExpiry` for its key, which does so
regardless of what was there before; all else carries the value along with its expiry, to another
place of its bucket perhaps, under another payload perhaps.

This is a statement about a value and not about a place in a bucket: the first value of a bucket may
be erased and the second one take its place, the last one may be removed and the key be used again.
So the values are followed by their identities (`tagged`).  A step is read backwards: a value that is
there after a call was inserted by this call, or was there before, and its expiry is the one that the
call sets or the one that it had (`mem_tagged_succ_cases`).  Going back step by step from a state, one
arrives at the last call that set an expiry, or at the insertion.

* `origin_of_mem_onTagged`: where a value comes from in an edit.
* `exists_mem_tagged_of_le`: a value was there since it was inserted, and kept its expiry as long as
  none was set.
* `expiry_is_decided_by_history`: the expiry of every value of a run.
-/

namespace VarStore
namespace Collection

variable {c : Collection} {xs : List Call} {b : List (Nat × Entry)} {k : String} {n i : Nat}
  {e : Entry}

/-! ## One call -/

/-- **Where a value comes from in an edit.**  It is inserted without an expiry, or it was in the bucket
before and has the expiry that it had, unless the edit gives one to all values under the key. -/
theorem origin_of_mem_onTagged {edit : Edit} (hne : ∀ expiry, edit ≠ .rearm k expiry)
    (h : (i, e) ∈ edit.onTagged n k b) :
    (i = n ∧ e.expiry = none) ∨ ∃ e₀, (i, e₀) ∈ b ∧ e.expiry = e₀.expiry := by
  -- most edits have nothing to do with this value
  have hkept : (i, e) ∈ b →
      (i = n ∧ e.expiry = none) ∨ ∃ e₀, (i, e₀) ∈ b ∧ e.expiry = e₀.expiry :=
    fun hb => Or.inr ⟨e, hb, rfl⟩
  cases edit with
  | nothing => exact hkept h
  | insert j value =>
    rw [Edit.onTagged] at h
    split at h
    · rcases List.mem_append.1 h with hb | hnew
      · exact hkept hb
      · obtain ⟨rfl, rfl⟩ := Prod.mk.inj (List.mem_singleton.1 hnew)
        exact Or.inl ⟨rfl, rfl⟩
    · exact hkept h
  | overwrite j value =>
    rw [Edit.onTagged] at h
    split at h
    · cases b with
      | nil => exact absurd h List.not_mem_nil
      | cons u b =>
        rcases List.mem_cons.1 h with heq | hb
        · obtain ⟨rfl, rfl⟩ := Prod.mk.inj heq
          exact Or.inr ⟨u.2, List.mem_cons_self, rfl⟩
        · exact hkept (List.mem_cons_of_mem u hb)
    · exact hkept h
  | rearm j expiry =>
    rw [Edit.onTagged] at h
    split at h
    · next hk => exact absurd (hk ▸ rfl) (hne expiry)
    · exact hkept h
  | remove p =>
    rw [Edit.onTagged] at h
    split at h
    · exact hkept (List.mem_of_mem_eraseIdx h)
    · exact hkept h
  | drop j =>
    rw [Edit.onTagged] at h
    split at h
    · exact absurd h List.not_mem_nil
    · exact hkept h
  | sweep now => exact hkept (List.mem_filter.1 h).1
  | clear => exact absurd h List.not_mem_nil

/-- The edit that gives an expiry to all values under the key. -/
theorem origin_of_mem_rearmed {expiry : Option Instant}
    (h : (i, e) ∈ (Edit.rearm k expiry).onTagged n k b) :
    ∃ e₀, (i, e₀) ∈ b ∧ e.expiry = expiry := by
  rw [Edit.onTagged, if_pos rfl] at h
  obtain ⟨u, hu, heq⟩ := List.mem_map.1 h
  obtain ⟨rfl, rfl⟩ := Prod.mk.inj heq
  exact ⟨u.2, hu, rfl⟩

/-- **One call, read backwards.**  A value that is there afterwards was inserted by this call and has
no expiry, or was there before; and then either the call has set its expiry, or it has the one it
had. -/
theorem mem_tagged_succ_cases {x : Call} (hx : xs[n]? = some x)
    (h : (i, e) ∈ c.tagged xs k (n + 1)) :
    (i = n ∧ e.expiry = none) ∨
      ∃ e₀, (i, e₀) ∈ c.tagged xs k n ∧
        ((∃ seconds, x.op = .setExpiry k seconds ∧
            e.expiry = Entry.expiryFrom x.now seconds) ∨
          (∀ seconds, x.op ≠ .setExpiry k seconds) ∧ e.expiry = e₀.expiry) := by
  rw [tagged_succ_of_some hx] at h
  by_cases hop : ∃ seconds, x.op = .setExpiry k seconds
  · obtain ⟨seconds, hop⟩ := hop
    rw [Call.edit, hop] at h
    obtain ⟨e₀, h₀, hexpiry⟩ := origin_of_mem_rearmed h
    exact Or.inr ⟨e₀, h₀, Or.inl ⟨seconds, hop, hexpiry⟩⟩
  · have hne : ∀ expiry, x.edit (c.run (xs.take n)) ≠ .rearm k expiry := by
      intro expiry hedit
      have hmade := madeBy_edit (c.run (xs.take n)) x
      rw [hedit] at hmade
      obtain ⟨seconds, hset, -⟩ := hmade
      exact hop ⟨seconds, hset⟩
    rcases origin_of_mem_onTagged hne h with hnew | ⟨e₀, h₀, hexpiry⟩
    · exact Or.inl hnew
    · exact Or.inr ⟨e₀, h₀, Or.inr ⟨fun seconds hset => hop ⟨seconds, hset⟩, hexpiry⟩⟩

/-- A call that is not an insertion of this value has found it. -/
theorem exists_mem_tagged_of_succ (h : (i, e) ∈ c.tagged xs k (n + 1)) (hi : i < n) :
    ∃ e₀, (i, e₀) ∈ c.tagged xs k n ∧
      ((∀ x seconds, xs[n]? = some x → x.op ≠ .setExpiry k seconds) →
        e.expiry = e₀.expiry) := by
  cases hx : xs[n]? with
  | none =>
    rw [tagged_succ_of_none hx] at h
    exact ⟨e, h, fun _ => rfl⟩
  | some x =>
    rcases mem_tagged_succ_cases hx h with ⟨hn, -⟩ | ⟨e₀, hb, hexpiry⟩
    · omega
    · refine ⟨e₀, hb, fun hnone => ?_⟩
      rcases hexpiry with ⟨seconds, hop, -⟩ | ⟨-, heq⟩
      · exact absurd hop (hnone x seconds rfl)
      · exact heq

/-! ## Runs -/

/-- **A value was there since it was inserted**, and it has the expiry it had as long as none was set
for its key. -/
theorem exists_mem_tagged_of_le {m : Nat} (hmn : m ≤ n) (him : i < m)
    (h : (i, e) ∈ c.tagged xs k n) :
    ∃ e₀, (i, e₀) ∈ c.tagged xs k m ∧
      ((∀ j x seconds, m ≤ j → j < n → xs[j]? = some x → x.op ≠ .setExpiry k seconds) →
        e.expiry = e₀.expiry) := by
  induction n, hmn using Nat.le_induction generalizing e with
  | base => exact ⟨e, h, fun _ => rfl⟩
  | succ n hmn ih =>
    obtain ⟨e₁, h₁, hlast⟩ := exists_mem_tagged_of_succ h (by omega)
    obtain ⟨e₀, h₀, hbefore⟩ := ih h₁
    refine ⟨e₀, h₀, fun hnone => ?_⟩
    calc e.expiry = e₁.expiry := hlast fun x seconds => hnone n x seconds hmn (by omega)
      _ = e₀.expiry := hbefore fun j x seconds hmj hjn => hnone j x seconds hmj (by omega)

/-- A value that has just been inserted has no expiry, whatever was set for its key before. -/
theorem expiry_eq_none_of_mem_tagged_succ_self (h : (i, e) ∈ c.tagged xs k (i + 1)) :
    e.expiry = none := by
  have hnew : ∀ e₀, (i, e₀) ∉ c.tagged xs k i := fun e₀ h₀ =>
    Nat.lt_irrefl i (lt_of_mem_tagged (List.mem_map_of_mem (f := Prod.fst) h₀))
  cases hx : xs[i]? with
  | none =>
    rw [tagged_succ_of_none hx] at h
    exact absurd h (hnew e)
  | some x =>
    rcases mem_tagged_succ_cases hx h with ⟨-, hnone⟩ | ⟨e₀, h₀, -⟩
    · exact hnone
    · exact absurd h₀ (hnew e₀)

/-- **Without a call that sets one there is no expiry.** -/
theorem expiry_eq_none_of_mem_tagged (h : (i, e) ∈ c.tagged xs k n)
    (hnone : ∀ j x seconds, i < j → j < n → xs[j]? = some x → x.op ≠ .setExpiry k seconds) :
    e.expiry = none := by
  have hi : i < n := lt_of_mem_tagged (List.mem_map_of_mem (f := Prod.fst) h)
  obtain ⟨e₀, h₀, hkept⟩ := exists_mem_tagged_of_le (m := i + 1) hi (Nat.lt_succ_self i) h
  exact (hkept hnone).trans (expiry_eq_none_of_mem_tagged_succ_self h₀)

/-- **Otherwise the last of these calls has set it**, from its seconds and its reading of the
clock. -/
theorem expiry_eq_of_mem_tagged (h : (i, e) ∈ c.tagged xs k n) {j : Nat} {x : Call}
    {seconds : Int32} (hij : i < j) (hjn : j < n) (hx : xs[j]? = some x)
    (hop : x.op = .setExpiry k seconds)
    (hlast : ∀ j' x' seconds', j < j' → j' < n → xs[j']? = some x' →
      x'.op ≠ .setExpiry k seconds') :
    e.expiry = Entry.expiryFrom x.now seconds := by
  obtain ⟨e₁, h₁, hkept⟩ := exists_mem_tagged_of_le (m := j + 1) hjn (by omega) h
  rw [hkept hlast]
  rcases mem_tagged_succ_cases hx h₁ with ⟨hj, -⟩ | ⟨e₀, -, ⟨seconds', hop', heq⟩ | ⟨hne, -⟩⟩
  · omega
  · obtain ⟨-, rfl⟩ := Operation.setExpiry.inj (hop.symm.trans hop')
    exact heq
  · exact absurd hop (hne seconds)

/-- What was under a key when it was erased does not come back. -/
theorem lt_of_mem_tagged_of_erased {d : Nat} {x : Call} (hx : xs[d]? = some x)
    (hop : x.op = .erase k ∨ x.op = .clear) (hdn : d < n) (h : (i, e) ∈ c.tagged xs k n) :
    d < i := by
  have hempty : c.tagged xs k (d + 1) = [] := by
    rw [tagged_succ_of_some hx, Call.edit]
    rcases hop with hop | hop <;> rw [hop]
    · exact if_pos rfl
    · rfl
  by_contra hid
  obtain ⟨e₀, h₀, -⟩ := exists_mem_tagged_of_le (m := d + 1) hdn (by omega) h
  rw [hempty] at h₀
  exact absurd h₀ List.not_mem_nil

/-! ## Overwriting -/

/-- The identities and the expiries of a bucket. -/
def expiries (b : List (Nat × Entry)) : List (Nat × Option Instant) :=
  b.map fun t => (t.1, t.2.expiry)

theorem expiries_onTagged_overwrite (n : Nat) (k j value : String) (b : List (Nat × Entry)) :
    expiries ((Edit.overwrite j value).onTagged n k b) = expiries b := by
  rw [Edit.onTagged]
  split
  · cases b <;> rfl
  · rfl

/-- **Overwriting a payload leaves all expiries as they are**, under every key. -/
theorem expiries_tagged_succ_of_overwrite {x : Call} (hx : xs[n]? = some x) {j value : String}
    (hop : x.op = .updateFirst j value ∨
      x.op = .storeOrUpdateFirst j value ∧ (c.run (xs.take n)).bucket j ≠ []) (k : String) :
    expiries (c.tagged xs k (n + 1)) = expiries (c.tagged xs k n) := by
  have hedit : x.edit (c.run (xs.take n)) = .nothing ∨
      x.edit (c.run (xs.take n)) = .overwrite j value := by
    rw [Call.edit]
    rcases hop with hop | ⟨hop, hb⟩ <;> rw [hop, Operation.edit]
    · exact ite_eq_or_eq _ _ _
    · exact Or.inr (if_neg fun hempty => hb (List.isEmpty_iff.1 hempty))
  rw [tagged_succ_of_some hx]
  rcases hedit with hedit | hedit <;> rw [hedit]
  · rfl
  · exact expiries_onTagged_overwrite n k j value _

/-! ## The history of an expiry -/

/-- **Expiry is decided by history.**  Follow the values of a run that starts without any.  A value
that has just been inserted has no expiry, whatever was set for its key before.  A value that is
there after `n` calls, and was inserted by call `i`, has none if none was set for its key since;
otherwise it has the one that comes from the seconds and the reading of the last call that set one.
Nothing else counts that was done before, between or after these calls.  In particular, overwriting a
payload leaves the expiries of all values as they are; and what is there under a key after it was
erased has been inserted after that, so that no expiry set before counts for it. -/
theorem expiry_is_decided_by_history {c : Collection} (hc : c.buckets = []) (xs : List Call) :
    (∀ n k, (c.tagged xs k n).map (·.2) = (c.run (xs.take n)).bucket k) ∧
    (∀ i k value, c.Inserts xs i k value → (i, Entry.fresh value) ∈ c.tagged xs k (i + 1)) ∧
    (∀ n k i e, (i, e) ∈ c.tagged xs k n →
      i < n ∧ (∃ value, c.Inserts xs i k value) ∧
      ((∀ j x seconds, i < j → j < n → xs[j]? = some x → x.op ≠ .setExpiry k seconds) →
        e.expiry = none) ∧
      ∀ j x seconds, i < j → j < n → xs[j]? = some x → x.op = .setExpiry k seconds →
        (∀ j' x' seconds', j < j' → j' < n → xs[j']? = some x' →
          x'.op ≠ .setExpiry k seconds') →
        e.expiry = Entry.expiryFrom x.now seconds) ∧
    (∀ n x j value, xs[n]? = some x → (x.op = .updateFirst j value ∨
        x.op = .storeOrUpdateFirst j value ∧ (c.run (xs.take n)).bucket j ≠ []) →
      ∀ k, expiries (c.tagged xs k (n + 1)) = expiries (c.tagged xs k n)) ∧
    ∀ d n x k i e, xs[d]? = some x → x.op = .erase k ∨ x.op = .clear → d < n →
      (i, e) ∈ c.tagged xs k n → d < i := by
  refine ⟨fun n k => map_snd_tagged hc xs k n, fun i k value h => mem_tagged_of_inserts h,
    fun n k i e h => ?_, fun n x j value hx hop => expiries_tagged_succ_of_overwrite hx hop,
    fun d n x k i e hx hop hdn h => lt_of_mem_tagged_of_erased hx hop hdn h⟩
  have hi : i ∈ (c.tagged xs k n).map (·.1) := List.mem_map_of_mem h
  refine ⟨lt_of_mem_tagged hi, inserts_of_mem_tagged hi, expiry_eq_none_of_mem_tagged h, ?_⟩
  exact fun j x seconds hij hjn hx hop hlast => expiry_eq_of_mem_tagged h hij hjn hx hop hlast

/-- A value that is given an expiry twice and then another payload, and a value that is stored after
that; before all that, the key was in use and was erased. -/
def rearmed : List Call :=
  [⟨.zero, .store "a" "w"⟩, ⟨.zero, .setExpiry "a" 5⟩, ⟨.zero, .erase "a"⟩,
    ⟨.zero, .store "a" "x"⟩, ⟨.zero, .setExpiry "a" 0⟩, ⟨.zero, .setExpiry "a" 60⟩,
    ⟨.zero, .updateFirst "a" "y"⟩, ⟨.zero, .store "a" "z"⟩]

/-- The overwritten value has the second expiry that it was given, and the last one has none. -/
theorem rearmed_expiries :
    (named "vars").buckets = [] ∧
      (∃ e, (3, e) ∈ (named "vars").tagged rearmed "a" 8 ∧
        e.expiry = Entry.expiryFrom .zero 60) ∧
      (∃ e, (7, e) ∈ (named "vars").tagged rearmed "a" 8 ∧ e.expiry = none) ∧
      expiries ((named "vars").tagged rearmed "a" 7) =
        expiries ((named "vars").tagged rearmed "a" 6) ∧
      ∀ i e, (i, e) ∈ (named "vars").tagged rearmed "a" 8 → 2 < i := by
  obtain ⟨-, -, hexpiry, hoverwrite, herased⟩ :=
    expiry_is_decided_by_history (c := named "vars") rfl rearmed
  refine ⟨rfl, ?_, ?_, ?_, fun i e h => ?_⟩
  · have h : (3, ⟨"y", Entry.expiryFrom .zero 60⟩) ∈ (named "vars").tagged rearmed "a" 8 := by
      decide
    refine ⟨_, h, (hexpiry 8 "a" 3 _ h).2.2.2 5 _ 60 (by decide) (by decide) rfl rfl ?_⟩
    intro j x seconds hj hj8 hx hop
    obtain rfl | rfl : j = 6 ∨ j = 7 := by omega
    · cases hx
      cases hop
    · cases hx
      cases hop
  · have h : (7, Entry.fresh "z") ∈ (named "vars").tagged rearmed "a" 8 := by decide
    refine ⟨_, h, (hexpiry 8 "a" 7 _ h).2.2.1 fun j x seconds hj hj8 => ?_⟩
    omega
  · exact hoverwrite 6 _ "a" "y" rfl (Or.inl rfl) "a"
  · exact herased 2 8 _ "a" i e rfl (Or.inl rfl) (by decide) h

end Collection
end VarStore
