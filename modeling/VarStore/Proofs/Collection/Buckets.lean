import VarStore.Collection.Buckets
import Mathlib.Data.List.Basic

/-!
# Well-formed buckets

`Buckets.get_put` is all that is needed as long as only buckets are looked at.  Counting values
and comparing whole lists of buckets needs more: that no key has two pairs, and that no pair has an
empty bucket.  Here are the facts that hold of well-formed buckets.

* `WellFormed.mem_iff`: the pairs are the non-empty buckets, so well-formed buckets are determined
  as a set by `get`.
* `WellFormed.put` and `WellFormed.revise`: replacing the bucket of one key and replacing all
  buckets at once both keep the buckets well-formed.
* `weight`: a sum over the buckets, with `weight_put` saying by how much it changes.  The number of
  values is one such sum and the number of expired ones is another, so there is one lemma for both.
* `revise_put`: what is about to be replaced may be replaced by something else before.
-/

namespace VarStore
namespace Buckets

variable {m : Buckets} {i k : String} {b : List Entry}

/-! ## Keys and pairs -/

@[simp] theorem keys_cons (j : String) (b : List Entry) (m : Buckets) :
    keys ((j, b) :: m) = j :: m.keys := rfl

theorem wellFormed_nil : WellFormed [] :=
  ⟨List.nodup_nil, fun _ hp => absurd hp List.not_mem_nil⟩

theorem mem_keys_of_mem (h : (k, b) ∈ m) : k ∈ m.keys :=
  List.mem_map.2 ⟨(k, b), h, rfl⟩

theorem get_eq_nil_of_notMem (h : k ∉ m.keys) : m.get k = [] := by
  induction m with
  | nil => rfl
  | cons p m ih =>
    obtain ⟨j, c⟩ := p
    rw [keys_cons, List.mem_cons, not_or] at h
    rw [get_cons, if_neg (Ne.symm h.1), ih h.2]

/-- With no key twice, a pair is what is found under its key. -/
theorem get_of_mem (hm : m.keys.Nodup) (h : (k, b) ∈ m) : m.get k = b := by
  induction m with
  | nil => exact absurd h List.not_mem_nil
  | cons p m ih =>
    obtain ⟨j, c⟩ := p
    rw [keys_cons, List.nodup_cons] at hm
    rcases List.mem_cons.1 h with h | h
    · obtain ⟨rfl, rfl⟩ := Prod.mk.inj h
      rw [get_cons, if_pos rfl]
    · have hjk : j ≠ k := fun e => hm.1 (e ▸ mem_keys_of_mem h)
      rw [get_cons, if_neg hjk, ih hm.2 h]

theorem mem_of_mem_keys (h : k ∈ m.keys) : (k, m.get k) ∈ m := by
  induction m with
  | nil => exact absurd h List.not_mem_nil
  | cons p m ih =>
    obtain ⟨j, c⟩ := p
    rw [get_cons]
    by_cases hjk : j = k
    · rw [if_pos hjk, ← hjk]
      exact List.mem_cons_self
    · rw [if_neg hjk]
      rw [keys_cons, List.mem_cons] at h
      exact List.mem_cons_of_mem _ (ih (h.resolve_left (Ne.symm hjk)))

namespace WellFormed

/-- **The pairs are the non-empty buckets.** -/
theorem mem_iff (h : m.WellFormed) : (k, b) ∈ m ↔ m.get k = b ∧ b ≠ [] := by
  constructor
  · intro hp
    exact ⟨get_of_mem h.1 hp, h.2 _ hp⟩
  · rintro ⟨rfl, hb⟩
    exact mem_of_mem_keys (by_contra fun hk => hb (get_eq_nil_of_notMem hk))

/-- The keys are those under which there is something. -/
theorem mem_keys_iff (h : m.WellFormed) : k ∈ m.keys ↔ m.get k ≠ [] := by
  constructor
  · intro hk
    exact h.2 _ (mem_of_mem_keys hk)
  · intro hk
    exact mem_keys_of_mem (h.mem_iff.2 ⟨rfl, hk⟩)

end WellFormed

/-! ## Replacing the bucket of one key -/

theorem erase_cons (j : String) (c : List Entry) (m : Buckets) (k : String) :
    erase ((j, c) :: m) k = if j = k then erase m k else (j, c) :: erase m k := by
  by_cases hjk : j = k
  · rw [if_pos hjk, erase, List.filter_cons_of_neg (by simp [hjk]), erase]
  · rw [if_neg hjk, erase, List.filter_cons_of_pos (by simp [hjk]), erase]

theorem erase_eq_self (h : k ∉ m.keys) : m.erase k = m :=
  List.filter_eq_self.2 fun _ hp => decide_eq_true fun e => h (e ▸ List.mem_map_of_mem hp)

theorem mem_erase {p : String × List Entry} : p ∈ m.erase k ↔ p ∈ m ∧ p.1 ≠ k := by
  rw [erase, List.mem_filter, decide_eq_true_iff]

theorem keys_erase_sublist (m : Buckets) (k : String) : (m.erase k).keys.Sublist m.keys :=
  List.filter_sublist.map _

theorem mem_of_mem_place {p : String × List Entry} (h : p ∈ m.place k b) : p ∈ m ∨ p = (k, b) := by
  induction m with
  | nil => exact Or.inr (List.mem_singleton.1 h)
  | cons q m ih =>
    obtain ⟨j, c⟩ := q
    rw [place] at h
    split at h
    · rcases List.mem_cons.1 h with h | h
      · exact Or.inr h
      · exact Or.inl (List.mem_cons_of_mem _ h)
    · rcases List.mem_cons.1 h with h | h
      · exact Or.inl (h ▸ List.mem_cons_self)
      · exact (ih h).imp_left (List.mem_cons_of_mem _)

theorem nodup_keys_place (h : m.keys.Nodup) (k : String) (b : List Entry) :
    (m.place k b).keys.Nodup := by
  induction m with
  | nil => exact List.nodup_cons.2 ⟨List.not_mem_nil, List.nodup_nil⟩
  | cons q m ih =>
    obtain ⟨j, c⟩ := q
    rw [keys_cons, List.nodup_cons] at h
    rw [place]
    split
    · next hjk =>
      rw [keys_cons, List.nodup_cons, ← hjk]
      exact h
    · next hjk =>
      rw [keys_cons, List.nodup_cons]
      refine ⟨fun hj => ?_, ih h.2⟩
      obtain ⟨q, hq, rfl⟩ := List.mem_map.1 hj
      rcases mem_of_mem_place hq with hq | rfl
      · exact h.1 (List.mem_map_of_mem hq)
      · exact hjk rfl

/-- Replacing one bucket keeps buckets well-formed: an empty bucket takes its pair away. -/
theorem WellFormed.put (h : m.WellFormed) (k : String) (b : List Entry) :
    (m.put k b).WellFormed := by
  rw [Buckets.put]
  split
  · exact ⟨h.1.sublist (keys_erase_sublist m k), fun p hp => h.2 p (mem_erase.1 hp).1⟩
  · next hb =>
    refine ⟨nodup_keys_place h.1 k b, fun p hp => ?_⟩
    rcases mem_of_mem_place hp with hp | rfl
    · exact h.2 p hp
    · exact fun e => hb (List.isEmpty_iff.2 e)

/-! ## Sums over the buckets -/

/-- The sum of a number for each pair. -/
def weight (f : String → List Entry → Nat) : Buckets → Nat
  | [] => 0
  | (k, b) :: m => f k b + weight f m

@[simp] theorem weight_nil (f : String → List Entry → Nat) : weight f [] = 0 := rfl

@[simp] theorem weight_cons (f : String → List Entry → Nat) (k : String) (b : List Entry)
    (m : Buckets) : weight f ((k, b) :: m) = f k b + m.weight f := rfl

theorem size_eq_weight (m : Buckets) : m.size = m.weight fun _ b => b.length := by
  induction m with
  | nil => rfl
  | cons p m ih => rw [size_cons, weight_cons, ih]

section Weight

variable {f g : String → List Entry → Nat}

theorem weight_congr (h : ∀ p ∈ m, f p.1 p.2 = g p.1 p.2) : m.weight f = m.weight g := by
  induction m with
  | nil => rfl
  | cons p m ih =>
    rw [weight_cons, weight_cons, h p List.mem_cons_self,
      ih fun q hq => h q (List.mem_cons_of_mem _ hq)]

theorem weight_eq_zero (h : ∀ p ∈ m, f p.1 p.2 = 0) : m.weight f = 0 := by
  induction m with
  | nil => rfl
  | cons p m ih =>
    rw [weight_cons, h p List.mem_cons_self, ih fun q hq => h q (List.mem_cons_of_mem _ hq)]

theorem weight_add (f g : String → List Entry → Nat) (m : Buckets) :
    m.weight f + m.weight g = m.weight fun k b => f k b + g k b := by
  induction m with
  | nil => rfl
  | cons p m ih =>
    rw [weight_cons, weight_cons, weight_cons, ← ih]
    omega

theorem weight_erase (hf : ∀ k, f k [] = 0) (h : m.keys.Nodup) (k : String) :
    (m.erase k).weight f + f k (m.get k) = m.weight f := by
  induction m with
  | nil => rw [get_nil, hf]; rfl
  | cons p m ih =>
    obtain ⟨j, c⟩ := p
    rw [keys_cons, List.nodup_cons] at h
    rw [erase_cons, weight_cons, get_cons]
    by_cases hjk : j = k
    · rw [if_pos hjk, if_pos hjk, erase_eq_self (hjk ▸ h.1), hjk]
      omega
    · have := ih h.2
      rw [if_neg hjk, if_neg hjk, weight_cons]
      omega

theorem weight_place (hf : ∀ k, f k [] = 0) (m : Buckets) (k : String) (b : List Entry) :
    (m.place k b).weight f + f k (m.get k) = m.weight f + f k b := by
  induction m with
  | nil => rw [get_nil, hf, place, weight_cons]; omega
  | cons p m ih =>
    obtain ⟨j, c⟩ := p
    rw [place, get_cons]
    by_cases hjk : j = k
    · rw [if_pos hjk, if_pos hjk, weight_cons, weight_cons, hjk]
      omega
    · rw [if_neg hjk, if_neg hjk, weight_cons, weight_cons]
      omega

/-- **What replacing one bucket does to a sum.**  The old bucket stops counting and the new one
starts; an empty bucket must count nothing, since it has no pair. -/
theorem weight_put (hf : ∀ k, f k [] = 0) (h : m.keys.Nodup) (k : String) (b : List Entry) :
    (m.put k b).weight f + f k (m.get k) = m.weight f + f k b := by
  rw [put]
  split
  · next hb => rw [weight_erase hf h, List.isEmpty_iff.1 hb, hf, Nat.add_zero]
  · exact weight_place hf m k b

end Weight

/-! ## Replacing all buckets at once -/

/-- Replace every bucket; a key that is left without values loses its pair. -/
def revise (f : String → List Entry → List Entry) (m : Buckets) : Buckets :=
  (m.map fun p => (p.1, f p.1 p.2)).filter fun p => !p.2.isEmpty

section Revise

variable {f g : String → List Entry → List Entry}

theorem revise_nil (f : String → List Entry → List Entry) : revise f [] = [] := rfl

theorem revise_cons (f : String → List Entry → List Entry) (j : String) (c : List Entry)
    (m : Buckets) :
    revise f ((j, c) :: m) = if f j c = [] then revise f m else (j, f j c) :: revise f m := by
  rw [revise, List.map_cons, List.filter_cons]
  cases hc : f j c <;> simp [revise]

theorem revise_congr (h : ∀ p ∈ m, f p.1 p.2 = g p.1 p.2) : m.revise f = m.revise g := by
  induction m with
  | nil => rfl
  | cons p m ih =>
    obtain ⟨j, c⟩ := p
    rw [revise_cons, revise_cons, h (j, c) List.mem_cons_self,
      ih fun q hq => h q (List.mem_cons_of_mem _ hq)]

/-- Replacing twice is replacing once. -/
theorem revise_revise (hf : ∀ k, f k [] = []) (g : String → List Entry → List Entry)
    (m : Buckets) : (m.revise g).revise f = m.revise fun k b => f k (g k b) := by
  induction m with
  | nil => rfl
  | cons p m ih =>
    obtain ⟨j, c⟩ := p
    rw [revise_cons, revise_cons]
    by_cases hg : g j c = []
    · rw [if_pos hg, hg, if_pos (hf j), ih]
    · rw [if_neg hg, revise_cons, ih]

theorem keys_revise_sublist (f : String → List Entry → List Entry) (m : Buckets) :
    (m.revise f).keys.Sublist m.keys := by
  have h : keys (m.map fun p => (p.1, f p.1 p.2)) = m.keys := by
    rw [keys, List.map_map]
    rfl
  rw [← h]
  exact List.filter_sublist.map _

theorem WellFormed.revise (h : m.WellFormed) (f : String → List Entry → List Entry) :
    (m.revise f).WellFormed := by
  refine ⟨h.1.sublist (keys_revise_sublist f m), fun p hp => ?_⟩
  have := (List.mem_filter.1 hp).2
  intro e
  simp [e] at this

theorem get_revise (hf : ∀ k, f k [] = []) (h : m.keys.Nodup) (k : String) :
    (m.revise f).get k = f k (m.get k) := by
  induction m with
  | nil => rw [revise_nil, get_nil, hf]
  | cons p m ih =>
    obtain ⟨j, c⟩ := p
    rw [keys_cons, List.nodup_cons] at h
    rw [revise_cons, get_cons]
    by_cases hjk : j = k
    · subst hjk
      rw [if_pos rfl]
      split
      · next hc =>
        rw [hc]
        exact get_eq_nil_of_notMem fun hj => h.1 ((keys_revise_sublist f m).subset hj)
      · rw [get_cons, if_pos rfl]
    · rw [if_neg hjk, ← ih h.2]
      split
      · rfl
      · rw [get_cons, if_neg hjk]

theorem revise_eq_self (h : m.WellFormed) (hf : ∀ p ∈ m, f p.1 p.2 = p.2) : m.revise f = m := by
  induction m with
  | nil => rfl
  | cons p m ih =>
    obtain ⟨j, c⟩ := p
    have hm : WellFormed m :=
      ⟨(List.nodup_cons.1 h.1).2, fun p hp => h.2 p (List.mem_cons_of_mem _ hp)⟩
    have hc : f j c = c := hf (j, c) List.mem_cons_self
    have hne : c ≠ [] := h.2 (j, c) List.mem_cons_self
    rw [revise_cons, hc, if_neg hne, ih hm fun p hp => hf p (List.mem_cons_of_mem _ hp)]

theorem revise_erase (h : m.keys.Nodup) (hb : f k (m.get k) = []) :
    (m.erase k).revise f = m.revise f := by
  induction m with
  | nil => rfl
  | cons p m ih =>
    obtain ⟨j, c⟩ := p
    rw [keys_cons, List.nodup_cons] at h
    rw [get_cons] at hb
    rw [erase_cons]
    by_cases hjk : j = k
    · rw [if_pos hjk] at hb
      rw [if_pos hjk, erase_eq_self (hjk ▸ h.1), revise_cons, hjk, if_pos hb]
    · rw [if_neg hjk] at hb
      rw [if_neg hjk, revise_cons, revise_cons, ih h.2 hb]

theorem revise_place (hf : ∀ k, f k [] = []) (hb : f k b = f k (m.get k)) :
    (m.place k b).revise f = m.revise f := by
  induction m with
  | nil =>
    rw [get_nil, hf] at hb
    rw [place, revise_cons, if_pos hb]
  | cons p m ih =>
    obtain ⟨j, c⟩ := p
    rw [get_cons] at hb
    rw [place]
    by_cases hjk : j = k
    · rw [if_pos hjk] at hb
      rw [if_pos hjk, revise_cons, revise_cons, hjk, hb]
    · rw [if_neg hjk] at hb
      rw [if_neg hjk, revise_cons, revise_cons, ih hb]

/-- **What is about to be replaced may be replaced before.**  Another bucket with the same
replacement makes no difference to the replaced buckets. -/
theorem revise_put (hf : ∀ k, f k [] = []) (h : m.keys.Nodup) (hb : f k b = f k (m.get k)) :
    (m.put k b).revise f = m.revise f := by
  rw [put]
  split
  · next he =>
    rw [List.isEmpty_iff.1 he, hf] at hb
    exact revise_erase h hb.symm
  · exact revise_place hf hb

/-- A sum over replaced buckets is a sum over the buckets. -/
theorem weight_revise {g : String → List Entry → Nat} (hg : ∀ k, g k [] = 0)
    (f : String → List Entry → List Entry) (m : Buckets) :
    (m.revise f).weight g = m.weight fun k b => g k (f k b) := by
  induction m with
  | nil => rfl
  | cons p m ih =>
    obtain ⟨j, c⟩ := p
    rw [revise_cons, weight_cons]
    split
    · next hc => rw [hc, hg, ih, Nat.zero_add]
    · rw [weight_cons, ih]

end Revise

end Buckets
end VarStore
