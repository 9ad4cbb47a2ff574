import VarStore.Entry

/-!
# Buckets

A collection keeps several values under one key.  The values of a key are its bucket, in the order
in which they were stored.  Buckets are held in a list of pairs, in the order in which their keys
came in; a key without values has no pair.

Everything a collection does to the values of a key is `put k (f (get k))` for some `f`, and
`get_put` is all that has to be known about it.  That equation needs no assumption on the list.
`WellFormed` says what every list reached in this way has besides: no key twice, no bucket empty.
-/

namespace VarStore

/-- The buckets of a collection, by key. -/
abbrev Buckets := List (String × List Entry)

namespace Buckets

/-- The bucket of a key; a key without values has the empty one. -/
def get : Buckets → String → List Entry
  | [], _ => []
  | (j, b) :: m, k => if j = k then b else get m k

/-- Leave out the bucket of a key. -/
def erase (m : Buckets) (k : String) : Buckets := m.filter fun p => p.1 ≠ k

/-- Put a bucket in its place, or at the end if the key is new. -/
def place (k : String) (b : List Entry) : Buckets → Buckets
  | [] => [(k, b)]
  | (j, c) :: m => if j = k then (k, b) :: m else (j, c) :: place k b m

/-- Make `b` the bucket of a key. -/
def put (m : Buckets) (k : String) (b : List Entry) : Buckets :=
  if b.isEmpty then m.erase k else m.place k b

/-- The keys, in the order in which they came in. -/
def keys (m : Buckets) : List String := m.map (·.1)

/-- How many values there are. -/
def size : Buckets → Nat
  | [] => 0
  | (_, b) :: m => b.length + size m

/-- No key occurs twice and no bucket is empty. -/
def WellFormed (m : Buckets) : Prop := m.keys.Nodup ∧ ∀ p ∈ m, p.2 ≠ []

@[simp] theorem get_nil (k : String) : get [] k = [] := rfl

@[simp] theorem size_nil : size [] = 0 := rfl

@[simp] theorem size_cons (j : String) (b : List Entry) (m : Buckets) :
    size ((j, b) :: m) = b.length + m.size := rfl

theorem get_cons (j : String) (b : List Entry) (m : Buckets) (k : String) :
    get ((j, b) :: m) k = if j = k then b else m.get k := rfl

theorem get_erase (m : Buckets) (k i : String) :
    (m.erase k).get i = if i = k then [] else m.get i := by
  induction m with
  | nil => simp [erase]
  | cons p m ih =>
    obtain ⟨j, b⟩ := p
    rw [erase] at ih ⊢
    by_cases hjk : j = k
    · rw [List.filter_cons_of_neg (by simp [hjk]), ih, get_cons]
      by_cases hik : i = k
      · simp [hik]
      · simp [hik, show j ≠ i from fun h => hik (h ▸ hjk)]
    · rw [List.filter_cons_of_pos (by simp [hjk]), get_cons, get_cons, ih]
      by_cases hji : j = i
      · simp [hji, show i ≠ k from hji ▸ hjk]
      · simp [hji]

theorem get_place (m : Buckets) (k i : String) (b : List Entry) :
    (m.place k b).get i = if i = k then b else m.get i := by
  induction m with
  | nil => simp [place, get_cons, eq_comm]
  | cons p m ih =>
    obtain ⟨j, c⟩ := p
    rw [place]
    by_cases hjk : j = k
    · rw [if_pos hjk, get_cons, get_cons]
      by_cases hik : i = k
      · simp [hik]
      · have hki : k ≠ i := fun h => hik h.symm
        simp [hik, hki, show j ≠ i from fun h => hik (h ▸ hjk)]
    · rw [if_neg hjk, get_cons, get_cons, ih]
      by_cases hji : j = i
      · simp [hji, show i ≠ k from hji ▸ hjk]
      · simp [hji]

/-- The bucket that was put is the one that is found, and no other changes. -/
theorem get_put (m : Buckets) (k i : String) (b : List Entry) :
    (m.put k b).get i = if i = k then b else m.get i := by
  rw [put]
  split
  · next h => rw [get_erase, List.isEmpty_iff.1 h]
  · rw [get_place]

end Buckets

end VarStore
