import VarStore.Collection.Basic

/-!
# The registry of collections

A registry hands out collections by name.  Names are compared without regard to ASCII case, and a
collection is registered under the upper case of the name it was asked for by.

A collection outlives its registration.  Once handed out it is known by its handle, and the handle
stays good when the name is removed or the registry cleared: the collection keeps its contents,
and asking for the name again makes another collection with another handle.  So the registry is
two things.  The *pool* holds every collection that was ever made, and a handle is a position in
it; the *register* says which handle each name has at present.  Nothing ever leaves the pool,
which is why a handle cannot dangle, and operations on a collection change one place of the pool
and nothing else.
-/

namespace VarStore

/-- A collection that was handed out. -/
structure Handle where
  index : Nat
  deriving DecidableEq

/-- A registry of collections. -/
structure Registry where
  /-- How new collections are made. -/
  config : Config
  /-- Every collection that was made, by handle. -/
  pool : List Collection
  /-- The handles of the names that are registered, in the order of registration. -/
  register : List (String × Handle)

namespace Registry

/-! ## Names -/

/-- A registry without collections. -/
def empty (config : Config) : Registry := ⟨config, [], []⟩

instance : Inhabited Registry := ⟨empty default⟩

/-- The handle that is registered under exactly this name. -/
def registered? (r : Registry) (name : String) : Option Handle := r.register.lookup name

/-- The collection with the given name in any ASCII case. -/
def get? (r : Registry) (name : String) : Option Handle := r.registered? (Text.upper name)

/-- Make a collection and register it. -/
def create (r : Registry) (name : String) : Registry × Handle × List Event :=
  ({ r with
      pool := r.pool ++ [.configured name r.config]
      register := r.register ++ [(name, ⟨r.pool.length⟩)] },
    ⟨r.pool.length⟩, [.collectionCreated name r.config.initialCapacity])

/-- The collection with the given name in any ASCII case, made if there is none. -/
def getOrCreate (r : Registry) (name : String) : Registry × Handle × List Event :=
  match r.get? name with
  | some h => (r, h, [])
  | none => r.create (Text.upper name)

/-- Let go of the collection with the given name; false if there is none. -/
def remove (r : Registry) (name : String) : Registry × Bool × List Event :=
  match r.get? name with
  | some _ =>
    ({ r with register := r.register.filter fun p => p.1 ≠ Text.upper name }, true,
      [.collectionRemoved (Text.upper name)])
  | none => (r, false, [])

/-- Let go of every collection. -/
def clear (r : Registry) : Registry := { r with register := [] }

/-- The registered names, sorted. -/
def names (r : Registry) : List String := (r.register.map (·.1)).mergeSort

/-- How many collections are registered. -/
def size (r : Registry) : Nat := r.register.length

/-- Is no collection registered? -/
def isEmpty (r : Registry) : Bool := r.register.isEmpty

/-- Ask for collections by name, one after the other. -/
def getOrCreateEach (r : Registry) : List String → Registry × List Event
  | [] => (r, [])
  | name :: rest =>
    let (s, _, events) := r.getOrCreate name
    let (t, more) := s.getOrCreateEach rest
    (t, events ++ more)

/-- A registry in which the collections of the configuration are already made. -/
def withDefaults (config : Config) : Registry × List Event :=
  (empty config).getOrCreateEach config.collections

/-! ## Collections by handle -/

/-- The collection that was handed out. -/
def collection? (r : Registry) (h : Handle) : Option Collection := r.pool[h.index]?

/-- Give a handle another state of its collection. -/
def setCollection (r : Registry) (h : Handle) (c : Collection) : Registry :=
  { r with pool := r.pool.set h.index c }

/-- Only the collection that was set changes. -/
theorem collection?_setCollection (r : Registry) (h i : Handle) (c : Collection) :
    (r.setCollection h c).collection? i =
      if i = h then (r.collection? h).map fun _ => c else r.collection? i := by
  obtain ⟨h⟩ := h
  obtain ⟨i⟩ := i
  simp only [setCollection, collection?, Handle.mk.injEq]
  by_cases hi : i = h
  · subst hi
    simp only [List.getElem?_set, if_true]
    by_cases hl : i < r.pool.length <;> simp [hl]
  · rw [if_neg hi, List.getElem?_set_ne (Ne.symm hi)]

@[simp] theorem register_setCollection (r : Registry) (h : Handle) (c : Collection) :
    (r.setCollection h c).register = r.register := rfl

/-! ## Showing a registry -/

/-- How a registered name is shown with its collection. -/
def describeEntry (r : Registry) (p : String × Handle) : String :=
  Text.quote p.1 ++ ": " ++ ((r.collection? p.2).map (·.describe)).getD ""

/-- How a registry is shown. -/
def describe (r : Registry) : String :=
  Text.described "Collections"
    [("config", r.config.describe),
      ("by_name",
        "RwLock \x7b data: \x7b" ++ ", ".intercalate (r.register.map r.describeEntry) ++
          "\x7d, poisoned: false, .. \x7d")]

end Registry

end VarStore
