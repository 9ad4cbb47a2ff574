import VarStore.Dataset.Basic

/-!
# Datasets in memory

Datasets can be held in memory, by name.  There may be no map of datasets at all, which is another
thing than an empty one: every look-up then fails in its own way, until something is inserted.
-/

namespace VarStore
namespace Dataset

/-- Datasets in memory, by name. -/
structure InMemory where
  /-- The texts, if a map has been set. -/
  texts : Option (List (String × String))

namespace InMemory

/-- A map without datasets. -/
def empty : InMemory := ⟨some []⟩

/-- No map at all. -/
def unset : InMemory := ⟨none⟩

instance : Inhabited InMemory := ⟨unset⟩

/-- Put a dataset in, in place of the one of the same name; a map is set if there is none. -/
def insert (d : InMemory) (name text : String) : InMemory :=
  ⟨some ((name, text) :: (d.texts.getD []).filter fun p => p.1 ≠ name)⟩

/-- The datasets with one more put in, for building them up. -/
def including (d : InMemory) (name text : String) : InMemory := d.insert name text

/-- The text of a dataset. -/
def fetch (d : InMemory) : Provider := fun name =>
  match d.texts with
  | none => .error .mapUnset
  | some texts =>
    match texts.lookup name with
    | none => .error (.notFound name)
    | some text => .ok text

end InMemory

end Dataset
end VarStore
