import VarStore.Text.Quoted

/-!
# Configuration

The configuration says how collections are made and which ones a registry begins with.
-/

namespace VarStore

/-- How collections are made. -/
structure Config where
  /-- For how many keys a new collection makes room. -/
  initialCapacity : Nat
  /-- Are upper and lower case the same in patterns over keys? -/
  ignoreCase : Bool
  /-- The collections that a registry begins with. -/
  collections : List String
  deriving DecidableEq

namespace Config

/-- The configuration in force unless something else is asked for. -/
def standard : Config :=
  { initialCapacity := 1000
    ignoreCase := true
    collections := ["GLOBAL", "IP", "SESSION", "USER", "RESOURCE"] }

instance : Inhabited Config := ⟨standard⟩

/-- How a configuration is shown. -/
def describe (c : Config) : String :=
  Text.described "StoreConfig"
    [("initial_capacity", toString c.initialCapacity),
      ("case_insensitive_regex", if c.ignoreCase then "true" else "false"),
      ("collections", Text.bracketed (c.collections.map Text.quote))]

end Config

end VarStore
