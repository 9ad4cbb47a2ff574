import VarStore.Text.Quoted

/-!
# Records

A record is one value as a resolution hands it out: the name of the collection, the key and the
value, all copied, so that it stays what it is whatever happens to the collection afterwards.
-/

namespace VarStore

/-- A resolved variable. -/
structure Record where
  collection : String
  key : String
  value : String
  deriving DecidableEq

namespace Record

/-- The name of the variable with its collection, as in `SESSION:score`. -/
def qualifiedName (r : Record) : String := r.collection ++ ":" ++ r.key

/-- The variable and its value, as in `SESSION:score=5`. -/
def line (r : Record) : String := r.qualifiedName ++ "=" ++ r.value

/-- How a record is shown. -/
def describe (r : Record) : String :=
  Text.described "VariableValue"
    [("collection", Text.quote r.collection), ("key", Text.quote r.key),
      ("value", Text.quote r.value)]

end Record

end VarStore
