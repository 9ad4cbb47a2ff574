import VarStore.Dataset.Basic
import VarStore.Json.Value
import VarStore.Text.Style

/-!
# The report on a dataset

The report on a dataset that was loaded gives the number of its patterns and, if they are asked for,
the patterns themselves.  It is written either as JSON or as lines of text, one a pattern.
-/

namespace VarStore
namespace Dataset

/-- The report on a dataset. -/
structure Report where
  dataset : String
  count : Nat
  /-- The patterns, if they are asked for. -/
  patterns : Option (List String)
  deriving DecidableEq

namespace Report

/-- The report as a document; patterns that are not asked for have no member. -/
def toDocument (r : Report) : Json.Value :=
  .object
    ([("dataset".toList, .ofText r.dataset), ("count".toList, .ofNat r.count)] ++
      match r.patterns with
      | none => []
      | some patterns => [("patterns".toList, .array (patterns.map .ofText))])

/-- The report as JSON text. -/
def toJson (r : Report) : String := String.ofList (Json.pretty r.toDocument)

/-- The report as lines of text. -/
def lines (r : Report) (styles : Bool) : List String :=
  (Text.styled styles .boldGreen "✓" ++ " " ++ Text.styled styles .bold (toString r.count) ++
      " patterns in " ++ Text.styled styles .yellow r.dataset) ::
    (r.patterns.getD []).map fun pattern => "  " ++ pattern

end Report

end Dataset
end VarStore
