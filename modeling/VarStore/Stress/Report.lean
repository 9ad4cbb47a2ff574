import VarStore.Json.Value
import VarStore.Stress.Workload
import VarStore.Text.Style

/-!
# The report on a workload

When the last worker has ended the expired values are purged, and a report is made of the counters
and of what is left in the collection.  It is written either as JSON or as four lines of text.
-/

namespace VarStore
namespace Stress

/-- The report on a workload. -/
structure Report where
  collection : String
  threads : Nat
  opsPerThread : Nat
  elapsedMillis : Nat
  operations : Counters
  remainingEntries : Nat
  remainingKeys : Nat
  purgedExpired : Nat
  deriving DecidableEq

namespace Report

/-- The report on a workload that ended at the reading `now`, and what the purge tells. -/
def ofProgress (p : Progress) (now : Instant) (threads ops elapsedMillis : Nat) :
    Report × List Event :=
  let (left, removed, events) := p.collection.purge now
  (⟨left.name, threads, ops, elapsedMillis, p.total, left.size, left.keyCount, removed⟩,
    events ++ [.stressFinished left.name threads ops elapsedMillis removed])

/-- The counters as a document. -/
def countersDocument (t : Counters) : Json.Value :=
  .object [("stores".toList, .ofNat t.stores), ("upserts".toList, .ofNat t.upserts),
    ("expiries".toList, .ofNat t.expiries), ("deletes".toList, .ofNat t.deletes),
    ("resolutions".toList, .ofNat t.resolutions), ("records".toList, .ofNat t.records)]

/-- The report as a document. -/
def toDocument (r : Report) : Json.Value :=
  .object [("collection".toList, .ofText r.collection), ("threads".toList, .ofNat r.threads),
    ("ops_per_thread".toList, .ofNat r.opsPerThread),
    ("elapsed_ms".toList, .ofNat r.elapsedMillis),
    ("operations".toList, countersDocument r.operations),
    ("remaining_entries".toList, .ofNat r.remainingEntries),
    ("remaining_keys".toList, .ofNat r.remainingKeys),
    ("purged_expired".toList, .ofNat r.purgedExpired)]

/-- The report as JSON text. -/
def toJson (r : Report) : String := String.ofList (Json.pretty r.toDocument)

/-- The report as lines of text. -/
def lines (r : Report) (styles : Bool) : List String :=
  let t := r.operations
  [Text.styled styles .boldGreen "✓" ++ " " ++ toString r.threads ++ " × " ++
      toString r.opsPerThread ++ " ops on " ++ Text.styled styles .boldYellow r.collection ++
      " in " ++ toString r.elapsedMillis ++ " ms",
    "  stores: " ++ toString t.stores ++ "  upserts: " ++ toString t.upserts ++ "  expiries: " ++
      toString t.expiries ++ "  deletes: " ++ toString t.deletes,
    "  resolutions: " ++ toString t.resolutions ++ "  records: " ++ toString t.records,
    "  remaining: " ++ Text.styled styles .bold (toString r.remainingEntries) ++ " entries in " ++
      toString r.remainingKeys ++ " keys (" ++ toString r.purgedExpired ++ " expired purged)"]

end Report

end Stress
end VarStore
