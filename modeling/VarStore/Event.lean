import VarStore.KeyPattern

/-!
# Events

What happens inside a collection, a registry or a loader and does not show in a result is told by
events.  An operation hands its events back, in the order in which they happened; writing them
anywhere is for the caller.
-/

namespace VarStore

/-- How much an event matters. -/
inductive Level where
  | debug | info | warn
  deriving DecidableEq

/-- The name of a level. -/
def Level.label : Level → String
  | debug => "DEBUG"
  | info => "INFO"
  | warn => "WARN"

/-- Something that happened. -/
inductive Event where
  /-- A resolution met an expired value and erased it. -/
  | erased (collection key : String)
  /-- A purge removed expired values. -/
  | purged (collection : String) (removed : Nat)
  /-- A pattern did not compile, so nothing was resolved. -/
  | patternRejected (collection : String) (error : InvalidPattern)
  /-- The registry made a collection. -/
  | collectionCreated (collection : String) (capacity : Nat)
  /-- The registry let a collection go. -/
  | collectionRemoved (collection : String)
  /-- A dataset went into a pattern set. -/
  | datasetLoaded (dataset : String) (patterns : Nat)
  /-- A dataset was checked on the command line. -/
  | datasetChecked (dataset root : String) (patterns : Nat)
  /-- A workload came to its end. -/
  | stressFinished (collection : String) (threads ops elapsedMillis swept : Nat)
  deriving DecidableEq

namespace Event

/-- How much the event matters. -/
def level : Event → Level
  | erased .. => .debug
  | purged .. => .debug
  | patternRejected .. => .warn
  | collectionCreated .. => .info
  | collectionRemoved .. => .info
  | datasetLoaded .. => .debug
  | datasetChecked .. => .info
  | stressFinished .. => .info

/-- The event in words. -/
def message : Event → String
  | erased .. => "expired variable erased"
  | purged .. => "purged expired variables"
  | patternRejected .. => "key pattern does not compile; nothing resolved"
  | collectionCreated .. => "collection created"
  | collectionRemoved .. => "collection removed"
  | datasetLoaded .. => "pattern dataset loaded"
  | datasetChecked .. => "pattern dataset checked"
  | stressFinished .. => "stress run finished"

/-- The particulars of the event, by name. -/
def fields : Event → List (String × String)
  | erased collection key => [("collection", collection), ("key", key)]
  | purged collection removed => [("collection", collection), ("removed", toString removed)]
  | patternRejected collection error => [("collection", collection), ("error", error.message)]
  | collectionCreated collection capacity =>
    [("collection", collection), ("capacity", toString capacity)]
  | collectionRemoved collection => [("collection", collection)]
  | datasetLoaded dataset patterns => [("dataset", dataset), ("patterns", toString patterns)]
  | datasetChecked dataset root patterns =>
    [("dataset", dataset), ("root", root), ("patterns", toString patterns)]
  | stressFinished collection threads ops elapsedMillis swept =>
    [("collection", collection), ("threads", toString threads), ("ops", toString ops),
      ("elapsed_ms", toString elapsedMillis), ("purged_expired", toString swept)]

end Event

end VarStore
