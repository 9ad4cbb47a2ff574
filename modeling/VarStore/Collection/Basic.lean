import VarStore.Collection.Buckets
import VarStore.Config
import VarStore.Event
import VarStore.Exclusion
import VarStore.Record.Basic

/-!
# Collections

A collection holds named variables, several values to a name, each with an optional expiry.
Expired values stay where they are until something erases them: a resolution erases the first
expired value it meets and stops there, and a purge erases all of them.

A resolution reads through some buckets in order (`readThrough`).  There are three of them.

* `resolveKey` reads one bucket and appends what it found to the records it is given.
* `resolveAll` reads one bucket, or for the empty key every bucket, and puts what it found in front,
  the last record first.
* `resolveMatching` reads the buckets whose key a pattern finds, likewise.

The last two ask a filter about each key they come to.  The filter may fail, and then nothing
happens at all: no collection and no records come back.

A collection does not say in which order its keys are visited.  The order is an argument of the
resolutions that visit more than one, and is meant to be an enumeration of the keys.

Neither does it read the clock.  A store that runs reads the clock again at each value that a
resolution comes to; here a call is given one reading, which stands for all of these, as though no time
passed during the call.
-/

namespace VarStore

/-- A collection of variables. -/
structure Collection where
  name : String
  /-- Are upper and lower case the same in patterns over keys? -/
  ignoreCase : Bool
  buckets : Buckets
  deriving DecidableEq

namespace Collection

/-! ## Making and measuring -/

/-- An empty collection, in which patterns ignore case. -/
def named (name : String) : Collection := ⟨name, true, []⟩

/-- An empty collection that follows a configuration. -/
def configured (name : String) (config : Config) : Collection := ⟨name, config.ignoreCase, []⟩

/-- How many values there are, expired ones included. -/
def size (c : Collection) : Nat := c.buckets.size

/-- How many keys there are. -/
def keyCount (c : Collection) : Nat := c.buckets.length

/-- Are there no values? -/
def isEmpty (c : Collection) : Bool := c.buckets.isEmpty

/-- The keys. -/
def keys (c : Collection) : List String := c.buckets.keys

/-- The values under a key, the oldest first. -/
def bucket (c : Collection) (k : String) : List Entry := c.buckets.get k

/-- How a collection is shown. -/
def describe (c : Collection) : String :=
  Text.described "InMemoryCollection"
    [("name", Text.quote c.name), ("entry_count", toString c.size)]

/-! ## Changing the values of one key -/

/-- Give a key another bucket. -/
def setBucket (c : Collection) (k : String) (b : List Entry) : Collection :=
  { c with buckets := c.buckets.put k b }

@[simp] theorem name_setBucket (c : Collection) (k : String) (b : List Entry) :
    (c.setBucket k b).name = c.name := rfl

@[simp] theorem ignoreCase_setBucket (c : Collection) (k : String) (b : List Entry) :
    (c.setBucket k b).ignoreCase = c.ignoreCase := rfl

/-- Only the bucket that was set changes. -/
theorem bucket_setBucket (c : Collection) (k i : String) (b : List Entry) :
    (c.setBucket k b).bucket i = if i = k then b else c.bucket i :=
  Buckets.get_put c.buckets k i b

/-- Overwrite the payload of the first entry. -/
def overwriteFirst (value : String) : List Entry → List Entry
  | [] => []
  | e :: b => e.setPayload value :: b

/-- Add a value under a key. -/
def store (c : Collection) (k value : String) : Collection :=
  c.setBucket k (c.bucket k ++ [.fresh value])

/-- Overwrite the first value under a key, which keeps its expiry; false if there is none. -/
def updateFirst (c : Collection) (k value : String) : Collection × Bool :=
  if (c.bucket k).isEmpty then (c, false)
  else (c.setBucket k (overwriteFirst value (c.bucket k)), true)

/-- Overwrite the first value under a key, or add one if there is none. -/
def storeOrUpdateFirst (c : Collection) (k value : String) : Collection × Bool :=
  match c.updateFirst k value with
  | (d, true) => (d, true)
  | (_, false) => (c.store k value, true)

/-- Remove every value under a key. -/
def erase (c : Collection) (k : String) : Collection := c.setBucket k []

/-- Let every value under a key expire `seconds` from now. -/
def setExpiry (c : Collection) (now : Instant) (k : String) (seconds : Int32) : Collection :=
  c.setBucket k ((c.bucket k).map (·.setExpiry now seconds))

/-- Remove every value. -/
def clear (c : Collection) : Collection := { c with buckets := [] }

/-! ## Looking at the first value -/

/-- The first value under a key, expired or not. -/
def first? (c : Collection) (k : String) : Option String := (c.bucket k).head?.map (·.payload)

/-- The first value under a key as a record, expired or not. -/
def firstRecord? (c : Collection) (k : String) : Option Record :=
  (c.first? k).map fun value => ⟨c.name, k, value⟩

/-! ## Reading through buckets -/

/-- The place of an expired entry: its key, and its position in the bucket. -/
structure Place where
  key : String
  index : Nat
  deriving DecidableEq

/-- The records of the entries in front of the first expired one. -/
def liveRecords (name : String) (now : Instant) (k : String) (b : List Entry) : List Record :=
  (b.takeWhile fun e => !e.isExpiredAt now).map fun e => ⟨name, k, e.payload⟩

/-- Where the first expired entry of a bucket is. -/
def firstExpired? (now : Instant) (k : String) (b : List Entry) : Option Place :=
  (b.findIdx? (·.isExpiredAt now)).map (Place.mk k)

/-- Read buckets in order up to the first expired entry: the records in front of it, and where it
is. -/
def readThrough (name : String) (now : Instant) :
    List (String × List Entry) → List Record × Option Place
  | [] => ([], none)
  | (k, b) :: rest =>
    match firstExpired? now k b with
    | some place => (liveRecords name now k b, some place)
    | none =>
      let (found, stop) := readThrough name now rest
      (liveRecords name now k b ++ found, stop)

/-- Read those buckets whose keys the filter keeps.  The filter is asked about a key when its
bucket's turn comes, so not about the keys behind an expired entry. -/
def readFiltered (name : String) (now : Instant) (ask : Filter) :
    List (String × List Entry) → Except String (List Record × Option Place)
  | [] => .ok ([], none)
  | (k, b) :: rest =>
    match ask k with
    | .fail message => .error message
    | .omit => readFiltered name now ask rest
    | .keep =>
      match firstExpired? now k b with
      | some place => .ok (liveRecords name now k b, some place)
      | none =>
        (readFiltered name now ask rest).map fun p => (liveRecords name now k b ++ p.1, p.2)

/-! ## Resolutions -/

/-- What a resolution leaves: the collection, the records, and what happened. -/
structure Resolution where
  collection : Collection
  records : List Record
  events : List Event

/-- What comes of a resolution.  If it failed, nothing happened. -/
def resolved (c : Collection) : Except String Resolution → Resolution
  | .ok r => r
  | .error _ => ⟨c, [], []⟩

/-- Erase the entry at a place. -/
def eraseAt (c : Collection) (p : Place) : Collection :=
  c.setBucket p.key ((c.bucket p.key).eraseIdx p.index)

/-- Finish a resolution: the expired entry that stopped it is erased. -/
def finish (c : Collection) (stop : Option Place) (records : List Record) : Resolution :=
  match stop with
  | none => ⟨c, records, []⟩
  | some p => ⟨c.eraseAt p, records, [.erased c.name p.key]⟩

/-- The buckets of some keys, in order. -/
def bucketsOf (c : Collection) (order : List String) : List (String × List Entry) :=
  order.map fun k => (k, c.bucket k)

/-- Read the bucket of one key and append what was found. -/
def resolveKey (c : Collection) (now : Instant) (k : String) (out : List Record) : Resolution :=
  let (found, stop) := readThrough c.name now (c.bucketsOf [k])
  c.finish stop (out ++ found)

/-- Read the buckets of some keys, asking the filter, and put what was found in front, the last
record first. -/
def resolveOrder (c : Collection) (now : Instant) (order : List String) (ask : Filter)
    (out : List Record) : Except String Resolution :=
  (readFiltered c.name now ask (c.bucketsOf order)).map fun p =>
    c.finish p.2 (p.1.reverse ++ out)

/-- Read the bucket of one key, or for the empty key all buckets in the given order. -/
def resolveAll (c : Collection) (now : Instant) (order : List String) (k : String) (ask : Filter)
    (out : List Record) : Except String Resolution :=
  c.resolveOrder now (if k = "" then order else [k]) ask out

/-- Read the buckets whose keys the pattern finds, in the given order.  A pattern that does not
compile finds nothing, and that is told by an event. -/
def resolveMatching (c : Collection) (now : Instant) (order : List String) (pattern : String)
    (ask : Filter) (out : List Record) : Except String Resolution :=
  match KeyPattern.compile pattern c.ignoreCase with
  | .error e => .ok ⟨c, out, [.patternRejected c.name e]⟩
  | .ok p => c.resolveOrder now order (fun k => if p.search k then ask k else .omit) out

/-! ## Purging -/

/-- The entries of a bucket that are not expired. -/
def liveEntries (now : Instant) (b : List Entry) : List Entry :=
  b.filter fun e => !e.isExpiredAt now

/-- The collection without its expired values. -/
def purged (c : Collection) (now : Instant) : Collection :=
  { c with
    buckets := (c.buckets.map fun p => (p.1, liveEntries now p.2)).filter fun p => !p.2.isEmpty }

/-- Remove every expired value; tell how many there were, if there were any. -/
def purge (c : Collection) (now : Instant) : Collection × Nat × List Event :=
  let d := c.purged now
  let removed := c.size - d.size
  (d, removed, if 0 < removed then [.purged c.name removed] else [])

end Collection

end VarStore
