import VarStore.Collection.Basic

/-!
# A workload

Several workers share one collection.  Each has its own keys, whose names begin with its number, and
makes the same number of calls, one at a time; between the calls of one worker those of the others
may come in any order.  What a worker does in a turn is drawn at random, so a turn carries the
draw, together with everything else on which a call depends: the reading of the clock, and the order
in which keys are visited.

A run of the workload is then a fold over its turns.  Which sequences of turns there can be is not
built into it.
-/

namespace VarStore
namespace Stress

/-! ## Calls -/

/-- What a worker can do in a turn. -/
inductive Call where
  | store | upsert | expire | delete
  | resolveAll | resolveKey | resolveOwn
  deriving DecidableEq

/-- The call that one of a hundred choices stands for. -/
def Call.chosen (n : Nat) : Call :=
  if n < 40 then store
  else if n < 55 then upsert
  else if n < 65 then expire
  else if n < 75 then delete
  else if n < 90 then resolveAll
  else if n < 95 then resolveKey
  else resolveOwn

/-- What is drawn for a turn. -/
structure Draw (keys : Nat) where
  /-- The key. -/
  key : Fin keys
  /-- The choice of the call. -/
  choice : Fin 100
  /-- One more than the seconds after which the values of the key are to expire. -/
  delay : Fin 31
  deriving DecidableEq

/-- The seconds after which the values of the key are to expire. -/
def Draw.seconds {keys : Nat} (d : Draw keys) : Int32 := Int32.ofInt ((d.delay : Int) - 1)

/-- The beginning of the names of a worker's keys. -/
def keyHead (worker : Nat) : String := "w" ++ toString worker ++ ":"

/-- The name of a worker's key. -/
def keyName (worker index : Nat) : String := keyHead worker ++ toString index

/-- The pattern that finds a worker's keys. -/
def ownPattern (worker : Nat) : String := "^" ++ keyHead worker

/-- What a worker leaves out when it resolves its own keys. -/
def ownExclusions (worker : Nat) : Exclusions := Exclusions.empty.excludeKey (keyName worker 0)

/-! ## Counters -/

/-- How often a worker has done what, and how many records it got. -/
structure Counters where
  stores : Nat
  upserts : Nat
  expiries : Nat
  deletes : Nat
  resolutions : Nat
  records : Nat
  deriving DecidableEq

namespace Counters

/-- Nothing done yet. -/
def zero : Counters := ⟨0, 0, 0, 0, 0, 0⟩

/-- The number of calls. -/
def calls (t : Counters) : Nat := t.stores + t.upserts + t.expiries + t.deletes + t.resolutions

/-- The counters of two workers together. -/
def add (s t : Counters) : Counters :=
  ⟨s.stores + t.stores, s.upserts + t.upserts, s.expiries + t.expiries, s.deletes + t.deletes,
    s.resolutions + t.resolutions, s.records + t.records⟩

instance : Add Counters := ⟨add⟩

/-- Count a call that gave some records. -/
def count (t : Counters) (call : Call) (records : Nat) : Counters :=
  match call with
  | .store => { t with stores := t.stores + 1 }
  | .upsert => { t with upserts := t.upserts + 1 }
  | .expire => { t with expiries := t.expiries + 1 }
  | .delete => { t with deletes := t.deletes + 1 }
  | _ => { t with resolutions := t.resolutions + 1, records := t.records + records }

end Counters

/-! ## Turns -/

/-- A turn of a worker. -/
structure Turn (keys : Nat) where
  worker : Nat
  draw : Draw keys
  now : Instant
  /-- The order in which the keys are visited. -/
  order : List String

/-- The key of a turn. -/
def Turn.key {keys : Nat} (t : Turn keys) : String := keyName t.worker t.draw.key

/-- The call of a turn. -/
def Turn.call {keys : Nat} (t : Turn keys) : Call := .chosen t.draw.choice

/-- The collection and the records that come of a resolution. -/
def outcome (c : Collection) (r : Except String Collection.Resolution) :
    Collection × List Record :=
  ((c.resolved r).collection, (c.resolved r).records)

/-- What a turn does to the collection, and the records it gives, when the worker has made
`calls` calls before. -/
def Turn.perform {keys : Nat} (t : Turn keys) (calls : Nat) (c : Collection) :
    Collection × List Record :=
  match t.call with
  | .store => (c.store t.key (toString calls), [])
  | .upsert => ((c.storeOrUpdateFirst t.key (toString calls)).1, [])
  | .expire => (c.setExpiry t.now t.key t.draw.seconds, [])
  | .delete => (c.erase t.key, [])
  | .resolveAll => outcome c (c.resolveAll t.now t.order t.key .keepAll [])
  | .resolveKey => outcome c (.ok (c.resolveKey t.now t.key []))
  | .resolveOwn =>
    outcome c
      (c.resolveMatching t.now t.order (ownPattern t.worker) (ownExclusions t.worker).filter [])

/-- A workload under way: the collection, and the counters of the workers. -/
structure Progress where
  collection : Collection
  counters : List Counters

namespace Progress

/-- Before the first turn. -/
def start (c : Collection) (workers : Nat) : Progress := ⟨c, List.replicate workers .zero⟩

/-- The counters of a worker. -/
def countersOf (p : Progress) (worker : Nat) : Counters := p.counters.getD worker .zero

/-- After another turn. -/
def turn {keys : Nat} (p : Progress) (t : Turn keys) : Progress :=
  let (c, records) := t.perform (p.countersOf t.worker).calls p.collection
  ⟨c, p.counters.set t.worker ((p.countersOf t.worker).count t.call records.length)⟩

/-- After some turns. -/
def run {keys : Nat} (p : Progress) (turns : List (Turn keys)) : Progress := turns.foldl turn p

/-- The counters of all workers together. -/
def total (p : Progress) : Counters := p.counters.foldl (· + ·) .zero

end Progress

/-! ## Turns at random -/

/-- Draw for a turn, from a source of random numbers. -/
def Draw.random {keys : Nat} (h : 0 < keys) (g : StdGen) : Draw keys × StdGen :=
  let (key, g) := randNat g 0 (keys - 1)
  let (choice, g) := randNat g 0 99
  let (delay, g) := randNat g 0 30
  (⟨⟨key % keys, Nat.mod_lt _ h⟩, Fin.ofNat 100 choice, Fin.ofNat 31 delay⟩, g)

/-- Let each of the workers with numbers below `n` have a turn, the last one first.  Keys are
visited in the order in which they came in. -/
def playRound {keys : Nat} (h : 0 < keys) (now : Instant) :
    Nat → Progress × StdGen → Progress × StdGen
  | 0, s => s
  | n + 1, (p, g) =>
    let (draw, g) := Draw.random h g
    playRound h now n (p.turn ⟨n, draw, now, p.collection.keys⟩, g)

/-- Let each worker have the given number of turns. -/
def playRounds {keys : Nat} (h : 0 < keys) (now : Instant) (workers : Nat) :
    Nat → Progress × StdGen → Progress × StdGen
  | 0, s => s
  | n + 1, s => playRounds h now workers n (playRound h now workers s)

end Stress
end VarStore
