import Mathlib
import VarStore.Proofs.Collection.Call

/-!
# Resolutions, one thing after the other

`resolveAll` and `resolveMatching` say what a resolution comes to, and of one whose filter failed
they say that it comes to nothing.  That a failure undoes nothing because there is nothing to undo
cannot be seen from this.  Here the two resolutions are programs that do one thing after the other
to what they work on: the collection, the list of records of the caller, and the events.  A program
that fails leaves all of these as they are at that moment.

The programs ask their filter in the middle of the reading and keep a record of the keys that they
have asked about, they take the values of a bucket one by one and count positions as they go, and
they may fail on their own account: there is nothing to remove at a position behind the end of a
bucket.

* `asked`: the keys about which a scan asks its filter, those up to the one at which it ends;
  `scanned`: the keys up to the one whose expired value stops it.
* `Program.resolveAll`, `Program.resolveMatching`: the programs.
* `runOn_resolveAll`, `runOn_resolveMatching`: they do what the resolutions say, they ask about the
  keys in `asked`, and they never look for a value where there is none.
-/

namespace VarStore

namespace Filter

/-- Does the filter fail when it is asked about this key? -/
def failsOn (ask : Filter) (k : String) : Bool :=
  match ask k with
  | .fail _ => true
  | _ => false

theorem failsOn_iff {ask : Filter} {k : String} :
    ask.failsOn k = true ↔ ∃ message, ask k = .fail message := by
  rw [failsOn]
  rcases ask k with _ | _ | message <;> simp

/-- The filter that asks only about the keys that a pattern finds, and omits the others. -/
def narrowed (p : KeyPattern) (ask : Filter) : Filter := fun k =>
  if p.search k then ask k else .omit

/-- A filter that fails when it is asked about one key, and keeps all others. -/
def failingOn (j : String) : Filter := fun k => if k = j then .fail "out of order" else .keep

@[simp] theorem failsOn_failingOn (j k : String) : (failingOn j).failsOn k = decide (k = j) := by
  rw [failsOn, failingOn]
  by_cases hk : k = j <;> simp [hk]

theorem failingOn_of_ne {j k : String} (hk : k ≠ j) : failingOn j k = .keep := if_neg hk

end Filter

/-- A pattern that compiles, and a key that it does not find. -/
theorem KeyPattern.exists_compile_b (ignoreCase : Bool) :
    ∃ p, KeyPattern.compile "b" ignoreCase = .ok p ∧ p.search "a" = false := by
  have hsearch : (KeyPattern.compile "b" ignoreCase).toOption.map (·.search "a") =
      some false := by
    cases ignoreCase <;> cbv
  exact KeyPattern.exists_of_search_eq hsearch

namespace Collection

variable {c : Collection} {now : Instant} {k : String} {keys order : List String} {ask : Filter}

/-! ## The keys that are asked about -/

/-- The keys up to the first one with the property, that one included. -/
def upTo (p : String → Bool) : List String → List String
  | [] => []
  | k :: keys => if p k then [k] else k :: upTo p keys

theorem upTo_cons_of_pos {p : String → Bool} (h : p k = true) (keys : List String) :
    upTo p (k :: keys) = [k] := by
  rw [upTo, if_pos h]

theorem upTo_cons_of_neg {p : String → Bool} (h : p k = false) (keys : List String) :
    upTo p (k :: keys) = k :: upTo p keys := by
  rw [upTo, h, if_neg Bool.false_ne_true]

theorem upTo_singleton (p : String → Bool) (k : String) : upTo p [k] = [k] := by
  rw [upTo, upTo, ite_self]

/-- A property that comes true earlier gives fewer keys. -/
theorem upTo_prefix_upTo {p q : String → Bool} (h : ∀ k, q k = true → p k = true)
    (keys : List String) : upTo p keys <+: upTo q keys := by
  induction keys with
  | nil => exact List.prefix_refl _
  | cons k keys ih =>
    cases hq : q k with
    | true =>
      have hsame : upTo p (k :: keys) = upTo q (k :: keys) := by
        rw [upTo_cons_of_pos (h k hq), upTo_cons_of_pos hq]
      exact hsame ▸ List.prefix_refl _
    | false =>
      rw [upTo_cons_of_neg hq, upTo]
      split
      · exact List.cons_prefix_cons.2 ⟨rfl, List.nil_prefix⟩
      · exact List.cons_prefix_cons.2 ⟨rfl, ih⟩

/-- Does a scan stop at this key?  The filter keeps it, and some value under it is expired. -/
def stopsAt (c : Collection) (now : Instant) (ask : Filter) (k : String) : Bool :=
  ask k = .keep && hasExpired now (c.bucket k)

/-- Does a scan end at this key?  Its filter fails there, or it stops. -/
def endsAt (c : Collection) (now : Instant) (ask : Filter) (k : String) : Bool :=
  ask.failsOn k || c.stopsAt now ask k

/-- The keys of a scan up to the one whose expired value stops it. -/
def scanned (c : Collection) (now : Instant) (ask : Filter) (keys : List String) : List String :=
  upTo (c.stopsAt now ask) keys

/-- The keys about which a scan asks its filter. -/
def asked (c : Collection) (now : Instant) (ask : Filter) (keys : List String) : List String :=
  upTo (c.endsAt now ask) keys

/-- Nothing is asked about behind the key that stops the scan. -/
theorem asked_prefix_scanned (c : Collection) (now : Instant) (ask : Filter) (keys : List String) :
    c.asked now ask keys <+: c.scanned now ask keys :=
  upTo_prefix_upTo (fun _ h => Bool.or_eq_true_iff.2 (Or.inr h)) keys

/-- A scan that goes on at a key has added what is under it, or has passed it over. -/
theorem readFiltered_of_endsAt_eq_false (h : c.endsAt now ask k = false) :
    ∃ found, ∀ keys, readFiltered c.name now ask (c.bucketsOf (k :: keys)) =
      (readFiltered c.name now ask (c.bucketsOf keys)).map fun p => (found ++ p.1, p.2) := by
  obtain ⟨hfails, hstops⟩ := Bool.or_eq_false_iff.1 h
  cases hk : ask k with
  | fail message =>
    rw [Filter.failsOn_iff.2 ⟨message, hk⟩] at hfails
    cases hfails
  | «omit» =>
    refine ⟨[], fun keys => ?_⟩
    rw [bucketsOf, List.map_cons, readFiltered_cons_of_omit hk, ← bucketsOf]
    cases readFiltered c.name now ask (c.bucketsOf keys) <;> rfl
  | keep =>
    have hexp : hasExpired now (c.bucket k) = false := by
      rwa [stopsAt, hk, decide_eq_true rfl, Bool.true_and] at hstops
    have hb := firstExpired?_of_not_hasExpired hexp k
    exact ⟨liveRecords c.name now k (c.bucket k), fun keys => readFiltered_cons_of_none hk hb _⟩

/-- A scan that stops at a key returns what is in front of the first expired value. -/
theorem readFiltered_of_stopsAt (h : c.stopsAt now ask k = true) (keys : List String) :
    ∃ p, readFiltered c.name now ask (c.bucketsOf (k :: keys)) = .ok p := by
  obtain ⟨hk, hexp⟩ := Bool.and_eq_true_iff.1 h
  have hb := firstExpired?_of_hasExpired hexp k
  exact ⟨_, readFiltered_cons_of_some (of_decide_eq_true hk) hb _⟩

/-- **How a scan ends.**  Either its filter fails on no key up to the one that stops the scan, and is
asked about all of these; or it fails on the last key that it is asked about. -/
theorem readFiltered_cases (c : Collection) (now : Instant) (ask : Filter) (keys : List String) :
    (∃ p, readFiltered c.name now ask (c.bucketsOf keys) = .ok p ∧
        c.asked now ask keys = c.scanned now ask keys ∧
        ∀ k ∈ c.scanned now ask keys, ask.failsOn k = false) ∨
      ∃ message, readFiltered c.name now ask (c.bucketsOf keys) = .error message ∧
        ∃ k, (c.asked now ask keys).getLast? = some k ∧ ask k = .fail message := by
  induction keys with
  | nil => exact Or.inl ⟨_, rfl, rfl, fun _ hk => absurd hk List.not_mem_nil⟩
  | cons k keys ih =>
    rw [asked, scanned]
    cases hfails : ask.failsOn k with
    | true =>
      obtain ⟨message, hk⟩ := Filter.failsOn_iff.1 hfails
      have hends : c.endsAt now ask k = true := by rw [endsAt, hfails, Bool.true_or]
      rw [upTo_cons_of_pos hends]
      exact Or.inr ⟨message, readFiltered_cons_of_fail hk _ _, k, rfl, hk⟩
    | false =>
      have hends : c.endsAt now ask k = c.stopsAt now ask k := by
        rw [endsAt, hfails, Bool.false_or]
      cases hstops : c.stopsAt now ask k with
      | true =>
        obtain ⟨p, hp⟩ := readFiltered_of_stopsAt hstops keys
        rw [upTo_cons_of_pos (hends.trans hstops), upTo_cons_of_pos hstops]
        exact Or.inl ⟨p, hp, rfl, fun j hj => by rw [List.mem_singleton.1 hj, hfails]⟩
      | false =>
        obtain ⟨found, hread⟩ := readFiltered_of_endsAt_eq_false (hends.trans hstops)
        rw [upTo_cons_of_neg (hends.trans hstops), upTo_cons_of_neg hstops, hread]
        rcases ih with ⟨p, hp, hasked, hno⟩ | ⟨message, hp, j, hlast, hj⟩
        · rw [hp]
          exact Or.inl ⟨_, rfl, congrArg (k :: ·) hasked, List.forall_mem_cons.2 ⟨hfails, hno⟩⟩
        · have hne : c.asked now ask keys ≠ [] := by
            intro hnil
            rw [hnil] at hlast
            cases hlast
          rw [hp]
          exact Or.inr ⟨message, rfl, j, (List.getLast?_cons_of_ne_nil hne).trans hlast, hj⟩

/-! ## Programs -/

/-- What a resolution works on. -/
structure Workspace where
  collection : Collection
  /-- The list of records that belongs to the caller. -/
  out : List Record
  events : List Event
  /-- The keys about which the filter has been asked. -/
  asked : List String

/-- What a resolution leaves that has asked about some keys and has come to a result.  One that has
failed leaves all but the record of the keys as it was. -/
def Workspace.after (w : Workspace) (asked : List String) :
    Except String Resolution → Except String Unit × Workspace
  | .ok r => (.ok (), ⟨r.collection, r.records, w.events ++ r.events, w.asked ++ asked⟩)
  | .error message => (.error message, { w with asked := w.asked ++ asked })

/-- A program on a workspace.  A failure leaves the workspace as it is at that moment. -/
abbrev Program (α : Type) := ExceptT String (StateM Workspace) α

namespace Program

variable {α β : Type} {w : Workspace}

/-- Run a program: what it returns, and the workspace afterwards. -/
def runOn (x : Program α) (w : Workspace) : Except String α × Workspace := (ExceptT.run x).run w

@[simp] theorem runOn_pure (a : α) (w : Workspace) : runOn (pure a) w = (.ok a, w) := rfl

@[simp] theorem runOn_throw (message : String) (w : Workspace) :
    runOn (throw message : Program α) w = (.error message, w) := rfl

@[simp] theorem runOn_get (w : Workspace) : runOn get w = (.ok w, w) := rfl

@[simp] theorem runOn_modify (f : Workspace → Workspace) (w : Workspace) :
    runOn (modify f) w = (.ok (), f w) := rfl

/-- One program after the other; what the first one did stays when it fails. -/
theorem runOn_bind (x : Program α) (f : α → Program β) (w : Workspace) :
    runOn (x >>= f) w =
      match runOn x w with
      | (.ok a, v) => runOn (f a) v
      | (.error message, v) => (.error message, v) := by
  show (ExceptT.run (x >>= f)).run w = match (ExceptT.run x).run w with
      | (.ok a, v) => runOn (f a) v
      | (.error message, v) => (.error message, v)
  rw [ExceptT.run_bind, StateT.run_bind]
  cases h : (ExceptT.run x).run w with
  | mk r v => cases r <;> rfl

/-! ### Asking and collecting -/

/-- Ask the filter about a key: is the key visible? -/
def asks (ask : Filter) (k : String) : Program Bool := do
  modify fun w => { w with asked := w.asked ++ [k] }
  match ask k with
  | .keep => return true
  | .omit => return false
  | .fail message => throw message

/-- Ask the filter about a key if the pattern finds it; no other key is visible. -/
def asksIfFound (p : KeyPattern) (ask : Filter) (k : String) : Program Bool :=
  if p.search k then asks ask k else pure false

/-- Collect the records of a bucket up to the first expired value.  `i` values of the bucket have been
collected before. -/
def collectBucket (name : String) (now : Instant) (k : String) :
    Nat → List Entry → List Record → List Record × Option Place
  | _, [], found => (found, none)
  | i, e :: b, found =>
    if e.isExpiredAt now then (found, some ⟨k, i⟩)
    else collectBucket name now k (i + 1) b (found ++ [⟨name, k, e.payload⟩])

/-- Collect the records of the visible buckets up to the first expired value. -/
def collect (name : String) (now : Instant) (visible : String → Program Bool) :
    List (String × List Entry) → List Record → Program (List Record × Option Place)
  | [], found => return (found, none)
  | (k, b) :: rest, found => do
    if ← visible k then
      match collectBucket name now k 0 b found with
      | (found, some place) => return (found, some place)
      | (found, none) => collect name now visible rest found
    else collect name now visible rest found

/-- Erase the value at a place.  There must be one, if there is a bucket at all. -/
def eraseValue (p : Place) : Program Unit := do
  let w ← get
  if w.collection.bucket p.key ≠ [] then
    if p.index < (w.collection.bucket p.key).length then
      modify fun w => { w with collection := w.collection.eraseAt p }
    else throw "no value at this position"
  modify fun w => { w with events := w.events ++ [.erased w.collection.name p.key] }

/-- Erase the value that stopped a scan, if one did. -/
def eraseStop : Option Place → Program Unit
  | none => pure ()
  | some p => eraseValue p

/-- Put what was found in front of the records of the caller, the last record first. -/
def deliver (found : List Record) : Program Unit :=
  modify fun w => { w with out := found.reverse ++ w.out }

/-- Look through the bucket of one key after asking about it, or for the empty key through all
buckets. -/
def look (c : Collection) (now : Instant) (order : List String) (k : String) (ask : Filter) :
    Program (List Record × Option Place) :=
  if k = "" then collect c.name now (asks ask) (c.bucketsOf order) []
  else do
    if ← asks ask k then collect c.name now (fun _ => pure true) (c.bucketsOf [k]) []
    else pure ([], none)

/-- Resolve one key, or for the empty key all of them. -/
def resolveAll (now : Instant) (order : List String) (k : String) (ask : Filter) :
    Program Unit := do
  let w ← get
  let (found, stop) ← look w.collection now order k ask
  eraseStop stop
  deliver found

/-- Resolve the keys that a pattern finds. -/
def resolveMatching (now : Instant) (order : List String) (pattern : String) (ask : Filter) :
    Program Unit := do
  let c := (← get).collection
  match KeyPattern.compile pattern c.ignoreCase with
  | .error e => modify fun w => { w with events := w.events ++ [.patternRejected c.name e] }
  | .ok p =>
    let (found, stop) ← collect c.name now (asksIfFound p ask) (c.bucketsOf order) []
    eraseStop stop
    deliver found

/-! ### What the programs do -/

/-- What a filter that answers comes to in a program. -/
def answers : Verdict → Except String Bool
  | .keep => .ok true
  | .omit => .ok false
  | .fail message => .error message

theorem runOn_asks (ask : Filter) (k : String) (w : Workspace) :
    runOn (asks ask k) w = (answers (ask k), { w with asked := w.asked ++ [k] }) := by
  rw [asks, runOn_bind, runOn_modify]
  cases ask k with
  | keep => exact runOn_pure true _
  | «omit» => exact runOn_pure false _
  | fail message => exact runOn_throw message _

/-- Counting positions finds the first expired value. -/
theorem collectBucket_eq (name : String) (now : Instant) (k : String) (i : Nat) (b : List Entry)
    (found : List Record) :
    collectBucket name now k i b found =
      (found ++ liveRecords name now k b,
        (b.findIdx? (·.isExpiredAt now)).map fun j => ⟨k, i + j⟩) := by
  induction b generalizing i found with
  | nil => simp [collectBucket, liveRecords]
  | cons e b ih =>
    rw [collectBucket, liveRecords, List.findIdx?_cons]
    cases he : e.isExpiredAt now with
    | true => simp [he]
    | false =>
      rw [if_neg Bool.false_ne_true, ih, liveRecords]
      simp [he, Function.comp_def, Nat.add_comm, Nat.add_left_comm]

theorem collectBucket_zero (name : String) (now : Instant) (k : String) (b : List Entry)
    (found : List Record) :
    collectBucket name now k 0 b found =
      (found ++ liveRecords name now k b, firstExpired? now k b) := by
  rw [collectBucket_eq, firstExpired?]
  simp only [Nat.zero_add]

/-- A program that decides which keys are visible as a filter does, and asks on the way about some
keys, or none. -/
def Consults (visible : String → Program Bool) (ask : Filter) (note : String → List String) :
    Prop :=
  ∀ k w, runOn (visible k) w = (answers (ask k), { w with asked := w.asked ++ note k })

theorem consults_asks (ask : Filter) : Consults (asks ask) ask fun k => [k] :=
  runOn_asks ask

theorem consults_asksIfFound (p : KeyPattern) (ask : Filter) :
    Consults (asksIfFound p ask) (ask.narrowed p) fun k => [k].filter p.search := by
  intro k w
  rw [asksIfFound, Filter.narrowed]
  cases hk : p.search k with
  | true => simpa [hk] using runOn_asks ask k w
  | false => simp [hk, answers]

/-- **Collecting is reading through a filter**, and asks about the keys up to the end of the
scan. -/
theorem runOn_collect {visible : String → Program Bool} {note : String → List String}
    (h : Consults visible ask note) (c : Collection) (now : Instant) (keys : List String)
    (found : List Record) (w : Workspace) :
    runOn (collect c.name now visible (c.bucketsOf keys) found) w =
      ((readFiltered c.name now ask (c.bucketsOf keys)).map fun p => (found ++ p.1, p.2),
        { w with asked := w.asked ++ (c.asked now ask keys).flatMap note }) := by
  induction keys generalizing found w with
  | nil =>
    show ((Except.ok (found, none), w) : Except String (List Record × Option Place) × Workspace) =
      (.ok (found ++ [], none), { w with asked := w.asked ++ [] })
    rw [List.append_nil, List.append_nil]
  | cons k keys ih =>
    rw [bucketsOf, List.map_cons, ← bucketsOf, collect, runOn_bind, h k w, asked]
    cases hk : ask k with
    | fail message =>
      have hends : c.endsAt now ask k = true := by
        rw [endsAt, Filter.failsOn_iff.2 ⟨message, hk⟩, Bool.true_or]
      rw [readFiltered_cons_of_fail hk, upTo_cons_of_pos hends, List.flatMap_singleton]
      rfl
    | «omit» =>
      have hends : c.endsAt now ask k = false := by simp [endsAt, Filter.failsOn, stopsAt, hk]
      rw [readFiltered_cons_of_omit hk, upTo_cons_of_neg hends, List.flatMap_cons,
        ← List.append_assoc]
      exact ih found _
    | keep =>
      have hends : c.endsAt now ask k = hasExpired now (c.bucket k) := by
        simp [endsAt, Filter.failsOn, stopsAt, hk]
      have hbucket := collectBucket_zero c.name now k (c.bucket k) found
      simp only [answers, if_pos, hbucket]
      cases hexp : hasExpired now (c.bucket k) with
      | true =>
        have hb := firstExpired?_of_hasExpired hexp k
        rw [readFiltered_cons_of_some hk hb, hb, upTo_cons_of_pos (hends.trans hexp),
          List.flatMap_singleton]
        rfl
      | false =>
        have hb := firstExpired?_of_not_hasExpired hexp k
        rw [readFiltered_cons_of_none hk hb, hb, upTo_cons_of_neg (hends.trans hexp),
          List.flatMap_cons, ← List.append_assoc, ih]
        cases readFiltered c.name now ask (c.bucketsOf keys) with
        | error message => rfl
        | ok p => simp only [Except.map, List.append_assoc, asked]

/-- Erasing finds a value at a place in front of the end of the bucket. -/
theorem runOn_eraseValue {p : Place} {w : Workspace}
    (h : p.index < (w.collection.bucket p.key).length) :
    runOn (eraseValue p) w =
      (.ok (), { w with
        collection := w.collection.eraseAt p
        events := w.events ++ [.erased w.collection.name p.key] }) := by
  have hne : w.collection.bucket p.key ≠ [] := List.ne_nil_of_length_pos (by omega)
  rw [eraseValue, runOn_bind, runOn_get]
  simp only [hne, h, if_pos, ne_eq, not_false_eq_true]
  rfl

/-- The place at which a scan stops is the place of a value. -/
theorem index_lt_of_readFiltered {c : Collection} {p : List Record × Option Place} {place : Place}
    (h : readFiltered c.name now ask (c.bucketsOf keys) = .ok p) (hp : p.2 = some place) :
    place.index < (c.bucket place.key).length := by
  rw [readFiltered_eq_of_ok h, bucketsOf_kept, readThrough_bucketsOf] at hp
  obtain ⟨k, hk, rfl⟩ := Option.map_eq_some_iff.1 hp
  exact List.findIdx_lt_length_of_exists (List.any_eq_true.1 (hasExpired_of_stop?_eq_some hk))

/-- The end of a resolution: the value that stopped its scan is erased, and what was found is
delivered. -/
theorem runOn_finish (found : List Record) (stop : Option Place) {w : Workspace}
    (h : ∀ p, stop = some p → p.index < (w.collection.bucket p.key).length) :
    runOn (do eraseStop stop; deliver found) w =
      w.after [] (.ok (w.collection.finish stop (found.reverse ++ w.out))) := by
  rw [runOn_bind, Workspace.after, List.append_nil]
  cases stop with
  | none =>
    rw [finish, List.append_nil]
    rfl
  | some p =>
    rw [eraseStop, runOn_eraseValue (h p rfl)]
    rfl

/-- A scan and what follows it are a resolution of the keys. -/
theorem runOn_scan {visible : String → Program Bool} {note : String → List String}
    (h : Consults visible ask note) (now : Instant) (keys : List String) (w : Workspace) :
    runOn (do
        let p ← collect w.collection.name now visible (w.collection.bucketsOf keys) []
        eraseStop p.2
        deliver p.1) w =
      w.after ((w.collection.asked now ask keys).flatMap note)
        (w.collection.resolveOrder now keys ask w.out) := by
  rw [runOn_bind, runOn_collect h, resolveOrder]
  cases hr : readFiltered w.collection.name now ask (w.collection.bucketsOf keys) with
  | error message => rfl
  | ok p =>
    have hfinish := runOn_finish ([] ++ p.1) p.2
      (w := { w with asked := w.asked ++ (w.collection.asked now ask keys).flatMap note })
      fun place hp => index_lt_of_readFiltered hr hp
    show runOn (do eraseStop p.2; deliver ([] ++ p.1)) _ = _
    rw [hfinish]
    simp [Workspace.after, Except.map]

/-- Asking about a key and then collecting its bucket is a scan of that key alone. -/
theorem look_eq (c : Collection) (now : Instant) (order : List String) (k : String)
    (ask : Filter) :
    look c now order k ask =
      collect c.name now (asks ask) (c.bucketsOf (if k = "" then order else [k])) [] := by
  rw [look]
  split <;> rfl

/-- **The resolution of one key or of all of them**, as a program.  It asks about the keys up to the
end of the scan. -/
theorem runOn_resolveAll (now : Instant) (order : List String) (k : String) (ask : Filter)
    (w : Workspace) :
    runOn (Program.resolveAll now order k ask) w =
      w.after (w.collection.asked now ask (if k = "" then order else [k]))
        (w.collection.resolveAll now order k ask w.out) := by
  have hscan := runOn_scan (consults_asks ask) now (if k = "" then order else [k]) w
  rw [List.flatMap_singleton'] at hscan
  rw [Program.resolveAll, runOn_bind, runOn_get, Collection.resolveAll, ← hscan]
  simp only [look_eq]

/-- **The resolution of the keys that a pattern finds**, as a program.  It asks about no other
keys. -/
theorem runOn_resolveMatching {pattern : String} {p : KeyPattern} {w : Workspace}
    (hp : KeyPattern.compile pattern w.collection.ignoreCase = .ok p) (now : Instant)
    (order : List String) (ask : Filter) :
    runOn (Program.resolveMatching now order pattern ask) w =
      w.after ((w.collection.asked now (ask.narrowed p) order).filter p.search)
        (w.collection.resolveMatching now order pattern ask w.out) := by
  have hscan := runOn_scan (consults_asksIfFound p ask) now order w
  rw [← List.filter_flatMap, List.flatMap_singleton'] at hscan
  rw [Program.resolveMatching, runOn_bind, runOn_get, Collection.resolveMatching]
  simp only [hp]
  exact hscan

/-- A pattern that does not compile ends the program before anything is looked at. -/
theorem runOn_resolveMatching_of_error {pattern : String} {e : InvalidPattern} {w : Workspace}
    (he : KeyPattern.compile pattern w.collection.ignoreCase = .error e) (now : Instant)
    (order : List String) (ask : Filter) :
    runOn (Program.resolveMatching now order pattern ask) w =
      w.after [] (w.collection.resolveMatching now order pattern ask w.out) := by
  rw [Program.resolveMatching, runOn_bind, runOn_get, Collection.resolveMatching]
  simp only [he, Workspace.after, List.append_nil]
  rfl

end Program
end Collection
end VarStore
