import VarStore.KeyPattern
import VarStore.Text.Ascii

/-!
# Which keys a scan leaves out

A scan asks a filter about each key it comes to.  The filter answers that the key is kept or
omitted, or it fails; a failure ends the scan.  The filters in daily use never fail: the one that
keeps everything, a predicate on keys, and a list of exclusions, which omits a key as soon as one
of its entries covers it.
-/

namespace VarStore

/-- What a filter answers about a key. -/
inductive Verdict where
  | keep
  | omit
  /-- The filter itself broke down. -/
  | fail (message : String)
  deriving DecidableEq

/-- A filter answers for every key. -/
abbrev Filter := String → Verdict

namespace Filter

/-- The filter that omits the keys with the property. -/
def omitting (p : String → Bool) : Filter := fun k => if p k then .omit else .keep

/-- The filter that keeps every key. -/
def keepAll : Filter := omitting fun _ => false

@[simp] theorem omitting_apply (p : String → Bool) (k : String) :
    omitting p k = if p k then .omit else .keep := rfl

@[simp] theorem keepAll_apply (k : String) : keepAll k = .keep := rfl

end Filter

/-- One exclusion. -/
inductive Exclusion where
  /-- The key with this name, in any ASCII case. -/
  | named (key : String)
  /-- Every key that the pattern finds. -/
  | matching (pattern : KeyPattern)

namespace Exclusion

/-- An exclusion by pattern, in which upper and lower case are the same. -/
def ofPattern (pattern : String) : Except InvalidPattern Exclusion :=
  (KeyPattern.compile pattern true).map matching

/-- Does the exclusion cover the key? -/
def covers : Exclusion → String → Bool
  | named name, key => Text.sameIgnoringCase name key
  | matching p, key => p.search key

/-- Exclusions are compared by the text they were made from. -/
def same : Exclusion → Exclusion → Bool
  | named a, named b => a == b
  | matching p, matching q => p == q
  | _, _ => false

instance : BEq Exclusion := ⟨same⟩

/-- How an exclusion is shown. -/
def describe : Exclusion → String
  | named name => "Exact(" ++ Text.quote name ++ ")"
  | matching p => "Pattern(" ++ p.describe ++ ")"

end Exclusion

/-- A list of exclusions. -/
structure Exclusions where
  entries : List Exclusion

namespace Exclusions

/-- No exclusions. -/
def empty : Exclusions := ⟨[]⟩

/-- Add an exclusion at the end. -/
def push (x : Exclusions) (e : Exclusion) : Exclusions := ⟨x.entries ++ [e]⟩

/-- Add the exclusion of one key. -/
def excludeKey (x : Exclusions) (key : String) : Exclusions := x.push (.named key)

/-- Add the exclusion of the keys that a pattern finds. -/
def excludePattern (x : Exclusions) (pattern : String) : Except InvalidPattern Exclusions :=
  (Exclusion.ofPattern pattern).map x.push

/-- How many exclusions there are. -/
def size (x : Exclusions) : Nat := x.entries.length

/-- Are there no exclusions? -/
def isEmpty (x : Exclusions) : Bool := x.entries.isEmpty

/-- Does some exclusion cover the key? -/
def omits (x : Exclusions) (key : String) : Bool := x.entries.any (·.covers key)

/-- The filter that omits what the exclusions cover. -/
def filter (x : Exclusions) : Filter := .omitting x.omits

/-- Lists of exclusions are compared entry by entry. -/
instance : BEq Exclusions := ⟨fun x y => x.entries == y.entries⟩

/-- How a list of exclusions is shown. -/
def describe (x : Exclusions) : String :=
  Text.described "KeyExclusions" [("entries", Text.bracketed (x.entries.map (·.describe)))]

end Exclusions

end VarStore
