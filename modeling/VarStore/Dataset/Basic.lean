import VarStore.Dataset.Lines
import VarStore.Event
import VarStore.File.Basic

/-!
# Loading datasets

A *provider* knows datasets by name and gives their text, or says why it cannot.  A *builder* takes
patterns one at a time and is told when the last one has come.  Loading a dataset asks the provider
once.  If the text is there, its pattern lines go to the builder in order, and then the builder is
prepared, also when there was no pattern at all; if it is not, the builder is left alone.

What a builder is built on is its own business: it is given by two functions on a state.
`Builder.recording` keeps the calls themselves, `PatternList.builder` the patterns.
-/

namespace VarStore
namespace Dataset

/-! ## Providers -/

/-- Why the text of a dataset is not to be had. -/
inductive Fault where
  /-- The provider has no datasets at all. -/
  | mapUnset
  /-- There is no dataset of this name. -/
  | notFound (name : String)
  /-- The file of the dataset cannot be read. -/
  | unreadable (name : String) (cause : File.Fault)
  /-- The dataset is not on this machine. -/
  | remote (name : String)
  deriving DecidableEq

namespace Fault

/-- The fault in words. -/
def message : Fault → String
  | mapUnset => "data map is not set"
  | notFound name => "the data '" ++ name ++ "' is not found"
  | unreadable name cause => "failed to open file: " ++ name ++ ". " ++ cause.message
  | remote name => "failed to download " ++ name ++ ": remote pattern sources are not supported"

/-- The fault behind this one. -/
def cause? : Fault → Option File.Fault
  | unreadable _ cause => some cause
  | _ => none

end Fault

/-- A provider gives the text of a dataset. -/
abbrev Provider := String → Except Fault String

/-! ## Builders -/

/-- How a pattern set is built. -/
structure Builder (σ : Type) where
  /-- Take one pattern. -/
  add : σ → String → σ
  /-- Make ready after the last pattern. -/
  prepare : σ → σ

/-- What a builder can be asked to do. -/
inductive Call where
  | add (pattern : String)
  | prepare
  deriving DecidableEq

/-- Do what is asked. -/
def Builder.perform {σ : Type} (b : Builder σ) (s : σ) : Call → σ
  | .add pattern => b.add s pattern
  | .prepare => b.prepare s

/-- A builder that keeps the calls it receives, in order. -/
def Builder.recording : Builder (List Call) where
  add calls pattern := calls ++ [.add pattern]
  prepare calls := calls ++ [.prepare]

/-! ## Loading -/

/-- What a dataset that was loaded leaves: the builder, how many patterns there were, and what
happened. -/
structure Loaded (σ : Type) where
  built : σ
  count : Nat
  events : List Event

/-- Load a dataset into a builder. -/
def load {σ : Type} (provider : Provider) (name : String) (b : Builder σ) (s : σ) :
    Except Fault (Loaded σ) :=
  (provider name).map fun text =>
    let patterns := patternLines text
    ⟨b.prepare (patterns.foldl b.add s), patterns.length,
      [.datasetLoaded name patterns.length]⟩

/-! ## Lists of patterns -/

/-- The simplest pattern set: the patterns themselves. -/
structure PatternList where
  patterns : List String
  prepared : Bool
  deriving DecidableEq

namespace PatternList

/-- No patterns yet. -/
def empty : PatternList := ⟨[], false⟩

/-- Take one pattern. -/
def add (l : PatternList) (pattern : String) : PatternList :=
  { l with patterns := l.patterns ++ [pattern] }

/-- Note that the last pattern has come. -/
def prepare (l : PatternList) : PatternList := { l with prepared := true }

/-- Build a list of patterns. -/
def builder : Builder PatternList := ⟨add, prepare⟩

/-- How many patterns there are. -/
def size (l : PatternList) : Nat := l.patterns.length

/-- Are there no patterns? -/
def isEmpty (l : PatternList) : Bool := l.patterns.isEmpty

/-- How a list of patterns is shown. -/
def describe (l : PatternList) : String :=
  Text.described "PatternList"
    [("patterns", Text.bracketed (l.patterns.map Text.quote)),
      ("prepared", if l.prepared then "true" else "false")]

end PatternList

end Dataset
end VarStore
