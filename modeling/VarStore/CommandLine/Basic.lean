/-!
# What can be asked for on the command line

There are two commands.  One checks a pattern dataset, the other runs a workload on a collection.
With either, `verbose` and `format` may be set.
-/

namespace VarStore
namespace CommandLine

/-- How results are written. -/
inductive Format where
  | text | json
  deriving DecidableEq

/-- Check a pattern dataset. -/
structure PatternsRequest where
  /-- The name of the dataset. -/
  dataset : String
  /-- The directory in which names are looked up. -/
  root : String
  /-- Are the patterns themselves asked for? -/
  list : Bool
  deriving DecidableEq

/-- Run a workload. -/
structure StressRequest where
  threads : UInt64
  /-- The number of operations of each thread. -/
  ops : UInt64
  /-- The name of the collection. -/
  collection : String
  /-- The number of keys of each thread. -/
  keys : UInt64
  /-- The file of the configuration, if not the standard one. -/
  config : Option String
  deriving DecidableEq

/-- A command. -/
inductive Command where
  | patterns (request : PatternsRequest)
  | stress (request : StressRequest)
  deriving DecidableEq

/-- Everything that is asked for. -/
structure Request where
  verbose : Bool
  format : Format
  command : Command
  deriving DecidableEq

/-- Why arguments are not carried out. -/
inductive Refusal where
  /-- Help was asked for. -/
  | help
  /-- The version was asked for. -/
  | version
  /-- Nothing was asked for. -/
  | nothingAsked
  /-- There is no command. -/
  | commandMissing
  /-- The command is unknown. -/
  | commandUnknown
  /-- The command lacks an argument. -/
  | argumentMissing
  /-- An argument is unknown. -/
  | argumentUnknown
  /-- An option is given twice. -/
  | givenTwice
  /-- An option lacks its value, or has one it cannot have. -/
  | valueInvalid
  /-- A value is no number. -/
  | notNumber
  /-- An option that takes no value is given one. -/
  | valueUnneeded
  deriving DecidableEq

/-- The exit code of a refusal. -/
def Refusal.exitCode : Refusal → Nat
  | help => 0
  | version => 0
  | _ => 2

end CommandLine
end VarStore
