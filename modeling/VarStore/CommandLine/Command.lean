import VarStore.CommandLine.Reader
import VarStore.Config.Toml
import VarStore.Dataset.Directory
import VarStore.Dataset.Report
import VarStore.Stress.Report

/-!
# Carrying out a command

A command ends with something printed and with events, or with a failure that says what was being
done and, step by step, why it could not be.  Nothing is printed by a command that fails.

A command reads files through a `File.Reader`.  The command `stress` depends on chance and on the
clock besides, and is given both.
-/

namespace VarStore
namespace CommandLine

/-- Why a command failed. -/
inductive Failure where
  | dataset (name : String) (cause : Dataset.Fault)
  | config (path : String) (cause : Config.Fault)
  deriving DecidableEq

/-- A failure in words: what was being done first, then the causes, each the cause of the one in
front of it. -/
def Failure.chain : Failure → List String
  | dataset name cause =>
    ["loading dataset " ++ name, cause.message] ++ (cause.cause?.map (·.message)).toList
  | config path cause => ["loading store config " ++ path, cause.message, cause.reason]

/-- What a command that succeeded leaves. -/
structure Outcome where
  /-- What is printed. -/
  output : String
  events : List Event

/-- Lines as they are printed. -/
def printed (lines : List String) : String := String.join (lines.map (· ++ "\n"))

/-- A report in the format that is asked for. -/
def render (format : Format) (json : String) (lines : List String) : String :=
  match format with
  | .json => printed [json]
  | .text => printed lines

namespace PatternsRequest

/-- The report that the command makes, and what happened. -/
def report (r : PatternsRequest) (read : File.Reader) :
    Except Failure (Dataset.Report × List Event) :=
  match Dataset.load ((Dataset.InDirectory.mk r.root).fetch read) r.dataset
      Dataset.PatternList.builder .empty with
  | .error cause => .error (.dataset r.dataset cause)
  | .ok loaded =>
    .ok (⟨r.dataset, loaded.count, if r.list then some loaded.built.patterns else none⟩,
      loaded.events ++ [.datasetChecked r.dataset r.root loaded.count])

/-- Carry out the command. -/
def run (r : PatternsRequest) (read : File.Reader) (format : Format) (styles : Bool) :
    Except Failure Outcome :=
  (r.report read).map fun p => ⟨render format p.1.toJson (p.1.lines styles), p.2⟩

end PatternsRequest

namespace StressRequest

/-- The number of workers; there is at least one. -/
def workers (r : StressRequest) : Nat := max r.threads.toNat 1

/-- The number of keys of each worker; there is at least one. -/
def keyCount (r : StressRequest) : Nat := max r.keys.toNat 1

theorem keyCount_pos (r : StressRequest) : 0 < r.keyCount := by
  rw [keyCount]; omega

/-- The configuration that is asked for. -/
def configuration (r : StressRequest) (read : File.Reader) : Except Failure Config :=
  match r.config with
  | none => .ok .standard
  | some path =>
    match Config.load read path with
    | .ok config => .ok config
    | .error cause => .error (.config path cause)

/-- The collection that the workload runs on, empty. -/
def freshCollection (r : StressRequest) (config : Config) : Collection :=
  .configured (Text.upper r.collection) config

/-- Before the first turn. -/
def start (r : StressRequest) (config : Config) : Stress.Progress :=
  .start (r.freshCollection config) r.workers

/-- Run the workload at one reading of the clock. -/
def play (r : StressRequest) (config : Config) (now : Instant) (g : StdGen) : Stress.Progress :=
  (Stress.playRounds r.keyCount_pos now r.workers r.ops.toNat (r.start config, g)).1

/-- The report on a workload that has ended, and what happened besides the calls. -/
def report (r : StressRequest) (p : Stress.Progress) (now : Instant) (elapsedMillis : Nat) :
    Stress.Report × List Event :=
  Stress.Report.ofProgress p now r.workers r.ops.toNat elapsedMillis

/-- Carry out the end of the command: write the report. -/
def finish (r : StressRequest) (p : Stress.Progress) (now : Instant) (elapsedMillis : Nat)
    (format : Format) (styles : Bool) : Outcome :=
  let (report, events) := r.report p now elapsedMillis
  ⟨render format report.toJson (report.lines styles), events⟩

end StressRequest

/-- The file that a command reads, if it reads one. -/
def Command.file? : Command → Option String
  | .patterns r =>
    if Dataset.InDirectory.isRemote r.dataset then none
    else some ((Dataset.InDirectory.mk r.root).path r.dataset)
  | .stress r => r.config

end CommandLine
end VarStore
