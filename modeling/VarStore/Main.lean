import VarStore.CommandLine.Command
import VarStore.File.Tree

/-!
# The program

The program reads its arguments, the file that the command asks for, the clock and a source of
chance, hands everything to the library, and prints what comes back.
-/

namespace VarStore
namespace Program

open CommandLine

/-- What is printed when help is asked for. -/
def usage : String :=
  "Per-process variable collections for rule engines\n\n" ++
    "Usage: varstore [-v] [--format text|json] <COMMAND>\n\n" ++
    "Commands:\n" ++
    "  patterns <DATASET> [--root DIR] [--list]\n" ++
    "  stress [-t THREADS] [-n OPS] [-c COLLECTION] [--keys KEYS] [--config FILE]\n"

/-- The version that is printed. -/
def versionLine : String := "varstore 0.1.0\n"

/-- Why a file could not be opened. -/
def faultOf : IO.Error → File.Fault
  | .inappropriateType _ 21 _ => .isDirectory
  | .inappropriateType _ _ _ => .notDirectory
  | .invalidArgument _ _ _ => .nameTooLong
  | _ => .missing

/-- Read a file as text. -/
def readFile (path : String) : IO (Except File.Fault String) := do
  match File.pathFault? path with
  | some fault => return .error fault
  | none =>
    try
      return (File.Node.file (← IO.FS.readBinFile path)).text
    catch e => return .error (faultOf e)

/-- The reading of the clock. -/
def readClock : IO Instant := do
  return (Instant.ofNanos? (← IO.monoNanosNow)).getD default

/-- Print the events that matter. -/
def tell (verbose : Bool) (events : List Event) : IO Unit :=
  for e in events do
    if verbose || e.level == .warn then
      let fields := e.fields.map fun f => " " ++ f.1 ++ "=" ++ f.2
      IO.eprintln (e.level.label ++ " " ++ e.message ++ String.join fields)

/-- Run a workload and write the report on it. -/
def stress (r : StressRequest) (read : File.Reader) (format : Format) (styles : Bool) :
    IO (Except Failure Outcome) := do
  match r.configuration read with
  | .error failure => return .error failure
  | .ok config =>
    let started ← IO.monoMsNow
    let p := r.play config (← readClock) (mkStdGen (← IO.rand 0 4294967295))
    let ended ← readClock
    let elapsed := (← IO.monoMsNow) - started
    return .ok (r.finish p ended elapsed format styles)

/-- A failure with its causes, one a line. -/
def explanation (failure : Failure) : String :=
  match failure.chain with
  | [] => "Error\n"
  | what :: causes =>
    "Error: " ++ what ++ "\n\nCaused by:\n" ++
      String.join (causes.map fun cause => "    " ++ cause ++ "\n")

/-- Carry out a request. -/
def carryOut (r : Request) : IO UInt32 := do
  let styles ← (← IO.getStdout).isTty
  let file ← match r.command.file? with
    | some path => readFile path
    | none => pure (.error .missing)
  let read : File.Reader := fun _ => file
  let outcome ← match r.command with
    | .patterns request => pure (request.run read r.format styles)
    | .stress request => stress request read r.format styles
  match outcome with
  | .ok outcome =>
    tell r.verbose outcome.events
    IO.print outcome.output
    return 0
  | .error failure =>
    IO.eprint (explanation failure)
    return 1

/-- Say why the arguments are not carried out. -/
def refuse (refusal : Refusal) : IO UInt32 := do
  match refusal with
  | .help => IO.print usage
  | .version => IO.print versionLine
  | _ => IO.eprint usage
  return refusal.exitCode.toUInt32

end Program
end VarStore

/-- The program. -/
def main (args : List String) : IO UInt32 :=
  match VarStore.CommandLine.read args with
  | .ok request => VarStore.Program.carryOut request
  | .error refusal => VarStore.Program.refuse refusal
