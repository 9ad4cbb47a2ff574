import VarStore.CommandLine.Switch

/-!
# Reading the command line

Arguments are read from left to right, first in front of the command and then behind it.

An option that takes a value may have it attached (`--ops=5`, `-n5`, `-n=5`) or take the next
argument, which must not look like an option itself.  An attached value is looked at at once, but a
value that stands alone only when the next option comes, or a dataset, or the end; until then the
option is *open*.  So of two faults it is not always the first that is reported: what is unknown is
reported at once, whatever is open.

Everything behind the command is looked at before what is still open in front of it.
-/

namespace VarStore
namespace CommandLine

/-- An option that waits to be looked at, with the value it has got so far. -/
structure Open where
  switch : Switch
  value : Option String
  deriving DecidableEq

/-- How far the arguments of one level have been read. -/
structure Progress where
  level : Level
  /-- The options that were given. -/
  settings : List Setting
  /-- The dataset, if it was given. -/
  dataset : Option String
  /-- The option that is open. -/
  pending : Option Open
  /-- Was there a double hyphen, behind which nothing is an option? -/
  plain : Bool
  deriving DecidableEq

namespace Progress

/-- Nothing read yet. -/
def start (level : Level) : Progress := ⟨level, [], none, none, false⟩

/-- Was the option given? -/
def has (p : Progress) (s : Switch) : Bool := p.settings.any fun x => x.switch = s

/-- Note an option that was given.  That it is given twice is reported before its value is looked
at. -/
def note (p : Progress) (s : Switch) (value : String) : Except Refusal Progress :=
  if p.has s then .error .givenTwice
  else (s.interpret value).map fun x => { p with settings := p.settings ++ [x] }

/-- Look at the option that is open. -/
def settle (p : Progress) : Except Refusal Progress :=
  match p.pending with
  | none => .ok p
  | some ⟨_, none⟩ => .error .valueInvalid
  | some ⟨s, some value⟩ => { p with pending := none }.note s value

/-- An option with an attached value, or one that takes none. -/
def give (p : Progress) (s : Switch) (value : String) : Except Refusal Progress :=
  p.settle.bind fun p => p.note s value

/-- An option whose value is still to come. -/
def await (p : Progress) (s : Switch) : Except Refusal Progress :=
  p.settle.map fun p => { p with pending := some ⟨s, none⟩ }

/-- Does the next argument belong to the open option? -/
def awaits (p : Progress) : Bool := !p.plain && p.pending.any (·.value.isNone)

/-- The value of the open option. -/
def supply (p : Progress) (value : String) : Progress :=
  { p with pending := p.pending.map fun o => { o with value := some value } }

/-- An argument that is no option.  Only one is taken, and only where a dataset is asked for. -/
def plainArgument (p : Progress) (value : String) : Except Refusal Progress :=
  match p.level, p.dataset with
  | .patterns, none => p.settle.map fun p => { p with dataset := some value }
  | .top, _ => .error .commandUnknown
  | _, _ => .error .argumentUnknown

/-! ## Options -/

/-- Split an argument at its first equals sign. -/
def splitEquals (cs : List Char) : List Char × Option (List Char) :=
  match cs.dropWhile (· ≠ '=') with
  | [] => (cs, none)
  | _ :: value => (cs.takeWhile (· ≠ '='), some value)

/-- An option by its long name, after the two hyphens. -/
def longOption (p : Progress) (cs : List Char) : Except Refusal Progress :=
  let (name, value) := splitEquals cs
  match p.level.long? (String.ofList name) with
  | none => .error .argumentUnknown
  | some s =>
    match s.takesValue, value with
    | true, none => p.await s
    | true, some value => p.give s (String.ofList value)
    | false, none => p.give s ""
    | false, some _ => .error .valueUnneeded

/-- Options by their letters, after the hyphen.  The first one that takes a value has the rest for
it, in front of which an equals sign may stand. -/
def letterOptions (p : Progress) : List Char → Except Refusal Progress
  | [] => .ok p
  | c :: rest =>
    match p.level.letter? c with
    | none => .error .argumentUnknown
    | some s =>
      if s.takesValue then
        match rest with
        | [] => p.await s
        | '=' :: value => p.give s (String.ofList value)
        | value => p.give s (String.ofList value)
      else (p.give s "").bind fun p => p.letterOptions rest

/-- An argument that is no command. -/
def argument (p : Progress) (arg : String) : Except Refusal Progress :=
  if p.plain then p.plainArgument arg
  else
    match arg.toList with
    | ['-', '-'] => .ok { p with plain := true }
    | '-' :: '-' :: cs => p.longOption cs
    | '-' :: c :: cs => p.letterOptions (c :: cs)
    | _ => if p.awaits then .ok (p.supply arg) else p.plainArgument arg

end Progress

/-! ## Commands -/

/-- The words in the place of a command. -/
inductive CommandWord where
  | help | patterns | stress
  deriving DecidableEq

/-- The command with the given name. -/
def CommandWord.named? (word : String) : Option CommandWord :=
  if word = "help" then some help
  else if word = "patterns" then some patterns
  else if word = "stress" then some stress
  else none

/-- What asking for help on some commands comes to. -/
def helpOn : List String → Refusal
  | [] => .help
  | [word] => if (CommandWord.named? word).isSome then .help else .commandUnknown
  | _ => .commandUnknown

/-- Read the arguments behind a command. -/
def readBehind (p : Progress) : List String → Except Refusal Progress
  | [] => p.settle
  | arg :: rest => (p.argument arg).bind fun p => readBehind p rest

/-- What was read in front of the command and behind it. -/
structure Parts where
  front : Progress
  behind : Progress
  deriving DecidableEq

/-- Behind a double hyphen the name of a command is nothing but an unknown argument. -/
def plainWord (p : Progress) (word : String) : Except Refusal Progress :=
  if (CommandWord.named? word).isSome then .error .argumentUnknown else p.argument word

/-- Finish the arguments if there is no command. -/
def withoutCommand (p : Progress) : Except Refusal Parts :=
  p.settle.bind fun p =>
    .error (if p.settings.isEmpty then .nothingAsked else .commandMissing)

/-- Read the arguments in front of a command, and then those behind it. -/
def readFront (p : Progress) : List String → Except Refusal Parts
  | [] => withoutCommand p
  | arg :: rest =>
    if p.plain then (plainWord p arg).bind fun p => readFront p rest
    else if p.awaits then (p.argument arg).bind fun p => readFront p rest
    else
      match CommandWord.named? arg with
      | some .help => .error (helpOn rest)
      | some .patterns => (readBehind (.start .patterns) rest).map (Parts.mk p)
      | some .stress => (readBehind (.start .stress) rest).map (Parts.mk p)
      | none => (p.argument arg).bind fun p => readFront p rest

/-! ## Putting the request together -/

/-- The request that a command makes, with the standard values where nothing was given. -/
def commandOf (p : Progress) : Except Refusal Command :=
  let get {α : Type} (f : Setting → Option α) : Option α := p.settings.findSome? f
  match p.level with
  | .patterns =>
    match p.dataset with
    | none => .error .argumentMissing
    | some dataset =>
      .ok (.patterns
        { dataset
          root := (get fun | .root path => some path | _ => none).getD "."
          list := p.has .list })
  | _ =>
    .ok (.stress
      { threads := (get fun | .threads n => some n | _ => none).getD 4
        ops := (get fun | .ops n => some n | _ => none).getD 10000
        collection := (get fun | .collection name => some name | _ => none).getD "GLOBAL"
        keys := (get fun | .keys n => some n | _ => none).getD 16
        config := get fun | .config path => some path | _ => none })

/-- The format that was given. -/
def formatOf (p : Progress) : Option Format :=
  p.settings.findSome? fun | .format f => some f | _ => none

/-- Read the command line.  What is set behind the command wins over what is set in front. -/
def read (args : List String) : Except Refusal Request := do
  let parts ← readFront (.start .top) args
  let command ← commandOf parts.behind
  let front ← parts.front.settle
  return {
    verbose := front.has .verbose || parts.behind.has .verbose
    format := ((formatOf parts.behind).or (formatOf front)).getD .text
    command }

end CommandLine
end VarStore
