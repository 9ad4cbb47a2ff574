import VarStore.CommandLine.Basic
import VarStore.Text.Digits

/-!
# Options

An option has a long name and perhaps a letter, and takes a value or does not.  Which options there
are depends on the level: in front of the command, or behind it.  `Switch.interpret` says which
values an option can have.
-/

namespace VarStore
namespace CommandLine

/-- The places where options may stand. -/
inductive Level where
  /-- In front of the command. -/
  | top
  /-- Behind the command `patterns`. -/
  | patterns
  /-- Behind the command `stress`. -/
  | stress
  deriving DecidableEq

/-- The options. -/
inductive Switch where
  | verbose | format | help | version
  | root | list
  | threads | ops | collection | keys | config
  deriving DecidableEq

namespace Switch

/-- All options. -/
def all : List Switch :=
  [verbose, format, help, version, root, list, threads, ops, collection, keys, config]

/-- The long name of an option. -/
def long : Switch → String
  | verbose => "verbose"
  | format => "format"
  | help => "help"
  | version => "version"
  | root => "root"
  | list => "list"
  | threads => "threads"
  | ops => "ops"
  | collection => "collection"
  | keys => "keys"
  | config => "config"

/-- The letter of an option. -/
def letter? : Switch → Option Char
  | verbose => some 'v'
  | help => some 'h'
  | version => some 'V'
  | threads => some 't'
  | ops => some 'n'
  | collection => some 'c'
  | _ => none

/-- Does the option take a value? -/
def takesValue : Switch → Bool
  | verbose => false
  | help => false
  | version => false
  | list => false
  | _ => true

end Switch

/-- May the option stand at the level? -/
def Level.allows : Level → Switch → Bool
  | _, .verbose => true
  | _, .format => true
  | _, .help => true
  | top, .version => true
  | patterns, .root => true
  | patterns, .list => true
  | stress, .threads => true
  | stress, .ops => true
  | stress, .collection => true
  | stress, .keys => true
  | stress, .config => true
  | _, _ => false

/-- The option with the given long name. -/
def Level.long? (l : Level) (name : String) : Option Switch :=
  Switch.all.find? fun s => l.allows s && s.long == name

/-- The option with the given letter. -/
def Level.letter? (l : Level) (c : Char) : Option Switch :=
  Switch.all.find? fun s => l.allows s && s.letter? == some c

/-! ## Values -/

/-- An option that was given, with its value. -/
inductive Setting where
  | verbose
  | format (format : Format)
  | root (path : String)
  | list
  | threads (n : UInt64)
  | ops (n : UInt64)
  | collection (name : String)
  | keys (n : UInt64)
  | config (path : String)
  deriving DecidableEq

/-- The option of a setting. -/
def Setting.switch : Setting → Switch
  | verbose => .verbose
  | format _ => .format
  | root _ => .root
  | list => .list
  | threads _ => .threads
  | ops _ => .ops
  | collection _ => .collection
  | keys _ => .keys
  | config _ => .config

/-- The number that decimal digits spell, if there are any and nothing else. -/
def natural? (digits : List Char) : Option Nat :=
  if digits.isEmpty ∨ !digits.all Char.isDigit then none else some (Text.ofDigits 10 digits)

/-- A number of at most 64 bits; a plus sign may precede it. -/
def number (text : String) : Except Refusal UInt64 :=
  let digits := match text.toList with
    | '+' :: rest => rest
    | cs => cs
  match natural? digits with
  | none => .error .notNumber
  | some n => if n < UInt64.size then .ok (.ofNat n) else .error .notNumber

/-- A path must not be empty. -/
def path (text : String) : Except Refusal String :=
  if text = "" then .error .valueInvalid else .ok text

/-- The name of a format. -/
def Format.name : Format → String
  | text => "text"
  | json => "json"

/-- The format with the given name. -/
def Format.named (name : String) : Except Refusal Format :=
  if name = "text" then .ok .text
  else if name = "json" then .ok .json
  else .error .valueInvalid

/-- What it means to give an option with a value; the value of an option that takes none is not
looked at. -/
def Switch.interpret (s : Switch) (value : String) : Except Refusal Setting :=
  match s with
  | .verbose => .ok .verbose
  | .format => (Format.named value).map .format
  | .help => .error .help
  | .version => .error .version
  | .root => (path value).map .root
  | .list => .ok .list
  | .threads => (number value).map .threads
  | .ops => (number value).map .ops
  | .collection => .ok (.collection value)
  | .keys => (number value).map .keys
  | .config => (path value).map .config

end CommandLine
end VarStore
