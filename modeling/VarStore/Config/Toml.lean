import VarStore.Config
import VarStore.File.Basic
import VarStore.Toml.Reader

/-!
# Configurations as TOML

A configuration is written as a TOML document.  A field that is present at top level must have its
type; one that is absent is as in the standard configuration, whatever the others are.  Keys that
are no fields are passed over.
-/

namespace VarStore
namespace Config

/-- Why there is no configuration. -/
inductive Fault where
  /-- The file cannot be read. -/
  | unreadable (path : String) (cause : File.Fault)
  /-- The text is no document. -/
  | malformed (cause : Toml.Fault)
  /-- A field does not have its type. -/
  | wrongType (field : String)
  deriving DecidableEq

namespace Fault

/-- What is wrong with the text, in words. -/
def reason : Fault → String
  | unreadable _ cause => cause.message
  | malformed cause => cause.message
  | wrongType field => "the field " ++ field ++ " has another type"

/-- The fault in words. -/
def message : Fault → String
  | unreadable path cause => "failed to read config " ++ path ++ ": " ++ cause.message
  | fault => "invalid store config: " ++ fault.reason

end Fault

/-! ## Fields -/

/-- A natural number. -/
def natural? : Toml.Value → Option Nat
  | .integer n => if 0 ≤ n then some n.toNat else none
  | _ => none

/-- A truth value. -/
def boolean? : Toml.Value → Option Bool
  | .boolean b => some b
  | _ => none

/-- A string. -/
def string? : Toml.Value → Option String
  | .string s => some s
  | _ => none

/-- An array of strings. -/
def strings? : Toml.Value → Option (List String)
  | .array vs => vs.mapM string?
  | _ => none

/-- A field of the document: its value if it is present, and otherwise the standard one. -/
def field {α : Type} (t : Toml.Table) (name : String) (read : Toml.Value → Option α)
    (standard : α) : Except Fault α :=
  match t.lookup name with
  | none => .ok standard
  | some v =>
    match read v with
    | some a => .ok a
    | none => .error (.wrongType name)

/-- The configuration that a document describes. -/
def ofTable (t : Toml.Table) : Except Fault Config := do
  let initialCapacity ← field t "initial_capacity" natural? standard.initialCapacity
  let ignoreCase ← field t "case_insensitive_regex" boolean? standard.ignoreCase
  let collections ← field t "collections" strings? standard.collections
  return ⟨initialCapacity, ignoreCase, collections⟩

/-- Read a configuration from TOML text. -/
def ofToml (text : String) : Except Fault Config :=
  match Toml.Table.read text with
  | .error cause => .error (.malformed cause)
  | .ok t => ofTable t

/-- Read a configuration from a file. -/
def load (read : File.Reader) (path : String) : Except Fault Config :=
  match read path with
  | .error cause => .error (.unreadable path cause)
  | .ok text => ofToml text

end Config
end VarStore
