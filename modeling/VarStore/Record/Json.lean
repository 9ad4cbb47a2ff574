import VarStore.Json.Reader
import VarStore.Json.Value
import VarStore.Record.Basic

/-!
# Records as JSON

A record is written as an object with the members `collection`, `key` and `value`, in this order
and without blanks.

It is read from an object that has each of the three members exactly once, in any order and among
any others, or from an array of exactly three strings.  Reading goes from left to right and stops
at the first thing that is wrong, so that a member given twice is reported before the text behind
it is looked at, and a member that is missing only when the object has ended.
-/

namespace VarStore
namespace Record

/-- The record as a document. -/
def toDocument (r : Record) : Json.Value :=
  .object [("collection".toList, .ofText r.collection), ("key".toList, .ofText r.key),
    ("value".toList, .ofText r.value)]

/-- The record as JSON text. -/
def toJson (r : Record) : String := String.ofList (Json.compact r.toDocument)

/-! ## Reading -/

/-- The members of a record that have been read so far. -/
structure Partial where
  collection : Option (List Char)
  key : Option (List Char)
  value : Option (List Char)

/-- A member of a record. -/
inductive Member where
  | collection | key | value
  deriving DecidableEq

/-- The member with the given name. -/
def Member.named? (name : List Char) : Option Member :=
  if name = "collection".toList then some collection
  else if name = "key".toList then some key
  else if name = "value".toList then some value
  else none

namespace Partial

/-- Nothing read yet. -/
def start : Partial := ⟨none, none, none⟩

/-- What was read for a member. -/
def get (p : Partial) : Member → Option (List Char)
  | .collection => p.collection
  | .key => p.key
  | .value => p.value

/-- Note what was read for a member. -/
def set (p : Partial) (s : List Char) : Member → Partial
  | .collection => { p with collection := some s }
  | .key => { p with key := some s }
  | .value => { p with value := some s }

/-- The record, when every member has been read. -/
def finish? (p : Partial) : Option Record :=
  match p.collection, p.key, p.value with
  | some c, some k, some v => some ⟨String.ofList c, String.ofList k, String.ofList v⟩
  | _, _, _ => none

end Partial

/-- Nothing but blanks may follow the document. -/
def endOfText (r : Record) (rest : List Char) : Except Json.Fault Record :=
  if (Json.skipBlanks rest).isEmpty then .ok r else .error .malformed

/-- The end of the object: every member must have been read. -/
def finishObject (p : Partial) (rest : List Char) : Except Json.Fault Record :=
  match p.finish? with
  | some r => endOfText r rest
  | none => .error .unexpected

/-- One member of the object, from the text at its name on. -/
def readMember (fuel : Nat) (p : Partial) (cs : List Char) :
    Except Json.Fault (Partial × List Char) := do
  match cs with
  | '"' :: rest =>
    let (name, rest) ← Json.readString rest
    let member := Member.named? name
    if member.any fun m => (p.get m).isSome then .error .unexpected
    else
      match Json.skipBlanks rest with
      | ':' :: rest =>
        match member with
        | some m => (Json.expectString rest).map fun q => (p.set q.1 m, q.2)
        | none => (Json.skipValue fuel rest).map fun rest => (p, rest)
      | _ => .error .malformed
  | _ => .error .malformed

/-- The further members of the object, and the rest of the text. -/
def readMembers : Nat → Partial → List Char → Except Json.Fault Record
  | 0, _, _ => .error .malformed
  | fuel + 1, p, cs =>
    match Json.skipBlanks cs with
    | '\x7d' :: rest => finishObject p rest
    | ',' :: rest =>
      (readMember fuel p (Json.skipBlanks rest)).bind fun q => readMembers fuel q.1 q.2
    | _ => .error .malformed

/-- An object, after its opening brace. -/
def readObject (fuel : Nat) (cs : List Char) : Except Json.Fault Record :=
  match Json.skipBlanks cs with
  | '\x7d' :: rest => finishObject .start rest
  | cs => (readMember fuel .start cs).bind fun q => readMembers fuel q.1 q.2

/-- A further element of the array, after the comma in front of it.  An array that ends too early
has the wrong shape. -/
def nextString (cs : List Char) : Except Json.Fault (List Char × List Char) :=
  match Json.skipBlanks cs with
  | ']' :: _ => .error .unexpected
  | ',' :: rest =>
    match Json.skipBlanks rest with
    | ']' :: _ => .error .malformed
    | rest => Json.expectString rest
  | _ => .error .malformed

/-- An array, after its opening bracket. -/
def readArray (cs : List Char) : Except Json.Fault Record := do
  let (c, rest) ←
    match Json.skipBlanks cs with
    | ']' :: _ => .error .unexpected
    | cs => Json.expectString cs
  let (k, rest) ← nextString rest
  let (v, rest) ← nextString rest
  match Json.skipBlanks rest with
  | ']' :: rest => endOfText ⟨String.ofList c, String.ofList k, String.ofList v⟩ rest
  | _ => .error .malformed

/-- Read a record from JSON text. -/
def ofJson (text : String) : Except Json.Fault Record :=
  match Json.skipBlanks text.toList with
  | '\x7b' :: rest => readObject (rest.length + 1) rest
  | '[' :: rest => readArray rest
  | '"' :: rest => (Json.readString rest).bind fun _ => .error .unexpected
  | cs => .error (Json.notString cs)

end Record
end VarStore
