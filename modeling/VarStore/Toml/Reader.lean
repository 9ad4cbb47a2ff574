import VarStore.Toml.Number
import VarStore.Toml.Quoted
import VarStore.Toml.Table

/-!
# Reading a document

A document is read line by line into statements, and the statements are then put together to a
table.  A line holds a header, or a key and its value, and perhaps a comment.  Only an array, or a
string between three quotes, runs over several lines.

Values may be nested, and keys dotted, up to a fixed depth.  `readValue` recurses on the depth that
is left, so the readers of arrays and of tables in braces are given the reader of their parts.
-/

namespace VarStore
namespace Toml

/-- How deeply values may be nested.  A key must have no more parts than this either. -/
def depthLimit : Nat := 79

/-! ## Keys -/

/-- The characters of keys without quotes. -/
def isBare (c : Char) : Bool := c.isAlphanum || c = '-' || c = '_'

/-- Read one part of a key. -/
def readPart : Reader String
  | '"' :: rest => (readBasic rest).map fun p => (String.ofList p.1, p.2)
  | '\'' :: rest => (readLiteral rest).map fun p => (String.ofList p.1, p.2)
  | cs =>
    if (cs.takeWhile isBare).isEmpty then .error .malformed
    else .ok (String.ofList (cs.takeWhile isBare), cs.dropWhile isBare)

/-- Read the parts of a key, with dots between them and blanks around them.  The first argument is
how many there may be. -/
def readParts : Nat → Reader (List String)
  | 0, _ => .error .nestedTooDeeply
  | n + 1, cs => do
    let (part, rest) ← readPart (skipBlanks cs)
    match skipBlanks rest with
    | '.' :: rest => (readParts n rest).map fun p => (part :: p.1, p.2)
    | rest => return ([part], rest)

/-- The key with the given parts. -/
def Key.ofParts (parts : List String) : Key := ⟨parts.dropLast, parts.getLast?.getD ""⟩

/-- Read a key. -/
def readKey : Reader Key := fun cs =>
  (readParts depthLimit cs).map fun p => (Key.ofParts p.1, p.2)

/-- Read a key and its value. -/
def readEntry (value : Reader Value) : Reader (Key × Value) := fun cs => do
  let (key, rest) ← readKey cs
  let rest ← expect '=' rest
  let (v, rest) ← value (skipBlanks rest)
  return ((key, v), rest)

/-! ## Values -/

/-- Read the elements of an array and its end.  The first argument bounds their number. -/
def readElements (value : Reader Value) : Nat → Reader (List Value)
  | 0, _ => .error .malformed
  | n + 1, cs => do
    match ← skipGap false cs with
    | ']' :: rest => return ([], rest)
    | cs =>
      let (v, rest) ← value cs
      match ← skipGap false rest with
      | ',' :: rest => (readElements value n rest).map fun p => (v :: p.1, p.2)
      | ']' :: rest => return ([v], rest)
      | _ => .error .malformed

/-- Read the entries of a table in braces, at least one, and its end.  The first argument bounds
their number. -/
def readEntries (value : Reader Value) : Nat → Reader (List (Key × Value))
  | 0, _ => .error .malformed
  | n + 1, cs => do
    let (entry, rest) ← readEntry value cs
    match skipBlanks rest with
    | ',' :: rest => (readEntries value n rest).map fun p => (entry :: p.1, p.2)
    | '\x7d' :: rest => return ([entry], rest)
    | _ => .error .malformed

/-- Read a table in braces, after the opening one. -/
def readBraces (value : Reader Value) : Reader Value := fun cs =>
  match skipBlanks cs with
  | '\x7d' :: rest => .ok (.table .braces [], rest)
  | cs => do
    let (entries, rest) ← readEntries value (cs.length + 1) cs
    return (.table .braces (← Table.ofEntries entries), rest)

/-- Read a value that has no parts. -/
def readPlain : Reader Value
  | 't' :: 'r' :: 'u' :: 'e' :: rest => .ok (.boolean true, rest)
  | 'f' :: 'a' :: 'l' :: 's' :: 'e' :: rest => .ok (.boolean false, rest)
  | c :: rest =>
    if c = '"' ∨ c = '\'' then
      (readString (c :: rest)).map fun p => (.string (String.ofList p.1), p.2)
    else readScalar (c :: rest)
  | [] => .error .malformed

/-- Read a value that is nested no deeper than the first argument says. -/
def readValue : Nat → Reader Value
  | 0, '[' :: _ => .error .nestedTooDeeply
  | 0, '\x7b' :: _ => .error .nestedTooDeeply
  | depth + 1, '[' :: rest =>
    (readElements (readValue depth) (rest.length + 1) rest).map fun p => (.array p.1, p.2)
  | depth + 1, '\x7b' :: rest => readBraces (readValue depth) rest
  | _, cs => readPlain cs

/-! ## Lines -/

/-- Read a statement, up to the end of its line. -/
def readStatement : Reader Statement := fun cs =>
  match cs with
  | '[' :: '[' :: rest => do
    let (key, rest) ← readKey rest
    let rest ← expect ']' rest
    let rest ← expect ']' rest
    return (.element key, ← finishLine rest)
  | '[' :: rest => do
    let (key, rest) ← readKey rest
    let rest ← expect ']' rest
    return (.table key, ← finishLine rest)
  | cs => do
    let (entry, rest) ← readEntry (readValue depthLimit) cs
    return (.entry entry.1 entry.2, ← finishLine rest)

/-- Is there nothing to read on a line that goes on like this? -/
def saysNothing : List Char → Bool
  | [] => true
  | c :: _ => c = '#' || c = '\n' || c = '\r'

/-- Read the statements of a document.  The first argument bounds the number of its lines. -/
def readStatements : Nat → List Char → Except Fault (List Statement)
  | 0, _ => .error .malformed
  | n + 1, cs =>
    match skipBlanks cs with
    | [] => .ok []
    | cs =>
      if saysNothing cs then (finishLine cs).bind (readStatements n)
      else do
        let (statement, rest) ← readStatement cs
        return statement :: (← readStatements n rest)

/-- What is left after a byte-order mark, if there is one. -/
def skipMark : List Char → List Char
  | '\ufeff' :: rest => rest
  | cs => cs

/-- Read a document. -/
def Table.read (text : String) : Except Fault Table := do
  let cs := skipMark text.toList
  Table.ofStatements (← readStatements (cs.length + 1) cs)

end Toml
end VarStore
