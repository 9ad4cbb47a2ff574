/-!
# JSON documents and how they are printed

A JSON document is a tree.  Objects keep their members in order and may repeat a name, because a
text may; numbers are kept as they are spelled, because only their spelling is ever printed.

There are two printers.  `compact` writes no blanks at all; `pretty` puts every element on a line
of its own and indents by two blanks.  Both spell strings in the same way (`escapeChar`): only a
quote, a backslash and the control characters are escaped, the usual ones by a letter and the
others by four hexadecimal digits.
-/

namespace VarStore
namespace Json

/-- A JSON document. -/
inductive Value where
  | null
  | bool (b : Bool)
  /-- A number, as it is spelled. -/
  | number (spelling : List Char)
  | string (s : List Char)
  | array (elements : List Value)
  | object (members : List (List Char × Value))

/-- A text as a document. -/
def Value.ofText (s : String) : Value := .string s.toList

/-- A natural number as a document. -/
def Value.ofNat (n : Nat) : Value := .number (Nat.toDigits 10 n)

/-! ## Strings -/

/-- How a character is spelled between quotes. -/
def escapeChar (c : Char) : List Char :=
  if c = '"' then ['\\', '"']
  else if c = '\\' then ['\\', '\\']
  else if c = '\n' then ['\\', 'n']
  else if c = '\r' then ['\\', 'r']
  else if c = '\t' then ['\\', 't']
  else if c = '\x08' then ['\\', 'b']
  else if c = '\x0c' then ['\\', 'f']
  else if c.toNat < 0x20 then
    ['\\', 'u', '0', '0', Nat.digitChar (c.toNat / 16), Nat.digitChar (c.toNat % 16)]
  else [c]

/-- A string between quotes. -/
def quote (s : List Char) : List Char := '"' :: s.flatMap escapeChar ++ ['"']

/-! ## Documents without blanks -/

mutual

/-- A document without blanks. -/
def compact : Value → List Char
  | .null => "null".toList
  | .bool true => "true".toList
  | .bool false => "false".toList
  | .number spelling => spelling
  | .string s => quote s
  | .array [] => ['[', ']']
  | .array (v :: vs) => '[' :: compact v ++ compactElements vs
  | .object [] => ['\x7b', '\x7d']
  | .object ((k, v) :: ms) => '\x7b' :: quote k ++ ':' :: compact v ++ compactMembers ms

/-- The further elements of an array, and its end. -/
def compactElements : List Value → List Char
  | [] => [']']
  | v :: vs => ',' :: compact v ++ compactElements vs

/-- The further members of an object, and its end. -/
def compactMembers : List (List Char × Value) → List Char
  | [] => ['\x7d']
  | (k, v) :: ms => ',' :: quote k ++ ':' :: compact v ++ compactMembers ms

end

/-! ## Documents on lines -/

/-- A new line at the given depth. -/
def newLine (depth : Nat) : List Char := '\n' :: List.replicate (2 * depth) ' '

mutual

/-- A document with one element a line, at the given depth. -/
def prettyAt (depth : Nat) : Value → List Char
  | .null => "null".toList
  | .bool true => "true".toList
  | .bool false => "false".toList
  | .number spelling => spelling
  | .string s => quote s
  | .array [] => ['[', ']']
  | .array (v :: vs) =>
    '[' :: newLine (depth + 1) ++ prettyAt (depth + 1) v ++ prettyElements depth vs
  | .object [] => ['\x7b', '\x7d']
  | .object ((k, v) :: ms) =>
    '\x7b' :: newLine (depth + 1) ++ quote k ++ ':' :: ' ' :: prettyAt (depth + 1) v ++
      prettyMembers depth ms

/-- The further elements of an array at the given depth, and its end. -/
def prettyElements (depth : Nat) : List Value → List Char
  | [] => newLine depth ++ [']']
  | v :: vs =>
    ',' :: newLine (depth + 1) ++ prettyAt (depth + 1) v ++ prettyElements depth vs

/-- The further members of an object at the given depth, and its end. -/
def prettyMembers (depth : Nat) : List (List Char × Value) → List Char
  | [] => newLine depth ++ ['\x7d']
  | (k, v) :: ms =>
    ',' :: newLine (depth + 1) ++ quote k ++ ':' :: ' ' :: prettyAt (depth + 1) v ++
      prettyMembers depth ms

end

/-- A document with one element a line. -/
def pretty (v : Value) : List Char := prettyAt 0 v

end Json
end VarStore
