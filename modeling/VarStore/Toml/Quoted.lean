import VarStore.Text.Digits
import VarStore.Toml.Blank

/-!
# Strings

There are four ways to write a string.  Between double quotes a backslash begins an escape; between
single quotes everything stands for itself.  Between three quotes of either kind the string may
have several lines: an end of line right after the opening quotes is left out, and every other one
is read as a line feed, however it is written.  Up to two quotes may stand right before the closing
three.
-/

namespace VarStore
namespace Toml

/-- The character that hexadecimal digits spell. -/
def charOfHex? (digits : List Char) : Option Char := (Text.ofHex? digits).bind Text.charOfCode?

/-- The character that a letter after a backslash stands for. -/
def letterEscape? (c : Char) : Option Char :=
  match c with
  | 'b' => some '\x08'
  | 't' => some '\t'
  | 'n' => some '\n'
  | 'f' => some '\x0c'
  | 'r' => some '\r'
  | '"' => some '"'
  | '\\' => some '\\'
  | _ => none

/-- Put what an escape stands for in front of what a reader read. -/
def prependEscape (c : Option Char) (r : Except Fault (List Char × List Char)) :
    Except Fault (List Char × List Char) :=
  match c with
  | some c => prepend c r
  | none => .error .malformed

/-- Read a string of one line with escapes, after its opening quote. -/
def readBasic : Reader (List Char)
  | [] => .error .malformed
  | '"' :: rest => .ok ([], rest)
  | '\\' :: 'u' :: a :: b :: c :: d :: rest =>
    prependEscape (charOfHex? [a, b, c, d]) (readBasic rest)
  | '\\' :: 'U' :: a :: b :: c :: d :: e :: f :: g :: h :: rest =>
    prependEscape (charOfHex? [a, b, c, d, e, f, g, h]) (readBasic rest)
  | '\\' :: c :: rest => prependEscape (letterEscape? c) (readBasic rest)
  | c :: rest => if isText c ∧ c ≠ '\\' then prepend c (readBasic rest) else .error .malformed

/-- Read a string of one line without escapes, after its opening quote. -/
def readLiteral : Reader (List Char)
  | [] => .error .malformed
  | '\'' :: rest => .ok ([], rest)
  | c :: rest => if isText c then prepend c (readLiteral rest) else .error .malformed

/-- The end of a string between three quotes, after these: up to two quotes that still belong to
it. -/
def closing (quote : Char) : List Char → List Char × List Char
  | c :: d :: rest =>
    if c = quote ∧ d = quote then ([quote, quote], rest)
    else if c = quote then ([quote], d :: rest)
    else ([], c :: d :: rest)
  | [c] => if c = quote then ([quote], []) else ([], [c])
  | [] => ([], [])

/-- Does the line end here, but for blanks? -/
def lineEndsHere (cs : List Char) : Bool :=
  match skipBlanks cs with
  | '\n' :: _ => true
  | '\r' :: '\n' :: _ => true
  | _ => false

/-- Read a string of several lines with escapes, after its opening quotes.  The flag says whether a
backslash at the end of a line is in force, which leaves out everything up to the next visible
character. -/
def readBasicLines (skipping : Bool) : Reader (List Char)
  | [] => .error .malformed
  | '"' :: '"' :: '"' :: rest => .ok (closing '"' rest)
  | '\\' :: 'u' :: a :: b :: c :: d :: rest =>
    prependEscape (charOfHex? [a, b, c, d]) (readBasicLines false rest)
  | '\\' :: 'U' :: a :: b :: c :: d :: e :: f :: g :: h :: rest =>
    prependEscape (charOfHex? [a, b, c, d, e, f, g, h]) (readBasicLines false rest)
  | '\r' :: '\n' :: rest =>
    if skipping then readBasicLines true rest else prepend '\n' (readBasicLines false rest)
  | '\\' :: c :: rest =>
    if lineEndsHere (c :: rest) then readBasicLines true (c :: rest)
    else prependEscape (letterEscape? c) (readBasicLines false rest)
  | c :: rest =>
    if c = '\n' then
      if skipping then readBasicLines true rest else prepend '\n' (readBasicLines false rest)
    else if skipping ∧ isBlank c then readBasicLines true rest
    else if isText c ∧ c ≠ '\\' then prepend c (readBasicLines false rest)
    else .error .malformed

/-- Read a string of several lines without escapes, after its opening quotes. -/
def readLiteralLines : Reader (List Char)
  | [] => .error .malformed
  | '\'' :: '\'' :: '\'' :: rest => .ok (closing '\'' rest)
  | '\r' :: '\n' :: rest => prepend '\n' (readLiteralLines rest)
  | c :: rest =>
    if isText c ∨ c = '\n' then prepend c (readLiteralLines rest) else .error .malformed

/-- What is left after an end of line, if one stands here. -/
def skipLineEnd : List Char → List Char
  | '\n' :: rest => rest
  | '\r' :: '\n' :: rest => rest
  | cs => cs

/-- Read a string of any kind. -/
def readString : Reader (List Char)
  | '"' :: '"' :: '"' :: rest => readBasicLines false (skipLineEnd rest)
  | '"' :: rest => readBasic rest
  | '\'' :: '\'' :: '\'' :: rest => readLiteralLines (skipLineEnd rest)
  | '\'' :: rest => readLiteral rest
  | _ => .error .malformed

end Toml
end VarStore
