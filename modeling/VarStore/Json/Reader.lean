import VarStore.Json.Magnitude

/-!
# Reading JSON from the front of a text

These readers take one thing off the front of a text and leave the rest.  They are made for
reading a document of known shape in one pass: what the shape asks for is read, and what it does
not ask for is passed over, checked only as far as its form goes.

A text can fail in two ways, and the first failure from the left decides.  Either it is no JSON
from some place on (`malformed`), or it is JSON but not of the shape that was asked for
(`unexpected`).

A string that is read must denote text: the two halves of a surrogate pair have to stand together.
A string that is passed over need not.
-/

namespace VarStore
namespace Json

/-- How a text fails to be a document of the shape that is asked for. -/
inductive Fault where
  /-- The text is no JSON. -/
  | malformed
  /-- The text is JSON so far, but something else was asked for. -/
  | unexpected
  deriving DecidableEq

/-- The blanks between the signs of a document. -/
def isBlank (c : Char) : Bool := c = ' ' || c = '\n' || c = '\t' || c = '\r'

/-- What is left after the blanks. -/
def skipBlanks (cs : List Char) : List Char := cs.dropWhile isBlank

/-- What is left after the word, if the text begins with it. -/
def afterWord? (word cs : List Char) : Option (List Char) :=
  if word.isPrefixOf cs then some (cs.drop word.length) else none

/-! ## Strings -/

/-- The character that a letter after a backslash stands for. -/
def letterEscape? (c : Char) : Option Char :=
  match c with
  | '"' => some '"'
  | '\\' => some '\\'
  | '/' => some '/'
  | 'b' => some '\x08'
  | 'f' => some '\x0c'
  | 'n' => some '\n'
  | 'r' => some '\r'
  | 't' => some '\t'
  | _ => none

/-- A high surrogate. -/
def isHigh (n : Nat) : Bool := 0xD800 ≤ n && n < 0xDC00

/-- A low surrogate. -/
def isLow (n : Nat) : Bool := 0xDC00 ≤ n && n < 0xE000

/-- The character that a surrogate pair denotes. -/
def ofPair (high low : Nat) : Char :=
  Char.ofNat (0x10000 + (high - 0xD800) * 0x400 + (low - 0xDC00))

/-- Put a character in front of what a reader read. -/
def prepend (c : Char) (r : Except Fault (List Char × List Char)) :
    Except Fault (List Char × List Char) :=
  r.map fun p => (c :: p.1, p.2)

/-- Read a string after its opening quote. -/
def readString : List Char → Except Fault (List Char × List Char)
  | [] => .error .malformed
  | '"' :: rest => .ok ([], rest)
  | '\\' :: 'u' :: a :: b :: c :: d :: rest =>
    match Text.ofHex? [a, b, c, d] with
    | none => .error .malformed
    | some n =>
      if isLow n then .error .malformed
      else if isHigh n then
        match rest with
        | '\\' :: 'u' :: a :: b :: c :: d :: rest =>
          match Text.ofHex? [a, b, c, d] with
          | none => .error .malformed
          | some m => if isLow m then prepend (ofPair n m) (readString rest) else .error .malformed
        | _ => .error .malformed
      else prepend (Char.ofNat n) (readString rest)
  | '\\' :: c :: rest =>
    match letterEscape? c with
    | none => .error .malformed
    | some e => prepend e (readString rest)
  | c :: rest =>
    if c.toNat < 0x20 ∨ c = '\\' then .error .malformed else prepend c (readString rest)

/-- Pass over a string after its opening quote. -/
def skipString : List Char → Except Fault (List Char)
  | [] => .error .malformed
  | '"' :: rest => .ok rest
  | '\\' :: 'u' :: a :: b :: c :: d :: rest =>
    if (Text.ofHex? [a, b, c, d]).isSome then skipString rest else .error .malformed
  | '\\' :: c :: rest =>
    if (letterEscape? c).isSome then skipString rest else .error .malformed
  | c :: rest => if c.toNat < 0x20 ∨ c = '\\' then .error .malformed else skipString rest

/-! ## Numbers -/

/-- The digits before the point: a zero alone, or digits that begin with another one. -/
def readWhole : List Char → Except Fault (List Char × List Char)
  | [] => .error .malformed
  | c :: rest =>
    if c = '0' then
      if rest.head?.any Char.isDigit then .error .malformed else .ok (['0'], rest)
    else if c.isDigit then .ok (c :: rest.takeWhile Char.isDigit, rest.dropWhile Char.isDigit)
    else .error .malformed

/-- At least one digit. -/
def readDigits (cs : List Char) : Except Fault (List Char × List Char) :=
  if cs.head?.any Char.isDigit then .ok (cs.takeWhile Char.isDigit, cs.dropWhile Char.isDigit)
  else .error .malformed

/-- A point with its digits, if there is one. -/
def readFraction : List Char → Except Fault (List Char × List Char)
  | '.' :: rest => readDigits rest
  | cs => .ok ([], cs)

/-- An exponent, if there is one. -/
def readExponent : List Char → Except Fault (Int × List Char)
  | c :: rest =>
    if c = 'e' ∨ c = 'E' then
      match rest with
      | '-' :: rest => (readDigits rest).map fun p => (-(Text.ofDigits 10 p.1 : Int), p.2)
      | '+' :: rest => (readDigits rest).map fun p => ((Text.ofDigits 10 p.1 : Int), p.2)
      | rest => (readDigits rest).map fun p => ((Text.ofDigits 10 p.1 : Int), p.2)
    else .ok (0, c :: rest)
  | [] => .ok (0, [])

/-- A number. -/
def readNumber (cs : List Char) : Except Fault (Text.Decimal × List Char) := do
  let cs := match cs with
    | '-' :: rest => rest
    | cs => cs
  let (whole, rest) ← readWhole cs
  let (fraction, rest) ← readFraction rest
  let (exponent, rest) ← readExponent rest
  return (⟨whole, fraction, exponent⟩, rest)

/-! ## Passing over a document -/

mutual

/-- Pass over a document. -/
def skipValue : Nat → List Char → Except Fault (List Char)
  | 0, _ => .error .malformed
  | fuel + 1, cs =>
    match skipBlanks cs with
    | [] => .error .malformed
    | '"' :: rest => skipString rest
    | '[' :: rest =>
      match skipBlanks rest with
      | ']' :: rest => .ok rest
      | rest => skipElements fuel rest
    | '\x7b' :: rest =>
      match skipBlanks rest with
      | '\x7d' :: rest => .ok rest
      | rest => skipMembers fuel rest
    | c :: rest =>
      if c = '-' ∨ c.isDigit then (readNumber (c :: rest)).map (·.2)
      else
        match ((afterWord? "null".toList (c :: rest)).or
            (afterWord? "true".toList (c :: rest))).or (afterWord? "false".toList (c :: rest)) with
        | some rest => .ok rest
        | none => .error .malformed

/-- Pass over the elements of an array, at least one, and its end. -/
def skipElements : Nat → List Char → Except Fault (List Char)
  | 0, _ => .error .malformed
  | fuel + 1, cs =>
    (skipValue fuel cs).bind fun rest =>
      match skipBlanks rest with
      | ',' :: rest => skipElements fuel rest
      | ']' :: rest => .ok rest
      | _ => .error .malformed

/-- Pass over the members of an object, at least one, and its end. -/
def skipMembers : Nat → List Char → Except Fault (List Char)
  | 0, _ => .error .malformed
  | fuel + 1, cs =>
    match skipBlanks cs with
    | '"' :: rest =>
      (skipString rest).bind fun rest =>
        match skipBlanks rest with
        | ':' :: rest =>
          (skipValue fuel rest).bind fun rest =>
            match skipBlanks rest with
            | ',' :: rest => skipMembers fuel rest
            | '\x7d' :: rest => .ok rest
            | _ => .error .malformed
        | _ => .error .malformed
    | _ => .error .malformed

end

/-! ## What stands where a string was asked for -/

/-- How a document that is no string fails where one was asked for.  Of an array or an object only
the opening sign is looked at; a word or a number has to be well formed and a number in range. -/
def notString (cs : List Char) : Fault :=
  match cs with
  | '[' :: _ => .unexpected
  | '\x7b' :: _ => .unexpected
  | c :: _ =>
    if c = '-' ∨ c.isDigit then
      match readNumber cs with
      | .ok (n, _) => if isOutOfRange n then .malformed else .unexpected
      | .error e => e
    else if ((afterWord? "null".toList cs).or (afterWord? "true".toList cs)).isSome ||
        (afterWord? "false".toList cs).isSome then .unexpected
    else .malformed
  | [] => .malformed

/-- Read a string where one is asked for. -/
def expectString (cs : List Char) : Except Fault (List Char × List Char) :=
  match skipBlanks cs with
  | '"' :: rest => readString rest
  | cs => .error (notString cs)

end Json
end VarStore
