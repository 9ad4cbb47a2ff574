import VarStore.Regex.Written

/-!
# Escapes

What a backslash introduces: a character by its number or by itself, a named class of characters,
or a condition on a place.  Escapes mean the same inside and outside brackets; it is for the
reader of a bracket to refuse the ones that stand for no characters.

With Unicode switched off, classes are over ASCII only, and whatever could match half of a
character is refused.
-/

namespace VarStore
namespace Regex

/-- What an escape stands for. -/
inductive Escape where
  | char (c : Char)
  | charClass (s : CharClass)
  | look (l : Look)

/-! ## Named classes -/

/-- The ASCII classes that have a name of their own in brackets. -/
def asciiClass? (name : String) : Option Unicode.Ranges :=
  match name with
  | "alnum" => some [(0x30, 0x39), (0x41, 0x5A), (0x61, 0x7A)]
  | "alpha" => some [(0x41, 0x5A), (0x61, 0x7A)]
  | "ascii" => some [(0x00, 0x7F)]
  | "blank" => some [(0x09, 0x09), (0x20, 0x20)]
  | "cntrl" => some [(0x00, 0x1F), (0x7F, 0x7F)]
  | "digit" => some [(0x30, 0x39)]
  | "graph" => some [(0x21, 0x7E)]
  | "lower" => some [(0x61, 0x7A)]
  | "print" => some [(0x20, 0x7E)]
  | "punct" => some [(0x21, 0x2F), (0x3A, 0x40), (0x5B, 0x60), (0x7B, 0x7E)]
  | "space" => some [(0x09, 0x0D), (0x20, 0x20)]
  | "upper" => some [(0x41, 0x5A)]
  | "word" => some [(0x30, 0x39), (0x41, 0x5A), (0x5F, 0x5F), (0x61, 0x7A)]
  | "xdigit" => some [(0x30, 0x39), (0x41, 0x46), (0x61, 0x66)]
  | _ => none

/-- The class of the letter `d`, `s` or `w` after a backslash. -/
def letterClass? (unicode : Bool) (letter : Char) : Option CharClass :=
  match letter with
  | 'd' => some (.ranges (if unicode then Unicode.digitRanges else [(0x30, 0x39)]))
  | 's' => some (.ranges (if unicode then Unicode.spaceRanges else [(0x09, 0x0D), (0x20, 0x20)]))
  | 'w' =>
    some (.ranges
      (if unicode then Unicode.wordRanges
       else [(0x30, 0x39), (0x41, 0x5A), (0x5F, 0x5F), (0x61, 0x7A)]))
  | _ => none

/-- The complement, if it is asked for and can be had: without Unicode the complement of a class
holds bytes that are no characters. -/
def negatable (f : Flags) (negated : Bool) (s : CharClass) : Except Fault CharClass :=
  if negated && !f.unicode then .error .textNotUnicode else .ok (s.negatedIf negated)

/-! ## Properties -/

/-- Cut a list at the first place where `sign` stands, leaving `sign` out. -/
def cutAt? (sign : List Char) : List Char → Option (List Char × List Char)
  | [] => none
  | c :: cs =>
    if sign.isPrefixOf (c :: cs) then some ([], (c :: cs).drop sign.length)
    else (cutAt? sign cs).map fun p => (c :: p.1, p.2)

/-- The query that the text between the braces of a property makes, and whether the text asks for
the characters without the value, by `!=`. -/
def propertyQuery (text : List Char) : Bool × Unicode.PropertyQuery :=
  match cutAt? ['!', '='] text with
  | some (property, value) => (true, .valued (String.ofList property) (String.ofList value))
  | none =>
    match (cutAt? [':'] text).or (cutAt? ['='] text) with
    | some (property, value) => (false, .valued (String.ofList property) (String.ofList value))
    | none => (false, .named (String.ofList text))

/-- The class of a property, closed under case and complemented as asked. -/
def propertyClass (f : Flags) (negated : Bool) (q : Unicode.PropertyQuery) :
    Except Fault CharClass :=
  if !f.unicode then .error .unicodeRequired
  else
    match q.charClass? with
    | none => .error .propertyUnknown
    | some s => .ok ((f.fold s).negatedIf negated)

/-- The text up to a closing brace, and what follows the brace. -/
def readBraced (f : Flags) : Nat → List Char → Except Fault (List Char × List Char)
  | 0, _ => .error .escapeUnfinished
  | fuel + 1, cs =>
    match f.skip cs with
    | [] => .error .escapeUnfinished
    | '}' :: rest => .ok ([], rest)
    | c :: rest => (readBraced f fuel rest).map fun p => (c :: p.1, p.2)

/-- A property after `p` or `P`: one letter, or a name in braces. -/
def readProperty (f : Flags) (negated : Bool) (cs : List Char) :
    Except Fault (CharClass × List Char) := do
  match f.skip cs with
  | [] => .error .escapeUnfinished
  | '{' :: rest =>
    let (text, rest) ← readBraced f (rest.length + 1) rest
    let (differs, query) := propertyQuery text
    return (← propertyClass f (negated != differs) query, rest)
  | c :: rest =>
    if c = '\\' then .error .propertyUnknown
    else return (← propertyClass f negated (.named (String.singleton c)), f.skip rest)

/-! ## Characters by number -/

/-- How many digits a number without braces has after `x`, `u` and `U`. -/
def hexWidth : Char → Nat
  | 'x' => 2
  | 'u' => 4
  | _ => 8

/-- A character by its hexadecimal number, after the letter that introduces it. -/
def readHex (f : Flags) (letter : Char) (cs : List Char) : Except Fault (Char × List Char) := do
  let (code, rest) ←
    match f.skip cs with
    | [] => .error .escapeUnfinished
    | '{' :: rest => readHexBraced f (rest.length + 1) none rest
    | rest@(_ :: _) => readHexFixed f (hexWidth letter) 0 rest
  let fixedByte : Bool := letter = 'x' && (f.skip cs).head? != some '{'
  match Text.charOfCode? code with
  | none => .error .hexInvalid
  | some c =>
    if !f.unicode && fixedByte && 0x80 ≤ code then .error .textNotUnicode else .ok (c, rest)

/-! ## Word boundaries with a name -/

/-- The letters and hyphens at the front, blanks between them skipped. -/
def takeBoundaryName (f : Flags) : Nat → List Char → List Char × List Char
  | 0, cs => ([], cs)
  | fuel + 1, cs =>
    match cs with
    | [] => ([], [])
    | c :: rest =>
      if c.isAlpha || c = '-' then
        let (name, rest) := takeBoundaryName f fuel (f.skip rest)
        (c :: name, rest)
      else ([], c :: rest)

/-- The condition that a named word boundary stands for. -/
def boundaryNamed? (k : WordKind) (name : String) : Option Look :=
  match name with
  | "start" => some (.wordStart k)
  | "end" => some (.wordEnd k)
  | "start-half" => some (.wordStartHalf k)
  | "end-half" => some (.wordEndHalf k)
  | _ => none

/-- A word boundary after its letter.  A brace may follow that either names a kind of boundary or
belongs to a repetition; a letter or hyphen after the brace decides for the name. -/
def readBoundary (f : Flags) (cs : List Char) : Except Fault (Look × List Char) :=
  match cs with
  | '{' :: rest =>
    match f.skip rest with
    | [] => .error .escapeUnfinished
    | c :: inner =>
      if c.isAlpha || c = '-' then
        match takeBoundaryName f (inner.length + 2) (c :: inner) with
        | (name, '}' :: rest) =>
          match boundaryNamed? f.wordKind (String.ofList name) with
          | some l => .ok (l, rest)
          | none => .error .wordBoundaryUnknown
        | _ => .error .wordBoundaryUnknown
      else .ok (.wordBoundary f.wordKind, cs)
  | _ => .ok (.wordBoundary f.wordKind, cs)

/-! ## The escape -/

/-- The characters that always mean themselves after a backslash: ASCII, apart from letters,
digits and the two angle brackets. -/
def isEscapable (c : Char) : Bool :=
  c.toNat < 0x80 && !c.isAlphanum && c != '<' && c != '>'

/-- An escape, after its backslash. -/
def readEscape (f : Flags) : List Char → Except Fault (Escape × List Char)
  | [] => .error .escapeUnfinished
  | c :: rest =>
    if c.isDigit then .error .backreference
    else if c = 'x' ∨ c = 'u' ∨ c = 'U' then
      (readHex f c rest).map fun p => (.char p.1, p.2)
    else if c = 'p' ∨ c = 'P' then
      (readProperty f (c = 'P') rest).map fun p => (.charClass p.1, p.2)
    else
      match letterClass? f.unicode c.toLower with
      | some s => (negatable f c.isUpper s).map fun s => (.charClass s, rest)
      | none =>
        if isEscapable c then .ok (.char c, rest)
        else
          match c with
          | 'a' => .ok (.char '\x07', rest)
          | 'f' => .ok (.char '\x0c', rest)
          | 't' => .ok (.char '\t', rest)
          | 'n' => .ok (.char '\n', rest)
          | 'r' => .ok (.char '\r', rest)
          | 'v' => .ok (.char '\x0b', rest)
          | 'A' => .ok (.look .textStart, rest)
          | 'z' => .ok (.look .textEnd, rest)
          | 'b' => (readBoundary f rest).map fun p => (.look p.1, p.2)
          | 'B' => .ok (.look (.noWordBoundary f.wordKind), rest)
          | '<' => .ok (.look (.wordStart f.wordKind), rest)
          | '>' => .ok (.look (.wordEnd f.wordKind), rest)
          | _ => .error .escapeUnknown

end Regex
end VarStore
