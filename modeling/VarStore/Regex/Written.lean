import VarStore.Text.Digits
import VarStore.Regex.Basic

/-!
# Written expressions: faults, flags and small readers

A pattern is written text.  Reading it either yields an expression or meets a fault, and this
module holds what all readers of patterns share: the faults, the flags that change how later text
is read, and the readers of blanks, numbers and hexadecimal digits.

In verbose mode blanks and comments may stand between any two signs, so a reader that steps from
one sign to the next skips them first (`Flags.skip`).  Skipping never lengthens the text.
-/

namespace VarStore
namespace Regex

/-- Why a written pattern has no meaning. -/
inductive Fault where
  | groupUnclosed
  | groupUnopened
  | groupNameInvalid
  | groupNameDuplicate
  | lookAround
  | backreference
  | flagUnknown
  | flagDuplicate
  | flagNegationDangling
  | flagsUnfinished
  | repetitionMissing
  | repetitionCountInvalid
  | repetitionCountUnclosed
  | escapeUnfinished
  | escapeUnknown
  | hexInvalid
  | wordBoundaryUnknown
  | classUnclosed
  | classRangeInvalid
  | classEscapeInvalid
  | propertyUnknown
  | unicodeRequired
  | textNotUnicode
  | nestedTooDeeply
  | tooLarge
  deriving DecidableEq

/-! ## Flags -/

/-- The flags that are in force at a place of the pattern. -/
structure Flags where
  ignoreCase : Bool
  multiLine : Bool
  dotAll : Bool
  crlf : Bool
  unicode : Bool
  verbose : Bool
  /-- Are the repetitions without a question mark the ones that are not greedy? -/
  swapGreed : Bool
  deriving DecidableEq

/-- A letter that switches a flag. -/
inductive FlagLetter where
  | ignoreCase | multiLine | dotAll | crlf | unicode | verbose | swapGreed
  deriving DecidableEq

/-- The flag that a letter stands for. -/
def FlagLetter.ofChar? : Char → Option FlagLetter
  | 'i' => some ignoreCase
  | 'm' => some multiLine
  | 's' => some dotAll
  | 'R' => some crlf
  | 'u' => some unicode
  | 'x' => some verbose
  | 'U' => some swapGreed
  | _ => none

namespace Flags

/-- The flags at the start of a pattern. -/
def initial (ignoreCase : Bool) : Flags :=
  { ignoreCase, multiLine := false, dotAll := false, crlf := false, unicode := true,
    verbose := false, swapGreed := false }

/-- Switch one flag. -/
def set (f : Flags) (on : Bool) : FlagLetter → Flags
  | .ignoreCase => { f with ignoreCase := on }
  | .multiLine => { f with multiLine := on }
  | .dotAll => { f with dotAll := on }
  | .crlf => { f with crlf := on }
  | .unicode => { f with unicode := on }
  | .verbose => { f with verbose := on }
  | .swapGreed => { f with swapGreed := on }

/-- Which characters the flags take for word characters. -/
def wordKind (f : Flags) : WordKind := if f.unicode then .unicode else .ascii

/-- The caseless closure that the flags ask for.  Without Unicode it stays inside ASCII. -/
def fold (f : Flags) (s : CharClass) : CharClass :=
  if !f.ignoreCase then s
  else if f.unicode then .caseless s
  else .inter (.caseless s) (.ranges [(0, 0x7F)])

/-- The characters that the flags take for `c`, itself left out.  Without Unicode only ASCII
letters have case. -/
def partners (f : Flags) (c : Char) : List Char :=
  if !f.ignoreCase then []
  else if f.unicode then Unicode.casePartners c
  else if c.isAlpha then (Unicode.casePartners c).filter Char.isAlpha
  else []

end Flags

/-! ## Blanks -/

mutual

/-- What is left after blanks and comments. -/
def skipBlanks : List Char → List Char
  | [] => []
  | c :: cs =>
    if Unicode.isSpace c then skipBlanks cs
    else if c = '#' then skipComment cs
    else c :: cs

/-- What is left after the rest of a comment and the blanks that follow it. -/
def skipComment : List Char → List Char
  | [] => []
  | c :: cs => if c = '\n' then skipBlanks cs else skipComment cs

end

/-- In verbose mode, what is left after blanks and comments. -/
def Flags.skip (f : Flags) (cs : List Char) : List Char :=
  if f.verbose then skipBlanks cs else cs

/-! ## Numbers -/

/-- The digits at the front, the first one first, and the rest.  In verbose mode blanks and
comments may stand behind each digit. -/
def takeDigits (f : Flags) : Nat → List Char → List Char × List Char
  | 0, cs => ([], cs)
  | fuel + 1, cs =>
    match cs with
    | [] => ([], [])
    | c :: rest =>
      if c.isDigit then
        let (digits, rest) := takeDigits f fuel (f.skip rest)
        (c :: digits, rest)
      else ([], c :: rest)

/-- A decimal number of at most 32 bits, with blanks allowed around it. -/
def readCount (f : Flags) (cs : List Char) : Except Fault (Nat × List Char) :=
  let (digits, rest) := takeDigits f (cs.length + 1) (cs.dropWhile Unicode.isSpace)
  if digits.isEmpty ∨ UInt32.size ≤ Text.ofDigits 10 digits then .error .repetitionCountInvalid
  else .ok (Text.ofDigits 10 digits, rest.dropWhile Unicode.isSpace)

/-- Exactly `count` hexadecimal digits after the value read so far, with blanks between them in
verbose mode. -/
def readHexFixed (f : Flags) : Nat → Nat → List Char → Except Fault (Nat × List Char)
  | 0, value, cs => .ok (value, f.skip cs)
  | count + 1, value, cs =>
    match f.skip cs with
    | [] => .error .escapeUnfinished
    | c :: rest =>
      match Text.hexDigit? c with
      | none => .error .hexInvalid
      | some d => readHexFixed f count (16 * value + d) rest

/-- Hexadecimal digits up to a closing brace, at least one of them. -/
def readHexBraced (f : Flags) : Nat → Option Nat → List Char → Except Fault (Nat × List Char)
  | 0, _, _ => .error .escapeUnfinished
  | fuel + 1, value, cs =>
    match f.skip cs with
    | [] => .error .escapeUnfinished
    | '}' :: rest =>
      match value with
      | none => .error .hexInvalid
      | some n => .ok (n, f.skip rest)
    | c :: rest =>
      match Text.hexDigit? c with
      | none => .error .hexInvalid
      | some d => readHexBraced f fuel (some (16 * value.getD 0 + d)) rest

end Regex
end VarStore
