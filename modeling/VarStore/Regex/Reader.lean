import VarStore.Regex.Bracket
import VarStore.Regex.Room

/-!
# Reading a pattern

A pattern is read sign by sign.  The reader holds the flags in force, the pieces of the sequence
being read, the alternatives before it, and for each open group what it interrupted.  Flags set
inside a group end with it, and so does verbose mode.

Every piece carries its depth: brackets, groups, repetitions, sequences of several pieces and
choices each add one, and a pattern may be 250 deep.  It also carries its layout, by which the room
that the pattern takes is told in the end.  A directive such as `(?i)` is a piece of its own, which
matches the empty text but cannot be repeated.

`Regex.read` reads a whole pattern and then refuses one that is too deep or takes too much room.
Each step of the reader takes at least one sign, so the length of the pattern bounds their number.
-/

namespace VarStore
namespace Regex

/-! ## Pieces -/

/-- A piece of a pattern that has been read: what it means, how it is laid out, how deep it is
nested, and whether it is only a directive. -/
structure Piece where
  regex : Regex
  layout : Layout
  depth : Nat
  directive : Bool

namespace Piece

/-- A class, nested as deep as it says. -/
def ofClass (s : CharClass) (depth : Nat) : Piece := ⟨.chars s, .ofSpans s.spans, depth, false⟩

/-- A condition on a place. -/
def ofLook (l : Look) : Piece := ⟨.look l, .look l, 0, false⟩

/-- A character that stands for itself and for its partners in case. -/
def ofChar (f : Flags) (c : Char) : Piece :=
  match f.partners c with
  | [] => ⟨.chars (.single c), .text [c], 0, false⟩
  | partners =>
    let rs := (c :: partners).map fun d => (d.toNat, d.toNat)
    ⟨.chars (.ranges rs), .ofSpans (Unicode.Ranges.normal rs), 0, false⟩

/-- A directive. -/
def ofDirective : Piece := ⟨.empty, .empty, 0, true⟩

/-- The piece that several pieces make when one follows the other; the last of them is first in
the list. -/
def sequence (ps : List Piece) : Piece :=
  match ps with
  | [] => ⟨.empty, .empty, 0, false⟩
  | [p] => { p with directive := false }
  | ps =>
    ⟨Regex.sequence (ps.reverse.map (·.regex)), Layout.sequence (ps.reverse.map (·.layout)),
      1 + (ps.map (·.depth)).foldl max 0, false⟩

/-- The piece that a choice between several pieces makes; the last of them is first in the
list. -/
def choice (ps : List Piece) : Piece :=
  match ps with
  | [p] => p
  | ps =>
    ⟨Regex.choice (ps.reverse.map (·.regex)), Layout.choice (ps.reverse.map (·.layout)),
      1 + (ps.map (·.depth)).foldl max 0, false⟩

/-- The piece as a group, with its number if its match is kept. -/
def grouped (number : Option Nat) (p : Piece) : Piece :=
  let layout :=
    match number with
    | some n => .group n p.layout
    | none => p.layout
  ⟨p.regex, layout, 1 + p.depth, false⟩

end Piece

/-- The last piece repeated.  Nothing, and a directive, cannot be repeated. -/
def repeatPiece (least : Nat) (most : Option Nat) (greedy : Bool) :
    List Piece → Except Fault (List Piece)
  | [] => .error .repetitionMissing
  | p :: ps =>
    if p.directive then .error .repetitionMissing
    else
      .ok (⟨p.regex.repeated least most, p.layout.repeated least most greedy, 1 + p.depth, false⟩
        :: ps)

/-- What an open group interrupted. -/
structure Frame where
  /-- The number of the group, if its match is kept. -/
  number : Option Nat
  flags : Flags
  pieces : List Piece
  branches : List Piece

/-- Where the reader stands. -/
structure Reader where
  flags : Flags
  /-- The sequence being read, its last piece first. -/
  pieces : List Piece
  /-- The alternatives before it, the last one first. -/
  branches : List Piece
  frames : List Frame
  /-- How many groups with a number there have been. -/
  groups : Nat
  /-- The names of the groups so far. -/
  names : List String
  rest : List Char

namespace Reader

/-- The reader in front of a pattern. -/
def initial (ignoreCase : Bool) (pattern : List Char) : Reader :=
  ⟨.initial ignoreCase, [], [], [], 0, [], pattern⟩

/-- What the alternatives read so far make together. -/
def whole (s : Reader) : Piece := .choice (.sequence s.pieces :: s.branches)

/-- Append a piece and go on behind it. -/
def push (s : Reader) (p : Piece) (rest : List Char) : Reader :=
  { s with pieces := p :: s.pieces, rest }

/-! ## Signs that stand for themselves or for a place -/

/-- The class of a dot. -/
def dot (f : Flags) : Except Fault CharClass :=
  if !f.unicode then .error .textNotUnicode
  else if f.dotAll then .ok .any
  else if f.crlf then .ok (.compl (.ranges [(0x0A, 0x0A), (0x0D, 0x0D)]))
  else .ok (.compl (.single '\n'))

/-- The condition of a caret. -/
def caret (f : Flags) : Look :=
  if !f.multiLine then .textStart else if f.crlf then .returnStart else .lineStart

/-- The condition of a dollar sign. -/
def dollar (f : Flags) : Look :=
  if !f.multiLine then .textEnd else if f.crlf then .returnEnd else .lineEnd

/-- The piece that an escape makes. -/
def escaped (f : Flags) : Escape → Piece
  | .char c => .ofChar f c
  | .charClass s => .ofClass s 0
  | .look l => .ofLook l

/-! ## Repetition -/

/-- Apply a repetition to the last piece; a question mark behind it only says which match is
preferred. -/
def quantify (s : Reader) (least : Nat) (most : Option Nat) (rest : List Char) :
    Except Fault Reader :=
  let lazy : Bool := rest.head? = some '?'
  (repeatPiece least most (lazy == s.flags.swapGreed) s.pieces).map fun pieces =>
    { s with pieces, rest := if lazy then rest.tail else rest }

/-- A repetition with counts, after its opening brace. -/
def quantifyCounted (s : Reader) (cs : List Char) : Except Fault Reader := do
  match s.flags.skip cs with
  | [] => .error .repetitionCountUnclosed
  | cs =>
    let (least, rest) ← readCount s.flags cs
    match rest with
    | '}' :: rest => s.quantify least (some least) (s.flags.skip rest)
    | ',' :: rest =>
      match s.flags.skip rest with
      | '}' :: rest => s.quantify least none (s.flags.skip rest)
      | [] => .error .repetitionCountUnclosed
      | rest =>
        let (most, rest) ← readCount s.flags rest
        match rest with
        | '}' :: rest =>
          if least ≤ most then s.quantify least (some most) (s.flags.skip rest)
          else .error .repetitionCountInvalid
        | _ => .error .repetitionCountUnclosed
    | _ => .error .repetitionCountUnclosed

/-! ## Groups -/

/-- Flag letters up to a colon or a closing parenthesis, which is left.  `negated` says whether a
hyphen has come, and `seen` which letters have; the first component counts what was read. -/
def readFlags (f : Flags) (negated : Bool) (seen : List FlagLetter) :
    List Char → Except Fault (Nat × Flags × List Char)
  | [] => .error .flagsUnfinished
  | c :: rest =>
    if c = ':' ∨ c = ')' then .ok (0, f, c :: rest)
    else if c = '-' then
      if negated then .error .flagDuplicate
      else
        match rest with
        | [] => .error .flagsUnfinished
        | d :: _ =>
          if d = ':' ∨ d = ')' then .error .flagNegationDangling
          else (readFlags f true seen rest).map fun p => (p.1 + 1, p.2)
    else
      match FlagLetter.ofChar? c with
      | none => .error .flagUnknown
      | some l =>
        if seen.contains l then .error .flagDuplicate
        else (readFlags (f.set (!negated) l) negated (l :: seen) rest).map fun p => (p.1 + 1, p.2)

/-- May the character stand in the name of a group?  The first one must be a letter or a low
line. -/
def isNameChar (first : Bool) (c : Char) : Bool :=
  if first then c = '_' || Unicode.isAlphabetic c
  else c = '_' || c = '.' || c = '[' || c = ']' || Unicode.isAlphanumeric c

/-- The name of a group, up to the sign that closes it. -/
def readName (first : Bool) : List Char → Except Fault (List Char × List Char)
  | [] => .error .groupNameInvalid
  | c :: rest =>
    if c = '>' then if first then .error .groupNameInvalid else .ok ([], rest)
    else if isNameChar first c then (readName false rest).map fun p => (c :: p.1, p.2)
    else .error .groupNameInvalid

/-- Begin a group with the given flags, and with a number if its match is kept. -/
def openGroup (s : Reader) (number : Option Nat) (flags : Flags) (rest : List Char) : Reader :=
  { s with
    flags, pieces := [], branches := [], rest
    frames := ⟨number, s.flags, s.pieces, s.branches⟩ :: s.frames }

/-- Begin a group whose match is kept. -/
def openNumbered (s : Reader) (rest : List Char) : Reader :=
  { s.openGroup (some (s.groups + 1)) s.flags rest with groups := s.groups + 1 }

/-- Begin a group with a name, which no earlier group may have. -/
def openNamed (s : Reader) (cs : List Char) : Except Fault Reader := do
  let (name, rest) ← readName true cs
  let name := String.ofList name
  if s.names.contains name then .error .groupNameDuplicate
  else return { s.openNumbered rest with names := name :: s.names }

/-- A group with flags, or a directive, after its question mark. -/
def openFlagged (s : Reader) (cs : List Char) : Except Fault Reader := do
  if cs.isEmpty then .error .groupUnclosed
  else
    let (count, flags, rest) ← readFlags s.flags false [] cs
    match rest with
    | ':' :: rest => return s.openGroup none flags rest
    | _ =>
      if count = 0 then .error .repetitionMissing
      else return { s.push .ofDirective rest.tail with flags }

/-- Whatever a parenthesis opens. -/
def openParenthesis (s : Reader) (cs : List Char) : Except Fault Reader :=
  match s.flags.skip cs with
  | '?' :: '=' :: _ => .error .lookAround
  | '?' :: '!' :: _ => .error .lookAround
  | '?' :: '<' :: '=' :: _ => .error .lookAround
  | '?' :: '<' :: '!' :: _ => .error .lookAround
  | '?' :: 'P' :: '<' :: rest => s.openNamed rest
  | '?' :: '<' :: rest => s.openNamed rest
  | '?' :: rest => s.openFlagged rest
  | rest => .ok (s.openNumbered rest)

/-- Close the innermost group. -/
def closeGroup (s : Reader) (rest : List Char) : Except Fault Reader :=
  match s.frames with
  | [] => .error .groupUnopened
  | frame :: frames =>
    .ok { s with
      flags := frame.flags
      pieces := s.whole.grouped frame.number :: frame.pieces
      branches := frame.branches
      frames, rest }

/-! ## One sign after the other -/

/-- Read the sign `c`; `rest` is the text behind it. -/
def step (s : Reader) (c : Char) (rest : List Char) : Except Fault Reader :=
  match c with
  | '(' => s.openParenthesis rest
  | ')' => s.closeGroup rest
  | '|' =>
    .ok { s with pieces := [], branches := .sequence s.pieces :: s.branches, rest }
  | '[' =>
    (readBracket s.flags rest).map fun p => s.push (.ofClass p.1.charClass p.1.depth) p.2
  | '?' => s.quantify 0 (some 1) rest
  | '*' => s.quantify 0 none rest
  | '+' => s.quantify 1 none rest
  | '{' => s.quantifyCounted rest
  | '\\' => (readEscape s.flags rest).map fun p => s.push (escaped s.flags p.1) p.2
  | '.' => (dot s.flags).map fun r => s.push (.ofClass r 0) rest
  | '^' => .ok (s.push (.ofLook (caret s.flags)) rest)
  | '$' => .ok (s.push (.ofLook (dollar s.flags)) rest)
  | c => .ok (s.push (.ofChar s.flags c) rest)

/-- Read the rest of the pattern, in at most `fuel` steps. -/
def run : Nat → Reader → Except Fault Piece
  | 0, s => if s.frames.isEmpty then .ok s.whole else .error .groupUnclosed
  | fuel + 1, s =>
    match s.flags.skip s.rest with
    | [] => if s.frames.isEmpty then .ok s.whole else .error .groupUnclosed
    | c :: rest => (s.step c rest).bind (run fuel)

end Reader

/-- How deep a pattern may be nested. -/
def depthLimit : Nat := 250

/-- Read a pattern; `ignoreCase` says whether upper and lower case begin as the same. -/
def read (ignoreCase : Bool) (pattern : String) : Except Fault Regex := do
  let piece ← Reader.run pattern.length (.initial ignoreCase pattern.toList)
  if depthLimit < piece.depth then .error .nestedTooDeeply
  else if piece.layout.fits then return piece.regex
  else .error .tooLarge

end Regex
end VarStore
