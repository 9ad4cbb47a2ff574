import VarStore.Regex.Escape

/-!
# Bracketed classes

A bracketed class lists characters, ranges, named classes and further brackets, and may join such
lists by intersection `&&`, difference `--` and symmetric difference `~~`.  Listing binds tighter
than the three operators, which bind to the left and equally tight.

The reader keeps a stack of what is still open: a bracket with the list it interrupted, or an
operator with its left operand.  Each part carries its depth, because the nesting of a pattern is
limited.

The closure under case is taken of each operand and of each whole bracket, before the complement.
-/

namespace VarStore
namespace Regex

/-- How two lists of a bracket are joined. -/
inductive SetOperator where
  | intersection | difference | symmetricDifference
  deriving DecidableEq

/-- The class that an operator makes of its operands. -/
def SetOperator.apply : SetOperator → CharClass → CharClass → CharClass
  | intersection, s, t => .inter s t
  | difference, s, t => .diff s t
  | symmetricDifference, s, t => .symmDiff s t

/-- A part of a bracket: its characters, and how deep it is nested. -/
structure Part where
  charClass : CharClass
  depth : Nat

/-- What is still open around the list being read. -/
inductive Opened where
  /-- A bracket, with the list that it interrupted. -/
  | bracket (outer : List Part) (negated : Bool)
  /-- An operator, with its left operand. -/
  | operand (op : SetOperator) (left : Part)

/-- One part of the parts of a list, the last of them first. -/
def joinParts : List Part → Part
  | [] => ⟨.none, 0⟩
  | [p] => p
  | p :: ps =>
    ⟨ps.foldl (fun s q => .union q.charClass s) p.charClass,
      1 + ps.foldl (fun d q => max d q.depth) p.depth⟩

/-- Close the operator on top of the stack, if there is one. -/
def closeOperand (f : Flags) (right : Part) : List Opened → Part × List Opened
  | .operand op left :: stack =>
    (⟨op.apply (f.fold left.charClass) (f.fold right.charClass), 1 + max left.depth right.depth⟩,
      stack)
  | stack => (right, stack)

/-- A class named in the bracket notation, after its opening bracket: a colon, an optional caret, a
known name, a colon and a closing bracket. -/
def asciiClassAt? (cs : List Char) : Option (Bool × Unicode.Ranges × List Char) :=
  match cs with
  | ':' :: rest =>
    let negated := rest.head? = some '^'
    let body := if negated then rest.tail else rest
    match body.dropWhile (· ≠ ':') with
    | ':' :: ']' :: rest =>
      (asciiClass? (String.ofList (body.takeWhile (· ≠ ':')))).map fun rs => (negated, rs, rest)
    | _ => none
  | _ => none

/-- Hyphens at the front of a bracket stand for themselves. -/
def takeHyphens (f : Flags) : Nat → List Part → List Char → List Part × List Char
  | 0, parts, cs => (parts, cs)
  | fuel + 1, parts, cs =>
    match cs with
    | '-' :: rest => takeHyphens f fuel (⟨.single '-', 0⟩ :: parts) (f.skip rest)
    | _ => (parts, cs)

/-- The beginning of a bracket, after its sign: whether it is negated, the parts that stand for
themselves because they come first, and the rest. -/
def openBracket (f : Flags) (cs : List Char) : Bool × List Part × List Char :=
  let cs := f.skip cs
  let (negated, cs) :=
    match cs with
    | '^' :: rest => (true, f.skip rest)
    | cs => (false, cs)
  match takeHyphens f cs.length [] cs with
  | ([], ']' :: rest) => (negated, [⟨.single ']', 0⟩], f.skip rest)
  | (parts, cs) => (negated, parts, cs)

/-- One item of a bracket: an escape, or a character that stands for itself. -/
def readItem (f : Flags) : List Char → Except Fault (Escape × List Char)
  | [] => .error .classUnclosed
  | '\\' :: rest => readEscape f rest
  | c :: rest => .ok (.char c, rest)

/-- Without Unicode, a bracket holds ASCII characters only. -/
def checkedChar (f : Flags) (c : Char) : Except Fault Char :=
  if !f.unicode && 0x80 ≤ c.toNat then .error .unicodeRequired else .ok c

/-- The characters of an item. -/
def itemClass (f : Flags) : Escape → Except Fault CharClass
  | .char c => (checkedChar f c).map .single
  | .charClass s => .ok s
  | .look _ => .error .classEscapeInvalid

/-- The end of a range. -/
def itemChar (f : Flags) : Escape → Except Fault Char
  | .char c => checkedChar f c
  | _ => .error .classRangeInvalid

/-- The character that is looked at behind a hyphen to tell whether the hyphen makes a range.  In
verbose mode blanks do not count, nor does the sign of a comment; but the comment itself is not
passed over, so its first character counts. -/
def peekPast (f : Flags) (cs : List Char) : Option Char :=
  if !f.verbose then cs.head?
  else
    match cs.dropWhile Unicode.isSpace with
    | [] => cs.head?
    | '#' :: rest => (rest.dropWhile Unicode.isSpace).head?.or cs.head?
    | c :: _ => some c

/-- An item or a range.  A hyphen makes a range unless a closing bracket or another hyphen is seen
behind it. -/
def readRange (f : Flags) (cs : List Char) : Except Fault (CharClass × List Char) := do
  let (first, rest) ← readItem f cs
  match f.skip rest with
  | [] => .error .classUnclosed
  | '-' :: after =>
    let peeked := peekPast f after
    if peeked = some ']' ∨ peeked = some '-' then return (← itemClass f first, '-' :: after)
    else
      let (last, rest) ← readItem f (f.skip after)
      let lo ← itemChar f first
      let hi ← itemChar f last
      if lo ≤ hi then return (.range lo hi, rest) else .error .classRangeInvalid
  | rest => return (← itemClass f first, rest)

/-- The operator at the front, if there is one. -/
def operatorAt? : List Char → Option (SetOperator × List Char)
  | '&' :: '&' :: rest => some (.intersection, rest)
  | '-' :: '-' :: rest => some (.difference, rest)
  | '~' :: '~' :: rest => some (.symmetricDifference, rest)
  | _ => none

/-- Read a bracket up to its end.  The stack holds what is open, the bracket itself at its bottom,
and `parts` the list being read. -/
def readParts (f : Flags) :
    Nat → List Opened → List Part → List Char → Except Fault (Part × List Char)
  | 0, _, _, _ => .error .classUnclosed
  | fuel + 1, stack, parts, cs =>
    match f.skip cs with
    | [] => .error .classUnclosed
    | '[' :: rest =>
      match asciiClassAt? rest with
      | some (negated, rs, rest) => do
        let s ← negatable f negated (f.fold (.ranges rs))
        readParts f fuel stack (⟨s, 0⟩ :: parts) rest
      | none =>
        let (negated, inner, rest) := openBracket f rest
        readParts f fuel (.bracket parts negated :: stack) inner rest
    | ']' :: rest =>
      match closeOperand f (joinParts parts) stack with
      | (whole, .bracket outer negated :: stack) => do
        let s ← negatable f negated (f.fold whole.charClass)
        let part : Part := ⟨s, 1 + whole.depth⟩
        if stack.isEmpty then return (part, rest)
        else readParts f fuel stack (part :: outer) rest
      | _ => .error .classUnclosed
    | cs@(_ :: _) =>
      match operatorAt? cs with
      | some (op, rest) =>
        let (left, stack) := closeOperand f (joinParts parts) stack
        readParts f fuel (.operand op left :: stack) [] rest
      | none => do
        let (s, rest) ← readRange f cs
        readParts f fuel stack (⟨s, 0⟩ :: parts) rest

/-- A bracketed class, after its opening bracket. -/
def readBracket (f : Flags) (cs : List Char) : Except Fault (Part × List Char) :=
  let (negated, parts, rest) := openBracket f cs
  readParts f (rest.length + 1) [.bracket [] negated] parts rest

end Regex
end VarStore
