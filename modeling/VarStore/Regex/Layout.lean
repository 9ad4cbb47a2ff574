import VarStore.Regex.Basic
import VarStore.Unicode.Spans

/-!
# Layouts

A pattern is searched by automata, and how large these get is decided by how the pattern is put
together and not only by what it means.  The layout of a pattern is the expression that automata
are laid out from.  It knows groups and greed, which play no part in a match, and it is kept
simple while it is put together:

* neighbouring texts are one text, and a sequence holds neither sequences nor empty parts;
* a choice holds no choices; a choice between single characters or between classes is a class, and
  what all branches of a choice begin with stands in front of it;
* a repetition of what can only match the empty text is not repeated more than once.

Sequences and choices are chains: the first part, and the layout of the others.  `items` and
`branches` take a chain apart again.
-/

namespace VarStore

/-- The expression that automata are laid out from. -/
inductive Layout where
  | empty
  /-- A text of at least one character. -/
  | text (cs : List Char)
  /-- A class with no character or with several, by its spans. -/
  | chars (rs : Unicode.Ranges)
  | look (l : Look)
  | rep (r : Layout) (least : Nat) (most : Option Nat) (greedy : Bool)
  /-- A group whose match is kept, by its number. -/
  | group (number : Nat) (r : Layout)
  | seq (r s : Layout)
  | alt (r s : Layout)
  deriving DecidableEq

namespace Layout

/-! ## What a layout can match -/

/-- How many characters a match has at least; unknown when some part has no match. -/
def shortest : Layout → Option Nat
  | empty => some 0
  | text cs => some cs.length
  | chars rs => if rs.isEmpty then none else some 1
  | look _ => some 0
  | rep r least _ _ => r.shortest.map (· * least)
  | group _ r => r.shortest
  | seq r s => do return (← r.shortest) + (← s.shortest)
  | alt r s => do return min (← r.shortest) (← s.shortest)

/-- How many characters a match has at most; unknown when there is no bound or some part has no
match. -/
def longest : Layout → Option Nat
  | empty => some 0
  | text cs => some cs.length
  | chars rs => if rs.isEmpty then none else some 1
  | look _ => some 0
  | rep r _ most _ => do return (← most) * (← r.longest)
  | group _ r => r.longest
  | seq r s => do return (← r.longest) + (← s.longest)
  | alt r s => do return max (← r.longest) (← s.longest)

/-- Can only empty texts match? -/
def isZeroWidth (r : Layout) : Bool := r.longest = some 0

/-- Does every match use up a character? -/
def isConsuming (r : Layout) : Bool := r.shortest.any (0 < ·)

/-- Does every match begin where the text begins? -/
def isStartBound : Layout → Bool
  | look l => l = .textStart
  | rep r least _ _ => 0 < least && r.isStartBound
  | group _ r => r.isStartBound
  | seq r s => r.isStartBound || (r.isZeroWidth && s.isStartBound)
  | alt r s => r.isStartBound && s.isStartBound
  | _ => false

/-- Does every match end where the text ends? -/
def isEndBound : Layout → Bool
  | look l => l = .textEnd
  | rep r least _ _ => 0 < least && r.isEndBound
  | group _ r => r.isEndBound
  | seq r s => s.isEndBound || (s.isZeroWidth && r.isEndBound)
  | alt r s => r.isEndBound && s.isEndBound
  | _ => false

/-! ## Chains -/

/-- The parts of a sequence; any other layout is its only part. -/
def items : Layout → List Layout
  | seq r s => r.items ++ s.items
  | r => [r]

/-- The branches of a choice; any other layout is its only branch. -/
def branches : Layout → List Layout
  | alt r s => r.branches ++ s.branches
  | r => [r]

/-- How many constructors a layout has. -/
def weight : Layout → Nat
  | rep r _ _ _ => r.weight + 1
  | group _ r => r.weight + 1
  | seq r s => r.weight + s.weight + 1
  | alt r s => r.weight + s.weight + 1
  | _ => 1

/-- The chain of the given parts. -/
def chain : List Layout → Layout
  | [] => empty
  | [r] => r
  | r :: rs => seq r (chain rs)

/-- The choice between the given branches. -/
def fork : List Layout → Layout
  | [] => chars []
  | [r] => r
  | r :: rs => alt r (fork rs)

/-! ## Building layouts -/

/-- The layout of a class with the given spans. -/
def ofSpans : Unicode.Ranges → Layout
  | [(a, b)] => if a = b then text [Char.ofNat a] else chars [(a, b)]
  | rs => chars rs

/-- Put a part in front of a sequence. -/
def addItem : Layout → List Layout → List Layout
  | empty, rs => rs
  | text cs, text ds :: rs => text (cs ++ ds) :: rs
  | r, rs => r :: rs

/-- One layout after the other. -/
def sequence (rs : List Layout) : Layout := chain ((rs.flatMap items).foldr addItem [])

/-- A counted repetition. -/
def repeated (r : Layout) (least : Nat) (most : Option Nat) (greedy : Bool) : Layout :=
  let least' := if r.isZeroWidth then min least 1 else least
  let most' := if r.isZeroWidth then some (min (most.getD 1) 1) else most
  if most' = some 0 then empty
  else if least' = 1 ∧ most' = some 1 then r
  else rep r least' most' greedy

/-- The character of a layout that is one. -/
def char? : Layout → Option Char
  | text [c] => some c
  | _ => none

/-- The spans of a layout that is a class. -/
def spans? : Layout → Option Unicode.Ranges
  | chars rs => some rs
  | _ => none

/-- The bytes of a layout that is a text. -/
def text? : Layout → Option (List Char)
  | text cs => some cs
  | _ => none

/-- What two sequences begin with. -/
def commonFront : List Layout → List Layout → List Layout
  | r :: rs, s :: ss => if r = s then r :: commonFront rs ss else []
  | _, _ => []

/-- What all of the given sequences begin with.  A layout that is no sequence of several parts has
no front to share. -/
def sharedFront : List Layout → List Layout
  | [] => []
  | r :: rs =>
    let front : Layout → List Layout
      | seq a b => (seq a b).items
      | _ => []
    rs.foldl (fun shared s => commonFront shared (front s)) (front r)

/-- The choice between several branches, taking out shared fronts at most `fuel` times. -/
def choiceWithin (fuel : Nat) (rs : List Layout) : Layout :=
  let bs := rs.flatMap branches
  match bs with
  | [] => chars []
  | [r] => r
  | bs =>
    match bs.mapM char?, bs.mapM spans? with
    | some cs, _ => ofSpans (Unicode.Ranges.normal (cs.map fun c => (c.toNat, c.toNat)))
    | none, some spans => ofSpans (Unicode.Ranges.normal spans.flatten)
    | none, none =>
      match fuel, sharedFront bs with
      | fuel + 1, r :: shared =>
        let rests := bs.map fun b => sequence (b.items.drop (shared.length + 1))
        sequence (r :: shared ++ [choiceWithin fuel rests])
      | _, _ => fork bs

/-- The choice between several branches. -/
def choice (rs : List Layout) : Layout :=
  choiceWithin (rs.foldl (fun n r => n + r.weight) 0) rs

end Layout
end VarStore
