import VarStore.Regex.Basic

/-!
# Searching with marks

A search reads the text once, from left to right, and keeps the expression with marks on it: a
character class is marked when it matched the character just read, as part of some match under
way.  Reading one more character moves every mark one class further, along all the ways the
expression allows, and lets a new match begin.  No state is ever copied or compared, the marked
expression never grows, and the whole search is structural recursion: on the text outside, on the
expression inside.

`Marked.shift` moves the marks over one character, `Marked.canSkip` says whether an expression can
match the empty piece at the present place, and `Marked.isDone` whether a match under way may end
there.  The two last ones look at the neighbours of the place, because the zero-width conditions
do.

Bounded repetition is unrolled first.  The copies are put together as a balanced tree, so a count
of many thousands makes the expression wide but not deep.
-/

namespace VarStore

/-- An expression without counted repetition, with a mark at each character class. -/
inductive Marked where
  | empty
  /-- A class, and whether it matched the character just read. -/
  | chars (s : CharClass) (mark : Bool)
  | look (l : Look)
  | seq (m n : Marked)
  | alt (m n : Marked)
  | star (m : Marked)

namespace Marked

variable (before after : Option Char)

/-- Can the expression match the empty piece between these neighbours? -/
def canSkip : Marked → Bool
  | empty => true
  | chars _ _ => false
  | look l => l.holds before after
  | seq m n => m.canSkip && n.canSkip
  | alt m n => m.canSkip || n.canSkip
  | star _ => true

/-- May a match under way end between these neighbours? -/
def isDone : Marked → Bool
  | empty => false
  | chars _ mark => mark
  | look _ => false
  | seq m n => (m.isDone && n.canSkip before after) || n.isDone
  | alt m n => m.isDone || n.isDone
  | star m => m.isDone

/-- Move the marks over the character `c`; with `enter`, a match may begin here. -/
def shift (c : Char) : Bool → Marked → Marked
  | _, empty => empty
  | enter, chars s _ => chars s (enter && s.has c)
  | _, look l => look l
  | enter, seq m n =>
    seq (shift c enter m)
      (shift c ((enter && m.canSkip before (some c)) || m.isDone before (some c)) n)
  | enter, alt m n => alt (shift c enter m) (shift c enter n)
  | enter, star m => star (shift c (enter || m.isDone before (some c)) m)

/-- Does a match end between these neighbours, one under way or an empty one? -/
def accepts (m : Marked) : Bool := m.canSkip before after || m.isDone before after

/-- Does a match end somewhere in the text that is left?  A match may begin at every place. -/
def run (m : Marked) (before : Option Char) : List Char → Bool
  | [] => m.accepts before none
  | c :: cs => m.accepts before (some c) || run (m.shift before c true) (some c) cs

/-! ## Unrolling -/

/-- `n` copies in sequence, as a balanced tree. -/
def copies (m : Marked) (n : Nat) : Marked :=
  if n = 0 then empty
  else if n = 1 then m
  else seq (copies m (n / 2)) (copies m (n - n / 2))
termination_by n

/-- At least `least` turns, and at most `most` if there is a bound. -/
def turns (m : Marked) (least : Nat) : Option Nat → Marked
  | none => if least = 0 then star m else seq (copies m least) (star m)
  | some most =>
    if most ≤ least then copies m least
    else seq (copies m least) (copies (alt m empty) (most - least))

end Marked

namespace Regex

/-- The expression with its repetitions unrolled and without marks. -/
def unroll : Regex → Marked
  | empty => .empty
  | chars s => .chars s false
  | look l => .look l
  | seq r s => .seq r.unroll s.unroll
  | alt r s => .alt r.unroll s.unroll
  | rep r least most => r.unroll.turns least most

/-- Is some piece of the text matched? -/
def search (r : Regex) (t : String) : Bool := r.unroll.run none t.toList

end Regex

end VarStore
