import VarStore.Unicode.Named

/-!
# Regular expressions over text

The expressions here are what a pattern means once its notation has been read: characters from a
class, conditions on the place between two characters, sequence, choice and counted repetition.
Which of several matches is preferred plays no part, because a key either contains a match or it
does not.

`Regex.Spans r u w v` says that `r` matches the piece `w` of the text `u ++ w ++ v`.  The text
around the piece belongs to the relation because the zero-width conditions look at it: a condition
holds between the last character of `u` and the first one of `v`.  Repetition is described by
taking one turn off at a time, so that the relation needs no auxiliary notion of power.

`Regex.Found r t` says that some piece of `t` is matched.  `VarStore.Regex.Search` decides it.
-/

namespace VarStore

/-- Which characters count as word characters. -/
inductive WordKind where
  /-- Word characters of every script. -/
  | unicode
  /-- ASCII letters, digits and the low line. -/
  | ascii
  deriving DecidableEq

namespace WordKind

/-- Is `c` a word character? -/
def has : WordKind → Char → Bool
  | unicode, c => Unicode.isWord c
  | ascii, c => c.isAlphanum || c = '_'

/-- Is there a word character on this side? -/
def beside (k : WordKind) (side : Option Char) : Bool := side.any k.has

end WordKind

/-- A condition on a place in the text, between the character before it and the one after it. -/
inductive Look where
  | textStart
  | textEnd
  /-- At the start of the text or after a line feed. -/
  | lineStart
  /-- At the end of the text or before a line feed. -/
  | lineEnd
  /-- Like `lineStart`, a carriage return with or without its line feed ending a line too. -/
  | returnStart
  /-- Like `lineEnd`, a carriage return with or without its line feed ending a line too. -/
  | returnEnd
  | wordBoundary (k : WordKind)
  | noWordBoundary (k : WordKind)
  | wordStart (k : WordKind)
  | wordEnd (k : WordKind)
  /-- No word character before. -/
  | wordStartHalf (k : WordKind)
  /-- No word character after. -/
  | wordEndHalf (k : WordKind)
  deriving DecidableEq

namespace Look

/-- Does the condition hold between these two neighbours?  No neighbour means that the text
begins or ends there. -/
def holds (before after : Option Char) : Look → Bool
  | textStart => before.isNone
  | textEnd => after.isNone
  | lineStart => before.isNone || before = some '\n'
  | lineEnd => after.isNone || after = some '\n'
  | returnStart =>
    before.isNone || before = some '\n' || (before = some '\r' && after != some '\n')
  | returnEnd =>
    after.isNone || after = some '\r' || (after = some '\n' && before != some '\r')
  | wordBoundary k => k.beside before != k.beside after
  | noWordBoundary k => k.beside before == k.beside after
  | wordStart k => !k.beside before && k.beside after
  | wordEnd k => k.beside before && !k.beside after
  | wordStartHalf k => !k.beside before
  | wordEndHalf k => !k.beside after

end Look

/-- A regular expression. -/
inductive Regex where
  /-- Matches the empty piece. -/
  | empty
  /-- Matches one character of the class. -/
  | chars (s : CharClass)
  /-- Matches the empty piece where the condition holds. -/
  | look (l : Look)
  | seq (r s : Regex)
  | alt (r s : Regex)
  /-- At least `least` turns of `r`, and at most `most` if there is a bound. -/
  | rep (r : Regex) (least : Nat) (most : Option Nat)
  deriving DecidableEq

namespace Regex

/-- The expression matches `w` in the text `u ++ w ++ v`. -/
inductive Spans : Regex → List Char → List Char → List Char → Prop where
  | empty {u v} : Spans .empty u [] v
  | chars {s : CharClass} {u : List Char} {c : Char} {v : List Char} (h : s.has c = true) :
      Spans (.chars s) u [c] v
  | look {l : Look} {u v} (h : l.holds u.getLast? v.head? = true) : Spans (.look l) u [] v
  | seq {r s : Regex} {u w x v} (hr : Spans r u w (x ++ v)) (hs : Spans s (u ++ w) x v) :
      Spans (.seq r s) u (w ++ x) v
  | altLeft {r s : Regex} {u w v} (h : Spans r u w v) : Spans (.alt r s) u w v
  | altRight {r s : Regex} {u w v} (h : Spans s u w v) : Spans (.alt r s) u w v
  | repDone {r : Regex} {most u v} : Spans (.rep r 0 most) u [] v
  | repTurn {r : Regex} {least most u w x v} (hmost : most ≠ some 0)
      (hr : Spans r u w (x ++ v))
      (hs : Spans (.rep r (least - 1) (most.map (· - 1))) (u ++ w) x v) :
      Spans (.rep r least most) u (w ++ x) v

/-- Some piece of the text is matched. -/
def Found (r : Regex) (t : List Char) : Prop :=
  ∃ u w v, t = u ++ w ++ v ∧ Spans r u w v

/-! ## Building expressions -/

/-- The sequence of several expressions. -/
def sequence : List Regex → Regex
  | [] => empty
  | [r] => r
  | r :: rs => seq r (sequence rs)

/-- The choice between several expressions; none of them means the empty expression. -/
def choice : List Regex → Regex
  | [] => empty
  | [r] => r
  | r :: rs => alt r (choice rs)

/-- Can the expression, by its form, match empty pieces only? -/
def isZeroWidth : Regex → Bool
  | empty => true
  | chars _ => false
  | look _ => true
  | seq r s => r.isZeroWidth && s.isZeroWidth
  | alt r s => r.isZeroWidth && s.isZeroWidth
  | rep r _ most => r.isZeroWidth || most = some 0

/-- Counted repetition.  No turn at all matches the empty piece, whatever would be repeated, and
more than one turn of an expression that matches empty pieces only adds nothing to the first. -/
def repeated (r : Regex) (least : Nat) (most : Option Nat) : Regex :=
  if most = some 0 then empty
  else if r.isZeroWidth then rep r (min least 1) (some (min (most.getD 1) 1))
  else rep r least most

end Regex

end VarStore
