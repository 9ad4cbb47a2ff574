import VarStore.Regex.Layout
import VarStore.Unicode.ByteSpans
import Std.Data.HashMap

/-!
# Room

A pattern is laid out as two automata over bytes, one that reads a text forwards and one that
reads it backwards.  A pattern is too large when one of the two takes more than ten mebibytes.
This module lays automata out without keeping them: all that counts is how many states there are
and how long their lists are.

* A state takes 32 bytes.  A list of successors takes four more for each, a list of byte ranges
  with successors eight.
* Bounded repetition is laid out as copies, one after the other.
* The automaton of a class reads UTF-8.  Forwards it is a trie of byte sequences in which equal
  nodes are shared; backwards it is the sequences side by side, which share their ends.
* What may be shared is looked up in a table with a fixed number of places.  A place keeps only
  what was put there last, so sharing may fail, and whether it does depends on the numbers of the
  states.  That is why the states are counted one class after the other.
* A choice between texts is laid out as a trie of the texts.
-/

namespace VarStore
namespace Room

/-- How much of an automaton is laid out: how many states, which is also the number of the next
one, and how many bytes their lists take. -/
structure Build where
  states : Nat
  listed : Nat
  deriving DecidableEq

/-- An automaton may take up to ten mebibytes. -/
def limit : Nat := 10 * 1048576

namespace Build

/-- The bytes that the automaton takes so far. -/
def bytes (b : Build) : Nat := 32 * b.states + b.listed

/-- Add states and list entries, if there is room. -/
def add (b : Build) (states listed : Nat) : Option Build :=
  let more : Build := ⟨b.states + states, b.listed + listed⟩
  if more.bytes ≤ limit then some more else none

end Build

/-! ## Places in a table -/

/-- The hash before anything is mixed in. -/
def hashStart : UInt64 := 14695981039346656037

/-- Mix a number into a hash. -/
def mixed (h : UInt64) (n : Nat) : UInt64 := (h ^^^ n.toUInt64) * 1099511628211

/-- The place of a list of numbers in a table with `places` places. -/
def placeOf (places : UInt64) (ns : List Nat) : Nat := (ns.foldl mixed hashStart % places).toNat

/-- A build, with the table of what may be shared: at each place a key and the number of its
state. -/
structure Sharing where
  build : Build
  table : Std.HashMap Nat (List Nat × Nat)

/-- A new state with `listed` bytes, put at its place in the table under its key. -/
def Sharing.fresh (place : Nat) (key : List Nat) (listed : Nat) (s : Sharing) :
    Option (Nat × Sharing) :=
  match s with
  | ⟨build, table⟩ =>
    match build.add 1 listed with
    | none => none
    | some more => some (build.states, ⟨more, table.insert place (key, build.states)⟩)

/-- The state of a key: the one that the table has for it, or a new one with `listed` bytes. -/
def Sharing.state (places : UInt64) (key : List Nat) (listed : Nat) (s : Sharing) :
    Option (Nat × Sharing) :=
  let place := placeOf places key
  match s.table[place]? with
  | none => s.fresh place key listed
  | some (known, n) => if known = key then some (n, s) else s.fresh place key listed

/-! ## Classes -/

/-- Byte sequences by their first range; only neighbours are put together. -/
def byFirst : List (List Unicode.ByteSpan) → List (Unicode.ByteSpan × List (List Unicode.ByteSpan))
  | [] => []
  | [] :: rest => byFirst rest
  | (b :: bs) :: rest =>
    match byFirst rest with
    | (c, tails) :: more =>
      if b = c then (b, bs :: tails) :: more else (b, [bs]) :: (c, tails) :: more
    | [] => [(b, [bs])]

/-- Lay out the trie of some byte sequences, at most `depth` bytes long, in front of the state
`target`; the number of its root comes first in the answer. -/
def layTrie (target : Nat) : Nat → List (List Unicode.ByteSpan) → Sharing → Option (Nat × Sharing)
  | 0, _, s => some (target, s)
  | depth + 1, sequences, s => do
    let (edges, s) ← (byFirst sequences).foldlM
      (fun (edges, s) ((b : Unicode.ByteSpan), tails) => do
        let (child, s) ←
          if tails.all (·.isEmpty) then pure (target, s) else layTrie target depth tails s
        return (edges ++ [b.1, b.2, child], s))
      (([] : List Nat), s)
    s.state 10000 edges (edges.length / 3 * 8)

/-- Lay out a class forwards: the state behind it, then the trie of its sequences. -/
def layForwards (sequences : List (List Unicode.ByteSpan)) (b : Build) : Option Build := do
  let behind ← b.add 1 0
  let (_, s) ← layTrie b.states 4 sequences ⟨behind, ∅⟩
  return s.build

/-- Lay out one sequence from its last byte to its first, in front of the state `next`. -/
def laySequence : Nat → List Unicode.ByteSpan → Sharing → Option Sharing
  | _, [], s => some s
  | next, b :: bs, s => do
    let (n, s) ← s.state 1000 [next, b.1, b.2] 0
    laySequence n bs s

/-- Lay out a class backwards: the choice between its sequences, the state behind them, and the
sequences. -/
def layBackwards (sequences : List (List Unicode.ByteSpan)) (b : Build) : Option Build := do
  let start ← b.add 2 (4 * sequences.length)
  let s ← sequences.foldlM (fun s bytes => laySequence (b.states + 1) bytes s) ⟨start, ∅⟩
  return s.build

/-- Lay out a class.  A class of ASCII characters is one list of ranges. -/
def layClass (backwards : Bool) (rs : Unicode.Ranges) (b : Build) : Option Build :=
  if rs.all fun r => r.2 < 0x80 then b.add 2 (8 * rs.length)
  else if backwards then layBackwards (Unicode.Ranges.byteSpans rs) b
  else layForwards (Unicode.Ranges.byteSpans rs) b

/-! ## Choices between texts -/

/-- The bytes of a text. -/
def bytesOf (cs : List Char) : List Nat := cs.flatMap fun c => Unicode.utf8Bytes c.toNat

/-- Cut a list of texts where one of them is used up. -/
def cutAtEnds : List (List Nat) → List (List (List Nat))
  | [] => [[]]
  | [] :: rest => [] :: cutAtEnds rest
  | (b :: bs) :: rest =>
    match cutAtEnds rest with
    | part :: parts => ((b :: bs) :: part) :: parts
    | [] => [[b :: bs]]

/-- The rest of a text behind its first byte, if that is `b`. -/
def behind? (b : Nat) : List Nat → Option (List Nat)
  | [] => none
  | c :: cs => if c = b then some cs else none

/-- The states and the listed bytes of the trie of some texts, at most `depth` bytes long.  A text
that ends at a node stands between what came before it and what comes after, because it is
preferred to the latter only; the two sides do not share their bytes. -/
def textTrie : Nat → List (List Nat) → Nat × Nat
  | 0, _ => (0, 0)
  | depth + 1, texts =>
    let parts := cutAtEnds
      (match texts with
        | [] :: rest => [] :: rest.dropWhile (·.isEmpty)
        | texts => texts)
    let rows := parts.map fun part => (part, (part.filterMap (·.head?)).eraseDups)
    let filled := (rows.filter fun row => !row.2.isEmpty).length
    let lists := rows.foldl (fun n row => if row.2.length < 2 then n else n + 8 * row.2.length) 0
    rows.foldl
      (fun total (part, heads) =>
        heads.foldl
          (fun total h =>
            let tails := part.filterMap (behind? h)
            if tails.all (·.isEmpty) then total
            else
              let below := textTrie depth tails
              (total.1 + below.1, total.2 + below.2))
          total)
      (1 + filled, 4 * (filled + (parts.length - 1)) + lists)

/-- Lay out a choice between texts: the state behind it and the trie. -/
def layTexts (backwards : Bool) (texts : List (List Char)) (b : Build) : Option Build :=
  let bytes := texts.map fun cs =>
    if backwards then (bytesOf cs).reverse else bytesOf cs
  let depth := bytes.foldl (fun n bs => max n bs.length) 0
  let (states, listed) := textTrie (depth + 1) bytes
  b.add (states + 1) listed

/-! ## Layouts -/

/-- Where a layout stands in a choice. -/
inductive Place where
  /-- In none, or as the first branch. -/
  | whole
  /-- The second branch, behind which the choice itself is laid out. -/
  | second
  | later
  deriving DecidableEq

/-- What a branch adds behind itself: the second one the choice and its end, a later one its place
in the list. -/
def Place.close : Place → Build → Option Build
  | whole, b => some b
  | second, b => b.add 2 8
  | later, b => b.add 0 4

/-- Lay out `n` copies, one after the other. -/
def copies (lay : Build → Option Build) : Nat → Build → Option Build
  | 0, b => some b
  | n + 1, b =>
    match lay b with
    | none => none
    | some b => copies lay n b

/-- Lay out a repetition; `consuming` says whether every turn uses up a character. -/
def layRepetition (lay : Build → Option Build) (consuming : Bool) (least : Nat)
    (most : Option Nat) (b : Build) : Option Build :=
  match least, most with
  | 0, none =>
    if consuming then do lay (← b.add 1 8)
    else do (← lay b).add 3 16
  | 1, none => do (← lay b).add 1 8
  | least, none => do (← copies lay least b).add 1 8
  | 0, some 1 => do (← lay (← b.add 1 8)).add 1 0
  | least, some most =>
    if least = most then copies lay least b
    else do
      let b ← if least = 0 then b.add 1 0 else copies lay least b
      copies (fun b => do lay (← b.add 1 8)) (most - least) (← b.add 1 0)

/-- Lay out a layout.  Groups are kept forwards only. -/
def lay (backwards : Bool) : Place → Layout → Build → Option Build
  | place, .empty, b => do place.close (← b.add 1 0)
  | place, .text cs, b => do place.close (← b.add (bytesOf cs).length 0)
  | place, .chars rs, b => do place.close (← layClass backwards rs b)
  | place, .look _, b => do place.close (← b.add 1 0)
  | place, .rep r least most _, b => do
    place.close (← layRepetition (lay backwards .whole r) r.isConsuming least most b)
  | place, .group _ r, b => do
    if backwards then place.close (← lay backwards .whole r b)
    else place.close (← (← lay backwards .whole r (← b.add 1 0)).add 1 0)
  | place, .seq r s, b => do
    if backwards then place.close (← lay backwards .whole r (← lay backwards .whole s b))
    else place.close (← lay backwards .whole s (← lay backwards .whole r b))
  | .whole, .alt r s, b =>
    match (Layout.alt r s).branches.mapM (·.text?) with
    | some texts => layTexts backwards texts b
    | none => do lay backwards .second s (← lay backwards .whole r b)
  | place, .alt r s, b => do
    lay backwards .later s (← place.close (← lay backwards .whole r b))

/-- Lay out a whole automaton: a loop that skips what stands before a match, unless a match can
only begin at the end where the automaton begins, then the layout as a group, and a last state. -/
def automaton (backwards : Bool) (r : Layout) : Option Build := do
  let bound := if backwards then r.isEndBound else r.isStartBound
  let start ← if bound then Build.add ⟨0, 0⟩ 1 0 else Build.add ⟨0, 0⟩ 3 16
  (← lay backwards .whole (.group 0 r) start).add 1 0

end Room

/-- Is there room for both automata of the layout? -/
def Layout.fits (r : Layout) : Bool :=
  (Room.automaton false r).isSome && (Room.automaton true r).isSome

end VarStore
