import VarStore.Unicode.Ranges

/-!
# Characters as bytes

A text is kept in UTF-8, so an automaton that reads bytes has to spell a range of characters as
sequences of byte ranges.  A sequence stands for all choices of one byte from each of its ranges,
so a range of characters is first cut into pieces for which that is right: within a piece all
characters take equally many bytes, and where two characters differ in a byte, the bytes after it
run through everything that can stand there.

`Ranges.byteSpans` lists the sequences in the order of the characters.
-/

namespace VarStore
namespace Unicode

/-- The bytes from the first to the second. -/
abbrev ByteSpan := Nat × Nat

/-- The bytes of a code point. -/
def utf8Bytes (n : Nat) : List Nat :=
  let tail (k : Nat) : Nat := 0x80 + n / k % 64
  if n < 0x80 then [n]
  else if n < 0x800 then [0xC0 + n / 64, tail 1]
  else if n < 0x10000 then [0xE0 + n / 4096, tail 64, tail 1]
  else [0xF0 + n / 262144, tail 4096, tail 64, tail 1]

/-- The code points that take one, two, three and four bytes; the third row is cut where the
surrogates stand, which are no characters. -/
def utf8Bands : Ranges :=
  [(0, 0x7F), (0x80, 0x7FF), (0x800, 0xD7FF), (0xE000, 0xFFFF), (0x10000, 0x10FFFF)]

/-- Cut a range at multiples of `block`, so that the middle part holds whole blocks, and cut the
middle part again with greater blocks.  A block is what one byte and all bytes after it can say. -/
def cutBlocks : Nat → Nat → Nat → Nat → Ranges
  | 0, _, lo, hi => [(lo, hi)]
  | levels + 1, block, lo, hi =>
    if lo / block = hi / block then [(lo, hi)]
    else
      let first := (lo + block - 1) / block * block
      let past := (hi + 1) / block * block
      (if lo < first then [(lo, first - 1)] else []) ++
        (if first < past then cutBlocks levels (64 * block) first (past - 1) else []) ++
        (if past ≤ hi then [(past, hi)] else [])

/-- The sequences of byte ranges that spell a range of characters. -/
def byteSpansOf (lo hi : Nat) : List (List ByteSpan) :=
  utf8Bands.flatMap fun band =>
    let first := max lo band.1
    let last := min hi band.2
    if last < first then []
    else if last < 0x80 then [[(first, last)]]
    else (cutBlocks 3 64 first last).map fun p => (utf8Bytes p.1).zip (utf8Bytes p.2)

/-- The sequences of byte ranges that spell the characters of some ranges. -/
def Ranges.byteSpans (rs : Ranges) : List (List ByteSpan) :=
  rs.flatMap fun r => byteSpansOf r.1 r.2

end Unicode
end VarStore
