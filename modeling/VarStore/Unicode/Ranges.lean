/-!
# Sets of code points, written as ranges

Character properties are published as tables of inclusive code point ranges.  A table is kept
here in the form in which a reader can check it against the standard, as text: hexadecimal
numbers separated by blanks, `41-5A` for a range and `AA` for a single code point.
`Ranges.ofText` reads that form, and `Ranges.has` is membership.

The reader is one left fold over the characters.  Its state is the number being read and, after
a hyphen, the lower end that the number will close; a blank (or the end of the text) closes a
range.  So a table is read once, in one pass, and in time linear in its length.
-/

namespace VarStore
namespace Unicode

/-- Inclusive ranges of code points, in the order of the table. -/
abbrev Ranges := List (Nat × Nat)

namespace Ranges

/-- Does some range contain the code point `n`? -/
def hasCode (rs : Ranges) (n : Nat) : Bool :=
  rs.any fun r => r.1 ≤ n && n ≤ r.2

/-- Does some range contain the character `c`? -/
def has (rs : Ranges) (c : Char) : Bool :=
  rs.hasCode c.toNat

@[simp] theorem hasCode_nil (n : Nat) : hasCode [] n = false := rfl

@[simp] theorem hasCode_cons (r : Nat × Nat) (rs : Ranges) (n : Nat) :
    hasCode (r :: rs) n = ((decide (r.1 ≤ n) && decide (n ≤ r.2)) || hasCode rs n) := rfl

/-- A table holds what either of its two parts holds. -/
@[simp] theorem hasCode_append (rs ts : Ranges) (n : Nat) :
    hasCode (rs ++ ts) n = (hasCode rs n || hasCode ts n) := by
  simp [hasCode, List.any_append]

/-! ## Reading a table -/

/-- Where a reader of a table stands: the ranges closed so far (last first), the lower end of a
range whose upper end is being read, and the number being read. -/
structure Reading where
  closed : Ranges
  lower : Option Nat
  number : Option Nat

/-- The value of a hexadecimal digit. -/
def digit? (c : Char) : Option Nat :=
  if '0' ≤ c ∧ c ≤ '9' then some (c.toNat - '0'.toNat)
  else if 'A' ≤ c ∧ c ≤ 'F' then some (c.toNat - 'A'.toNat + 10)
  else none

/-- Close the range that is open, if there is one. -/
def Reading.close (r : Reading) : Reading :=
  match r.number with
  | none => r
  | some n => ⟨(r.lower.getD n, n) :: r.closed, none, none⟩

/-- One more character of the table. -/
def Reading.next (r : Reading) (c : Char) : Reading :=
  match digit? c with
  | some d => { r with number := some (16 * r.number.getD 0 + d) }
  | none => if c = '-' then ⟨r.closed, r.number, none⟩ else r.close

/-- Read a table of hexadecimal ranges. -/
def ofText (text : String) : Ranges :=
  (text.toList.foldl Reading.next ⟨[], none, none⟩).close.closed.reverse

end Ranges

end Unicode
end VarStore
