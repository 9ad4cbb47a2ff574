import VarStore.Text.Decimal

/-!
# Numbers that are out of range

A number of a document is read as a double in two steps, and is out of range if the second step
leaves nothing.  First the digits are gathered into a significand of 64 bits, and the digits that
find no room only count as places.  Then the significand and the power of ten are each rounded to
a double, and their product is rounded once more.

Just below the bound of `Text.Decimal.isHuge` the two roundings can carry a number over it, so the
two tests differ there and nowhere else.

* `gather`: the significand of some digits, and the digits left over.
* `roundSignificand`: the nearest number with a significand of 53 bits, ties to the even one.
* `isOutOfRange`: the test.
-/

namespace VarStore
namespace Json

/-- The largest significand that digits are gathered into. -/
def significandLimit : Nat := 18446744073709551615

/-- Take digits in behind a significand while there is room; what is left over comes second. -/
def gather (significand : Nat) : List Char → Nat × List Char
  | [] => (significand, [])
  | c :: cs =>
    let next := significand * 10 + Text.ofDigits 10 [c]
    if next ≤ significandLimit then gather next cs else (significand, c :: cs)

/-- The nearest number whose binary digits, apart from zeros at its end, are at most 53; of two that
are equally near, the one whose last digit is even. -/
def roundSignificand (n : Nat) : Nat :=
  let unit := Nat.pow 2 (n.log2 - 52)
  let count := n / unit
  let excess := 2 * (n % unit)
  if unit < excess ∨ (unit = excess ∧ count % 2 = 1) then (count + 1) * unit else count * unit

/-- Is the number too large for a double, read in two steps? -/
def isOutOfRange (d : Text.Decimal) : Bool :=
  let (whole, wholeLeft) := gather 0 d.whole
  let (significand, fractionLeft) := gather whole d.fraction
  let exponent := d.exponent + wholeLeft.length + fractionLeft.length - d.fraction.length
  if significand = 0 then false
  else if exponent < 0 then false
  else if 308 < exponent then true
  else Text.Decimal.doubleLimit ≤
    roundSignificand significand * roundSignificand (Nat.pow 10 exponent.toNat)

/-- No digits change no significand. -/
@[simp] theorem gather_nil (significand : Nat) : gather significand [] = (significand, []) := rfl

end Json
end VarStore
