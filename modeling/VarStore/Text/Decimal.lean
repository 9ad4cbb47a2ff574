import VarStore.Text.Digits

/-!
# Decimal numbers as they are spelled

A decimal number is kept as its digits before and after the point and its exponent, so that it can
be compared with a bound exactly and without ever being rounded.  The only bound that matters is
the one beyond which no double is left: a number that is at least halfway from the largest double
to the next power of two.
-/

namespace VarStore
namespace Text

/-- A decimal number without its sign. -/
structure Decimal where
  /-- The digits before the point. -/
  whole : List Char
  /-- The digits after the point. -/
  fraction : List Char
  /-- The power of ten that the number is multiplied by. -/
  exponent : Int

namespace Decimal

/-- The least number that is too large for a double. -/
def doubleLimit : Nat := Nat.pow 2 1024 - Nat.pow 2 970

/-- Is the number too large for a double?  Exponents that decide at once are sorted out first, so
that no power is computed for nothing. -/
def isHuge (d : Decimal) : Bool :=
  let significand := ofDigits 10 (d.whole ++ d.fraction)
  let exponent := d.exponent - d.fraction.length
  if significand = 0 then false
  else
    let places : Int := exponent + (Nat.toDigits 10 significand).length
    if 400 < places then true
    else if places < 300 then false
    else if 0 ≤ exponent then doubleLimit ≤ significand * Nat.pow 10 exponent.toNat
    else doubleLimit * Nat.pow 10 (-exponent).toNat ≤ significand

end Decimal

end Text
end VarStore
