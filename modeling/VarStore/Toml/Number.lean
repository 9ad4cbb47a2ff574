import VarStore.Text.Decimal
import VarStore.Toml.Blank

/-!
# Numbers and dates

Underscores may stand between the digits of a number.  An integer is decimal, without leading
zeros, or without a sign in base sixteen, eight or two; it has to fit into 64 bits.  A number with a
fraction or an exponent must not be too large for a double on the positive side.

What begins with four digits and a hyphen is a date, and what begins with two digits and a colon a
time of day; both have to exist in the calendar and on the clock.
-/

namespace VarStore
namespace Toml

/-! ## Numbers -/

/-- Read digits of the given kind, at least one, with single underscores between them. -/
def readDigits (ok : Char → Bool) : Reader (List Char)
  | [] => .error .malformed
  | [c] => if ok c then .ok ([c], []) else .error .malformed
  | c :: '_' :: rest => if ok c then prepend c (readDigits ok rest) else .error .malformed
  | c :: d :: rest =>
    if ok c then
      if ok d then prepend c (readDigits ok (d :: rest)) else .ok ([c], d :: rest)
    else .error .malformed

/-- Read a whole number without leading zeros. -/
def readWhole : Reader (List Char)
  | '0' :: rest => .ok (['0'], rest)
  | cs => readDigits Char.isDigit cs

/-- An integer, if it fits into 64 bits. -/
def integer (n : Int) : Except Fault Value :=
  if Int64.minValue.toInt ≤ n ∧ n ≤ Int64.maxValue.toInt then .ok (.integer n)
  else .error .outOfRange

/-- Read an integer in a base, after the sign of the base. -/
def readIn (base : Nat) (ok : Char → Bool) : Reader Value := fun cs => do
  let (digits, rest) ← readDigits ok cs
  return (← integer (Text.ofDigits base digits), rest)

/-- Is `c` a hexadecimal digit? -/
def isHexDigit (c : Char) : Bool := (Text.hexDigit? c).isSome

/-- Read an exponent, after its letter. -/
def readExponent : Reader Int
  | '-' :: rest => (readDigits Char.isDigit rest).map fun p => (-(Text.ofDigits 10 p.1 : Int), p.2)
  | '+' :: rest => (readDigits Char.isDigit rest).map fun p => ((Text.ofDigits 10 p.1 : Int), p.2)
  | cs => (readDigits Char.isDigit cs).map fun p => ((Text.ofDigits 10 p.1 : Int), p.2)

/-- A number with a fraction or an exponent. -/
def float (negative : Bool) (d : Text.Decimal) : Except Fault Value :=
  if !negative && d.isHuge then .error .outOfRange else .ok .float

/-- The letter of an exponent. -/
def isExponentLetter (c : Char) : Bool := c = 'e' || c = 'E'

/-- Read what may follow the fraction of a number. -/
def readAfterFraction (negative : Bool) (whole fraction : List Char) : Reader Value
  | c :: rest =>
    if isExponentLetter c then do
      let (exponent, rest) ← readExponent rest
      return (← float negative ⟨whole, fraction, exponent⟩, rest)
    else do return (← float negative ⟨whole, fraction, 0⟩, c :: rest)
  | [] => do return (← float negative ⟨whole, fraction, 0⟩, [])

/-- Read what may follow the whole part of a number. -/
def readAfterWhole (negative : Bool) (whole : List Char) : Reader Value
  | '.' :: rest => do
    let (fraction, rest) ← readDigits Char.isDigit rest
    readAfterFraction negative whole fraction rest
  | c :: rest =>
    if isExponentLetter c then readAfterFraction negative whole [] (c :: rest)
    else do return (← signed, c :: rest)
  | [] => do return (← signed, [])
where
  /-- The number as an integer. -/
  signed : Except Fault Value :=
    integer (if negative then -(Text.ofDigits 10 whole : Int) else Text.ofDigits 10 whole)

/-- Read a number after its sign. -/
def readUnsigned (negative : Bool) : Reader Value
  | 'i' :: 'n' :: 'f' :: rest => .ok (.float, rest)
  | 'n' :: 'a' :: 'n' :: rest => .ok (.float, rest)
  | cs => do
    let (whole, rest) ← readWhole cs
    readAfterWhole negative whole rest

/-- Read a number. -/
def readNumber : Reader Value
  | '+' :: rest => readUnsigned false rest
  | '-' :: rest => readUnsigned true rest
  | '0' :: 'x' :: rest => readIn 16 isHexDigit rest
  | '0' :: 'o' :: rest => readIn 8 (fun c => '0' ≤ c && c ≤ '7') rest
  | '0' :: 'b' :: rest => readIn 2 (fun c => c = '0' || c = '1') rest
  | cs => readUnsigned false cs

/-! ## Dates and times -/

/-- Read two digits that spell a number in the given range. -/
def readPair (least most : Nat) : Reader Nat
  | a :: b :: rest =>
    let n := Text.ofDigits 10 [a, b]
    if a.isDigit ∧ b.isDigit ∧ least ≤ n ∧ n ≤ most then .ok (n, rest)
    else .error .malformed
  | _ => .error .malformed

/-- Pass over a sign. -/
def expect (sign : Char) : List Char → Except Fault (List Char)
  | c :: rest => if c = sign then .ok rest else .error .malformed
  | [] => .error .malformed

/-- How many days the month has. -/
def daysIn (year month : Nat) : Nat :=
  if month = 2 then
    if year % 4 = 0 ∧ (year % 100 ≠ 0 ∨ year % 400 = 0) then 29 else 28
  else if month = 4 ∨ month = 6 ∨ month = 9 ∨ month = 11 then 30
  else 31

/-- Pass over the fraction of a second, if there is one. -/
def skipFraction : List Char → List Char
  | '.' :: c :: rest => if c.isDigit then rest.dropWhile Char.isDigit else '.' :: c :: rest
  | cs => cs

/-- Pass over a time of day. -/
def skipTime (cs : List Char) : Except Fault (List Char) := do
  let (_, rest) ← readPair 0 23 cs
  let rest ← expect ':' rest
  let (_, rest) ← readPair 0 59 rest
  let rest ← expect ':' rest
  let (_, rest) ← readPair 0 60 rest
  return skipFraction rest

/-- Pass over the distance from universal time, if it is given. -/
def skipOffset : List Char → Except Fault (List Char)
  | c :: rest =>
    if c = 'Z' ∨ c = 'z' then .ok rest
    else if c = '+' ∨ c = '-' then do
      let (_, rest) ← readPair 0 23 rest
      let rest ← expect ':' rest
      let (_, rest) ← readPair 0 59 rest
      return rest
    else .ok (c :: rest)
  | [] => .ok []

/-- Does a time of day begin here? -/
def timeBegins : List Char → Bool
  | a :: b :: ':' :: _ => a.isDigit && b.isDigit && Text.ofDigits 10 [a, b] ≤ 23
  | _ => false

/-- Does a date begin here? -/
def dateBegins : List Char → Bool
  | a :: b :: c :: d :: '-' :: _ => [a, b, c, d].all Char.isDigit
  | _ => false

/-- Read a date, and the time of day if it follows. -/
def readDate (cs : List Char) : Except Fault (Value × List Char) := do
  let year := Text.ofDigits 10 (cs.take 4)
  let (month, rest) ← readPair 1 12 (cs.drop 5)
  let rest ← expect '-' rest
  let (_, rest) ← readPair 1 (daysIn year month) rest
  match rest with
  | c :: more =>
    if (c = 'T' ∨ c = 't' ∨ c = ' ') ∧ timeBegins more then do
      return (.moment, ← skipOffset (← skipTime more))
    else return (.moment, rest)
  | [] => return (.moment, [])

/-- Read a number, a date or a time of day. -/
def readScalar (cs : List Char) : Except Fault (Value × List Char) :=
  if dateBegins cs then readDate cs
  else if timeBegins cs then (skipTime cs).map fun rest => (.moment, rest)
  else readNumber cs

end Toml
end VarStore
