import VarStore.Unicode.Age
import VarStore.Unicode.Break
import VarStore.Unicode.Later

/-!
# Character classes by name

The standard names properties of characters in two ways: by one name, as in `Greek` or `Lu`, and
by a property with a value, as in `script=Greek`.  This module turns both into character classes.

Names are matched loosely: case, blanks, hyphens and low lines do not count, nor does a leading
`is`.  Three short names belong to a category and to another property at once; they are read as
the category.

The classes that need no name stand at the end: digits, blanks and word characters.
-/

namespace VarStore
namespace Unicode

/-! ## Loose matching -/

/-- Lower an ASCII letter; leave out blanks, hyphens, low lines and whatever is not ASCII. -/
def looseChar? (c : Char) : Option Char :=
  if c = ' ' ∨ c = '_' ∨ c = '-' ∨ 0x80 ≤ c.toNat then none else some c.toLower

/-- What is left of a name when all that does not count is gone.  The one name that would lose
too much, the abbreviation `isc`, is kept whole. -/
def looseName (name : String) : String :=
  match name.toList with
  | i :: s :: rest =>
    if i.toLower = 'i' ∧ s.toLower = 's' then
      let left := rest.filterMap looseChar?
      if left = ['c'] then "isc" else String.ofList left
    else String.ofList ((i :: s :: rest).filterMap looseChar?)
  | cs => String.ofList (cs.filterMap looseChar?)

/-! ## From a name to a class -/

/-- The class that a loosely matched category name stands for, the three catch-all names
included. -/
def categoryClass? (name : String) : Option CharClass :=
  if name = "any" then some .any
  else if name = "ascii" then some (.ranges [(0, 0x7F)])
  else if name = "assigned" then some (.ranges (Category.rangesOf Category.all))
  else (Category.named? name).map (·.charClass)

/-- A property of characters as a text may ask for it. -/
inductive PropertyQuery where
  /-- A property, category or script by its name alone. -/
  | named (name : String)
  /-- A property with a value. -/
  | valued (property value : String)
  deriving DecidableEq

namespace PropertyQuery

/-- The class that a single loosely matched name stands for. -/
def namedClass? (name : String) : Option CharClass :=
  let category := (categoryClass? name).or ((Script.named? name).map (·.charClass))
  if name = "cf" ∨ name = "sc" ∨ name = "lc" then category
  else ((BinaryProperty.named? name).map (·.charClass)).or category

/-- The class that a loosely matched property with a loosely matched value stands for. -/
def valuedClass? (property value : String) : Option CharClass :=
  match property with
  | "gc" | "generalcategory" => categoryClass? value
  | "sc" | "script" => (Script.named? value).map (·.charClass)
  | "scx" | "scriptextensions" => (Script.named? value).map (·.extensionClass)
  | "age" => (Age.ranges? value).map .ranges
  | "gcb" | "graphemeclusterbreak" => (GraphemeBreak.named? value).map (·.charClass)
  | "wb" | "wordbreak" => (WordBreak.named? value).map (·.charClass)
  | "sb" | "sentencebreak" => (SentenceBreak.named? value).map (·.charClass)
  | _ => none

/-- The class that is asked for, if the names are known. -/
def charClass? : PropertyQuery → Option CharClass
  | named name => namedClass? (looseName name)
  | valued property value => valuedClass? (looseName property) (looseName value)

end PropertyQuery

/-! ## Classes without a name -/

/-- Decimal digits. -/
def digitRanges : Ranges := Category.decimalNumber.ranges

/-- White space. -/
def spaceRanges : Ranges := BinaryProperty.whiteSpace.broad

/-- Alphabetic characters. -/
def alphabeticRanges : Ranges := BinaryProperty.alphabetic.broad

/-- Alphabetic characters and numbers. -/
def alphanumericRanges : Ranges := alphabeticRanges ++ Category.rangesOf Category.numbers

/-- Word characters: letters, marks, digits, connecting punctuation and the joining controls. -/
def wordRanges : Ranges :=
  alphabeticRanges ++ Category.rangesOf Category.marks ++ digitRanges ++
    Category.connectorPunctuation.ranges ++ BinaryProperty.joinControl.broad

/-- Is `c` white space? -/
def isSpace (c : Char) : Bool :=
  if c.toNat < 0x80 then c = ' ' || ('\t' ≤ c && c ≤ '\r') else spaceRanges.has c

/-- Is `c` a word character? -/
def isWord (c : Char) : Bool :=
  if c.toNat < 0x80 then c.isAlphanum || c = '_' else wordRanges.has c

/-- Is `c` alphabetic in the later version? -/
def isAlphabetic (c : Char) : Bool :=
  if c.toNat < 0x80 then c.isAlpha else alphabeticRanges.has c || Later.alphabeticRanges.has c

/-- Is `c` alphabetic or a number in the later version? -/
def isAlphanumeric (c : Char) : Bool :=
  if c.toNat < 0x80 then c.isAlphanum
  else alphanumericRanges.has c || Later.alphabeticRanges.has c || Later.numberRanges.has c

end Unicode
end VarStore
