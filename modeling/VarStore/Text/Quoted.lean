import VarStore.Unicode.Later
import VarStore.Unicode.Named

/-!
# Quoted text

Descriptions of values show text between double quotes, so that its ends and its invisible
characters can be seen.  A quote and a backslash get a backslash in front, the usual control
characters have letters, and any other character that would not show, or would merge with the one
before it, is given by its code point in hexadecimal.
-/

namespace VarStore
namespace Text

/-- The characters that show: the assigned ones that are neither controls, format characters nor
separators. -/
def visibleRanges : Unicode.Ranges :=
  Unicode.Category.rangesOf
    (Unicode.Category.letters ++ Unicode.Category.marks ++ Unicode.Category.numbers ++
      Unicode.Category.punctuation ++ Unicode.Category.symbols)

/-- The characters that merge with the one before them. -/
def mergingRanges : Unicode.Ranges := Unicode.BinaryProperty.graphemeExtend.broad

/-- The two sound marks of half width.  They count as merging, but take a place of their own. -/
def soundMarks : Unicode.Ranges := [(0xFF9E, 0xFF9F)]

/-- The letters that hold the place of a missing one and show nothing. -/
def fillers : Unicode.Ranges := [(0x115F, 0x1160), (0x3164, 0x3164), (0xFFA0, 0xFFA0)]

/-- Does `c` show as itself? -/
def showsAsItself (c : Char) : Bool :=
  if c.toNat < 0x80 then ' ' ≤ c && c < '\x7f'
  else if soundMarks.has c then true
  else if fillers.has c || mergingRanges.has c then false
  else visibleRanges.has c || Unicode.Later.visibleRanges.has c

/-- The hexadecimal digits of a number, in lower case and without leading zeros. -/
def hex (n : Nat) : String := String.ofList (Nat.toDigits 16 n)

/-- How one character is written between quotes. -/
def quoteChar (c : Char) : String :=
  match c with
  | '\x00' => "\\0"
  | '\t' => "\\t"
  | '\r' => "\\r"
  | '\n' => "\\n"
  | '"' => "\\\""
  | '\\' => "\\\\"
  | c => if showsAsItself c then String.singleton c else "\\u\x7b" ++ hex c.toNat ++ "\x7d"

/-- The text between quotes. -/
def quote (s : String) : String := "\"" ++ String.join (s.toList.map quoteChar) ++ "\""

/-- Descriptions in brackets, with commas between them. -/
def bracketed (items : List String) : String := "[" ++ ", ".intercalate items ++ "]"

/-- A description with fields: the name of the thing, and its named parts in braces. -/
def described (name : String) (fields : List (String × String)) : String :=
  name ++ " \x7b " ++ ", ".intercalate (fields.map fun f => f.1 ++ ": " ++ f.2) ++ " \x7d"

end Text
end VarStore
