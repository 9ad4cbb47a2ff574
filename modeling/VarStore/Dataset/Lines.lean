/-!
# The lines of a dataset

A dataset is text with one pattern a line.  A line ends at a line feed, and a carriage return in
front of it belongs to the end.  A line is a comment, and carries no pattern, when it is empty or
when there are only blanks in front of its first number sign.  Everything else is a pattern and is
kept as it stands, blanks and later number signs included; a line of blanks alone is a pattern.
-/

namespace VarStore
namespace Dataset

/-- The six blanks of ASCII. -/
def isBlank (c : Char) : Bool :=
  c = ' ' || c = '\t' || c = '\n' || c = '\x0b' || c = '\x0c' || c = '\r'

/-- What stands in front of the first number sign, if there is one. -/
def beforeSign? (line : List Char) : Option (List Char) :=
  if '#' ∈ line then some (line.takeWhile (· ≠ '#')) else none

/-- Does the line carry no pattern? -/
def isCommentLine (line : List Char) : Bool :=
  line.isEmpty || (beforeSign? line).any (·.all isBlank)

/-- A line without the carriage return at its end. -/
def dropReturn (line : List Char) : List Char :=
  if line.getLast? = some '\r' then line.dropLast else line

/-- The lines that carry patterns. -/
def patternLinesOf (text : List Char) : List (List Char) :=
  ((text.splitOn '\n').map dropReturn).filter fun line => !isCommentLine line

/-- Does the line carry no pattern? -/
def isComment (line : String) : Bool := isCommentLine line.toList

/-- The patterns of a dataset, in order. -/
def patternLines (text : String) : List String :=
  (patternLinesOf text.toList).map String.ofList

end Dataset
end VarStore
