import VarStore.Toml.Value

/-!
# Blanks, comments and the ends of lines

Blanks separate things within a line.  A line ends at a line feed, which a carriage return may
precede; a carriage return alone is nothing.  A comment runs to the end of its line and holds no
control characters but tabs.
-/

namespace VarStore
namespace Toml

/-- The blanks within a line. -/
def isBlank (c : Char) : Bool := c = ' ' || c = '\t'

/-- The characters of comments and strings: all but the control characters, of which only the tab
may occur. -/
def isText (c : Char) : Bool := c = '\t' || (' ' ≤ c && c ≠ '\x7f')

/-- What is left after the blanks. -/
def skipBlanks (cs : List Char) : List Char := cs.dropWhile isBlank

/-- What is left after a comment, if there is one. -/
def skipComment : List Char → List Char
  | '#' :: rest => rest.dropWhile isText
  | cs => cs

/-- What is left after the end of a line. -/
def endLine : List Char → Except Fault (List Char)
  | [] => .ok []
  | '\n' :: rest => .ok rest
  | '\r' :: '\n' :: rest => .ok rest
  | _ => .error .malformed

/-- What is left after a line on which nothing more stands than blanks and a comment. -/
def finishLine (cs : List Char) : Except Fault (List Char) := endLine (skipComment (skipBlanks cs))

/-- Pass over blanks, ends of lines and comments; the flag says whether a comment is open. -/
def skipGap (inComment : Bool) : List Char → Except Fault (List Char)
  | [] => if inComment then .error .malformed else .ok []
  | '\n' :: rest => skipGap false rest
  | '\r' :: '\n' :: rest => skipGap false rest
  | c :: rest =>
    if inComment then if isText c then skipGap true rest else .error .malformed
    else if isBlank c then skipGap false rest
    else if c = '#' then skipGap true rest
    else .ok (c :: rest)

end Toml
end VarStore
