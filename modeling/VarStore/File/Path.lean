import VarStore.File.Basic

/-!
# Paths

A path is a text with slashes between its components; one that begins with a slash is absolute.
Joining looks at nothing but the ends of the two texts: no component is ever dropped or merged.
-/

namespace VarStore
namespace File

/-- Does the path begin at the root? -/
def isAbsolute (path : String) : Bool := path.toList.head? == some '/'

/-- What has to stand between a directory and a name below it. -/
def separator (directory : String) : String :=
  if directory.toList.getLast?.any (· ≠ '/') then "/" else ""

/-- The path of a name below a directory; an absolute name is a path of its own. -/
def join (directory name : String) : String :=
  if isAbsolute name then name else directory ++ separator directory ++ name

/-- The components of a path.  An absolute path has an empty one in front. -/
def components (path : String) : List String := (path.toList.splitOn '/').map String.ofList

/-- The longest path in bytes. -/
def longestPath : Nat := 4095

/-- What is wrong with a path, whatever files there are. -/
def pathFault? (path : String) : Option Fault :=
  if '\x00' ∈ path.toList then some .nulInPath
  else if longestPath < path.utf8ByteSize then some .nameTooLong
  else if path = "" then some .missing
  else none

end File
end VarStore
