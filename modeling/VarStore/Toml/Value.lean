/-!
# TOML documents

A document is a table: keys with values, and among the values further tables and arrays of them.
Later parts of a text may still add to a table, and whether they may depends on how the table came
about, so every table carries its `Origin`.

Of numbers with a fraction and of dates nothing is kept but that they are there.  They are checked
when they are read.
-/

namespace VarStore
namespace Toml

/-- How a table came about. -/
inductive Origin where
  /-- It was written between braces, and is complete. -/
  | braces
  /-- It has a header of its own. -/
  | header
  /-- It is on the way to a table that has a header. -/
  | implied
  /-- It is on the way to a value with a dotted key. -/
  | dotted
  deriving DecidableEq

/-- What a key stands for. -/
inductive Value where
  | boolean (b : Bool)
  | integer (n : Int)
  | string (s : String)
  /-- A number with a fraction, an exponent, or no finite size. -/
  | float
  /-- A date, a time of day, or both. -/
  | moment
  | array (elements : List Value)
  | table (origin : Origin) (entries : List (String × Value))
  /-- The tables under headers in double brackets. -/
  | tables (elements : List (List (String × Value)))

/-- The entries of a table, in the order in which their keys came in. -/
abbrev Table := List (String × Value)

/-- Why a text is no document. -/
inductive Fault where
  /-- Something is not spelled as it should be. -/
  | malformed
  /-- A number is out of range. -/
  | outOfRange
  /-- A key is used twice, or for two kinds of things. -/
  | keyTaken (key : String)
  /-- Arrays, tables or keys are nested too deeply. -/
  | nestedTooDeeply
  deriving DecidableEq

/-- The fault in words. -/
def Fault.message : Fault → String
  | malformed => "the text is not well formed"
  | outOfRange => "a number is out of range"
  | keyTaken key => "the key " ++ key ++ " is already taken"
  | nestedTooDeeply => "values are nested too deeply"

/-- A reader takes something off the front of a text and leaves the rest. -/
abbrev Reader (α : Type) := List Char → Except Fault (α × List Char)

/-- Put a character in front of what a reader read. -/
def prepend (c : Char) (r : Except Fault (List Char × List Char)) :
    Except Fault (List Char × List Char) :=
  r.map fun p => (c :: p.1, p.2)

namespace Table

/-- Put a value under a key that is there already. -/
def replace (t : Table) (key : String) (value : Value) : Table :=
  t.map fun p => if p.1 = key then (key, value) else p

end Table

end Toml
end VarStore
