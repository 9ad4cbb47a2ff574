import VarStore.Unicode.BinaryProperty
import VarStore.Unicode.CharClass
import VarStore.Unicode.Script

/-!
# The classes of properties

A category, a binary property and a script each describe a set of characters.  This module says
which, as character classes, so that they can be joined with the operations of classes.
-/

namespace VarStore
namespace Unicode

/-- The code points that no category describes: the unassigned ones. -/
def unassigned : CharClass := .compl (.ranges (Category.rangesOf Category.all))

/-- The class of several categories. -/
def Category.classOf (gs : List Category) : CharClass := .ranges (Category.rangesOf gs)

/-- The class of some categories, with or without the unassigned code points. -/
def Category.Named.charClass (n : Category.Named) : CharClass :=
  if n.unassigned then .union (Category.classOf n.categories) Unicode.unassigned
  else Category.classOf n.categories

/-- The class of a binary property. -/
def BinaryProperty.charClass (p : BinaryProperty) : CharClass :=
  if p.removed.isEmpty then .ranges p.broad else .diff (.ranges p.broad) (.ranges p.narrowed)

/-- The class of the characters whose script this is. -/
def Script.charClass (s : Script) : CharClass := .ranges s.ranges

/-- The class of the characters that the script is used with. -/
def Script.extensionClass (s : Script) : CharClass :=
  .diff (.ranges s.extended) (.ranges s.omitted)

/-- The class of the script with a loosely matched name; without such a script, no characters. -/
def Script.classNamed (name : String) : CharClass :=
  (Script.named? name).elim .none (·.charClass)

end Unicode
end VarStore
