import VarStore.Regex.Search
import VarStore.Regex.Reader
import VarStore.Text.Quoted

/-!
# Key patterns

A key pattern selects keys by a regular expression, which may match anywhere in the key.  A
pattern keeps the text it was compiled from: that text is how a pattern is shown, and two patterns
are equal when their texts are.
-/

namespace VarStore

/-- A pattern that could not be compiled, and why. -/
structure InvalidPattern where
  pattern : String
  fault : Regex.Fault
  deriving DecidableEq

/-- A compiled pattern over keys. -/
structure KeyPattern where
  source : String
  regex : Regex

namespace KeyPattern

/-- Compile a pattern; with `ignoreCase`, upper and lower case are the same unless the pattern
says otherwise. -/
def compile (pattern : String) (ignoreCase : Bool) : Except InvalidPattern KeyPattern :=
  match Regex.read ignoreCase pattern with
  | .ok regex => .ok ⟨pattern, regex⟩
  | .error fault => .error ⟨pattern, fault⟩

/-- Does the pattern match somewhere in the text? -/
def search (p : KeyPattern) (text : String) : Bool := p.regex.search text

/-- Patterns are compared by their text. -/
instance : BEq KeyPattern := ⟨fun p q => p.source == q.source⟩

theorem beq_iff (p q : KeyPattern) : (p == q) = true ↔ p.source = q.source := by
  change (p.source == q.source) = true ↔ _
  exact beq_iff_eq

/-- How a pattern is shown. -/
def describe (p : KeyPattern) : String := "KeyPattern(" ++ Text.quote p.source ++ ")"

end KeyPattern

namespace InvalidPattern

/-- What went wrong, in words. -/
def reason (e : InvalidPattern) : String :=
  match e.fault with
  | .groupUnclosed => "unclosed group"
  | .groupUnopened => "unopened group"
  | .groupNameInvalid => "invalid group name"
  | .groupNameDuplicate => "duplicate group name"
  | .lookAround => "look-around is not supported"
  | .backreference => "backreferences are not supported"
  | .flagUnknown => "unrecognized flag"
  | .flagDuplicate => "duplicate flag"
  | .flagNegationDangling => "dangling flag negation"
  | .flagsUnfinished => "expected flag but the pattern ended"
  | .repetitionMissing => "repetition operator missing expression"
  | .repetitionCountInvalid => "invalid repetition count"
  | .repetitionCountUnclosed => "unclosed counted repetition"
  | .escapeUnfinished => "incomplete escape sequence"
  | .escapeUnknown => "unrecognized escape sequence"
  | .hexInvalid => "hexadecimal literal is not a character"
  | .wordBoundaryUnknown => "unrecognized word boundary"
  | .classUnclosed => "unclosed character class"
  | .classRangeInvalid => "invalid character class range"
  | .classEscapeInvalid => "invalid escape sequence in a character class"
  | .propertyUnknown => "unknown Unicode property"
  | .unicodeRequired => "Unicode is not allowed here"
  | .textNotUnicode => "pattern can match invalid UTF-8"
  | .nestedTooDeeply => "the pattern is nested too deeply"
  | .tooLarge => "the compiled pattern exceeds the size limit"

/-- The text of the error before the reason. -/
def heading (e : InvalidPattern) : String :=
  "invalid key pattern " ++ Text.quote e.pattern ++ ": "

/-- The text of the error. -/
def message (e : InvalidPattern) : String := e.heading ++ e.reason

end InvalidPattern

end VarStore
