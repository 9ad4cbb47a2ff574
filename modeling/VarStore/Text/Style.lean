/-!
# Styled text

On a terminal some texts are set off by weight and colour.  A style begins with an escape sequence
and ends with the one that resets everything.  A reset inside the text would end the style too
early, so the style begins anew behind it.
-/

namespace VarStore
namespace Text

/-- The styles in use. -/
inductive Style where
  | bold | yellow | boldYellow | boldGreen
  deriving DecidableEq

/-- The escape sequence that begins a style. -/
def Style.sequence : Style → String
  | bold => "\x1b[1m"
  | yellow => "\x1b[33m"
  | boldYellow => "\x1b[1;33m"
  | boldGreen => "\x1b[1;32m"

/-- The escape sequence that ends every style. -/
def reset : String := "\x1b[0m"

/-- The text in a style, or as it is if no styles are wanted. -/
def styled (wanted : Bool) (style : Style) (text : String) : String :=
  if wanted then style.sequence ++ text.replace reset (reset ++ style.sequence) ++ reset else text

@[simp] theorem styled_false (style : Style) (text : String) : styled false style text = text := rfl

end Text
end VarStore
