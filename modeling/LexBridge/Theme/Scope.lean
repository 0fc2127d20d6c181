import LexBridge.Value.Fault

/-!
# Display styles

The style that a theme gives to a scope selector: two colours, either of which may be missing, and
a set of font styles. A colour is a value of any shape but null: an empty text is still a colour.

## Main definitions

* `Scope`: a display style, with its font styles in ascending order and without repetitions.
* `Scope.ofValues`, `Scope.ofMapping`: a display style from loosely typed values.
* `Theme`: what answers a selector with a style.
-/

namespace LexBridge

/-- A display style. -/
structure Scope where
  foreground : Option Value
  background : Option Value
  fontStyles : List Value
  deriving DecidableEq

/-- A theme answers scope selectors with styles, or not at all. -/
abbrev Theme := Text → Option Scope

namespace Scope

/-- The font styles that a theme may use, in the order in which they are offered. -/
def fontStyleNames : List Text := [Text.of "bold", Text.of "italic", Text.of "underline"]

/-- Whether a style says nothing. -/
def isEmpty (scope : Scope) : Bool :=
  scope.foreground.isNone && scope.background.isNone && scope.fontStyles.isEmpty

/-- A colour of a mapping; null is as good as absent. -/
def colour (value : Option Value) : Option Value := value.filter fun value => value ≠ .null

/-- The style of two colours and font styles, which are the elements of a value. -/
def ofValues (foreground background : Option Value) (fontStyles : Value) :
    Except Value.Fault Scope := do
  let fontStyles ← Value.set (← fontStyles.elements)
  return ⟨colour foreground, colour background, fontStyles⟩

/-- The font styles of a mapping. A value that does not count as true has no elements. -/
def fonts (value : Option Value) : Value := (value.filter Value.isTruthy).getD (.list [])

/-- The style of a mapping. Fields that mean nothing are ignored. -/
def ofMapping : Value → Except Value.Fault Scope
  | .object fields =>
    ofValues (fields.lookup (Text.of "foreground")) (fields.lookup (Text.of "background"))
      (fonts (fields.lookup (Text.of "font_styles")))
  | value => .error (.lacks value.typeName (Text.of "get"))

end Scope

end LexBridge
