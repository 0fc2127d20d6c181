import LexBridge.Kind.Selector
import LexBridge.Theme.Scope
import LexBridge.Token.Basic

/-!
# Attributes of tokens

What an editor is told of the look of a token: its colours in a theme, as far as there are any.
Font styles are not told.

## Main definitions

* `Attributes`: a foreground, a background, both or neither.
* `Token.attributes`: the attributes of a token in a theme.
-/

namespace LexBridge

/-- The colours of a token. -/
structure Attributes where
  foreground : Option Value
  background : Option Value
  deriving DecidableEq

namespace Attributes

/-- No colours at all. -/
def none : Attributes := ⟨.none, .none⟩

/-- Whether there is no colour. -/
def isEmpty (attributes : Attributes) : Bool :=
  attributes.foreground.isNone && attributes.background.isNone

/-- What the foreground is called. -/
def foregroundName : Text := Text.of "foreground"

/-- What the background is called. -/
def backgroundName : Text := Text.of "background"

end Attributes

/-- The colours of a token in a theme. A token whose kind has no selector, or whose selector the
theme does not answer, has none. -/
def Token.attributes (theme : Theme) (token : Token) : Attributes :=
  match token.kind.selector?.bind theme with
  | .none => .none
  | some scope => ⟨scope.foreground, scope.background⟩

end LexBridge
