import LexBridge.Highlight.Tokens
import LexBridge.Theme.Attributes

/-!
# Styled tokens

The tokens of a source with the attributes that a theme gives them. A token without attributes is
passed over: its callback is not asked, and the tokens behind it are found where they would be
otherwise.

## Main definitions

* `Styled`, `Located.styled?`: a located token with its attributes, if it has any.
* `Callback.styled`: a callback for styled tokens as one for all tokens.
* `parseWithTheme`: the styled tokens of a source, as a callback gets them.
-/

namespace LexBridge

/-- A token with its range and its attributes. -/
structure Styled where
  range : Range
  token : Token
  attributes : Attributes
  deriving DecidableEq

/-- A located token with its attributes, unless it has none. -/
def Located.styled? (theme : Theme) (located : Located) : Option Styled :=
  let attributes := located.token.attributes theme
  if attributes.isEmpty then none else some ⟨located.range, located.token, attributes⟩

/-- Asks a callback about the styled tokens only. The others always go on. -/
def Callback.styled {σ ε : Type} (theme : Theme) (callback : Callback σ Styled ε) :
    Callback σ Located ε := fun state located =>
  match located.styled? theme with
  | none => (.proceed, state)
  | some styled => callback state styled

/-- The styled tokens of a source, each delivered to a callback. -/
def parseWithTheme {σ : Type} (config : Config) (runner : Runner) (identifier : Text)
    (lexer : Value) (source : Text) (theme : Theme) (callback : Callback σ Styled Failure)
    (state : σ) (disk : Disk) : Highlighted Styled :=
  let all := parse config runner identifier lexer source (callback.styled theme) state disk
  ⟨all.calls.filterMap (·.styled? theme), all.outcome⟩

end LexBridge
