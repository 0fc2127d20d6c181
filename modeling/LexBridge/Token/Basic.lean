import LexBridge.Kind.Basic
import LexBridge.Text.Quoted

/-!
# Tokens

A token is a fragment of source text with the kind of thing it is.

## Main definitions

* `Token`: a kind and a payload.
* `Token.describe`: a token in a message.
-/

namespace LexBridge

/-- A classified fragment of source text. -/
structure Token where
  kind : Kind
  payload : Text
  deriving DecidableEq

namespace Token

/-- A text of at most twenty characters, the dots for what is left out included. -/
def abbreviated (text : Text) : Text :=
  if 20 < text.length then text.take 17 ++ Text.of "..." else text

/-- A token in a message, with a long payload cut short. -/
def describe (token : Token) : Text :=
  Text.of "Token(" ++ token.kind.capitalName ++ Text.of ", " ++
    (abbreviated token.payload).quoted ++ Text.of ")"

end Token

end LexBridge
