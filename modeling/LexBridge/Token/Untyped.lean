import LexBridge.Token.Decoder
import LexBridge.Value.Fault

/-!
# Tokens and lines of any type

What comes from outside as a token may have a payload of any type, and what comes as a line of tool
output may be no text at all. Nothing is checked beforehand: a value of the wrong type is a fault
only when its turn comes.

## Main definitions

* `UntypedToken`, `UntypedToken.describe`: a token with a payload of any type, and how it reads.
* `Decoder.feedValue`: taking a line of any type.
* `decodeValues`, `decodeOutputValue`: the tokens of lines and of an output of any type.
-/

namespace LexBridge

/-! ### Tokens -/

/-- A kind with a value that is to be a payload. -/
structure UntypedToken where
  kind : Kind
  payload : Value

namespace UntypedToken

/-- Whether two tokens count as equal. -/
def alike (a b : UntypedToken) : Bool := a.kind = b.kind && a.payload.alike b.payload

/-- A payload with what is too much of it left out. That cannot be done to a long list, behind
which no dots can be put, nor to a long object, which has no first fields. -/
def abbreviated : Value → Except Value.Fault Value
  | .text payload => .ok (.text (Token.abbreviated payload))
  | .list items =>
    if 20 < items.length then (Value.list (items.take 17)).plus (.text (Text.of "..."))
    else .ok (.list items)
  | .object fields =>
    if 20 < fields.length then .error (.unhashable (Text.of "slice")) else .ok (.object fields)
  | payload => .error (.noLength payload.typeName)

/-- A token in a message, with a long payload cut short. -/
def describe (token : UntypedToken) : Except Value.Fault Text :=
  (abbreviated token.payload).map fun payload =>
    Text.of "Token(" ++ token.kind.capitalName ++ Text.of ", " ++ payload.render ++ Text.of ")"

end UntypedToken

/-! ### Lines -/

/-- Takes a line of any type. A halted decoder does not look at it. -/
def Decoder.feedValue (decoder : Decoder) :
    Value → Except Value.Fault (Decoder × List Log.Record)
  | .text line => .ok (decoder.feed line)
  | line =>
    if decoder.halted then .ok (decoder, [])
    else .error (.lacks line.typeName (Text.of "split"))

/-- The texts before the first value that is none, and that value. -/
def leadingTexts : List Value → List Text × Option Value
  | .text first :: rest =>
    let (texts, other) := leadingTexts rest
    (first :: texts, other)
  | values => ([], values.head?)

/-- The tokens of the elements of a value. A line that is no text does not matter if the stream has
halted before. -/
def decodeValues (lines : Value) : Except Value.Fault Decoded := do
  match leadingTexts (← lines.elements) with
  | (texts, none) => return decodeLines texts
  | (texts, some other) =>
    if (Decoder.initial.feedAll texts).1.halted then return decodeLines texts
    else throw (.lacks other.typeName (Text.of "split"))

/-- The tokens of a value that is to be the whole output of the tool. -/
def decodeOutputValue : Value → Except Value.Fault Decoded
  | .text output => .ok (decodeOutput output)
  | output => .error (.lacks output.typeName (Text.of "splitlines"))

end LexBridge
