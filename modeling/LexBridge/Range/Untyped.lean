import LexBridge.Range.Locate
import LexBridge.Token.Untyped

/-!
# Ranges and sources of any type

Ranges whose bounds may be values of any type, and the search for tokens of any type in a source of
any type. The search is the one for texts as long as it meets only texts; it ends in a fault at the
first other value whose turn comes, and the calls before that stand.

## Main definitions

* `UntypedRange`: a range with bounds of any type, and what can be said of it.
* `mapRangesUntyped`: all tokens of a source.
-/

namespace LexBridge

/-- A start and a length of any type. -/
structure UntypedRange where
  start : Value
  length : Value

namespace UntypedRange

/-- The offset just after a range. -/
def stop (range : UntypedRange) : Except Value.Fault Value := range.start.plus range.length

/-- Whether a range stands somewhere. -/
def isResolved (range : UntypedRange) : Bool := !range.start.alike (.int Range.nowhere)

/-- Whether a range counts as equal to that of a token which was not found. -/
def isUnresolved (range : UntypedRange) : Bool :=
  range.start.alike (.int Range.unresolved.start) &&
    range.length.alike (.int Range.unresolved.length)

/-- A range in a message. -/
def describe (range : UntypedRange) : Text :=
  Text.of "Range(start=" ++ range.start.render ++ Text.of ", length=" ++ range.length.render ++
    Text.of ")"

end UntypedRange

variable {σ ε : Type}

/-- Locates tokens from a place on, as `deliver` does, up to the first payload that is no text. -/
def deliverUntyped (units : OffsetUnits) (callback : Callback σ Located ε)
    (failure : Value.Fault → ε) : σ → Place → List UntypedToken → Delivery Located ε
  | _, _, [] => ⟨[], none⟩
  | state, place, token :: tokens =>
    if place.rest = [] then ⟨[], none⟩
    else
      match token.payload with
      | .text payload =>
        let (range, next) := place.locate units payload
        callback.offer state ⟨range, token.kind, payload⟩ fun state =>
          deliverUntyped units callback failure state next tokens
      | payload => ⟨[], some (failure (.notText payload.typeName))⟩

/-- Locates the tokens of a source and calls back for each of them. A source that is no text must
have a length all the same, but nothing can be found in it. -/
def mapRangesUntyped (units : OffsetUnits) (callback : Callback σ Located ε)
    (failure : Value.Fault → ε) (state : σ) (source : Value) (tokens : List UntypedToken) :
    Delivery Located ε :=
  match source, source.elements? with
  | .text source, _ => deliverUntyped units callback failure state ⟨0, source⟩ tokens
  | source, none => ⟨[], some (failure (.noLength source.typeName))⟩
  | source, some elements =>
    if elements = [] ∨ tokens.isEmpty then ⟨[], none⟩
    else ⟨[], some (failure (.lacks source.typeName (Text.of "find")))⟩

end LexBridge
