import LexBridge.Range.Basic
import LexBridge.Text.Cutting
import LexBridge.Token.Basic

/-!
# Locating tokens in their source

Tokens come without positions. They are looked for in the source one after the other, each from
where the one before it ended, and never further back; a token that is not found is reported as
unresolved and the search goes on behind as many characters as it has. Every token is handed to a
callback together with its range, until the callback wants no more, fails, or the source is at its
end.

The search keeps what is left of the source instead of a position in it, with the offset at which
that begins. So one function serves both units, and nothing is counted twice.

## Main definitions

* `Place`, `Place.locate`: how far the search has come, and the search for one payload.
* `Reply`, `Callback`: what a callback may answer, and a callback with a state of its own.
* `Delivery`, `deliver`: the calls that were made, and the loop that makes them.
* `Callback.offer`, `Callback.consume`: one call and what follows it, and what a callback takes of
  calls that are all there beforehand.
* `mapRanges`: all tokens of a source.
-/

namespace LexBridge

/-! ### The search -/

/-- How far the search has come: the source from there on, and the offset where that begins. -/
structure Place where
  offset : Nat
  rest : Text
  deriving DecidableEq

/-- Looks for a payload from a place on: its range, and the place behind it. A payload that does
not occur has no range, and as many characters as it has are skipped. -/
def Place.locate (units : OffsetUnits) (place : Place) (payload : Text) : Range × Place :=
  match payload.cut? place.rest with
  | some (before, after) =>
    let start := place.offset + units.size before
    (⟨start, units.size payload⟩, ⟨start + units.size payload, after⟩)
  | none =>
    let skipped := place.rest.take payload.length
    (.unresolved, ⟨place.offset + units.size skipped, place.rest.drop payload.length⟩)

/-- A token with its range. -/
structure Located where
  range : Range
  token : Token
  deriving DecidableEq

/-! ### Delivering to a callback -/

/-- What a callback answers: go on, stop, or an error. -/
inductive Reply (ε : Type)
  | proceed
  | stop
  | fail (error : ε)

/-- A callback takes calls one by one. What it answers may depend on all calls so far, of which it
remembers what it likes in its state. -/
abbrev Callback (σ α ε : Type) := σ → α → Reply ε × σ

/-- The calls that a callback got, in order, and the error in which it ended them, if it did. -/
structure Delivery (α ε : Type) where
  calls : List α
  failure : Option ε

/-- The callback that always wants to go on. -/
def Callback.always {α ε : Type} : Callback Unit α ε := fun _ _ => (.proceed, ())

variable {σ α ε : Type}

/-- Makes a call, and the calls that come next if the callback goes on. -/
def Callback.offer (callback : Callback σ α ε) (state : σ) (call : α)
    (next : σ → Delivery α ε) : Delivery α ε :=
  match callback state call with
  | (.proceed, state) =>
    let later := next state
    { later with calls := call :: later.calls }
  | (.stop, _) => ⟨[call], none⟩
  | (.fail error, _) => ⟨[call], some error⟩

/-- What a callback gets of the given calls: all up to the first one after which it does not want
to go on. -/
def Callback.consume (callback : Callback σ α ε) : σ → List α → Delivery α ε
  | _, [] => ⟨[], none⟩
  | state, call :: calls => callback.offer state call fun state => callback.consume state calls

/-- Locates tokens from a place on and calls back for each of them, as long as the callback goes on
and the source is not at its end. -/
def deliver (units : OffsetUnits) (callback : Callback σ Located ε) :
    σ → Place → List Token → Delivery Located ε
  | _, _, [] => ⟨[], none⟩
  | state, place, token :: tokens =>
    if place.rest = [] then ⟨[], none⟩
    else
      let (range, next) := place.locate units token.payload
      callback.offer state ⟨range, token⟩ fun state => deliver units callback state next tokens

/-- Locates the tokens of a source and calls back for each of them. -/
def mapRanges (units : OffsetUnits) (callback : Callback σ Located ε) (state : σ) (source : Text)
    (tokens : List Token) : Delivery Located ε :=
  deliver units callback state ⟨0, source⟩ tokens

end LexBridge
