import LexBridge.Log
import LexBridge.Text.Cutting
import LexBridge.Token.Basic
import LexBridge.Wire.Row

/-!
# Decoding tool output into tokens

The rows of tool output are folded into tokens, one line at a time. Neighbouring rows of one kind
form a run, and the bytes of a run are put together before they are read as UTF-8, so that a
character may be cut between two rows. Bad output never is an error: a row with a malformed payload
or a run that is not UTF-8 halts the decoder, and the tokens before it stand.

## Main definitions

* `Run`: the rows of one kind that are being gathered.
* `Decoder`: the tokens so far, the pending run, and whether the stream has halted.
* `Decoder.feed`, `Decoder.finish`: taking a line, and closing the pending run.
* `decodeLines`, `decodeOutput`: the tokens and the log for all lines, and for one output.
-/

namespace LexBridge

/-- Neighbouring rows of one kind, with their bytes put together. -/
structure Run where
  kind : Kind
  bytes : List UInt8
  deriving DecidableEq

/-- The tokens of a run: one, or none if it has no bytes. Bytes that are no UTF-8 give no answer. -/
def Run.tokens? (run : Run) : Option (List Token) :=
  if run.bytes = [] then some []
  else (Utf8.decode? run.bytes).map fun payload => [⟨run.kind, payload⟩]

/-- The state of the fold over the lines of tool output. -/
structure Decoder where
  tokens : List Token
  pending : Option Run
  halted : Bool
  deriving DecidableEq

namespace Decoder

/-- The state before the first line. -/
def initial : Decoder := ⟨[], none, false⟩

/-- Takes the bytes of one row. They extend the pending run if its kind is theirs, and else close
it and begin the next one. A run that cannot be closed loses its bytes and halts the stream. -/
def extend (decoder : Decoder) (kind : Kind) (bytes : List UInt8) : Decoder × List Log.Record :=
  match decoder.pending with
  | none => ({ decoder with pending := some ⟨kind, bytes⟩ }, [])
  | some run =>
    if run.kind = kind then
      ({ decoder with pending := some ⟨kind, run.bytes ++ bytes⟩ }, [])
    else
      match run.tokens? with
      | some tokens =>
        ({ decoder with tokens := decoder.tokens ++ tokens, pending := some ⟨kind, bytes⟩ }, [])
      | none =>
        ({ decoder with pending := some ⟨run.kind, []⟩, halted := true }, [.invalidRun run.kind])

/-- Takes one line. A halted decoder takes nothing, and a line without exactly two fields is passed
over. The stream goes on just if the decoder is not halted afterwards. -/
def feed (decoder : Decoder) (line : Text) : Decoder × List Log.Record :=
  if decoder.halted then (decoder, [])
  else
    match Row.fields? line with
    | none => (decoder, [])
    | some (name, payload) =>
      if Payload.isWellFormed payload then
        decoder.extend (Kind.ofLabel name) (Payload.bytes payload)
      else ({ decoder with halted := true }, [.malformedPayload payload])

/-- Adds the tokens of the pending run. The run stays pending, so that lines may still follow. -/
def finish (decoder : Decoder) : Decoder × List Log.Record :=
  match decoder.pending with
  | none => (decoder, [])
  | some run =>
    match run.tokens? with
    | some tokens => ({ decoder with tokens := decoder.tokens ++ tokens }, [])
    | none => (decoder, [.invalidRun run.kind])

/-- Takes lines up to the one that halts the stream. -/
def feedAll : Decoder → List Text → Decoder × List Log.Record
  | decoder, [] => (decoder, [])
  | decoder, line :: lines =>
    let (next, notes) := decoder.feed line
    if next.halted then (next, notes)
    else let (last, others) := feedAll next lines; (last, notes ++ others)

end Decoder

/-- Tokens with the records of how they were made. -/
structure Decoded where
  tokens : List Token
  log : List Log.Record
  deriving DecidableEq

/-- The tokens of the lines of tool output. Only a halt on the way counts as a truncation in the
last record, not a last run that turns out to be bad. -/
def decodeLines (lines : List Text) : Decoded :=
  let (fed, notes) := Decoder.initial.feedAll lines
  let (done, others) := fed.finish
  ⟨done.tokens, notes ++ others ++ [.decoded done.tokens.length fed.halted]⟩

/-- The tokens of the whole output of the tool. -/
def decodeOutput (output : Text) : Decoded := decodeLines output.lines

end LexBridge
