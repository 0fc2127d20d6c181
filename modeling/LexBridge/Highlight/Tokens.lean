import LexBridge.Disk.Path
import LexBridge.Host
import LexBridge.Range.Locate
import LexBridge.Text.Cutting
import LexBridge.Token.Untyped

/-!
# Asking the lexer tool

The tokens of a source, obtained from the lexer tool, and the same tokens delivered to a callback
together with their ranges. The tool is also asked which lexer fits a file name; only the last part
of the name is looked at.

## Main definitions

* `lexArguments`: what the tool is asked for the rows of a file.
* `tokenize`: the tokens of a source.
* `Highlighted`, `parse`: the tokens with their ranges, as a callback gets them.
* `guessArguments`, `printedName`, `findLexer`: the name of the lexer for a file name, if the tool
  prints any.
-/

namespace LexBridge

/-! ### Tokens -/

/-- The arguments for the rows of a file. The lexer is handed through as it is. -/
def lexArguments (lexer : Value) (path : Text) : List Value :=
  [.text (Text.of "-f"), .text (Text.of "raw"), .text (Text.of "-l"), lexer, .text path]

/-- The tokens of a source. The source is put into a scratch file, under an identifier that should
be new, and the tool is run on it. -/
def tokenize (config : Config) (runner : Runner) (identifier : Text) (lexer : Value)
    (source : Text) (disk : Disk) : Outcome (List Token) :=
  let outcome := Scratch.within config identifier source
    (fun path disk => launch runner (lexArguments lexer path) disk) disk
  match outcome.result.bind fun output => (decodeOutputValue output).mapError .badValue with
  | .error failure => ⟨.error failure, outcome.disk, outcome.journal⟩
  | .ok decoded =>
    ⟨.ok decoded.tokens, outcome.disk, outcome.journal ++ decoded.log.map .logged⟩

/-- What became of a source: the calls that a callback got, and how it ended, whether by the tool
or by the callback. -/
structure Highlighted (α : Type) where
  calls : List α
  outcome : Outcome Unit

/-- The tokens of a source, each delivered to a callback with its range. Errors of the callback
pass through. -/
def parse {σ : Type} (config : Config) (runner : Runner) (identifier : Text) (lexer : Value)
    (source : Text) (callback : Callback σ Located Failure) (state : σ) (disk : Disk) :
    Highlighted Located :=
  let outcome := tokenize config runner identifier lexer source disk
  match outcome.result with
  | .error failure => ⟨[], ⟨.error failure, outcome.disk, outcome.journal⟩⟩
  | .ok tokens =>
    let delivery := mapRanges config.offsetUnits callback state source tokens
    ⟨delivery.calls,
      ⟨match delivery.failure with
        | none => .ok ()
        | some failure => .error failure, outcome.disk,
        outcome.journal ++ delivery.calls.map fun call => .called call outcome.disk⟩⟩

/-! ### The lexer for a file name -/

/-- The arguments for the lexer of a file name. -/
def guessArguments (name : Text) : List Value := [.text (Text.of "-N"), .text name]

/-- The name of a lexer in what the tool printed, without blanks around it. There is none if the
tool printed nothing else. -/
def printedName : Value → Except Failure (Option Text)
  | .text output => .ok (if output.trim = [] then none else some output.trim)
  | output => .error (.badValue (.lacks output.typeName (Text.of "strip")))

/-- The name of the lexer for a file name. -/
def findLexer (runner : Runner) (filename : Text) (disk : Disk) : Outcome (Option Text) :=
  let outcome := launch runner (guessArguments (Path.ofText filename).name) disk
  ⟨outcome.result.bind printedName, outcome.disk, outcome.journal⟩

end LexBridge
