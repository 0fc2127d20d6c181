import LexBridge.Token.Decoder

/-!
# What a stream of lines means

The tokens of a stream, said without a state: the rows among the lines, cut at the first malformed
one, gathered into runs, cut at the first run that is not UTF-8. The log of a stream is said in the
same way, by what its rows and runs are. Beside them stand the tokens of the rows of a lexer, said
without any bytes.

## Main definitions

* `Stream.rows`: the kinds and bytes of the two-field lines before the first malformed payload.
* `Stream.runs`: neighbouring rows of one kind put together.
* `Stream.tokens`: the tokens of a stream.
* `Stream.warnings`, `Stream.isTruncated`: what is logged about a stream.
* `Row.tokens`: the tokens that the rows of a lexer stand for.
-/

namespace LexBridge

namespace Run

/-- Whether the bytes of a run are UTF-8. -/
def isUtf8 (run : Run) : Bool := (Utf8.decode? run.bytes).isSome

/-- The token of a run: its kind with the text that its bytes write. -/
def token? (run : Run) : Option Token :=
  (Utf8.decode? run.bytes).map fun payload => ⟨run.kind, payload⟩

end Run

namespace Stream

/-! ### Rows and runs -/

/-- The fields of the lines that have exactly two. -/
def fields (lines : List Text) : List (Text × Text) := lines.filterMap Row.fields?

/-- The rows before the first one with a malformed payload, with kind and bytes read. -/
def rows (lines : List Text) : List Run :=
  ((fields lines).takeWhile fun (_, payload) => Payload.isWellFormed payload).map
    fun (name, payload) => ⟨Kind.ofLabel name, Payload.bytes payload⟩

/-- The first malformed payload. -/
def malformed? (lines : List Text) : Option Text :=
  ((fields lines).find? fun (_, payload) => !Payload.isWellFormed payload).map (·.2)

/-- Puts a row in front of runs: it joins the first run if that has its kind. -/
def gather (row : Run) : List Run → List Run
  | [] => [row]
  | run :: runs =>
    if row.kind = run.kind then ⟨run.kind, row.bytes ++ run.bytes⟩ :: runs
    else row :: run :: runs

/-- The longest blocks of neighbouring rows of one kind, with their bytes put together. -/
def runs (rows : List Run) : List Run := rows.foldr gather []

/-! ### Tokens and log -/

/-- The tokens of runs. Only the runs before the first one that is not UTF-8 count, and runs
without bytes are left out. -/
def tokensOfRuns (runs : List Run) : List Token :=
  ((runs.takeWhile Run.isUtf8).filter fun run => run.bytes ≠ []).filterMap Run.token?

/-- The tokens of a stream. -/
def tokens (lines : List Text) : List Token := tokensOfRuns (runs (rows lines))

/-- Whether a stream is cut short. A last run that is not UTF-8 does not count, because nothing is
left out behind it. -/
def isTruncated (malformed : Option Text) (runs : List Run) : Bool :=
  malformed.isSome || !runs.dropLast.all Run.isUtf8

/-- The warnings about a stream: its malformed payload, unless it is cut short before that by a run
that is not UTF-8, and the first such run. -/
def warnings (malformed : Option Text) (runs : List Run) : List Log.Record :=
  (if runs.dropLast.all Run.isUtf8 then malformed.toList.map .malformedPayload else []) ++
    ((runs.find? fun run => !run.isUtf8).toList.map fun run => .invalidRun run.kind)

end Stream

namespace Row

/-- Puts a row in front of tokens: it joins the first token if that has its kind. -/
def gather (row : Row) : List Token → List Token
  | [] => [⟨Kind.ofLabel row.name, row.value⟩]
  | token :: tokens =>
    if Kind.ofLabel row.name = token.kind then ⟨token.kind, row.value ++ token.payload⟩ :: tokens
    else ⟨Kind.ofLabel row.name, row.value⟩ :: token :: tokens

/-- The tokens that rows stand for: neighbouring rows of one kind become one token, and a token
without text is left out. -/
def tokens (rows : List Row) : List Token :=
  (rows.foldr gather []).filter fun token => token.payload ≠ []

end Row

end LexBridge
