import LexBridge.Kind.Basic
import LexBridge.Value

/-!
# The log

What the library tells about its work. Every record says what happened in its own terms; level and
wording are read off it. Records are told under the name of the library, which stands here together
with its version.

## Main definitions

* `Log.Record`: the things that are reported.
* `Log.Record.level`, `Log.Record.message`, `Log.Record.line`: how a record reads.
* `Log.loggerName`: the full name of a logger.
* `version`: the version of the library.
-/

namespace LexBridge

/-- The version of the library. -/
def version : Text := Text.of "0.1.0"

namespace Log

/-- What is reported. -/
inductive Record
  /-- A payload is not well formed, and the token stream ends before it. -/
  | malformedPayload (payload : Text)
  /-- The bytes gathered for a kind are no UTF-8, and the token stream ends before them. -/
  | invalidRun (kind : Kind)
  /-- A stream is decoded; it may have been cut short. -/
  | decoded (count : Nat) (truncated : Bool)
  /-- A command is about to be started. -/
  | running (command : List Value)
  /-- What a command wrote is no UTF-8. -/
  | undecodableOutput
  /-- A tool ended with a status other than zero. -/
  | failedStatus (status : Int)
  /-- A scratch file stands at a path. -/
  | scratchCreated (path : Text)
  /-- A scratch file has been removed from a path. -/
  | scratchRemoved (path : Text)
  deriving DecidableEq

/-- How serious a record is. -/
inductive Level
  | debug
  | warning
  deriving DecidableEq

namespace Record

/-- Lost text is a warning, all else is for debugging. -/
def level : Record → Level
  | malformedPayload _ | invalidRun _ | undecodableOutput => .warning
  | _ => .debug

/-- The words of a record. -/
def message : Record → Text
  | malformedPayload payload =>
    Text.of "Malformed payload " ++ payload.quoted ++ Text.of ", truncating token stream"
  | invalidRun kind =>
    Text.of "Invalid UTF-8 in " ++ kind.label ++ Text.of " run, truncating token stream"
  | decoded count truncated =>
    Text.of "Decoded " ++ Text.ofNat count ++ Text.of " tokens" ++
      (if truncated then Text.of " (truncated)" else [])
  | running command => Text.of "Running lexer tool: " ++ (Value.list command).render
  | undecodableOutput => Text.of "Lexer tool output is not valid UTF-8, ignoring it"
  | failedStatus status => Text.of "Lexer tool exited with status " ++ Text.ofInt status
  | scratchCreated path => Text.of "Created scratch file " ++ path
  | scratchRemoved path => Text.of "Removed scratch file " ++ path

/-- A record as a line: its level in capitals, a space, its words. -/
def line (record : Record) : Text :=
  (match record.level with
    | .debug => Text.of "DEBUG "
    | .warning => Text.of "WARNING ") ++ record.message

end Record

/-- The name under which all loggers of the library live. -/
def rootName : Text := Text.of "pygkit"

/-- The full name of a logger. A name that is the root or lies below it stays, any other one is put
below the root. -/
def loggerName (name : Text) : Text :=
  let below := rootName ++ Text.of "."
  if name = rootName ∨ (Text.dropPrefix? below name).isSome then name else below ++ name

end Log

end LexBridge
