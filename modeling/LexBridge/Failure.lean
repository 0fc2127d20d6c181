import LexBridge.Failure.Report
import LexBridge.Scratch.Basic

/-!
# Failures

The failures that end a call. Malformed tool output is none of them: decoding stops early and keeps
the tokens it has.

## Main definitions

* `NoTool`: why there is no lexer tool.
* `Failure`, `Failure.message`: all failures, and their words.
-/

namespace LexBridge

/-- Why a command could not be started. -/
inductive SpawnRefusal
  | notFound (message : Text)
  | notPermitted (message : Text)
  deriving DecidableEq

/-- The words for a command that could not be started. -/
def SpawnRefusal.message : SpawnRefusal → Text
  | notFound message | notPermitted message => message

/-- Why there is no lexer tool. -/
inductive NoTool
  /-- The bundled tool lacks the library of lexers that it needs. -/
  | lexersMissing
  /-- The configured executable is not found. -/
  | notFound (executable : Value)
  /-- The executable could not be started. -/
  | notStarted (executable : Value) (refusal : SpawnRefusal)
  deriving DecidableEq

/-- The words for a missing tool. -/
def NoTool.message : NoTool → Text
  | lexersMissing => Text.of "pygments is not installed; the bundled lexer tool cannot run"
  | notFound executable => Text.of "Lexer tool not found: " ++ executable.display
  | notStarted executable refusal =>
    Text.of "Cannot start lexer tool " ++ executable.display ++ Text.of ": " ++ refusal.message

/-- What ends a call. -/
inductive Failure
  | noTool (reason : NoTool)
  | scratch (failure : Scratch.Failure)
  /-- The tool ended with a status other than zero; its error output is kept as it is. -/
  | toolFailed (stderr status : Value)
  /-- No highlighting style has the name. -/
  | unknownStyle (name : Value)
  /-- A value is of a type that does not allow what is asked of it. -/
  | badValue (fault : Value.Fault)
  /-- An error of the library that somebody else raised. -/
  | reported (report : Report)
  /-- An error that comes from elsewhere and passes through unchanged. -/
  | foreign (name message : Text)
  deriving DecidableEq

/-- The words for a failure. -/
def Failure.message : Failure → Text
  | noTool reason => reason.message
  | scratch failure => failure.message
  | toolFailed stderr _ => stderr.display
  | unknownStyle name => Report.aboutTheme name (Text.of "no such pygments style")
  | badValue fault => fault.message
  | reported report => report.message
  | foreign _ message => message

end LexBridge
